import ReplDriver.Process.Basic

/-!
# One step of a process

A write is noted and then answered, and so is an interrupt. A read takes the next event away, or
lets some of its delay pass, or finds that nothing is to come. What these steps give and leave is
told here once, and whatever is kept by a process all through its life is kept by each of them.

* `Process.write_eq`, `Process.interrupt_eq`: writes and interrupts as answers.
* `Process.read_cases`: the ways a read goes.
* `Process.Reads.eq`: how a read goes is settled by what is to come.
-/

namespace ReplDriver.Process

/-! ## Answers -/

/-- The process with one more text that is written. -/
def noting (p : Process) (s : Text) : Process :=
  { p with written := p.written ++ [s], silences := 0 }

/-- The process with one more interrupt. -/
def roused (p : Process) : Process := { p with interrupts := p.interrupts + 1, silences := 0 }

/-- What comes of an answer: its events are to come, or it fails. -/
def answered (p : Process) : Except Failure (List Event) → Except Failure Unit × Process
  | .ok events => (.ok (), p.enqueue events)
  | .error f => (.error f, p)

variable {p q : Process} {clock clock' : Clock} {timeout : Double}

/-- A text is noted and answered. -/
theorem write_eq (p : Process) (s : Text) :
    p.write s = (p.noting s).answered (p.behaviour.respond p.written s) := by
  unfold write
  cases p.behaviour.respond p.written s <;> rfl

/-- So is an interrupt. -/
theorem interrupt_eq (p : Process) : p.interrupt = p.roused.answered p.behaviour.onInterrupt := by
  unfold interrupt
  cases p.behaviour.onInterrupt <;> rfl

/-- An answer changes nothing but what is still to come. -/
theorem answered_frame (p : Process) (answer : Except Failure (List Event)) :
    ∃ queue, (p.answered answer).2 = { p with queue } := by
  cases answer with
  | ok events => exact ⟨p.queue ++ events, rfl⟩
  | error f => exact ⟨p.queue, rfl⟩

theorem answered_error {answer : Except Failure (List Event)} {f : Failure}
    (h : p.answered answer = (.error f, q)) : answer = .error f := by
  cases answer with
  | ok events => cases h
  | error f' =>
    cases h
    rfl

/-! ## Reads -/

/-- The process when its next event has been taken away. -/
def taken (p : Process) (rest : List Event) : Process := { p with silences := 0, queue := rest }

/-- The process after one more read that found nothing. -/
def silenced (p : Process) : Process := { p with silences := p.silences + 1 }

/-- What a read finds, and what it leaves of the process and of the clock. -/
inductive Reads (p : Process) (clock : Clock) (timeout : Double) :
    Except Failure Reading → Process → Clock → Prop
  /-- Nothing is to come of a process that has ended. -/
  | gone (hqueue : p.queue = []) (hdead : p.alive = false) :
      Reads p clock timeout (.ok .ended) p clock
  /-- Nothing will ever come. -/
  | blocked (hqueue : p.queue = []) (halive : p.alive = true)
      (hpatience : patience ≤ p.silences + 1) :
      Reads p clock timeout (.error .blocked) p.silenced clock
  /-- Nothing is to come, for now. -/
  | silent (hqueue : p.queue = []) (halive : p.alive = true)
      (hpatience : p.silences + 1 < patience) :
      Reads p clock timeout (.ok .idle) p.silenced (clock.idle timeout)
  | output {s : Text} {rest : List Event} (hqueue : p.queue = .output s :: rest) :
      Reads p clock timeout (.ok (.chunk s)) (p.taken rest) clock
  | pause {rest : List Event} (hqueue : p.queue = .pause :: rest) :
      Reads p clock timeout (.ok .idle) (p.taken rest) (clock.idle timeout)
  /-- Some of a delay passes, and its output is still to come. -/
  | later {t : Double} {s : Text} {rest : List Event} (hqueue : p.queue = .delayed t s :: rest)
      (hlt : timeout.lt t = true) :
      Reads p clock timeout (.ok .idle)
        (p.taken (.delayed (t.sub clock.rounding timeout) s :: rest)) (clock.idle timeout)
  /-- A delay is over in time. -/
  | delayed {t : Double} {s : Text} {rest : List Event} (hqueue : p.queue = .delayed t s :: rest)
      (hlt : ¬ timeout.lt t = true) :
      Reads p clock timeout (.ok (.chunk s)) (p.taken rest) (clock.pass t)
  | exit {rest : List Event} (hqueue : p.queue = .exit :: rest) :
      Reads p clock timeout (.ok .ended) (p.taken rest).kill clock
  | failing {f : Failure} {rest : List Event} (hqueue : p.queue = .failing f :: rest) :
      Reads p clock timeout (.error f) (p.taken rest) clock

/-- How a read goes is settled by what is to come. -/
theorem Reads.eq {outcome : Except Failure Reading}
    (h : Reads p clock timeout outcome q clock') :
    p.read clock timeout = (outcome, q, clock') := by
  unfold read
  cases h with
  | gone hqueue hdead => simp [hqueue, hdead]
  | blocked hqueue halive hpatience => simp [hqueue, halive, hpatience, silenced]
  | silent hqueue halive hpatience =>
    simp [hqueue, halive, Nat.not_le_of_lt hpatience, silenced]
  | later hqueue hlt => simp [hqueue, hlt, taken]
  | delayed hqueue hlt => simp [hqueue, hlt, taken]
  | output hqueue => simp [hqueue, taken]
  | pause hqueue => simp [hqueue, taken]
  | exit hqueue => simp [hqueue, taken, kill]
  | failing hqueue => simp [hqueue, taken]

/-- The ways a read goes. -/
theorem read_cases (p : Process) (clock : Clock) (timeout : Double) :
    ∃ outcome q clock', p.read clock timeout = (outcome, q, clock') ∧
      Reads p clock timeout outcome q clock' := by
  suffices hreads : ∃ outcome q clock', Reads p clock timeout outcome q clock' by
    obtain ⟨outcome, q, clock', h⟩ := hreads
    exact ⟨outcome, q, clock', h.eq, h⟩
  rcases hqueue : p.queue with _ | ⟨e, rest⟩
  · by_cases halive : p.alive = true
    · by_cases hpatience : patience ≤ p.silences + 1
      · exact ⟨_, _, _, .blocked hqueue halive hpatience⟩
      · exact ⟨_, _, _, .silent hqueue halive (Nat.lt_of_not_le hpatience)⟩
    · exact ⟨_, _, _, .gone hqueue (Bool.eq_false_iff.mpr halive)⟩
  · cases e with
    | output s => exact ⟨_, _, _, .output hqueue⟩
    | pause => exact ⟨_, _, _, .pause hqueue⟩
    | delayed t s =>
      by_cases hlt : timeout.lt t = true
      · exact ⟨_, _, _, .later hqueue hlt⟩
      · exact ⟨_, _, _, .delayed hqueue hlt⟩
    | exit => exact ⟨_, _, _, .exit hqueue⟩
    | failing f => exact ⟨_, _, _, .failing hqueue⟩

theorem reads_of_eq {outcome : Except Failure Reading}
    (h : p.read clock timeout = (outcome, q, clock')) :
    Reads p clock timeout outcome q clock' := by
  obtain ⟨outcome', q', clock'', hread, hreads⟩ := read_cases p clock timeout
  rw [h] at hread
  cases hread
  exact hreads

/-- A read changes nothing but what is still to come, how long it has been silent, and whether the
process is there. -/
theorem read_frame (p : Process) (clock : Clock) (timeout : Double) :
    ∃ queue silences alive, (p.read clock timeout).2.1 = { p with queue, silences, alive } := by
  obtain ⟨outcome, q, clock', hread, hreads⟩ := read_cases p clock timeout
  rw [hread]
  cases hreads <;> exact ⟨_, _, _, rfl⟩

/-- A read does not change how times are rounded. -/
theorem rounding_read (p : Process) (clock : Clock) (timeout : Double) :
    (p.read clock timeout).2.2.rounding = clock.rounding := by
  obtain ⟨outcome, q, clock', hread, hreads⟩ := read_cases p clock timeout
  rw [hread]
  cases hreads <;> rfl

end ReplDriver.Process
