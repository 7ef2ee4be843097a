import ReplDriver.Proofs.Process.Events
import ReplDriver.Proofs.Process.Printing
import ReplDriver.Proofs.Terminal.LastLine
import ReplDriver.Terminal.Submission

/-!
# Processes that answer

A process answers when whatever it is given to do comes to an end that its reader can wait for: the
prompt is drawn, or the process exits, or the person at the keyboard interrupts the wait. No read at
such a process fails otherwise, as long as there is work left for one more read.

* `Answers.append`: what is still to come of an earlier answer does not hide the end of a later one.
* `Process.Answering.read`: what a read finds at a process that answers.
-/

namespace ReplDriver

open Terminal

/-! ## Answers -/

/-- The event ends a wait whatever has been printed: the process exits, or the wait is
interrupted. -/
def Event.Stops : Event → Prop
  | .exit => True
  | .failing f => f = .interrupted
  | _ => False

/-- The event prints, or ends a wait. -/
def Event.Plays (rounding : Double.Rounding) (e : Event) : Prop := e.Prints rounding ∨ e.Stops

theorem Event.Stops.breaks {e : Event} (h : e.Stops) : e.Breaks := by
  cases e with
  | exit => trivial
  | failing f => trivial
  | _ => exact h.elim

theorem Event.Plays.counted {rounding : Double.Rounding} {e : Event} (h : e.Plays rounding) :
    e.Counted rounding := by
  obtain hprints | hstops := h
  · exact hprints.counted
  · cases e with
    | delayed t s => exact hstops.elim
    | _ => trivial

/-- Events that come to an end for one who waits for a prompt: there is one that ends the wait, or
the prompt is drawn at the end of all that is printed. -/
def Answers (prompt : Text) (events : List Event) : Prop :=
  (∃ e ∈ events, e.Stops) ∨
    ∃ before move, printed events = before ++ (promptLead ++ prompt ++ move) ∧ ColumnMove move []

/-- What comes to an end does so after whatever else is to come before. -/
theorem Answers.append {prompt : Text} {events : List Event} (h : Answers prompt events)
    (earlier : List Event) : Answers prompt (earlier ++ events) := by
  obtain ⟨e, he, hstops⟩ | ⟨before, move, hprinted, hmove⟩ := h
  · exact .inl ⟨e, List.mem_append_right earlier he, hstops⟩
  · refine .inr ⟨printed earlier ++ before, move, ?_, hmove⟩
    rw [printed_append, hprinted, List.append_assoc (printed earlier)]

/-- Whatever a process with this behaviour is given to do comes to an end: its start, every
submission, and every interrupt. -/
structure Behaviour.Answering (prompt : Text) (rounding : Double.Rounding) (b : Behaviour) :
    Prop where
  plays : b.Only (Event.Plays rounding)
  banner : Answers prompt b.banner
  respond : ∀ before code, ∃ events, b.respond before (frameSubmission code) = .ok events ∧
    Answers prompt events
  onInterrupt : ∃ events, b.onInterrupt = .ok events ∧ Answers prompt events

namespace Process

/-- Whatever the process is given to do comes to an end. -/
structure Answering (prompt : Text) (rounding : Double.Rounding) (p : Process) : Prop where
  plays : ∀ e ∈ p.queue, e.Plays rounding
  behaviour : p.behaviour.Answering prompt rounding

variable {prompt : Text} {rounding : Double.Rounding} {p p' : Process} {e : Event}
  {rest : List Event}

theorem answering_start (launched : Launched) {b : Behaviour} (h : b.Answering prompt rounding) :
    (start launched b).Answering prompt rounding := ⟨h.plays.banner, h⟩

/-- A process that is answered has something to come to an end. -/
theorem Answering.answered {events : List Event} (h : p.Answering prompt rounding)
    (hevents : ∀ e ∈ events, e.Plays rounding) (hanswers : Answers prompt events) :
    (p.answered (.ok events)).2.Answering prompt rounding ∧
      Answers prompt (p.answered (.ok events)).2.queue :=
  ⟨⟨fun e he => (List.mem_append.mp he).elim (h.plays e) (hevents e), h.behaviour⟩,
    hanswers.append p.queue⟩

/-- Submitting code to a process that answers gives it something to answer. -/
theorem Answering.submit (h : p.Answering prompt rounding) (code : Text) :
    ∃ q, p.write (frameSubmission code) = (.ok (), q) ∧ q.Answering prompt rounding ∧
      Answers prompt q.queue ∧ q.silences = 0 := by
  obtain ⟨events, hrespond, hanswers⟩ := h.behaviour.respond p.written code
  have hnoting : (p.noting (frameSubmission code)).Answering prompt rounding :=
    ⟨h.plays, h.behaviour⟩
  obtain ⟨hgoes, hends⟩ :=
    hnoting.answered (h.behaviour.plays.respond _ _ _ hrespond) hanswers
  rw [write_eq, hrespond]
  exact ⟨_, rfl, hgoes, hends, rfl⟩

/-- So does interrupting it. -/
theorem Answering.interrupt (h : p.Answering prompt rounding) :
    ∃ q, p.interrupt = (.ok (), q) ∧ q.Answering prompt rounding ∧ Answers prompt q.queue ∧
      q.silences = 0 := by
  obtain ⟨events, hanswer, hanswers⟩ := h.behaviour.onInterrupt
  have hroused : p.roused.Answering prompt rounding := ⟨h.plays, h.behaviour⟩
  obtain ⟨hgoes, hends⟩ := hroused.answered (h.behaviour.plays.onInterrupt _ hanswer) hanswers
  rw [interrupt_eq, hanswer]
  exact ⟨_, rfl, hgoes, hends, rfl⟩

/-! ## Reading -/

/-- The next event plays, and what is left when it has been taken away goes on to answer. -/
theorem Answering.taken (h : p.Answering prompt rounding) (hqueue : p.queue = e :: rest) :
    e.Plays rounding ∧ (p.taken rest).Answering prompt rounding := by
  have hqueued := h.plays
  rw [hqueue] at hqueued
  obtain ⟨hnext, hrest⟩ := List.forall_mem_cons.mp hqueued
  exact ⟨hnext, hrest, h.behaviour⟩

/-- A read at a process that answers: the wait is interrupted, the process ends, or output or
nothing comes. Output ends the silence. -/
theorem Answering.read {clock : Clock} {timeout : Double}
    (h : p.Answering prompt rounding) (hclock : clock.rounding = rounding)
    (hpositive : timeout.isPositive = true) (hwork : p.alive = true → 2 ≤ p.work) :
    ∃ outcome p' clock', p.read clock timeout = (outcome, p', clock') ∧
      p'.Answering prompt rounding ∧ clock'.rounding = rounding ∧
      (outcome = .error .interrupted ∨ outcome = .ok .ended ∨
        ∃ reading, outcome = .ok reading ∧ (reading ≠ .idle → p'.silences = 0)) := by
  obtain ⟨outcome, p', clock', hread, hreads⟩ := read_cases p clock timeout
  refine ⟨outcome, p', clock', hread, ?_⟩
  cases hreads with
  | gone hqueue hdead => exact ⟨h, hclock, .inr (.inl rfl)⟩
  | blocked hqueue halive hpatience =>
    -- there is work left, so the silence has not lasted for too long
    have htwo := hwork halive
    rw [work_eq, hqueue, List.map_nil, List.sum_nil] at htwo
    omega
  | silent hqueue halive hpatience =>
    exact ⟨⟨h.plays, h.behaviour⟩, hclock, .inr (.inr ⟨.idle, rfl, fun hidle => absurd rfl hidle⟩)⟩
  | output hqueue | pause hqueue | delayed hqueue hlt =>
    exact ⟨(h.taken hqueue).2, hclock, .inr (.inr ⟨_, rfl, fun _ => rfl⟩)⟩
  | @later t s rest hqueue hlt =>
    obtain ⟨hnext, htaken⟩ := h.taken hqueue
    obtain ⟨hexact, a, ha⟩ := hnext.resolve_right id
    obtain ⟨b, hb, -, -⟩ := Double.toRat?_of_lt hpositive ha hlt
    have hleft : (Event.delayed (t.sub clock.rounding timeout) s).Plays rounding := by
      rw [hclock, hexact, Double.sub_exact ha hb]
      exact .inl ⟨rfl, a - b, rfl⟩
    exact ⟨⟨List.forall_mem_cons.mpr ⟨hleft, htaken.plays⟩, h.behaviour⟩, hclock,
      .inr (.inr ⟨_, rfl, fun _ => rfl⟩)⟩
  | exit hqueue =>
    exact ⟨⟨(h.taken hqueue).2.plays, h.behaviour⟩, hclock, .inr (.inl rfl)⟩
  | @failing f rest hqueue =>
    obtain ⟨hnext, htaken⟩ := h.taken hqueue
    obtain rfl : f = .interrupted := hnext.resolve_left id
    exact ⟨htaken, hclock, .inl rfl⟩

end Process

end ReplDriver
