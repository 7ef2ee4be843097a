import ReplDriver.Proofs.Process.Work

/-!
# Processes that print

A process that prints hands over a text in whatever chunks it comes, and may keep its reader
waiting before each of them. When the text is out, it stays silent. Reading it takes the text away
from the front, and never comes to a failure or to the end of the process, as long as there is work
left for one more read.

* `Process.Printing.read`: what a read takes away from a process that prints.
-/

namespace ReplDriver

/-! ## What events print -/

/-- The event brings output or lets a read find nothing. Output that comes later comes after a
number of seconds, on a clock that is exact. -/
def Event.Prints (rounding : Double.Rounding) : Event → Prop
  | .output _ => True
  | .pause => True
  | .delayed t _ => rounding = .exact ∧ ∃ τ, t.toRat? = some τ
  | _ => False

theorem Event.Prints.counted {rounding : Double.Rounding} {e : Event} (h : e.Prints rounding) :
    e.Counted rounding := by
  cases e with
  | delayed t s => exact h
  | _ => trivial

theorem Event.Prints.not_breaks {rounding : Double.Rounding} {e : Event} (h : e.Prints rounding) :
    ¬ e.Breaks := by
  intro hbreaks
  cases e <;> first | exact h | exact hbreaks

/-! ## Where events keep their reader waiting -/

/-- The event brings text before an interval is over. -/
def Event.Within (interval : Double) : Event → Prop
  | .output s => s ≠ []
  | .delayed t s => s ≠ [] ∧ interval.lt t = false
  | _ => False

/-- Wherever events keep their reader waiting for an interval and more is to come, the text that has
come before has some property. -/
def WaitsAfter (interval : Double) (P : Text → Prop) (before : Text) : List Event → Prop
  | [] => True
  | e :: rest =>
    (¬ e.Within interval → printed (e :: rest) ≠ [] → P before) ∧
      WaitsAfter interval P (before ++ e.text) rest

section
variable {interval : Double} {P Q : Text → Prop} {before : Text} {events : List Event}

theorem WaitsAfter.mono (h : WaitsAfter interval P before events) (himp : ∀ text, P text → Q text) :
    WaitsAfter interval Q before events := by
  induction events generalizing before with
  | nil => trivial
  | cons e rest ih => exact ⟨fun he hmore => himp _ (h.1 he hmore), ih h.2⟩

/-- Where every text has the property, it does not matter where more is waited for. -/
theorem WaitsAfter.of_forall (h : ∀ text, P text) : WaitsAfter interval P before events := by
  induction events generalizing before with
  | nil => trivial
  | cons e rest ih => exact ⟨fun _ _ => h before, ih⟩

/-- Output that comes within an interval does so too when some of its delay has passed. -/
theorem Event.Within.later {t passed : Double} {a b : Rat} {s : Text} (ht : t.toRat? = some a)
    (hpassed : passed.toRat? = some b) (hb : 0 ≤ b)
    (h : (Event.delayed t s).Within interval) :
    (Event.delayed (t.sub .exact passed) s).Within interval := by
  refine ⟨h.1, ?_⟩
  rw [Double.sub_exact ht hpassed, ← Bool.not_eq_true]
  intro hlt
  have hlonger : interval.lt t = true := Double.lt_of_lt_of_le hlt ht (sub_le_self a hb)
  rw [h.2] at hlonger
  cases hlonger

/-- When some of a delay has passed, more is kept waiting for only where it was before. -/
theorem WaitsAfter.later {t passed : Double} {a b : Rat} {s : Text} (ht : t.toRat? = some a)
    (hpassed : passed.toRat? = some b) (hb : 0 ≤ b)
    (h : WaitsAfter interval P before (.delayed t s :: events)) :
    WaitsAfter interval P before (.delayed (t.sub .exact passed) s :: events) := by
  refine ⟨fun hwaits hmore => ?_, h.2⟩
  exact h.1 (fun hwithin => hwaits (hwithin.later ht hpassed hb)) hmore

end

namespace Process

/-- The process is there, and all that it still does is to print. -/
structure Printing (rounding : Double.Rounding) (p : Process) : Prop where
  alive : p.alive = true
  queue : ∀ e ∈ p.queue, e.Prints rounding

variable {p p' : Process} {rounding : Double.Rounding} {e : Event} {rest : List Event}

/-! ## Reading -/

/-- A process that prints has handed over a text, and more output is kept waiting for only where it
was before. -/
structure HandsOver (rounding : Double.Rounding) (p : Process) (text : Text) (p' : Process) : Prop
    extends Yields p text p' where
  printing : p'.Printing rounding
  waits : ∀ {interval : Double} {P : Text → Prop} {before : Text},
    WaitsAfter interval P before p.queue → WaitsAfter interval P (before ++ text) p'.queue

theorem HandsOver.refl (h : p.Printing rounding) : p.HandsOver rounding [] p where
  toYields := .refl p
  printing := h
  waits hwaits := by rwa [List.append_nil]

/-- One text after another, the first having ended the silence. -/
theorem HandsOver.trans {q : Process} {text more : Text} (h : p.HandsOver rounding text q)
    (h' : q.HandsOver rounding more p') (hq : q.silences = 0) :
    p.HandsOver rounding (text ++ more) p' where
  toYields := h.toYields.trans h'.toYields hq
  printing := h'.printing
  waits hwaits := by
    rw [← List.append_assoc]
    exact h'.waits (h.waits hwaits)

/-- The next event prints, and what is left when it has been taken away does so too. -/
theorem Printing.taken (h : p.Printing rounding) (hqueue : p.queue = e :: rest) :
    e.Prints rounding ∧ (p.taken rest).Printing rounding := by
  have hqueued := h.queue
  rw [hqueue] at hqueued
  obtain ⟨hnext, hrest⟩ := List.forall_mem_cons.mp hqueued
  exact ⟨hnext, h.alive, hrest⟩

/-- The next event is taken away, and what it brings is handed over. -/
theorem handsOver_taken (h : p.Printing rounding) (hqueue : p.queue = e :: rest) :
    p.HandsOver rounding e.text (p.taken rest) := by
  obtain ⟨hnext, hrest⟩ := h.taken hqueue
  obtain ⟨hyields, -⟩ := yields_taken hqueue hnext.not_breaks
  refine ⟨hyields, hrest, fun hwaits => ?_⟩
  rw [hqueue] at hwaits
  exact hwaits.2

/-- Part of a delay has passed, and its output is still to come. -/
theorem handsOver_later {t timeout : Double} {s : Text} (h : p.Printing rounding)
    (hqueue : p.queue = .delayed t s :: rest) (hpositive : timeout.isPositive = true)
    (hlt : timeout.lt t = true) :
    p.HandsOver rounding [] (p.taken (.delayed (t.sub rounding timeout) s :: rest)) := by
  obtain ⟨⟨rfl, a, ha⟩, hrest⟩ := h.taken hqueue
  obtain ⟨b, hb, hnonneg, hle⟩ := Double.toRat?_of_lt hpositive ha hlt
  obtain ⟨hyields, -⟩ := yields_later hqueue (Double.units_sub ha hb hnonneg hle)
  have hleft : (Event.delayed (t.sub .exact timeout) s).Prints .exact :=
    ⟨rfl, a - b, by rw [Double.sub_exact ha hb]; rfl⟩
  refine ⟨hyields, ⟨h.alive, List.forall_mem_cons.mpr ⟨hleft, hrest.queue⟩⟩, fun hwaits => ?_⟩
  rw [hqueue] at hwaits
  rw [List.append_nil]
  exact hwaits.later ha hb hnonneg

/-- With nothing to come, the silence gets longer. -/
theorem handsOver_silent (h : p.Printing rounding) (hqueue : p.queue = [])
    (hpatience : p.silences + 1 < patience) :
    p.HandsOver rounding [] p.silenced := by
  obtain ⟨hyields, -⟩ := yields_silent hqueue hpatience
  refine ⟨hyields, ⟨h.alive, h.queue⟩, fun hwaits => ?_⟩
  rw [List.append_nil]
  exact hwaits

/-- A read with a process that prints hands something over, as long as there is work left for it. -/
theorem Printing.read {clock : Clock} {timeout : Double} (h : p.Printing clock.rounding)
    (hpositive : timeout.isPositive = true) (hwork : 2 ≤ p.work) :
    ∃ reading p' clock', p.read clock timeout = (.ok reading, p', clock') ∧
      clock'.rounding = clock.rounding ∧ reading ≠ .ended ∧
      p.HandsOver clock.rounding reading.text p' ∧ (reading ≠ .idle → p'.silences = 0) := by
  obtain ⟨outcome, p', clock', hread, hreads⟩ := read_cases p clock timeout
  rw [hread]
  cases hreads with
  | gone hqueue hdead =>
    rw [h.alive] at hdead
    cases hdead
  | blocked hqueue halive hpatience =>
    -- there is work left, so the silence has not lasted for too long
    rw [work_eq, hqueue, List.map_nil, List.sum_nil] at hwork
    omega
  | silent hqueue halive hpatience =>
    exact ⟨.idle, _, _, rfl, rfl, nofun, handsOver_silent h hqueue hpatience,
      fun hidle => absurd rfl hidle⟩
  | output hqueue | pause hqueue | delayed hqueue hlt =>
    exact ⟨_, _, _, rfl, rfl, nofun, handsOver_taken h hqueue, fun _ => rfl⟩
  | later hqueue hlt =>
    exact ⟨_, _, _, rfl, rfl, nofun, handsOver_later h hqueue hpositive hlt, fun _ => rfl⟩
  | exit hqueue => exact (h.taken hqueue).1.elim
  | failing hqueue => exact (h.taken hqueue).1.elim

end Process

end ReplDriver
