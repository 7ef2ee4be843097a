import ReplDriver.Proofs.Process.Events

/-!
# Exact time

Where times are exact, nothing that a process does depends on what the time is, but only on how
much of it passes: a read gives the same at any time, and lets the same time pass.

* `Process.read_timeless`: a read at an exact time.
-/

namespace ReplDriver

namespace Double

theorem add_exact {x y : Double} {a b : Rat} (hx : x.toRat? = some a) (hy : y.toRat? = some b) :
    add .exact x y = .finite (a + b) := by
  cases x <;> cases y <;> simp_all [add, toRat?, Rounding.round]

theorem sub_exact {x y : Double} {a b : Rat} (hx : x.toRat? = some a) (hy : y.toRat? = some b) :
    sub .exact x y = .finite (a - b) := by
  have hneg : y.neg.toRat? = some (-b) := by
    cases y with
    | finite c =>
      cases hy
      by_cases hb : b = 0 <;> simp [neg, hb, toRat?]
    | negativeZero =>
      cases hy
      simp [neg, toRat?]
    | infinite s => cases hy
    | nan => cases hy
  rw [sub, add_exact hx hneg, Rat.sub_eq_add_neg]

end Double

namespace Clock

/-- The clock at an exact time. -/
def exactly (q : Rat) : Clock := ⟨.finite q, .exact⟩

theorem after_exactly (q τ : Rat) : (exactly q).after (.finite τ) = .finite (q + τ) :=
  Double.add_exact rfl rfl

theorem remaining_exactly (q δ : Rat) : (exactly q).remaining (.finite δ) = .finite (δ - q) :=
  Double.sub_exact rfl rfl

theorem pass_exactly (q : Rat) {t : Double} {τ : Rat} (ht : t.toRat? = some τ) :
    (exactly q).pass t = exactly (q + τ) := by
  have hafter : (exactly q).after t = .finite (q + τ) := Double.add_exact rfl ht
  rw [pass, hafter]
  rfl

/-- How long an idle wait lasts that is meant to last some time. -/
def idleTime (τ : Rat) : Rat := τ + mkRat 1 (Nat.pow 2 20)

theorem idle_exactly (q τ : Rat) : (exactly q).idle (.finite τ) = exactly (q + idleTime τ) := by
  have hsum : Double.add .exact (.finite τ) overrun = .finite (idleTime τ) :=
    Double.add_exact rfl rfl
  show (exactly q).pass (Double.add .exact (.finite τ) overrun) = _
  rw [hsum]
  exact pass_exactly q rfl

end Clock

/-! ## Processes that keep to numbers -/

/-- Output is delayed by a number of seconds. -/
def Event.Timely : Event → Prop
  | .delayed t _ => ∃ τ, t.toRat? = some τ
  | _ => True

/-- Whatever the process does, output is delayed by a number of seconds. -/
abbrev Behaviour.Timely (b : Behaviour) : Prop := b.Only Event.Timely

namespace Process

/-- Whatever the process still does, output is delayed by a number of seconds. -/
abbrev Timely (p : Process) : Prop := p.Only Event.Timely

theorem lt_eq {t : Double} {a : Rat} (τ : Rat) (ht : t.toRat? = some a) :
    (Double.finite τ).lt t = decide (τ < a) := by
  cases t <;> simp_all [Double.lt, Double.toRat?]

/-- A read at an exact time gives the same at any such time, and lets the same time pass. -/
theorem read_timeless {p : Process} (h : p.Timely) (τ : Rat) :
    ∃ outcome p' ε, p'.Timely ∧
      ∀ q, p.read (.exactly q) (.finite τ) = (outcome, p', .exactly (q + ε)) := by
  have hnow (q : Rat) : Clock.exactly (q + 0) = .exactly q := by rw [Rat.add_zero]
  obtain ⟨outcome, p', clock', -, hreads⟩ := read_cases p (.exactly 0) (.finite τ)
  -- the way the read goes at one time is the way it goes at any other
  suffices hpasses : ∃ ε, p'.Timely ∧
      ∀ q, Reads p (.exactly q) (.finite τ) outcome p' (.exactly (q + ε)) by
    obtain ⟨ε, htimely, hreads'⟩ := hpasses
    exact ⟨outcome, p', ε, htimely, fun q => (hreads' q).eq⟩
  cases hreads with
  | gone hqueue hdead =>
    refine ⟨0, h, fun q => ?_⟩
    rw [hnow]
    exact .gone hqueue hdead
  | blocked hqueue halive hpatience =>
    refine ⟨0, ⟨h.queue, h.behaviour⟩, fun q => ?_⟩
    rw [hnow]
    exact .blocked hqueue halive hpatience
  | silent hqueue halive hpatience =>
    refine ⟨Clock.idleTime τ, ⟨h.queue, h.behaviour⟩, fun q => ?_⟩
    rw [← Clock.idle_exactly]
    exact .silent hqueue halive hpatience
  | output hqueue =>
    refine ⟨0, (h.taken hqueue).2, fun q => ?_⟩
    rw [hnow]
    exact .output hqueue
  | pause hqueue =>
    refine ⟨Clock.idleTime τ, (h.taken hqueue).2, fun q => ?_⟩
    rw [← Clock.idle_exactly]
    exact .pause hqueue
  | @later t s rest hqueue hlt =>
    obtain ⟨⟨a, ha⟩, htaken⟩ := h.taken hqueue
    -- what is left of the delay is a number again
    have hleft : Event.Timely (.delayed (t.sub .exact (.finite τ)) s) :=
      ⟨a - τ, by rw [Double.sub_exact ha rfl]; rfl⟩
    refine ⟨Clock.idleTime τ, ⟨List.forall_mem_cons.mpr ⟨hleft, htaken.queue⟩, h.behaviour⟩,
      fun q => ?_⟩
    rw [← Clock.idle_exactly]
    exact .later hqueue hlt
  | delayed hqueue hlt =>
    obtain ⟨⟨a, ha⟩, htaken⟩ := h.taken hqueue
    refine ⟨a, htaken, fun q => ?_⟩
    rw [← Clock.pass_exactly q ha]
    exact .delayed hqueue hlt
  | exit hqueue =>
    refine ⟨0, ⟨(h.taken hqueue).2.queue, h.behaviour⟩, fun q => ?_⟩
    rw [hnow]
    exact .exit hqueue
  | failing hqueue =>
    refine ⟨0, (h.taken hqueue).2, fun q => ?_⟩
    rw [hnow]
    exact .failing hqueue

end Process

end ReplDriver
