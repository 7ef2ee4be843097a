import Mathlib.Algebra.Order.Floor.Semifield
import Mathlib.Data.Rat.Floor
import ReplDriver.Proofs.Process.Time

/-!
# What is left to read

Reading makes less of what is still to come of a process. A read takes the next event away and hands
over the text that it brings, or lets some of a delay pass, or makes a silence longer, and whichever
it is, fewer reads are left before the process has to be given up. How much of a delay a read lets
pass can be told where delays are numbers of seconds and the clock is exact.

* `Double.units_sub`: waiting for a while makes a delay shorter.
* `Process.read_yields`: what a read leaves of a process.
-/

namespace ReplDriver

/-! ## Units of time -/

namespace Double

/-- A number that is not negative has as many units as go into it. -/
theorem units_eq {x : Double} {q : Rat} (hx : x.toRat? = some q) (hq : 0 ≤ q) :
    x.units = ⌊q * (Nat.pow 2 1074 : Nat)⌋₊ := by
  obtain ⟨n, hn⟩ := Int.eq_ofNat_of_zero_le (Rat.num_nonneg.mpr hq)
  rw [units, hx]
  generalize Nat.pow 2 1074 = scale
  have hquotient : q * (scale : Nat) = ((n * scale : Nat) : Rat) / ((q.den : Nat) : Rat) := by
    conv_lhs => rw [← Rat.num_div_den q, hn]
    rw [Nat.cast_mul, Int.cast_natCast, div_mul_eq_mul_div]
  rw [hquotient, Nat.floor_div_eq_div]
  show q.num.toNat * scale / q.den = _
  rw [hn]
  rfl

/-- What is left of a number when a smaller one is taken away has fewer units, by at least as many
as the smaller one has. -/
theorem units_sub {x y : Double} {a b : Rat} (hx : x.toRat? = some a) (hy : y.toRat? = some b)
    (hb : 0 ≤ b) (hle : b ≤ a) : (sub .exact x y).units + y.units ≤ x.units := by
  have hleft : (sub .exact x y).toRat? = some (a - b) := by rw [sub_exact hx hy]; rfl
  have hsub : 0 ≤ a - b := sub_nonneg.mpr hle
  rw [units_eq hleft hsub, units_eq hy hb, units_eq hx (hb.trans hle)]
  generalize Nat.pow 2 1074 = scale
  have hscale : (0 : Rat) ≤ scale := Nat.cast_nonneg scale
  refine Nat.le_floor ?_
  rw [Nat.cast_add]
  calc (⌊(a - b) * scale⌋₊ : Rat) + ⌊b * scale⌋₊
      ≤ (a - b) * scale + b * scale :=
        add_le_add (Nat.floor_le (mul_nonneg hsub hscale)) (Nat.floor_le (mul_nonneg hb hscale))
    _ = a * scale := by rw [← add_mul, sub_add_cancel]

/-- A number of at least one unit is positive. -/
theorem isPositive_of_units {x : Double} (h : 0 < x.units) : x.isPositive = true := by
  unfold units at h
  generalize Nat.pow 2 1074 = scale at h
  cases x with
  | finite q =>
    by_contra hnot
    have hq : q ≤ 0 := not_lt.mp fun hpos => hnot (decide_eq_true hpos)
    have hnum : q.num.toNat = 0 := Int.toNat_of_nonpos (Rat.num_nonpos.mpr hq)
    change 0 < q.num.toNat * scale / q.den at h
    rw [hnum, Nat.zero_mul, Nat.zero_div] at h
    cases h
  | negativeZero =>
    change 0 < (0 : Rat).num.toNat * scale / (0 : Rat).den at h
    rw [Rat.num_zero, Int.toNat_zero, Nat.zero_mul, Nat.zero_div] at h
    cases h
  | infinite negative => cases h
  | nan => cases h

/-- A positive time that is less than a number is a number. -/
theorem toRat?_of_lt {x y : Double} {a : Rat} (hx : x.isPositive = true)
    (hy : y.toRat? = some a) (hlt : x.lt y = true) :
    ∃ b, x.toRat? = some b ∧ 0 ≤ b ∧ b ≤ a := by
  cases x with
  | finite b =>
    have hb : 0 < b := of_decide_eq_true hx
    have hba : b < a := by simpa [Process.lt_eq b hy] using hlt
    exact ⟨b, rfl, hb.le, hba.le⟩
  | negativeZero => simp [isPositive, lt, toRat?] at hx
  | infinite negative => cases y <;> simp_all [isPositive, lt, toRat?]
  | nan => simp [isPositive, lt] at hx

/-- What is less than a number is less than any that is no smaller. -/
theorem lt_of_lt_of_le {x y : Double} {a b : Rat} (h : x.lt (.finite a) = true)
    (hy : y.toRat? = some b) (hle : a ≤ b) : x.lt y = true := by
  cases x with
  | finite c =>
    have hc : c < a := of_decide_eq_true h
    rw [Process.lt_eq c hy]
    exact decide_eq_true (hc.trans_le hle)
  | negativeZero =>
    have hpos : (0 : Rat) < a := of_decide_eq_true h
    have hless : (Double.finite 0).lt y = true := by
      rw [Process.lt_eq 0 hy]
      exact decide_eq_true (hpos.trans_le hle)
    cases y <;> simp_all [lt, toRat?]
  | infinite negative => cases y <;> simp_all [lt, toRat?]
  | nan => cases h

end Double

/-! ## What events bring -/

/-- The text that an event brings. -/
def Event.text : Event → Text
  | .output s => s
  | .delayed _ s => s
  | _ => []

/-- Everything that some events bring. -/
def printed (events : List Event) : Text := events.flatMap Event.text

@[simp] theorem printed_cons (e : Event) (rest : List Event) :
    printed (e :: rest) = e.text ++ printed rest := List.flatMap_cons

theorem printed_append (events more : List Event) :
    printed (events ++ more) = printed events ++ printed more := List.flatMap_append

/-- How long the event keeps its reader waiting can be counted: output that comes later comes after
a number of seconds, on a clock that is exact. -/
def Event.Counted (rounding : Double.Rounding) : Event → Prop
  | .delayed t _ => rounding = .exact ∧ ∃ τ, t.toRat? = some τ
  | _ => True

/-- The event ends the process, or makes a read fail. -/
def Event.Breaks : Event → Prop
  | .exit => True
  | .failing _ => True
  | _ => False

/-- What a read has found, as text. -/
def Reading.text : Reading → Text
  | .chunk s => s
  | _ => []

namespace Process

/-! ## Work -/

variable {p p' : Process} {e : Event} {rest : List Event}

theorem work_eq (p : Process) :
    p.work = (p.queue.map Event.work).sum + (patience - p.silences) := by
  unfold work
  generalize patience - p.silences = n
  induction p.queue with
  | nil => exact (Nat.zero_add n).symm
  | cons e rest ih => rw [List.foldr_cons, ih, List.map_cons, List.sum_cons, Nat.add_assoc]

theorem four_le_eventWork (e : Event) : 4 ≤ Event.work e := by
  cases e <;> simp [Event.work]

/-- A process that has not been silent is not given up yet. -/
theorem work_of_silences (h : p.silences = 0) : 3 ≤ p.work := by
  rw [work_eq, h]
  exact Nat.le_add_left _ _

theorem four_le_work (h : p.queue ≠ []) : 4 ≤ p.work := by
  obtain ⟨e, rest, hqueue⟩ := List.exists_cons_of_ne_nil h
  have he := four_le_eventWork e
  rw [work_eq, hqueue, List.map_cons, List.sum_cons]
  omega

/-! ## Reading -/

/-- A process has handed over a text. What is still to come follows it, what ends the process or
makes a read fail is still to come if it was, and there is no more to do than before. -/
structure Yields (p : Process) (text : Text) (p' : Process) : Prop where
  alive : p'.alive = p.alive
  printed : printed p.queue = text ++ printed p'.queue
  breaks : ∀ e ∈ p.queue, e.Breaks → e ∈ p'.queue
  work : p.silences = 0 → p'.work ≤ p.work
  patient : 3 ≤ p.work → 2 ≤ p'.work

theorem Yields.refl (p : Process) : p.Yields [] p where
  alive := rfl
  printed := rfl
  breaks _ he _ := he
  work _ := Nat.le_refl _
  patient := Nat.le_of_succ_le

/-- One text after another, the first having ended the silence. -/
theorem Yields.trans {q : Process} {text more : Text} (h : p.Yields text q)
    (h' : q.Yields more p') (hq : q.silences = 0) : p.Yields (text ++ more) p' where
  alive := h'.alive.trans h.alive
  printed := by rw [h.printed, h'.printed, List.append_assoc]
  breaks e he hbreaks := h'.breaks e (h.breaks e he hbreaks) hbreaks
  work hp := (h'.work hq).trans (h.work hp)
  patient _ := h'.patient (work_of_silences hq)

/-- The next event is taken away, and what it brings is handed over. -/
theorem yields_taken (hqueue : p.queue = e :: rest) (hcontinues : ¬ e.Breaks) :
    p.Yields e.text (p.taken rest) ∧ (p.taken rest).work < p.work := by
  have he := four_le_eventWork e
  have hpatience : patience = 3 := rfl
  have hless : (p.taken rest).work < p.work := by
    rw [work_eq, work_eq, hqueue, List.map_cons, List.sum_cons]
    show (rest.map Event.work).sum + (patience - 0) < _
    omega
  refine ⟨⟨rfl, ?_, ?_, fun _ => hless.le, fun _ => ?_⟩, hless⟩
  · rw [hqueue]
    exact printed_cons e rest
  · rw [hqueue]
    intro e' he' hbreaks
    obtain rfl | he' := List.mem_cons.mp he'
    · exact absurd hbreaks hcontinues
    · exact he'
  · exact Nat.le_of_succ_le (work_of_silences rfl)

/-- Part of a delay has passed, and its output is still to come. -/
theorem yields_later {t left timeout : Double} {s : Text} (hqueue : p.queue = .delayed t s :: rest)
    (hunits : left.units + timeout.units ≤ t.units) :
    p.Yields [] (p.taken (.delayed left s :: rest)) ∧
      (0 < timeout.units → (p.taken (.delayed left s :: rest)).work < p.work) := by
  have hpatience : patience = 3 := rfl
  -- the delay is shorter now, and the silence before it is over
  have hwork : (p.taken (.delayed left s :: rest)).work + 4 * timeout.units +
      (patience - p.silences) ≤ p.work + patience := by
    rw [work_eq, work_eq, hqueue, List.map_cons, List.sum_cons, taken, List.map_cons,
      List.sum_cons]
    simp only [Event.work]
    omega
  have hsilences : 3 ≤ (p.taken (.delayed left s :: rest)).work := work_of_silences rfl
  refine ⟨⟨rfl, ?_, ?_, fun hp => by omega, fun _ => by omega⟩, fun hpos => by omega⟩
  · rw [hqueue]
    rfl
  · rw [hqueue]
    intro e he hbreaks
    obtain rfl | he := List.mem_cons.mp he
    · exact hbreaks.elim
    · exact List.mem_cons_of_mem _ he

/-- Nothing is to come, and the silence gets longer. -/
theorem yields_silent (hqueue : p.queue = []) (hpatience : p.silences + 1 < patience) :
    p.Yields [] p.silenced ∧ p.silenced.work < p.work := by
  have hthree : patience = 3 := rfl
  have hbefore := work_eq p
  have hafter : p.silenced.work = patience - (p.silences + 1) := by
    rw [work_eq]
    simp [silenced, hqueue]
  rw [hqueue, List.map_nil, List.sum_nil] at hbefore
  refine ⟨⟨rfl, rfl, fun _ he _ => he, ?_, ?_⟩, ?_⟩
  all_goals omega

/-- A read that finds output or nothing hands over what it finds. Output ends the silence, and there
is less to do afterwards, if the read was for a unit of time at least. -/
theorem read_yields {clock clock' : Clock} {timeout : Double} {reading : Reading}
    (hread : p.read clock timeout = (.ok reading, p', clock')) (hends : reading ≠ .ended)
    (hpositive : timeout.isPositive = true)
    (hcounted : ∀ e ∈ p.queue, e.Counted clock.rounding) :
    p.Yields reading.text p' ∧ (reading ≠ .idle → p'.silences = 0) ∧
      (0 < timeout.units → p'.work < p.work) ∧ ∀ e ∈ p'.queue, e.Counted clock.rounding := by
  cases reads_of_eq hread with
  | gone hqueue hdead => exact absurd rfl hends
  | silent hqueue halive hpatience =>
    obtain ⟨hyields, hless⟩ := yields_silent hqueue hpatience
    exact ⟨hyields, fun h => absurd rfl h, fun _ => hless, hcounted⟩
  | exit hqueue => exact absurd rfl hends
  | @later t s rest hqueue hlt =>
    rw [hqueue] at hcounted
    obtain ⟨⟨hexact, a, ha⟩, hrest⟩ := List.forall_mem_cons.mp hcounted
    obtain ⟨b, hb, hnonneg, hle⟩ := Double.toRat?_of_lt hpositive ha hlt
    have hunits := Double.units_sub ha hb hnonneg hle
    rw [← hexact] at hunits
    obtain ⟨hyields, hless⟩ := yields_later hqueue hunits
    have hleft : (Event.delayed (t.sub clock.rounding timeout) s).Counted clock.rounding :=
      ⟨hexact, a - b, by rw [hexact, Double.sub_exact ha hb]; rfl⟩
    exact ⟨hyields, fun _ => rfl, hless, List.forall_mem_cons.mpr ⟨hleft, hrest⟩⟩
  | output hqueue | pause hqueue | delayed hqueue hlt =>
    rw [hqueue] at hcounted
    obtain ⟨hyields, hless⟩ := yields_taken hqueue id
    exact ⟨hyields, fun _ => rfl, fun _ => hless, (List.forall_mem_cons.mp hcounted).2⟩

end Process

end ReplDriver
