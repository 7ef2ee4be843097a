import Mathlib.Algebra.Order.Field.Rat
import Mathlib.Tactic.Linarith
import ReplDriver.Number.Double

/-!
# Integers as doubles

An integer of at most 53 bits is a double itself. A longer one is rounded to its first 53 bits, and
the largest integers are rounded beyond all doubles.

* `roundNat_of_short`, `roundNat_of_long`: what an integer is rounded to.
* `ofInt?_eq_none_iff`: the integers that have no double.
* `isPositive_of_ofInt?`: the double of a positive integer is positive.
-/

namespace ReplDriver.Double

variable {n d : Nat}

theorem le_divNearest (n d : Nat) : n / d ≤ divNearest n d := by
  unfold divNearest
  dsimp only
  split <;> omega

theorem divNearest_le (n d : Nat) : divNearest n d ≤ n / d + 1 := by
  unfold divNearest
  dsimp only
  split <;> omega

theorem divNearest_one (n : Nat) : divNearest n 1 = n := by
  simp [divNearest, Nat.mod_one]

theorem leadingBit_one (h : n ≠ 0) : leadingBit n 1 = n.log2 := by
  have hone : Nat.log2 1 = 0 := by decide
  have hle : ¬ n < 2 ^ n.log2 := Nat.not_lt.mpr (Nat.log2_self_le h)
  simp [leadingBit, hone, hle]

theorem scaled_natCast (n e : Nat) : scaled n 2 e = ((n * 2 ^ e : Nat) : Rat) := by
  rw [scaled, if_pos (Int.natCast_nonneg e), Int.toNat_natCast, Rat.mkRat_one]
  rfl

/-- A multiple of a power of two, scaled down by that power. -/
theorem scaled_neg {k : Nat} (hk : 0 < k) (n : Nat) : scaled (n * 2 ^ k) 2 (-k) = n := by
  have hnegative : ¬ (0 : Int) ≤ -(k : Int) := by omega
  have hpower : (2 : Rat) ^ k ≠ 0 := by positivity
  rw [scaled, if_neg hnegative, neg_neg, Int.toNat_natCast, Rat.mkRat_eq_div]
  push_cast
  rw [Nat.pow_eq]
  push_cast
  exact mul_div_cancel_right₀ _ hpower

/-- An integer of 53 bits or more is rounded to its first 53 bits. -/
theorem roundNat_of_long (h : 52 ≤ n.log2) :
    roundNat n 1 = ((divNearest n (2 ^ (n.log2 - 52)) * 2 ^ (n.log2 - 52) : Nat) : Rat) := by
  have hn : n ≠ 0 := by
    rintro rfl
    simp at h
  have hexponent : max (-1074) (leadingBit n 1 - 52) = ((n.log2 - 52 : Nat) : Int) := by
    rw [leadingBit_one hn]
    omega
  simp only [roundNat, beq_iff_eq, hn, if_false, hexponent, Int.natCast_nonneg, if_true,
    Int.toNat_natCast, Nat.one_mul, Nat.pow_eq]
  exact scaled_natCast _ _

/-- An integer of at most 53 bits is a double itself. -/
theorem roundNat_of_short (h : n.log2 ≤ 52) : roundNat n 1 = n := by
  rcases Nat.lt_or_eq_of_le h with hless | heq
  · by_cases hn : n = 0
    · subst hn
      rfl
    · have hpositive : 0 < 52 - n.log2 := by omega
      have hexponent : max (-1074) (leadingBit n 1 - 52) = -((52 - n.log2 : Nat) : Int) := by
        rw [leadingBit_one hn]
        omega
      have hnegative : ¬ (0 : Int) ≤ -((52 - n.log2 : Nat) : Int) := by omega
      simp only [roundNat, beq_iff_eq, hn, if_false, hexponent, hnegative, neg_neg,
        Int.toNat_natCast, Nat.pow_eq, divNearest_one]
      exact scaled_neg hpositive n
  · rw [roundNat_of_long heq.ge, heq]
    simp [divNearest_one]

/-- An integer is not rounded below its first bit. -/
theorem pow_le_roundNat (h : n ≠ 0) : (2 : Rat) ^ n.log2 ≤ roundNat n 1 := by
  have hfirst : 2 ^ n.log2 ≤ n := Nat.log2_self_le h
  rcases Nat.le_total n.log2 52 with hshort | hlong
  · rw [roundNat_of_short hshort]
    exact_mod_cast hfirst
  · have hsplit : 2 ^ n.log2 = 2 ^ 52 * 2 ^ (n.log2 - 52) := by
      rw [← Nat.pow_add, Nat.add_sub_cancel' hlong]
    have hbits : 2 ^ 52 ≤ n / 2 ^ (n.log2 - 52) := by
      rwa [Nat.le_div_iff_mul_le (by positivity), ← hsplit]
    rw [roundNat_of_long hlong]
    have hround := Nat.mul_le_mul_right (2 ^ (n.log2 - 52)) (hbits.trans (le_divNearest _ _))
    rw [← hsplit] at hround
    exact_mod_cast hround

/-- An integer is rounded to no more than the next power of two. -/
theorem roundNat_le_pow (n : Nat) : roundNat n 1 ≤ (2 : Rat) ^ (n.log2 + 1) := by
  have hnext : n < 2 ^ (n.log2 + 1) := Nat.lt_log2_self
  rcases Nat.le_total n.log2 52 with hshort | hlong
  · rw [roundNat_of_short hshort]
    exact_mod_cast hnext.le
  · have hsplit : 2 ^ (n.log2 + 1) = 2 ^ 53 * 2 ^ (n.log2 - 52) := by
      rw [← Nat.pow_add]
      congr 1
      omega
    have hbits : n / 2 ^ (n.log2 - 52) < 2 ^ 53 := by
      rwa [Nat.div_lt_iff_lt_mul (by positivity), ← hsplit]
    rw [roundNat_of_long hlong]
    have hround := Nat.mul_le_mul_right (2 ^ (n.log2 - 52)) ((divNearest_le n _).trans hbits)
    rw [← hsplit] at hround
    exact_mod_cast hround

/-- A quotient is rounded up to a number, of which it is short by less than one, where it is short
by one half at most. -/
theorem le_divNearest_iff {q : Nat} (hodd : q % 2 = 1) (hq : n / (2 * d) ≤ q) (hd : 0 < d) :
    q + 1 ≤ divNearest n (2 * d) ↔ q * (2 * d) + d ≤ n := by
  have hdivide := Nat.div_add_mod n (2 * d)
  have hmod := Nat.mod_lt n (show 0 < 2 * d by omega)
  rcases Nat.lt_or_eq_of_le hq with hless | rfl
  · -- even the next number is not beyond `q`
    have hnear := divNearest_le n (2 * d)
    have hbelow : 2 * d * (n / (2 * d) + 1) ≤ 2 * d * q := Nat.mul_le_mul_left _ hless
    rw [Nat.mul_add, Nat.mul_one] at hbelow
    rw [Nat.mul_comm q]
    omega
  · rw [Nat.mul_comm (n / (2 * d))]
    unfold divNearest
    simp only [Bool.or_eq_true, Bool.and_eq_true, decide_eq_true_eq, beq_iff_eq]
    split <;> omega

/-- The integers that are rounded to a power of two or more. -/
theorem pow_le_roundNat_iff (e : Nat) :
    (2 : Rat) ^ (e + 54) ≤ roundNat n 1 ↔ (2 ^ 54 - 1) * 2 ^ e ≤ n := by
  have hnext : n < 2 ^ (n.log2 + 1) := Nat.lt_log2_self
  have hunit : 0 < 2 ^ e := by positivity
  have hpower : 2 ^ (e + 54) = 2 ^ 53 * (2 * 2 ^ e) := by
    rw [← Nat.pow_succ', ← Nat.pow_add]
    congr 1
    omega
  rcases Nat.lt_trichotomy n.log2 (e + 53) with hlow | hmiddle | hhigh
  · -- shorter integers are rounded to no more than the power before
    have hbelow : 2 ^ (n.log2 + 1) ≤ 2 ^ (e + 53) := Nat.pow_le_pow_right (by omega) (by omega)
    have hhalf : 2 ^ (e + 53) = 2 ^ 53 * 2 ^ e := by rw [Nat.pow_add, Nat.mul_comm]
    have hround : roundNat n 1 < (2 : Rat) ^ (e + 54) := by
      refine (roundNat_le_pow n).trans_lt ?_
      exact_mod_cast Nat.pow_lt_pow_right (by omega) (by omega)
    refine iff_of_false (not_le.mpr hround) ?_
    omega
  · have hshift : n.log2 - 52 = e + 1 := by omega
    have hbits : n / (2 * 2 ^ e) ≤ 2 ^ 53 - 1 := by
      refine Nat.le_sub_one_of_lt ?_
      rw [Nat.div_lt_iff_lt_mul (by omega), ← hpower]
      rwa [hmiddle] at hnext
    have hround : 2 ^ 53 ≤ divNearest n (2 * 2 ^ e) ↔ (2 ^ 53 - 1) * (2 * 2 ^ e) + 2 ^ e ≤ n :=
      le_divNearest_iff (by decide) hbits hunit
    have hcast : ∀ m : Nat, (2 : Rat) ^ (e + 54) ≤ m ↔ 2 ^ (e + 54) ≤ m :=
      fun m => by exact_mod_cast Iff.rfl
    rw [roundNat_of_long (by omega), hshift, Nat.pow_succ', hcast, hpower,
      Nat.mul_le_mul_right_iff (by omega), hround]
    omega
  · have habove : 2 ^ (e + 54) ≤ 2 ^ n.log2 := Nat.pow_le_pow_right (by omega) (by omega)
    have hn : n ≠ 0 := by
      rintro rfl
      simp at hhigh
    have hfirst : 2 ^ n.log2 ≤ n := Nat.log2_self_le hn
    refine iff_of_true (le_trans ?_ (pow_le_roundNat hn)) (by omega)
    exact_mod_cast habove

theorem mkRat_pow (e : Nat) : mkRat (Nat.pow 2 e) 1 = (2 : Rat) ^ e := by
  rw [Rat.mkRat_one, Nat.pow_eq]
  push_cast
  rfl

/-- An integer has no double where it is rounded to the limit or more. -/
theorem ofInt?_eq (n : Int) : ofInt? n =
    if mkRat (Nat.pow 2 1024) 1 ≤ roundNat n.natAbs 1 then none
    else if (n : Rat) < 0 then
      some (if roundNat n.natAbs 1 == 0 then .negativeZero else .finite (-roundNat n.natAbs 1))
    else some (.finite (roundNat n.natAbs 1)) := by
  rw [ofInt?, nearest, Rat.num_intCast, Rat.den_intCast]
  generalize mkRat (Nat.pow 2 1024) 1 = limit
  generalize roundNat n.natAbs 1 = size
  by_cases hlarge : limit ≤ size
  · simp only [hlarge, if_true]
  · by_cases hnegative : (n : Rat) < 0
    · by_cases hzero : (size == 0) = true <;>
        simp only [hlarge, hnegative, hzero, if_true, if_false, Bool.false_eq_true]
    · simp only [hlarge, hnegative, if_false]

/-- The integers that have no double are those that are beyond the middle between the largest
double and the next power of two, or in that middle. -/
theorem ofInt?_eq_none_iff (n : Int) : ofInt? n = none ↔ (2 ^ 54 - 1) * 2 ^ 970 ≤ n.natAbs := by
  have hlimit : ∀ e, e = 970 + 54 → mkRat (Nat.pow 2 e) 1 = (2 : Rat) ^ (970 + 54) := by
    intro e he
    rw [mkRat_pow, he]
  rw [← pow_le_roundNat_iff, ofInt?_eq, hlimit 1024 rfl]
  generalize (2 : Rat) ^ (970 + 54) = limit
  split
  · next hlarge => exact iff_of_true rfl hlarge
  · next hsmall =>
    refine iff_of_false ?_ hsmall
    split <;> exact Option.some_ne_none _

/-- The double of a positive integer is positive. -/
theorem isPositive_of_ofInt? {n : Int} {x : Double} (h : ofInt? n = some x) (hn : 0 < n) :
    x.isPositive = true := by
  have hround : 0 < roundNat n.natAbs 1 :=
    lt_of_lt_of_le (by positivity) (pow_le_roundNat (Int.natAbs_ne_zero.mpr hn.ne'))
  have hnegative : ¬ (n : Rat) < 0 := by exact_mod_cast hn.le.not_gt
  rw [ofInt?_eq, if_neg hnegative] at h
  split at h
  · cases h
  · cases h
    exact decide_eq_true hround

end ReplDriver.Double
