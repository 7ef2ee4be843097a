/-!
# Numbers in double precision

A double is a rational of at most 53 significant bits, or one of the special values. Every
operation is the exact one followed by rounding to the nearest double, a tie going to the even
neighbour.
-/

namespace ReplDriver

/-- A number in double precision. -/
inductive Double where
  | finite (value : Rat)
  | negativeZero
  | infinite (negative : Bool)
  | nan
deriving DecidableEq, Repr

instance : Inhabited Double := ⟨.finite 0⟩

namespace Double

/-! ## Rounding -/

/-- The quotient rounded to the nearest natural number, a tie to the even one. -/
def divNearest (num den : Nat) : Nat :=
  let q := num / den
  let r := num % den
  if den < 2 * r || (2 * r == den && q % 2 == 1) then q + 1 else q

/-- A natural number times a power. -/
def scaled (n base : Nat) (exponent : Int) : Rat :=
  if 0 ≤ exponent then mkRat (n * Nat.pow base exponent.toNat) 1
  else mkRat n (Nat.pow base (-exponent).toNat)

/-- The exponent of the leading bit of a positive quotient. -/
def leadingBit (num den : Nat) : Int :=
  let guess : Int := (num.log2 : Int) - den.log2
  let below := if 0 ≤ guess then num < den * Nat.pow 2 guess.toNat
    else num * Nat.pow 2 (-guess).toNat < den
  if below then guess - 1 else guess

/-- A nonnegative quotient rounded to 53 bits, fewer below 2^-1022. -/
def roundNat (num den : Nat) : Rat :=
  if num == 0 then 0
  else
    let exponent : Int := max (-1074) (leadingBit num den - 52)
    let bits := if 0 ≤ exponent then divNearest num (den * Nat.pow 2 exponent.toNat)
      else divNearest (num * Nat.pow 2 (-exponent).toNat) den
    scaled bits 2 exponent

/-- The double nearest to a rational. -/
def nearest (x : Rat) : Double :=
  let size := roundNat x.num.natAbs x.den
  if mkRat (Nat.pow 2 1024) 1 ≤ size then .infinite (x < 0)
  else if x < 0 then (if size == 0 then .negativeZero else .finite (-size))
  else .finite size

/-! ## Arithmetic -/

/-- How exact results are brought back to numbers: to the nearest double, or kept as they are. -/
inductive Rounding where
  | toDouble
  | exact
deriving DecidableEq, Repr

/-- The number that stands for an exact result. -/
def Rounding.round : Rounding → Rat → Double
  | .toDouble, x => nearest x
  | .exact, x => .finite x

/-- The value of a finite number. -/
def toRat? : Double → Option Rat
  | .finite x => some x
  | .negativeZero => some 0
  | _ => none

/-- The opposite number. -/
def neg : Double → Double
  | .finite x => if x = 0 then .negativeZero else .finite (-x)
  | .negativeZero => .finite 0
  | .infinite s => .infinite !s
  | .nan => .nan

/-- The sum; infinities of opposite sign have none. -/
def add (r : Rounding) : Double → Double → Double
  | .nan, _ => .nan
  | _, .nan => .nan
  | .infinite s, .infinite t => if s == t then .infinite s else .nan
  | .infinite s, _ => .infinite s
  | _, .infinite t => .infinite t
  | x, y => r.round ((toRat? x).getD 0 + (toRat? y).getD 0)

/-- The difference. -/
def sub (r : Rounding) (x y : Double) : Double := add r x (neg y)

/-- The order of numbers, in which `nan` has no place. -/
def lt : Double → Double → Bool
  | .nan, _ => false
  | _, .nan => false
  | .infinite s, .infinite t => s && !t
  | .infinite s, _ => s
  | _, .infinite t => !t
  | x, y => (toRat? x).getD 0 < (toRat? y).getD 0

/-- Whether the number is greater than zero. -/
def isPositive (x : Double) : Bool := lt (.finite 0) x

/-- Whether the number is one of the two zeros. -/
def isZero (x : Double) : Bool := toRat? x == some 0

/-- The size of a finite number in units of the smallest positive double. -/
def units (x : Double) : Nat :=
  match toRat? x with
  | some q => q.num.toNat * Nat.pow 2 1074 / q.den
  | none => 0

/-- The double nearest to an integer, unless it is beyond all doubles. -/
def ofInt? (n : Int) : Option Double :=
  match nearest (n : Rat) with
  | .infinite _ => none
  | x => some x

/-- The double nearest to a decimal number `digits · 10^exponent` with a sign. -/
def ofDecimal (negative : Bool) (digits : Nat) (exponent : Int) : Double :=
  let places : Int := (Nat.toDigits 10 digits).length + exponent
  let size : Double :=
    if digits == 0 || places < -400 then .finite 0
    else if 400 < places then .infinite false
    else nearest (scaled digits 10 exponent)
  if negative then neg size else size

end Double

end ReplDriver
