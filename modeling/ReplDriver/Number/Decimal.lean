import ReplDriver.Text.Digit
import ReplDriver.Number.Double

/-!
# Numbers in decimal

A double is written with the fewest digits that read back as the same double, or with a fixed
number of places. Integers are read from decimal text in any script.
-/

namespace ReplDriver

namespace Double

/-! ## The fewest digits that read back -/

/-- How many digits stand before the decimal point of a positive rational, none or fewer when it
is below one tenth. -/
def pointPosition (x : Rat) : Int :=
  let guess : Int := (Nat.toDigits 10 x.num.natAbs).length - (Nat.toDigits 10 x.den).length
  if x < scaled 1 10 guess then guess else guess + 1

/-- The better of the two neighbours of a positive double on the grid of multiples of a power of
ten, if one of them reads back as that double. -/
def onGrid (x : Rat) (exponent : Int) : Option Nat :=
  let ratio := x / scaled 1 10 exponent
  let low := ratio.num.toNat / ratio.den
  let readsBack (n : Nat) : Bool := nearest (scaled n 10 exponent) == .finite x
  let twice := 2 * (ratio - low)
  let lowNearer : Bool := twice < 1 || (twice == 1 && low % 2 == 0)
  match readsBack low, readsBack (low + 1) with
  | true, true => some (if lowNearer then low else low + 1)
  | true, false => some low
  | false, true => some (low + 1)
  | false, false => none

/-- The digits and the position of the point of the shortest decimal that reads back as a positive
double; seventeen digits always do. -/
def shortest (x : Rat) : Text × Int :=
  let point := pointPosition x
  let found := (List.range 17).findSome? fun (n : Nat) =>
    (onGrid x (point - n - 1)).map (·, point - n - 1)
  match found with
  | some (digits, exponent) =>
    let shown := Nat.toDigits 10 digits
    (Text.dropRightWhile (· == '0') shown, shown.length + exponent)
  | none => (['0'], 1)

/-- The shortest digits laid out: positionally while the point is at most four places left of them
and sixteen digits suffice, otherwise with an exponent of at least two digits. -/
def layOut (digits : Text) (point : Int) : Text :=
  if -4 < point && point ≤ 16 then
    if point ≤ 0 then "0." ++ List.replicate (-point).toNat '0' ++ digits
    else
      let whole := point.toNat
      if digits.length ≤ whole then digits ++ List.replicate (whole - digits.length) '0' ++ ".0"
      else digits.take whole ++ "." ++ digits.drop whole
  else
    let exponent := point - 1
    let size := Text.ofNat exponent.natAbs
    let fraction : Text := if digits.length ≤ 1 then [] else "." ++ digits.drop 1
    digits.take 1 ++ fraction ++ "e" ++ (if exponent < 0 then "-" else "+") ++
      List.replicate (2 - size.length) '0' ++ size

/-- The words for the values that have no digits. -/
structure SpecialWords where
  nan : Text
  infinity : Text

/-- A double in the fewest digits. -/
def text (words : SpecialWords) : Double → Text
  | .nan => words.nan
  | .infinite negative => (if negative then "-" else "") ++ words.infinity
  | .negativeZero => "-0.0"
  | .finite x =>
    if x = 0 then "0.0"
    else
      let (digits, point) := shortest (if x < 0 then -x else x)
      (if x < 0 then "-" else "") ++ layOut digits point

/-- A double rounded to six places. -/
def sixPlaces : Double → Text
  | .nan => "nan"
  | .infinite negative => if negative then "-inf" else "inf"
  | .negativeZero => "-0.000000"
  | .finite x =>
    let millionths := divNearest (x.num.natAbs * Nat.pow 10 6) x.den
    let places := Text.ofNat (millionths % Nat.pow 10 6)
    (if x < 0 then "-" else "") ++ Text.ofNat (millionths / Nat.pow 10 6) ++ "." ++
      List.replicate (6 - places.length) '0' ++ places

/-- The integer between zero and a finite number that is nearest to the number. -/
def truncate? (x : Double) : Option Int := (toRat? x).map fun q => q.num.tdiv q.den

end Double

namespace Text

/-! ## Integers from text -/

/-- The most digits that an integer is read from. -/
def digitLimit : Nat := 4300

/-- Why a text gives no integer. -/
inductive IntegerFault where
  | malformed
  | tooLong (digits : Nat)
deriving DecidableEq, Repr

/-- The values of a run of digits in which single underscores may stand between two digits. -/
def digitRun? : Text → Option (List Nat)
  | [] => none
  | c :: r =>
    match digitValue? c with
    | none => none
    | some d => go [d] r
where
  /-- `seen` holds the values so far, last first; the last character was a digit. -/
  go (seen : List Nat) : Text → Option (List Nat)
    | [] => some seen.reverse
    | '_' :: c :: r => match digitValue? c with
      | some d => go (d :: seen) r
      | none => none
    | c :: r => match digitValue? c with
      | some d => go (d :: seen) r
      | none => none

/-- Blanks that may stand around an integer: every blank but the four separators of ASCII. -/
def isSpacing (c : Char) : Bool := isBlank c && !(0x1c ≤ c.toNat && c.toNat < 0x20)

/-- Whether the character may stand in a run of digits. -/
def isInDigitRun (c : Char) : Bool := isDecimal c || c == '_'

/-- The integer that a text writes in decimal: blanks around it, a sign, underscores between
digits and the digits of every script are allowed. Of a run with too many digits nothing more is
looked at. -/
def toInteger (s : Text) : Except IntegerFault Int :=
  let (negative, r) := match s.dropWhile isSpacing with
    | '-' :: r => (true, r)
    | '+' :: r => (false, r)
    | r => (false, r)
  match digitRun? (r.takeWhile isInDigitRun) with
  | none => .error .malformed
  | some ds =>
    if digitLimit < ds.length then .error (.tooLong ds.length)
    else if !(r.dropWhile isInDigitRun).all isSpacing then .error .malformed
    else
      let size : Nat := ds.foldl (fun n d => n * 10 + d) 0
      .ok (if negative then -size else size)

end Text

end ReplDriver
