import ReplDriver.Json.Value
import ReplDriver.Number.Decimal

/-!
# Reading JSON text

The reader takes standard JSON and, beyond it, the numbers `NaN`, `Infinity` and `-Infinity`. Of
two members with one key the later value counts. A failure names what was expected and the place
by line, column and offset, all in code points. Lists and objects may be nested in one another up to
a limit.

Each step returns the text that is left together with the fact that it is shorter than the text it
was given, which is why reading ends.
-/

namespace ReplDriver.Json

/-- What the reader found wrong. -/
inductive ReadCause where
  | byteOrderMark
  | value
  | propertyName
  | colon
  | comma
  | extraData
  | unterminatedString
  | controlCharacter
  | escape
  | unicodeEscape
deriving DecidableEq, Repr

/-- The words for each cause. -/
def ReadCause.message : ReadCause → Text
  | .byteOrderMark => "Unexpected UTF-8 BOM (decode using utf-8-sig)"
  | .value => "Expecting value"
  | .propertyName => "Expecting property name enclosed in double quotes"
  | .colon => "Expecting ':' delimiter"
  | .comma => "Expecting ',' delimiter"
  | .extraData => "Extra data"
  | .unterminatedString => "Unterminated string starting at"
  | .controlCharacter => "Invalid control character at"
  | .escape => "Invalid \\escape"
  | .unicodeEscape => "Invalid \\uXXXX escape"

/-- The values that have parts. -/
inductive Container where
  | list
  | object
deriving DecidableEq, Repr

/-- The word for a value with parts. -/
def Container.word : Container → Text
  | .list => "array"
  | .object => "object"

/-- Why a text is not read: something is wrong at an offset, an integer has too many digits, or
lists and objects are nested too deep. -/
inductive ReadFailure where
  | at (cause : ReadCause) (line column offset : Nat)
  | tooLong (digits : Nat)
  | tooDeep (innermost : Container)
deriving DecidableEq, Repr

/-- A reading step stops at the place where this much of the text is left. -/
inductive Stop where
  | at (cause : ReadCause) (left : Nat)
  | tooLong (digits : Nat)
  | tooDeep (innermost : Container)

/-- How many lists and objects may be nested in one another. -/
def nestingLimit : Nat := 985

/-- A text shorter than a given one. -/
abbrev Rest (s : Text) := { r : Text // r.length < s.length }

/-- The blanks that may stand between the parts of a JSON text. -/
def isSpace (c : Char) : Bool := c == ' ' || c == '\t' || c == '\n' || c == '\r'

/-- The text without its leading blanks. -/
def skipSpace (s : Text) : Text := s.dropWhile isSpace

theorem length_skipSpace_le (s : Text) : (skipSpace s).length ≤ s.length :=
  (List.dropWhile_suffix isSpace).length_le

/-! ## Strings -/

/-- The value of a hexadecimal digit. -/
def hexValue? (c : Char) : Option Nat :=
  if c.isDigit then some (c.toNat - 48)
  else if 'a' ≤ c && c ≤ 'f' then some (c.toNat - 87)
  else if 'A' ≤ c && c ≤ 'F' then some (c.toNat - 55)
  else none

/-- The number that four hexadecimal digits write. -/
def unit? (a b c d : Char) : Option Nat := do
  return (((← hexValue? a) * 16 + (← hexValue? b)) * 16 + (← hexValue? c)) * 16 + (← hexValue? d)

/-- The character that a one-letter escape stands for. -/
def simpleEscape? (c : Char) : Option Char :=
  match c with
  | '\x22' => some '\x22'
  | '\\' => some '\\'
  | '/' => some '/'
  | 'b' => some '\x08'
  | 'f' => some '\x0c'
  | 'n' => some '\n'
  | 'r' => some '\r'
  | 't' => some '\t'
  | _ => none

/-- The character of a UTF-16 unit. No character is a surrogate, so that one without a partner,
which a text of code points could hold, is read as U+FFFD. -/
def unitChar (n : Nat) : Char := if 0xd800 ≤ n && n < 0xe000 then '\ufffd' else Char.ofNat n

/-- The character of a surrogate pair. -/
def pairChar (high low : Nat) : Char :=
  Char.ofNat (0x10000 + (high - 0xd800) * 0x400 + (low - 0xdc00))

/-- The low half of a surrogate pair, if its escape begins the text after the escape of the unit
`n` and `n` is a high half. -/
def lowHalf (n : Nat) (tail : Text) : Except Stop (Option (Nat × Rest tail)) :=
  match tail with
  | '\\' :: 'u' :: a :: b :: c :: d :: f :: r =>
    if 0xd800 ≤ n && n < 0xdc00 then
      match unit? a b c d with
      | none => .error (.at .unicodeEscape (r.length + 6))
      | some m =>
        if 0xdc00 ≤ m && m < 0xe000 then .ok (some (m, ⟨f :: r, by simp⟩)) else .ok none
    else .ok none
  | _ => .ok none

/-- The character of an escape whose text follows the backslash. An escape by number needs a
character after its four digits, if only the closing quote. -/
def readEscape (opening : Nat) (s : Text) : Except Stop (Char × Rest s) :=
  match s with
  | [] => .error (.at .unterminatedString opening)
  | 'u' :: a :: b :: c :: d :: e :: r =>
    match unit? a b c d with
    | none => .error (.at .unicodeEscape (r.length + 6))
    | some n => do
      match ← lowHalf n (e :: r) with
      | some (m, rest) => return (pairChar n m, ⟨rest.1, by have := rest.2; simp at *; omega⟩)
      | none => return (unitChar n, ⟨e :: r, by simp⟩)
  | 'u' :: r => .error (.at .unicodeEscape (r.length + 1))
  | c :: r =>
    match simpleEscape? c with
    | none => .error (.at .escape (r.length + 2))
    | some c' => .ok (c', ⟨r, by simp⟩)

/-- The characters of a string up to its closing quote, and what follows the quote. `opening` is
how much of the text was left at the opening quote; `seen` is the string so far, last character
first. -/
def readString (opening : Nat) (seen : Text) (s : Text) : Except Stop (Text × Rest s) :=
  match s with
  | [] => .error (.at .unterminatedString opening)
  | '\x22' :: r => .ok (seen.reverse, ⟨r, by simp⟩)
  | '\\' :: r => do
    let (c, rest) ← readEscape opening r
    have := rest.2
    let (t, rest') ← readString opening (c :: seen) rest.1
    return (t, ⟨rest'.1, by have := rest'.2; simp; omega⟩)
  | c :: r => do
    if c.toNat < 0x20 then throw (.at .controlCharacter (r.length + 1))
    let (t, rest) ← readString opening (c :: seen) r
    return (t, ⟨rest.1, by have := rest.2; simp; omega⟩)
termination_by s.length
decreasing_by
  · simp; omega
  · simp

/-! ## Numbers -/

/-- The parts of a number: the digits before the point, the fraction and the exponent as far as
they are there, and what follows. -/
structure NumberParts where
  negative : Bool
  whole : Text
  fraction : Option Text
  exponent : Option Int
  rest : Text

/-- The exponent of a number: the letter, a sign and digits, all or nothing. -/
def exponentPart (s : Text) : Option Int × Text :=
  match s with
  | c :: r =>
    if c == 'e' || c == 'E' then
      let (negative, r') := match r with
        | '-' :: r' => (true, r')
        | '+' :: r' => (false, r')
        | r' => (false, r')
      let digits := r'.takeWhile Char.isDigit
      if digits.isEmpty then (none, s)
      else
        let size : Nat := digits.foldl (fun n d => n * 10 + (d.toNat - 48)) 0
        (some (if negative then -size else size), r'.dropWhile Char.isDigit)
    else (none, s)
  | [] => (none, s)

/-- The fraction of a number: the point and digits, all or nothing. -/
def fractionPart (s : Text) : Option Text × Text :=
  match s with
  | '.' :: r =>
    let digits := r.takeWhile Char.isDigit
    if digits.isEmpty then (none, s) else (some digits, r.dropWhile Char.isDigit)
  | _ => (none, s)

/-- The longest number that begins the text. -/
def numberParts? (s : Text) : Option NumberParts :=
  let (negative, r) := match s with
    | '-' :: r => (true, r)
    | r => (false, r)
  let whole := match r with
    | '0' :: _ => ['0']
    | _ => r.takeWhile Char.isDigit
  if whole.isEmpty then none
  else
    let (fraction, r₁) := fractionPart (r.drop whole.length)
    let (exponent, r₂) := exponentPart r₁
    some ⟨negative, whole, fraction, exponent, r₂⟩

/-- The number that a run of digits writes. -/
def digitsValue (digits : Text) : Nat := digits.foldl (fun n d => n * 10 + (d.toNat - 48)) 0

/-- The value of a number: an integer unless it has a fraction or an exponent. -/
def NumberParts.value (p : NumberParts) : Except Stop Json :=
  match p.fraction, p.exponent with
  | none, none =>
    if Text.digitLimit < p.whole.length then .error (.tooLong p.whole.length)
    else
      let size : Int := digitsValue p.whole
      .ok (.int (if p.negative then -size else size))
  | fraction, exponent =>
    let places := fraction.getD []
    .ok (.double (Double.ofDecimal p.negative (digitsValue (p.whole ++ places))
      (exponent.getD 0 - places.length)))

/-! ## Values -/

/-- The words that stand for a value. -/
def wordValues : List (Text × Json) := [
  ("null", .null), ("true", .bool true), ("false", .bool false), ("NaN", .double .nan),
  ("Infinity", .double (.infinite false)), ("-Infinity", .double (.infinite true))]

/-- A value without parts that begins the text: a word or a number. -/
def readAtom (s : Text) : Except Stop (Json × Rest s) :=
  let stop : Except Stop (Json × Rest s) := .error (.at .value s.length)
  let shorter (value : Json) (rest : Text) : Except Stop (Json × Rest s) :=
    if h : rest.length < s.length then .ok (value, ⟨rest, h⟩) else stop
  match wordValues.findSome? fun (word, value) => (Text.after? word s).map (value, ·) with
  | some (value, rest) => shorter value rest
  | none =>
    match numberParts? s with
    | none => stop
    | some p => do shorter (← p.value) p.rest

mutual

/-- The value that begins the text, in which `depth` lists and objects may be nested. -/
def readValue (depth : Nat) (s : Text) : Except Stop (Json × Rest s) :=
  match s with
  | '\x22' :: r => do
    let (t, rest) ← readString (r.length + 1) [] r
    return (.text t, ⟨rest.1, by have := rest.2; simp; omega⟩)
  | '[' :: r =>
    match depth with
    | 0 => .error (.tooDeep .list)
    | depth + 1 =>
      have := length_skipSpace_le r
      match h : skipSpace r with
      | ']' :: r' => .ok (.list [], ⟨r', by simp [h] at this ⊢; omega⟩)
      | _ => do
        let (items, rest) ← readItems depth r
        return (.list items, ⟨rest.1, by have := rest.2; simp; omega⟩)
  | '\x7b' :: r =>
    match depth with
    | 0 => .error (.tooDeep .object)
    | depth + 1 =>
      have := length_skipSpace_le r
      match h : skipSpace r with
      | '\x7d' :: r' => .ok (.object [], ⟨r', by simp [h] at this ⊢; omega⟩)
      | _ => do
        let (members, rest) ← readMembers depth [] r
        return (.object members, ⟨rest.1, by have := rest.2; simp; omega⟩)
  | s => readAtom s
termination_by 2 * s.length

/-- The items of a list from the next one on, up to the closing bracket. -/
def readItems (depth : Nat) (s : Text) : Except Stop (List Json × Rest s) := do
  have := length_skipSpace_le s
  let (item, rest) ← readValue depth (skipSpace s)
  have := rest.2
  have := length_skipSpace_le rest.1
  match h : skipSpace rest.1 with
  | ']' :: r => return ([item], ⟨r, by simp [h] at *; omega⟩)
  | ',' :: r =>
    have : r.length < s.length := by simp [h] at *; omega
    let (items, rest') ← readItems depth r
    return (item :: items, ⟨rest'.1, by have := rest'.2; omega⟩)
  | r => .error (.at .comma r.length)
termination_by 2 * s.length + 1

/-- The members of an object from the next one on, up to the closing brace, set in `seen`. -/
def readMembers (depth : Nat) (seen : List (Text × Json)) (s : Text) :
    Except Stop (List (Text × Json) × Rest s) := do
  have := length_skipSpace_le s
  match h : skipSpace s with
  | '\x22' :: r =>
    let (key, afterKey) ← readString (r.length + 1) [] r
    have := afterKey.2
    have := length_skipSpace_le afterKey.1
    match h₁ : skipSpace afterKey.1 with
    | ':' :: r₁ =>
      have := length_skipSpace_le r₁
      have : r₁.length < s.length := by simp [h, h₁] at *; omega
      let (value, afterValue) ← readValue depth (skipSpace r₁)
      have := afterValue.2
      have := length_skipSpace_le afterValue.1
      match h₂ : skipSpace afterValue.1 with
      | '\x7d' :: r₂ => return (setMember seen key value, ⟨r₂, by simp [h, h₁, h₂] at *; omega⟩)
      | ',' :: r₂ =>
        have : r₂.length < s.length := by simp [h₂] at *; omega
        let (members, rest) ← readMembers depth (setMember seen key value) r₂
        return (members, ⟨rest.1, by have := rest.2; omega⟩)
      | r₂ => .error (.at .comma r₂.length)
    | r₁ => .error (.at .colon r₁.length)
  | r => .error (.at .propertyName r.length)
termination_by 2 * s.length + 1

end

/-! ## Whole texts -/

/-- The line and column of an offset, both counted from one. -/
def lineColumn (s : Text) (offset : Nat) : Nat × Nat :=
  let before := s.take offset
  (before.count '\n' + 1, (Text.takeRightWhile (· != '\n') before).length + 1)

/-- The failure that a stop amounts to in the whole text. -/
def Stop.inText (s : Text) : Stop → ReadFailure
  | .at cause left =>
    let offset := s.length - left
    let (line, column) := lineColumn s offset
    .at cause line column offset
  | .tooLong digits => .tooLong digits
  | .tooDeep innermost => .tooDeep innermost

/-- The value that the whole text writes. -/
def read (s : Text) : Except ReadFailure Json :=
  if s.head? == some '\ufeff' then .error (Stop.inText s (.at .byteOrderMark s.length))
  else
    match readValue nestingLimit (skipSpace s) with
    | .error stop => .error (stop.inText s)
    | .ok (value, rest) =>
      match skipSpace rest.1 with
      | [] => .ok value
      | r => .error (Stop.inText s (.at .extraData r.length))

/-- The message of a failure. -/
def ReadFailure.message : ReadFailure → Text
  | .at cause line column offset =>
    cause.message ++ ": line " ++ Text.ofNat line ++ " column " ++ Text.ofNat column ++
      " (char " ++ Text.ofNat offset ++ ")"
  | .tooLong digits =>
    "Exceeds the limit (" ++ Text.ofNat Text.digitLimit ++
      " digits) for integer string conversion: value has " ++ Text.ofNat digits ++
      " digits; use sys.set_int_max_str_digits() to increase the limit"
  | .tooDeep innermost =>
    "maximum recursion depth exceeded while decoding a JSON " ++ innermost.word ++
      " from a unicode string"

end ReplDriver.Json
