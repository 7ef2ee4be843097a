/-!
# Text

All text is a list of code points, so that every offset and length counts code points. The code
points are those of characters: a surrogate that stands alone, as an escape in a JSON string may
write it, is not among them, and U+FFFD is read in its place. This module holds the character
classes that need no table, and the cutting and joining that every other module uses.

* `splitOn_ne_nil`: cutting at a separator always gives at least one piece.
* `join_splitOn`: joining the pieces with the separator gives the text back.
* `after?_eq_some`: a text begins with another exactly when it is that one followed by a rest.
-/

namespace ReplDriver

/-- A text is the list of its code points. -/
abbrev Text := List Char

instance : Coe String Text := ⟨String.toList⟩

namespace Text

/-! ## Character classes -/

/-- Blank characters are those with the Unicode property White_Space and the four separators
U+001C to U+001F. -/
def isBlank (c : Char) : Bool :=
  let n := c.toNat
  (0x09 ≤ n && n ≤ 0x0d) || (0x1c ≤ n && n ≤ 0x20) || n == 0x85 || n == 0xa0 || n == 0x1680 ||
    (0x2000 ≤ n && n ≤ 0x200a) || n == 0x2028 || n == 0x2029 || n == 0x202f || n == 0x205f ||
    n == 0x3000

/-- Identifiers of the scanned language are taken to be ASCII. -/
def isIdentChar (c : Char) : Bool := c.isAlphanum || c == '_' || c == '$'

/-- An identifier does not begin with a digit. -/
def isIdentStart (c : Char) : Bool := c.isAlpha || c == '_' || c == '$'

/-- Spaces and tabs, the blanks that stay on a line. -/
def isIndent (c : Char) : Bool := c == ' ' || c == '\t'

/-- The three characters that delimit a quoted string in the scanned language. -/
def isQuote (c : Char) : Bool := c == '\x27' || c == '\x22' || c == '\x60'

/-- A whole identifier: an identifier start and then identifier characters only. -/
def isIdent : Text → Bool
  | [] => false
  | c :: r => isIdentStart c && r.all isIdentChar

/-! ## Trimming -/

/-- The text without its leading blanks. -/
def trimLeft (s : Text) : Text := s.dropWhile isBlank

/-- The text without the trailing characters of a class. -/
def dropRightWhile (p : Char → Bool) (s : Text) : Text := (s.reverse.dropWhile p).reverse

/-- The longest run of characters of a class that ends the text. -/
def takeRightWhile (p : Char → Bool) (s : Text) : Text := (s.reverse.takeWhile p).reverse

/-- The text without its trailing blanks. -/
def trimRight (s : Text) : Text := dropRightWhile isBlank s

/-- The text without leading and trailing blanks. -/
def trim (s : Text) : Text := trimRight (trimLeft s)

/-- The text without the leading and trailing characters of a class. -/
def trimWhile (p : Char → Bool) (s : Text) : Text := dropRightWhile p (s.dropWhile p)

/-- A text counts as blank when nothing is left of it after trimming. -/
def isBlankText (s : Text) : Bool := s.all isBlank

theorem dropRightWhile_append_takeRightWhile (p : Char → Bool) (s : Text) :
    dropRightWhile p s ++ takeRightWhile p s = s := by
  rw [dropRightWhile, takeRightWhile, ← List.reverse_append, List.takeWhile_append_dropWhile,
    List.reverse_reverse]

/-! ## Cutting and joining -/

/-- The pieces between the separators, at least one. -/
def splitOn (sep : Char) : Text → List Text
  | [] => [[]]
  | c :: r =>
    match splitOn sep r with
    | [] => [[]]
    | piece :: rest => if c == sep then [] :: piece :: rest else (c :: piece) :: rest

/-- The pieces written one after another with a separator between each two. -/
def join (sep : Text) (parts : List Text) : Text := List.intercalate sep parts

/-- The maximal runs of characters that are not blank, from left to right. -/
def words (s : Text) : List Text := go [] s
where
  /-- `word` is the run read so far, last character first. -/
  go (word : Text) : Text → List Text
    | [] => if word.isEmpty then [] else [word.reverse]
    | c :: r =>
      if isBlank c then (if word.isEmpty then go [] r else word.reverse :: go [] r)
      else go (c :: word) r

/-- The rest of a text after a given beginning, if it begins so. -/
def after? : Text → Text → Option Text
  | [], s => some s
  | _ :: _, [] => none
  | a :: p, c :: s => if a == c then after? p s else none

/-- Whether a text begins with another. -/
def startsWith (s beginning : Text) : Bool := (after? beginning s).isSome

/-- Whether a text stands somewhere in another. -/
def includes (part : Text) : Text → Bool
  | [] => part.isEmpty
  | c :: r => startsWith (c :: r) part || includes part r

/-- Every occurrence of a character is left out. -/
def without (c : Char) (s : Text) : Text := s.filter (· != c)

theorem splitOn_ne_nil (sep : Char) (s : Text) : splitOn sep s ≠ [] := by
  cases s with
  | nil => simp [splitOn]
  | cons c r =>
    rw [splitOn]
    split
    · simp
    · split <;> simp

/-- Joining the pieces gives the text back. -/
theorem join_splitOn (sep : Char) (s : Text) : join [sep] (splitOn sep s) = s := by
  induction s with
  | nil => simp [splitOn, join]
  | cons c r ih =>
    rw [splitOn]
    split
    · next h => exact absurd h (splitOn_ne_nil sep r)
    · next piece rest h =>
      rw [h] at ih
      by_cases hc : c = sep
      · subst hc
        simp only [beq_self_eq_true, if_true]
        rw [← ih]
        simp [join]
      · simp only [beq_iff_eq, hc, if_false]
        rw [← ih]
        cases rest <;> simp [join]

theorem after?_eq_some {p s r : Text} : after? p s = some r ↔ s = p ++ r := by
  induction p generalizing s with
  | nil => simp [after?, eq_comm]
  | cons a p ih =>
    cases s with
    | nil => simp [after?]
    | cons c s =>
      by_cases h : a = c
      · subst h; simp [after?, ih]
      · simp [after?, h, Ne.symm h]

/-! ## Offsets -/

/-- A slice offset: a negative one counts from the end, and one beyond an end stands for that
end. -/
def clampOffset (length : Nat) (i : Int) : Nat :=
  min length (if i < 0 then (length + i).toNat else i.toNat)

/-- The text between two slice offsets, empty when they are the wrong way round. -/
def slice (s : Text) (start stop : Int) : Text :=
  let a := clampOffset s.length start
  let b := clampOffset s.length stop
  (s.take b).drop a

/-- The text before a slice offset. -/
def upTo (s : Text) (stop : Int) : Text := s.take (clampOffset s.length stop)

theorem clampOffset_of_le {length i : Nat} (h : i ≤ length) : clampOffset length i = i := by
  have hnonneg : ¬ (i : Int) < 0 := by omega
  rw [clampOffset, if_neg hnonneg, Int.toNat_natCast, Nat.min_eq_right h]

/-- The text between two offsets in it. -/
theorem slice_eq {s : Text} {a b : Nat} (ha : a ≤ s.length) (hb : b ≤ s.length) :
    s.slice a b = (s.take b).drop a := by
  rw [slice, clampOffset_of_le ha, clampOffset_of_le hb]

theorem upTo_eq {s : Text} {stop : Nat} (h : stop ≤ s.length) : s.upTo stop = s.take stop := by
  rw [upTo, clampOffset_of_le h]

/-! ## Decimal text of integers -/

/-- The decimal digits of a natural number. -/
def ofNat (n : Nat) : Text := Nat.toDigits 10 n

/-- The decimal digits of an integer, after a minus sign if it is negative. -/
def ofInt : Int → Text
  | .ofNat n => ofNat n
  | .negSucc n => '-' :: ofNat (n + 1)

end Text

end ReplDriver
