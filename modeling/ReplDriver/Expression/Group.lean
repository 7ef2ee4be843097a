import ReplDriver.Text.Basic

/-!
# Quoted strings and bracket groups, read backwards

The scanner looks from the cursor to the left. What stands before a place is given reversed, the
nearest character first, so that a place is the text `before` it and moving left is taking the
tail. Quoted strings are opaque: no bracket inside one counts.

* `openString_length`, `openGroup_length`: what stands before an opening quote or bracket is
  shorter than what stood before its closing partner.
-/

namespace ReplDriver.Expression

open Text (isQuote)

/-- Whether a character is escaped: an odd run of backslashes stands directly before it. -/
def isEscaped (before : Text) : Bool := (before.takeWhile (· == '\\')).length % 2 == 1

/-- What stands before the quote that opens a string, given what stands before its closing
quote. -/
def openString (quote : Char) : Text → Option Text
  | [] => none
  | c :: before => if c == quote && !isEscaped before then some before else openString quote before

/-- The opening bracket that a closing one asks for. -/
def opener? (c : Char) : Option Char :=
  if c == ')' then some '('
  else if c == ']' then some '['
  else if c == '}' then some '{'
  else none

/-- Whether the character opens a group. -/
def isOpener (c : Char) : Bool := c == '(' || c == '[' || c == '{'

/-- The bracket that opens a group and what stands before it. `awaited` holds the opening brackets
that are still to come, the nearest first; `quote` is the quote of the string that is being passed
over, if any. -/
def openGroup (awaited : List Char) (quote : Option Char) : Text → Option (Char × Text)
  | [] => none
  | c :: before =>
    match quote with
    | some q =>
      openGroup awaited (if c == q && !isEscaped before then none else some q) before
    | none =>
      if isQuote c && !isEscaped before then openGroup awaited (some c) before
      else
        match opener? c with
        | some o => openGroup (o :: awaited) none before
        | none =>
          if isOpener c then
            match awaited with
            | [] => none
            | [o] => if o == c then some (c, before) else none
            | o :: rest => if o == c then openGroup rest none before else none
          else openGroup awaited none before

theorem openString_length {q : Char} {s r : Text} (h : openString q s = some r) :
    r.length < s.length := by
  induction s with
  | nil => simp [openString] at h
  | cons c before ih =>
    rw [openString] at h
    split at h
    · cases h; simp
    · exact Nat.lt_succ_of_lt (ih h)

theorem openGroup_length {awaited : List Char} {quote : Option Char} {s r : Text} {c : Char}
    (h : openGroup awaited quote s = some (c, r)) : r.length < s.length := by
  induction s generalizing awaited quote with
  | nil => simp [openGroup] at h
  | cons d before ih =>
    unfold openGroup at h
    repeat' split at h
    all_goals first
      | exact Nat.lt_succ_of_lt (ih h)
      | (cases h; done)
      | (simp only [Option.some.injEq, Prod.mk.injEq] at h; rw [← h.2]; simp)

theorem openGroup_inString (awaited : List Char) (q c : Char) (before : Text) :
    openGroup awaited (some q) (c :: before) =
      openGroup awaited (if c == q && !isEscaped before then none else some q) before := rfl

/-- A string is passed over as a whole: the scan goes on before its opening quote. -/
theorem openGroup_string (awaited : List Char) (q : Char) (s : Text) :
    openGroup awaited (some q) s = (openString q s).bind fun r => openGroup awaited none r := by
  induction s with
  | nil => simp [openGroup, openString]
  | cons c before ih =>
    rw [openGroup_inString, openString]
    by_cases h : (c == q && !isEscaped before) = true
    · simp [h]
    · simp [h, ih]

end ReplDriver.Expression
