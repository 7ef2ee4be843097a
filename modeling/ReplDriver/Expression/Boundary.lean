import ReplDriver.Expression.Group
import ReplDriver.Failure

/-!
# The expression before the cursor

A backward lexical scan finds where the expression that ends at the cursor begins. No parser is
involved. Read from the cursor to the left, the recognised texts are

* a chain of operands joined by `.` or `?.`, calls and indexings, an operand being a bracket group,
  a quoted string or a run of identifier characters;
* an arrow function with a block body, which begins at its parameters;
* before either, the words `function` and `async`, and then prefix operators.

A bracket group directly after an operand is a call or an indexing of it; after a statement word or
a separator the group begins the expression.

* `Operand.of_length`, `Operand.extend_length`: every step to the left leaves less text to scan.
-/

namespace ReplDriver.Expression

open Text (isBlank isQuote isIdentChar)

/-- Words that begin a statement or an operand: a group after one of them is not a call. -/
def statementWords : List Text :=
  ["await", "case", "catch", "const", "default", "delete", "do", "else", "export", "extends",
   "for", "if", "in", "instanceof", "let", "new", "of", "return", "switch", "throw", "typeof",
   "var", "void", "while", "with", "yield"].map String.toList

/-- The prefix operators that are words. -/
def unaryWords : List Text := ["void", "typeof", "delete"].map String.toList

/-- What separates two statements. -/
def isSeparator (c : Char) : Bool := c == ';'

/-- What is left of the text before a place when its trailing blanks are passed. -/
def skipBlanks (before : Text) : Text := before.dropWhile isBlank

/-- The identifier run that ends at a place, empty if there is none, and what stands before it. -/
def wordBefore (before : Text) : Text × Text :=
  ((before.takeWhile isIdentChar).reverse, before.dropWhile isIdentChar)

/-- A stretch of text that ends at a known place: its first character, and what stands before
it. -/
structure Operand where
  first : Char
  before : Text
deriving DecidableEq, Repr

namespace Operand

/-- The operand that ends at a place: a group, a string or an identifier run. -/
def of : Text → Option Operand
  | [] => none
  | c :: r =>
    if (opener? c).isSome then
      (openGroup [] none (c :: r)).map fun (o, before) => ⟨o, before⟩
    else if isQuote c then (openString c r).map fun before => ⟨c, before⟩
    else if isIdentChar c then
      some ⟨((c :: r).takeWhile isIdentChar).getLastD c, r.dropWhile isIdentChar⟩
    else none

/-- The place before the word `async`, if that word stands before the operand. -/
def withAsync (o : Operand) : Operand :=
  match wordBefore (skipBlanks o.before) with
  | (word, before) => if word == "async" then ⟨'a', before⟩ else o

/-- The arrow function with a block body that ends at a place. -/
def arrowFunction (s : Text) : Option Operand :=
  match s with
  | '}' :: _ => do
    let (_, before) ← openGroup [] none s
    match skipBlanks before with
    | '>' :: '=' :: parameters => (of (skipBlanks parameters)).map withAsync
    | _ => none
  | _ => none

/-! ## Chains -/

/-- How the scan goes on to the left of an operand: not at all, to a last place, or to an operand
before which it may go on. -/
inductive Step where
  | stay
  | last (o : Operand)
  | on (o : Operand)

/-- Going on to the operand that ends at a place, if there is one. -/
def Step.ofOperand? : Option Operand → Step
  | some o => .on o
  | none => .stay

/-- One step to the left along a chain: over the word `function`, over a dot to the operand whose
member this is, or from a call or an indexing to what is called or indexed. -/
def chainStep (o : Operand) : Step :=
  let s := skipBlanks o.before
  let (word, beforeWord) := wordBefore s
  match s with
  | [] => .stay
  | c :: r =>
    if word == "function" then .last (withAsync ⟨'f', beforeWord⟩)
    else if c == '.' then
      match r with
      | '?' :: r' => .ofOperand? (of (skipBlanks r'))
      | '.' :: _ => .stay
      | _ => .ofOperand? (of (skipBlanks r))
    else if !isOpener o.first || isSeparator c then .stay
    else if !word.isEmpty then
      if statementWords.contains word || o.first == '{' then .stay
      else .on ⟨word.headD c, beforeWord⟩
    else if c == ')' || ((c == ']' || isQuote c) && o.first != '{') then .ofOperand? (of s)
    else .stay

/-- The group or string that an operand closes leaves less text before it. -/
theorem of_length {s : Text} {o : Operand} (h : of s = some o) : o.before.length < s.length := by
  unfold of at h
  split at h
  · cases h
  · next c r =>
    split at h
    · obtain ⟨⟨c', before⟩, hg, rfl⟩ := Option.map_eq_some_iff.1 h
      exact openGroup_length hg
    · split at h
      · obtain ⟨before, hs, rfl⟩ := Option.map_eq_some_iff.1 h
        exact Nat.lt_succ_of_lt (openString_length hs)
      · split at h
        · cases h
          exact Nat.lt_succ_of_le ((List.dropWhile_sublist _).length_le)
        · cases h

theorem skipBlanks_length (s : Text) : (skipBlanks s).length ≤ s.length :=
  (List.dropWhile_sublist _).length_le

/-- A word that is not empty leaves less text before it. -/
theorem wordBefore_length {s : Text} (h : (wordBefore s).1 ≠ []) :
    (wordBefore s).2.length < s.length := by
  cases s with
  | nil => simp [wordBefore] at h
  | cons c r =>
    by_cases hc : isIdentChar c = true
    · simp only [wordBefore, List.dropWhile_cons, hc, if_true, List.length_cons]
      exact Nat.lt_succ_of_le ((List.dropWhile_sublist _).length_le)
    · simp [wordBefore, hc] at h

/-- A step to the left leaves less text to scan. -/
theorem chainStep_length {o o' : Operand} (h : chainStep o = .on o') :
    o'.before.length < o.before.length := by
  have hs := skipBlanks_length o.before
  have operand {t : Text} (ht : t.length ≤ (skipBlanks o.before).length)
      (h : Step.ofOperand? (of t) = .on o') : o'.before.length < o.before.length := by
    unfold Step.ofOperand? at h
    split at h
    · next hof => cases h; have := of_length hof; omega
    · cases h
  unfold chainStep at h
  simp only at h
  split at h
  · cases h
  · next c r hcr =>
    rw [hcr] at operand hs h
    simp only [List.length_cons] at operand hs
    split at h
    · cases h
    split at h
    · split at h
      · next r' _ =>
        have := skipBlanks_length r'
        exact operand (by simp only [List.length_cons]; omega) h
      · cases h
      · have := skipBlanks_length r
        exact operand (by omega) h
    split at h
    · cases h
    split at h
    · next hword =>
      split at h
      · cases h
      · cases h
        have := wordBefore_length (s := c :: r) (by simpa using hword)
        simp only [List.length_cons] at this
        show (wordBefore (c :: r)).2.length < _
        omega
    split at h
    · exact operand (by simp) h
    · cases h

/-- The leftmost operand of the chain that an operand belongs to. -/
def extend (o : Operand) : Operand :=
  match _h : chainStep o with
  | .stay => o
  | .last o' => o'
  | .on o' => extend o'
termination_by o.before.length
decreasing_by exact chainStep_length _h

end Operand

/-! ## Prefix operators -/

/-- Whether a value may end with the character, so that a sign after it is no prefix operator. -/
def endsValue (c : Char) : Bool := c == ')' || c == ']' || c == '}' || isQuote c

/-- Whether a sign after this text joins two values. -/
def isBinaryAfter (before : Text) : Bool :=
  let s := skipBlanks before
  let word := (wordBefore s).1
  (!word.isEmpty && !statementWords.contains word) || s.head?.any endsValue

/-- What stands before the prefix operator that ends the text, if one does. -/
def unaryStep (before : Text) : Option Text :=
  match skipBlanks before with
  | [] => none
  | c :: r =>
    let (word, beforeWord) := wordBefore (c :: r)
    if !word.isEmpty then (if unaryWords.contains word then some beforeWord else none)
    else if c == '!' then some r
    else if (c == '+' || c == '-') && !isBinaryAfter r then some r
    else none

theorem unaryStep_length {s r : Text} (h : unaryStep s = some r) : r.length < s.length := by
  have hs := Operand.skipBlanks_length s
  unfold unaryStep at h
  split at h
  · cases h
  · next c t hct =>
    rw [hct] at hs
    simp only [List.length_cons] at hs
    simp only at h
    split at h
    · next hword =>
      split at h
      · cases h
        have := Operand.wordBefore_length (s := c :: t) (by simpa using hword)
        simp only [List.length_cons] at this
        omega
      · cases h
    split at h
    · cases h; omega
    split at h
    · cases h; omega
    · cases h

/-- What stands before all the prefix operators that end the text. -/
def skipUnary (before : Text) : Text :=
  match _h : unaryStep before with
  | some r => skipUnary r
  | none => before
termination_by before.length
decreasing_by exact unaryStep_length _h

/-! ## The boundary -/

/-- What stands before the cursor, reversed, without blanks and one separator at its end. -/
def beforeCursor (text : Text) (point : Nat) : Text :=
  let s := skipBlanks (text.take point).reverse
  match s with
  | c :: r => if isSeparator c then skipBlanks r else s
  | [] => []

/-- What stands before the expression that ends at a place, if one does. -/
def beforeExpression (before : Text) : Option Text :=
  (Operand.arrowFunction before <|> Operand.of before).map fun o => skipUnary o.extend.before

/-- The offset at which the expression before the cursor begins. -/
def boundary (text : Text) (point : Int) : Except Failure Nat :=
  if point < 0 || text.length < point then .error (.pointOutside point text.length)
  else
    match beforeExpression (beforeCursor text point.toNat) with
    | some before => .ok before.length
    | none => .error (.noExpression point)

/-- The offset and the text of the expression before the cursor. -/
def last (text : Text) (point : Int) : Except Failure (Nat × Text) := do
  let start ← boundary text point
  return (start, text.slice start point)

end ReplDriver.Expression
