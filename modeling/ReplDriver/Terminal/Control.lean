import ReplDriver.Text.Digit

/-!
# Terminal control

The characters that a line editor takes as commands, and the control sequences by which a terminal
moves its cursor, erases and colours. A sequence is the escape character, an opening bracket,
parameters, and one letter.

* `stripControl_eq_self`: a text without escape characters is left as it is.
-/

namespace ReplDriver.Terminal

/-! ## Keys -/

/-- The escape character, with which every control sequence begins. -/
def escape : Char := '\x1b'

/-- Commits the text of a multi-line submission. -/
def endOfTransmission : Char := '\x04'

/-- Aborts the evaluation in flight. -/
def interruptKey : Char := '\x03'

/-- Asks for completions. -/
def tab : Text := "\t"

/-- To the start of the line, and erase to its end. -/
def lineClear : Text := "\x01\x0b"

/-! ## Control sequences -/

/-- Characters between the bracket and the letter of a sequence. -/
def isParameter (c : Char) : Bool := c.isDigit || c == ';' || c == '?'

/-- The text after the control sequence that the text begins with. -/
def sequence? : Text → Option Text
  | '\x1b' :: '[' :: r =>
    match r.dropWhile isParameter with
    | c :: rest => if c.isAlpha then some rest else none
    | [] => none
  | _ => none

theorem sequence?_length {s r : Text} (h : sequence? s = some r) : r.length < s.length := by
  unfold sequence? at h
  split at h
  · next t =>
    have ht : (t.dropWhile isParameter).length ≤ t.length := (List.dropWhile_sublist _).length_le
    split at h
    · next hc =>
      rw [hc] at ht
      split at h
      · cases h
        simp only [List.length_cons] at ht ⊢
        omega
      · cases h
    · cases h
  · cases h

theorem sequence?_cons {c : Char} {r : Text} (h : c ≠ '\x1b') : sequence? (c :: r) = none := by
  unfold sequence?
  split
  · next heq => cases heq; exact absurd rfl h
  · rfl

/-- The text without control sequences. -/
def stripControl (s : Text) : Text :=
  match _h : sequence? s with
  | some rest => stripControl rest
  | none =>
    match s with
    | [] => []
    | c :: r => c :: stripControl r
termination_by s.length
decreasing_by
  · exact sequence?_length _h
  · simp

@[simp] theorem stripControl_nil : stripControl [] = [] := by
  rw [stripControl]
  simp [sequence?]

/-- A character that is not the escape character stays. -/
@[simp] theorem stripControl_cons {c : Char} {r : Text} (h : c ≠ '\x1b') :
    stripControl (c :: r) = c :: stripControl r := by
  rw [stripControl]
  split
  · next h' => rw [sequence?_cons h] at h'; cases h'
  · rfl

theorem stripControl_eq_self {s : Text} (h : '\x1b' ∉ s) : stripControl s = s := by
  induction s with
  | nil => simp
  | cons c r ih =>
    simp only [List.mem_cons, not_or] at h
    rw [stripControl_cons (Ne.symm h.1), ih h.2]

/-! ## Cursor movements -/

/-- The text after a move to a column, if the text begins with one. -/
def columnMove? : Text → Option Text
  | '\x1b' :: '[' :: c :: r =>
    if Text.isDecimal c then
      match r.dropWhile Text.isDecimal with
      | 'G' :: rest => some rest
      | _ => none
    else none
  | _ => none

/-- The text after a move of the cursor upwards, if the text begins with one. -/
def cursorUp? : Text → Option Text
  | '\x1b' :: '[' :: r =>
    match r.dropWhile Text.isDecimal with
    | 'A' :: rest => some rest
    | _ => none
  | _ => none

theorem cursorUp?_length {s r : Text} (h : cursorUp? s = some r) : r.length ≤ s.length := by
  unfold cursorUp? at h
  split at h
  · next t =>
    have ht : (t.dropWhile Text.isDecimal).length ≤ t.length := (List.dropWhile_sublist _).length_le
    split at h
    · next hc =>
      cases h
      rw [hc] at ht
      simp only [List.length_cons] at ht ⊢
      omega
    · cases h
  · cases h

theorem columnMove?_length {s r : Text} (h : columnMove? s = some r) : r.length ≤ s.length := by
  unfold columnMove? at h
  split at h
  · next c t =>
    have ht : (t.dropWhile Text.isDecimal).length ≤ t.length := (List.dropWhile_sublist _).length_le
    split at h
    · split at h
      · next hc =>
        cases h
        rw [hc] at ht
        simp only [List.length_cons] at ht ⊢
        omega
      · cases h
    · cases h
  · cases h

/-- Whether a line ends by moving the cursor up, to the line above. -/
def endsWithCursorUp (line : Text) : Bool :=
  match line.reverse with
  | 'A' :: r =>
    match r.dropWhile Text.isDecimal with
    | '[' :: '\x1b' :: _ => true
    | _ => false
  | _ => false

end ReplDriver.Terminal
