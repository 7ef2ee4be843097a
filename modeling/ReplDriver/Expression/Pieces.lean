import ReplDriver.Expression.Boundary

/-!
# Expressions in texts that come in pieces

A request may give its text as a list of values. The scan then looks at a value where it would look
at a character. A value that is a text of any length stands for one place: it is blank if it is all
blanks, an identifier if it is made of identifier letters, and it counts as one of several
characters if it is a stretch of them, be it empty. A value that is no text ends the scan with a
failure.

No word is ever spelled by pieces, so that there are no arrow functions here, and a scan that has to
know which word it met fails.

What stands before a place is given reversed, the nearest piece first. Every step returns what is
left together with the fact that it is not more than there was, which is why the scan ends.
-/

namespace ReplDriver.Expression.Pieces

/-- Pieces that are no more than given ones. -/
abbrev UpTo (s : List Json) := { r : List Json // r.length ≤ s.length }

/-- Pieces that are fewer than given ones. -/
abbrev Before (s : List Json) := { r : List Json // r.length < s.length }

/-! ## One piece -/

/-- Whether a piece is a stretch of some characters. -/
def isAmong (chars : Text) : Json → Except Failure Bool
  | .text s => .ok (Text.includes s chars)
  | p => .error (.wrongType (.notPartOfText p.kindName))

/-- Whether a piece is blank. -/
def isBlank : Json → Except Failure Bool
  | .text s => .ok (!s.isEmpty && Text.isBlankText s)
  | p => .error (.noSuchMember p.kindName "isspace")

/-- Whether a piece is an identifier: letters and digits only, or signs that identifiers hold. -/
def isIdent : Json → Except Failure Bool
  | .text s => .ok ((!s.isEmpty && s.all Char.isAlphanum) || Text.includes s "_$")
  | p => .error (.noSuchMember p.kindName "isascii")

/-- Whether a piece is a text. -/
def isText (s : Text) : Json → Bool
  | .text t => t == s
  | _ => false

/-- The quotes. -/
def quotes : Text := "'\x22\x60"

/-- The opening brackets. -/
def openers : Text := "([\x7b"

/-- What may end a value that is called or indexed, besides a closing parenthesis. -/
def valueEnds : Text := "]'\x22\x60"

/-- What may end a value, so that a sign after it is no prefix operator. -/
def operandEnds : Text := ")]\x7d'\x22\x60"

/-! ## Groups of pieces -/

/-- What is left when trailing blank pieces are passed. -/
def skipBlanks : (s : List Json) → Except Failure (UpTo s)
  | [] => .ok ⟨[], Nat.le_refl _⟩
  | p :: before => do
    if ← isBlank p then
      let r ← skipBlanks before
      return ⟨r.1, Nat.le_succ_of_le r.2⟩
    else return ⟨p :: before, Nat.le_refl _⟩

/-- What is left when the identifiers that end the pieces are passed. -/
def skipWord : (s : List Json) → Except Failure (UpTo s)
  | [] => .ok ⟨[], Nat.le_refl _⟩
  | p :: before => do
    if ← isIdent p then
      let r ← skipWord before
      return ⟨r.1, Nat.le_succ_of_le r.2⟩
    else return ⟨p :: before, Nat.le_refl _⟩

/-- Fails where a word ends the pieces: it is a list, which no table of words holds. -/
def refuseWord (s : List Json) : Except Failure Unit := do
  let r ← skipWord s
  if r.1.length < s.length then throw (.wrongType (.noKey "list"))

/-- Whether an odd number of backslashes stands before a piece. -/
def isEscaped (before : List Json) : Bool := (before.takeWhile (isText ['\\'])).length % 2 == 1

/-- What stands before the piece that opens a string, which equals the closing one. -/
def openString (quote : Text) : (s : List Json) → Option (Before s)
  | [] => none
  | p :: before =>
    if isText quote p && !isEscaped before then some ⟨before, Nat.lt_succ_self _⟩
    else (openString quote before).map fun r => ⟨r.1, Nat.lt_succ_of_lt r.2⟩

/-- The bracket that a piece closes. -/
def closes? : Json → Option Text
  | .text [c] => (opener? c).map fun o => [o]
  | _ => none

/-- The piece that opens a group and what stands before it. `awaited` holds the opening brackets
that are still to come, the nearest first; `quote` opens the string that is being passed over, if
any. -/
def openGroup (awaited : List Text) (quote : Option Text) :
    (s : List Json) → Except Failure (Option (Text × Before s))
  | [] => .ok none
  | p :: before => do
    let further (awaited : List Text) (quote : Option Text) :
        Except Failure (Option (Text × Before (p :: before))) := do
      let found ← openGroup awaited quote before
      return found.map fun (o, r) => (o, ⟨r.1, Nat.lt_succ_of_lt r.2⟩)
    match quote with
    | some q => further awaited (if isText q p && !isEscaped before then none else some q)
    | none =>
      if (← isAmong quotes p) && !isEscaped before then
        match p with
        | .text q => further awaited (some q)
        | _ => return none
      else
        match closes? p with
        | some o => further (o :: awaited) none
        | none =>
          if ← isAmong openers p then
            match awaited with
            | [] => return none
            | [o] => return if isText o p then some (o, ⟨before, Nat.lt_succ_self _⟩) else none
            | o :: rest => if isText o p then further rest none else return none
          else further awaited none

/-! ## Chains -/

/-- A run of pieces that ends at a known place: its first piece, and what stands before it. -/
structure Operand where
  first : Text
  before : List Json

/-- An operand that leaves fewer pieces than given ones. -/
abbrev OperandIn (s : List Json) := { o : Operand // o.before.length < s.length }

/-- The first of the identifiers that end the pieces. -/
def firstOfWord (last : Text) : List Json → Text
  | .text s :: before =>
    match isIdent (.text s) with
    | .ok true => firstOfWord s before
    | _ => last
  | _ => last

/-- The operand that ends at a place: a group, a string or a run of identifiers. -/
def operand? : (s : List Json) → Except Failure (Option (OperandIn s))
  | [] => .ok none
  | p :: r => do
    if (closes? p).isSome then
      let found ← openGroup [] none (p :: r)
      return found.map fun (o, b) => ⟨⟨o, b.1⟩, b.2⟩
    else if ← isAmong quotes p then
      match p with
      | .text q =>
        return (openString q r).map fun b => ⟨⟨q, b.1⟩, Nat.lt_succ_of_lt b.2⟩
      | _ => return none
    else if ← isIdent p then
      let before ← skipWord r
      return some ⟨⟨firstOfWord [] (p :: r), before.1⟩, Nat.lt_succ_of_le before.2⟩
    else return none

/-- The operand before the blanks that end the pieces. -/
def operandBefore? (s : List Json) : Except Failure (Option (OperandIn s)) := do
  let r ← skipBlanks s
  let found ← operand? r.1
  return found.map fun o => ⟨o.1, Nat.lt_of_lt_of_le o.2 r.2⟩

/-- One step to the left along a chain: over a dot to the operand whose member this is, or from a
call or an indexing to what is called or indexed. -/
def chainStep (o : Operand) : Except Failure (Option (OperandIn o.before)) := do
  let s ← skipBlanks o.before
  match s with
  | ⟨[], _⟩ => return none
  | ⟨p :: r, hr⟩ =>
    let _ ← skipWord (p :: r)
    if isText ['.'] p then
      let member (t : List Json) (ht : t.length ≤ r.length) :
          Except Failure (Option (OperandIn o.before)) := do
        let found ← operandBefore? t
        return found.map fun o' =>
          ⟨o'.1, Nat.lt_of_lt_of_le o'.2 (Nat.le_trans ht (Nat.le_of_succ_le hr))⟩
      match r, member with
      | [], _ => return none
      | q :: r', member =>
        if isText ['?'] q then member r' (Nat.le_succ _)
        else if isText ['.'] q then return none
        else member (q :: r') (Nat.le_refl _)
    else if !Text.includes o.first openers || (← isAmong [';'] p) then return none
    else
      refuseWord (p :: r)
      if isText [')'] p || ((← isAmong valueEnds p) && o.first != ['\x7b']) then
        let found ← operand? (p :: r)
        return found.map fun o' => ⟨o'.1, Nat.lt_of_lt_of_le o'.2 hr⟩
      else return none

/-- The leftmost operand of the chain that an operand belongs to. -/
def extend (o : Operand) : Except Failure Operand := do
  match ← chainStep o with
  | none => return o
  | some o' =>
    have := o'.2
    extend o'.1
termination_by o.before.length

/-! ## Prefix operators -/

/-- What stands before the prefix operator that ends the pieces, if one does. -/
def unaryStep (before : List Json) : Except Failure (Option (Before before)) := do
  let s ← skipBlanks before
  match s with
  | ⟨[], _⟩ => return none
  | ⟨p :: r, hr⟩ =>
    refuseWord (p :: r)
    if isText ['!'] p then return some ⟨r, hr⟩
    else if ← isAmong "+-" p then
      let k ← skipBlanks r
      refuseWord k.1
      let joins ← match k.1 with
        | [] => pure false
        | q :: _ => isAmong operandEnds q
      return if joins then none else some ⟨r, hr⟩
    else return none

/-- What stands before all the prefix operators that end the pieces. -/
def skipUnary (before : List Json) : Except Failure (List Json) := do
  match ← unaryStep before with
  | none => return before
  | some r =>
    have := r.2
    skipUnary r.1
termination_by before.length

/-! ## The boundary -/

/-- What stands before the cursor, without blanks and one separator at its end. -/
def beforeCursor (pieces : List Json) (point : Nat) : Except Failure (List Json) := do
  let s ← skipBlanks (pieces.take point).reverse
  match s.1 with
  | p :: r =>
    if ← isAmong [';'] p then
      let r ← skipBlanks r
      return r.1
    else return s.1
  | [] => return []

/-- The place at which the expression before the cursor begins. -/
def boundary (pieces : List Json) (point : Int) : Except Failure Nat := do
  if point < 0 || pieces.length < point then throw (.pointOutside point pieces.length)
  match ← operand? (← beforeCursor pieces point.toNat) with
  | none => throw (.noExpression point)
  | some o => do
    let chain ← extend o.1
    return (← skipUnary chain.before).length

/-- The pieces between two places. -/
def between (pieces : List Json) (start point : Nat) : List Json := (pieces.take point).drop start

end ReplDriver.Expression.Pieces
