import ReplDriver.Text.Word

/-!
# Import and export statements

The statements are recognised at the start of a line, by their shape alone. Each recogniser takes
the text from there on and returns what it found together with the text after the statement.

* `Statement.import?_length`, `Statement.reexport?_length`, `Statement.exportList?_length`,
  `Statement.exportKeyword?_length`: the text after a statement is shorter.
-/

namespace ReplDriver.Module.Statement

open Text (isBlank isIndent isIdentChar isIdentStart after?)

/-! ## Parts of statements -/

/-- The text after any number of blanks. -/
def blanks (s : Text) : Text := s.dropWhile isBlank

/-- The text after at least one blank. -/
def blanks? (s : Text) : Option Text :=
  match s with
  | c :: r => if isBlank c then some (blanks r) else none
  | [] => none

/-- The text after a word and the blanks that must follow it. -/
def spacedWord? (word s : Text) : Option Text := (after? word s).bind blanks?

/-- Characters of a module path. -/
def isPathChar (c : Char) : Bool := c != '\x27' && c != '\x22' && c != '\n'

/-- A module path between equal quotes, and the text after it. -/
def quotedPath? : Text → Option (Text × Text)
  | [] => none
  | q :: r =>
    let path := r.takeWhile isPathChar
    match r.dropWhile isPathChar with
    | c :: rest =>
      if (q == '\x27' || q == '\x22') && c == q && !path.isEmpty then some (path, rest) else none
    | [] => none

/-- Everything up to the first closing brace, given the text after the opening one: the content
and the text after the closing brace. -/
def braced? (s : Text) : Option (Text × Text) :=
  match s.dropWhile (· != '\x7d') with
  | _ :: rest => some (s.takeWhile (· != '\x7d'), rest)
  | [] => none

/-- Import attributes: `with` or `assert` and an object in braces, which is returned. -/
def attributes? (s : Text) : Option (Text × Text) := do
  let s ← (after? "with" (blanks s)).or (after? "assert" (blanks s))
  match blanks s with
  | '\x7b' :: r => do
    let (content, rest) ← braced? r
    return ("\x7b" ++ content ++ "\x7d", rest)
  | _ => none

/-- The text after spaces and tabs and at most one semicolon. -/
def semicolon (s : Text) : Text :=
  match s.dropWhile isIndent with
  | ';' :: r => r
  | r => r

/-- The text after the rest of a line on which nothing else stands, with its line end. -/
def lineEnd (s : Text) : Text :=
  match s.dropWhile isIndent with
  | '\r' :: '\n' :: r => r
  | '\n' :: r => r
  | r => r

/-! ## Imports -/

/-- The parts of an import statement; an import for its effects alone has an empty clause. -/
structure ImportParts where
  indent : Text
  clause : Text
  path : Text
  attributes : Option Text
deriving DecidableEq, Repr

/-- The text after the word `from`, if a quote follows it. -/
def fromQuote? (s : Text) : Option Text := do
  let r ← after? "from" s
  if (blanks r).head?.any fun c => c == '\x27' || c == '\x22' then some (blanks r) else none

/-- Characters that no import clause holds. -/
def endsClause (c : Char) : Bool := c == ';' || Text.isQuote c

/-- The shortest clause that `from` and a quote follow, and the text from the quote on. `before`
is the character before the clause, if it matters. -/
def clause? (before : Option Char) (s : Text) : Option (Text × Text) :=
  let atStart := s.head?.any isBlank || Text.atWordStart before
  match if atStart then fromQuote? (blanks s) else none with
  | some r => some ([], r)
  | none =>
    match s with
    | [] => none
    | c :: r =>
      if endsClause c then none
      else (clause? (some c) r).map fun (k, rest) => (c :: k, rest)

/-- The text after the word `import` and blanks, unless it is a call or a member access. -/
def importKeyword? (s : Text) : Option Text := do
  let r ← after? "import" s
  if Text.atWordEnd r && !(blanks r).head?.any fun c => c == '(' || c == '.' then some (blanks r)
  else none

/-- The clause of an import with the word `from`, empty where the path follows at once. -/
def importClause? (s : Text) : Option (Text × Text) :=
  if s.head?.any Text.isQuote then some ([], s) else clause? none s

/-- An import statement and the text after it. -/
def import? (s : Text) : Option (ImportParts × Text) := do
  let r ← importKeyword? (s.dropWhile isIndent)
  let (clause, r) ← importClause? r
  let (path, r) ← quotedPath? r
  let found := attributes? r
  return (⟨s.takeWhile isIndent, clause, path, found.map (·.1)⟩,
    semicolon ((found.map (·.2)).getD r))

/-! ## Exports -/

/-- The text after `export`, blanks, and perhaps `type` and blanks. -/
def exportType? (s : Text) : Option Text := do
  let r ← spacedWord? "export" (s.dropWhile isIndent)
  return (spacedWord? "type" r).getD r

/-- The text after `as` and the name that is given, the name not reaching into the word `from`. -/
def asName? (s : Text) : Option Text := do
  let r ← spacedWord? "as" (blanks s)
  match r with
  | [] => none
  | c :: t =>
    if !isIdentStart c then none
    else
      let name := t.takeWhile isIdentChar
      let rest := t.dropWhile isIdentChar
      if (after? "from" (blanks rest)).isSome then some rest
      else (after? "morf" name.reverse).map fun _ => t.drop (name.length - 4)

/-- What is exported from another module, everything or a list in braces, and the text after. -/
def exported? (s : Text) : Option Text :=
  match s with
  | '*' :: r => some ((asName? r).getD r)
  | '\x7b' :: r => (braced? r).map (·.2)
  | _ => none

/-- The text after an export from another module, its line end included. -/
def reexport? (s : Text) : Option Text := do
  let r ← exportType? s
  let r ← exported? r
  let r ← after? "from" (blanks r)
  let (_, r) ← quotedPath? (blanks r)
  return lineEnd (semicolon (((attributes? r).map (·.2)).getD r))

/-- The text after an export list, its line end included. -/
def exportList? (s : Text) : Option Text := do
  match ← exportType? s with
  | '\x7b' :: r => do
    let (_, r) ← braced? r
    return lineEnd (semicolon r)
  | _ => none

/-- Characters that a declaration or an exported expression is known to begin with. -/
def beginsDeclaration (c : Char) : Bool :=
  isIdentStart c || c.isDigit || "([\x7b\x27\x22\x60!-".toList.contains c

/-- The text after `export`, or after `export default`, where something that can stand alone
follows. -/
def exportKeyword? (s : Text) : Option Text := do
  let r ← spacedWord? "export" (s.dropWhile isIndent)
  match spacedWord? "default" r with
  | some t => if t.head?.any beginsDeclaration then some t else some r
  | none => if r.head?.any beginsDeclaration then some r else none

/-! ## The text after a statement is shorter -/

theorem blanks_length (s : Text) : (blanks s).length ≤ s.length :=
  (List.dropWhile_sublist _).length_le

theorem indent_length (s : Text) : (s.dropWhile isIndent).length ≤ s.length :=
  (List.dropWhile_sublist _).length_le

theorem after?_length {w s r : Text} (h : after? w s = some r) :
    r.length + w.length = s.length := by
  rw [Text.after?_eq_some.1 h, List.length_append]
  omega

theorem blanks?_length {s r : Text} (h : blanks? s = some r) : r.length < s.length := by
  unfold blanks? at h
  split at h
  · split at h
    · cases h
      exact Nat.lt_succ_of_le (blanks_length _)
    · cases h
  · cases h

theorem spacedWord?_length {w s r : Text} (h : spacedWord? w s = some r) :
    r.length + w.length < s.length := by
  obtain ⟨t, ht, hr⟩ := Option.bind_eq_some_iff.1 h
  have := after?_length ht
  have := blanks?_length hr
  omega

theorem quotedPath?_length {s p r : Text} (h : quotedPath? s = some (p, r)) :
    r.length < s.length := by
  unfold quotedPath? at h
  split at h
  · cases h
  · next q t =>
    have ht : (t.dropWhile isPathChar).length ≤ t.length := (List.dropWhile_sublist _).length_le
    simp only at h
    split at h
    · next hc =>
      rw [hc] at ht
      split at h
      · cases h
        simp only [List.length_cons] at ht ⊢
        omega
      · cases h
    · cases h

theorem braced?_length {s c r : Text} (h : braced? s = some (c, r)) : r.length < s.length := by
  have hs : (s.dropWhile (· != '\x7d')).length ≤ s.length := (List.dropWhile_sublist _).length_le
  unfold braced? at h
  split at h
  · next hd =>
    cases h
    rw [hd] at hs
    simp only [List.length_cons] at hs
    omega
  · cases h

theorem attributes?_length {s a r : Text} (h : attributes? s = some (a, r)) :
    r.length < s.length := by
  unfold attributes? at h
  obtain ⟨t, ht, h⟩ := Option.bind_eq_some_iff.1 h
  have hs := blanks_length s
  have hlt : t.length ≤ s.length := by
    rcases Option.or_eq_some_iff.1 ht with h1 | ⟨_, h1⟩ <;>
      · have := after?_length h1
        omega
  have htb := blanks_length t
  split at h
  · next u hu =>
    obtain ⟨⟨c, rest⟩, hb, h⟩ := Option.bind_eq_some_iff.1 h
    cases h
    have := braced?_length hb
    rw [hu] at htb
    simp only [List.length_cons] at htb
    omega
  · cases h

theorem semicolon_length (s : Text) : (semicolon s).length ≤ s.length := by
  have hs := indent_length s
  unfold semicolon
  split
  · next h => rw [h] at hs; simp only [List.length_cons] at hs; omega
  · exact hs

theorem lineEnd_length (s : Text) : (lineEnd s).length ≤ s.length := by
  have hs := indent_length s
  unfold lineEnd
  split
  · next h => rw [h] at hs; simp only [List.length_cons] at hs; omega
  · next h => rw [h] at hs; simp only [List.length_cons] at hs; omega
  · exact hs

theorem fromQuote?_length {s r : Text} (h : fromQuote? s = some r) : r.length < s.length := by
  unfold fromQuote? at h
  obtain ⟨t, ht, h⟩ := Option.bind_eq_some_iff.1 h
  have h1 := after?_length ht
  have h2 := blanks_length t
  split at h
  · cases h
    simp at h1
    omega
  · cases h

theorem clause?_length {before : Option Char} {s k r : Text} (h : clause? before s = some (k, r)) :
    r.length < s.length := by
  induction s generalizing before k with
  | nil =>
    unfold clause? at h
    simp only at h
    split at h
    · next hf =>
      split at hf
      · simp [blanks, fromQuote?, after?] at hf
      · cases hf
    · cases h
  | cons c t ih =>
    unfold clause? at h
    simp only at h
    split at h
    · next hf =>
      cases h
      split at hf
      · have := fromQuote?_length hf
        have := blanks_length (c :: t)
        omega
      · cases hf
    · split at h
      · cases h
      · obtain ⟨⟨k', r'⟩, hk, h⟩ := Option.map_eq_some_iff.1 h
        cases h
        exact Nat.lt_succ_of_lt (ih hk)

theorem attributesIfAny_length (s : Text) :
    ((attributes? s).map (·.2) |>.getD s).length ≤ s.length := by
  cases h : attributes? s with
  | none => simp
  | some ar => exact Nat.le_of_lt (attributes?_length (a := ar.1) (r := ar.2) h)

theorem importKeyword?_length {s r : Text} (h : importKeyword? s = some r) :
    r.length < s.length := by
  unfold importKeyword? at h
  obtain ⟨t, ht, h⟩ := Option.bind_eq_some_iff.1 h
  have h1 := after?_length ht
  have h2 := blanks_length t
  split at h
  · cases h
    simp at h1
    omega
  · cases h

theorem importClause?_length {s k r : Text} (h : importClause? s = some (k, r)) :
    r.length ≤ s.length := by
  unfold importClause? at h
  split at h
  · cases h; simp
  · exact Nat.le_of_lt (clause?_length h)

theorem import?_length {s r : Text} {i : ImportParts} (h : import? s = some (i, r)) :
    r.length < s.length := by
  unfold import? at h
  obtain ⟨t, ht, h⟩ := Option.bind_eq_some_iff.1 h
  obtain ⟨⟨k, u⟩, hu, h⟩ := Option.bind_eq_some_iff.1 h
  obtain ⟨⟨p, v⟩, hv, h⟩ := Option.bind_eq_some_iff.1 h
  cases h
  have h1 := importKeyword?_length ht
  have h2 := indent_length s
  have h3 := importClause?_length hu
  have h4 := quotedPath?_length hv
  have h5 := semicolon_length ((attributes? v).map (·.2) |>.getD v)
  have h6 := attributesIfAny_length v
  omega

theorem exportType?_length {s r : Text} (h : exportType? s = some r) : r.length < s.length := by
  unfold exportType? at h
  obtain ⟨t, ht, h⟩ := Option.bind_eq_some_iff.1 h
  cases h
  have h1 := spacedWord?_length ht
  have h2 := indent_length s
  cases hw : spacedWord? "type" t with
  | none => simp; omega
  | some u => have := spacedWord?_length hw; simp; omega

theorem asName?_length {s r : Text} (h : asName? s = some r) : r.length < s.length := by
  unfold asName? at h
  obtain ⟨t, ht, h⟩ := Option.bind_eq_some_iff.1 h
  have h1 := spacedWord?_length ht
  have h2 := blanks_length s
  split at h
  · cases h
  · next c u =>
    have h3 : (u.dropWhile isIdentChar).length ≤ u.length := (List.dropWhile_sublist _).length_le
    simp only [List.length_cons] at h1
    split at h
    · cases h
    · simp only at h
      split at h
      · cases h; omega
      · obtain ⟨_, _, rfl⟩ := Option.map_eq_some_iff.1 h
        simp; omega

theorem exported?_length {s r : Text} (h : exported? s = some r) : r.length < s.length := by
  unfold exported? at h
  split at h
  · next t =>
    cases h
    cases ha : asName? t with
    | none => simp
    | some u => have := asName?_length ha; simp; omega
  · next t =>
    obtain ⟨⟨c, u⟩, hb, rfl⟩ := Option.map_eq_some_iff.1 h
    exact Nat.lt_succ_of_lt (braced?_length hb)
  · cases h

theorem reexport?_length {s r : Text} (h : reexport? s = some r) : r.length < s.length := by
  unfold reexport? at h
  obtain ⟨t, ht, h⟩ := Option.bind_eq_some_iff.1 h
  obtain ⟨u, hu, h⟩ := Option.bind_eq_some_iff.1 h
  obtain ⟨v, hv, h⟩ := Option.bind_eq_some_iff.1 h
  obtain ⟨⟨p, w⟩, hw, h⟩ := Option.bind_eq_some_iff.1 h
  cases h
  have h1 := exportType?_length ht
  have h2 := exported?_length hu
  have h3 := after?_length hv
  have h4 := blanks_length u
  have h5 := quotedPath?_length hw
  have h6 := blanks_length v
  have h7 := attributesIfAny_length w
  have h8 := semicolon_length ((attributes? w).map (·.2) |>.getD w)
  have h9 := lineEnd_length (semicolon ((attributes? w).map (·.2) |>.getD w))
  omega

theorem exportList?_length {s r : Text} (h : exportList? s = some r) : r.length < s.length := by
  unfold exportList? at h
  obtain ⟨t, ht, h⟩ := Option.bind_eq_some_iff.1 h
  have h1 := exportType?_length ht
  split at h
  · next u =>
    obtain ⟨⟨c, v⟩, hb, h⟩ := Option.bind_eq_some_iff.1 h
    cases h
    have h2 := braced?_length hb
    have h3 := semicolon_length v
    have h4 := lineEnd_length (semicolon v)
    simp only [List.length_cons] at h1
    omega
  · cases h

theorem exportKeyword?_length {s r : Text} (h : exportKeyword? s = some r) :
    r.length < s.length := by
  unfold exportKeyword? at h
  obtain ⟨t, ht, h⟩ := Option.bind_eq_some_iff.1 h
  have h1 := spacedWord?_length ht
  have h2 := indent_length s
  split at h
  · next u hu =>
    have h3 := spacedWord?_length hu
    split at h <;> cases h <;> omega
  · split at h
    · cases h; omega
    · cases h

end ReplDriver.Module.Statement
