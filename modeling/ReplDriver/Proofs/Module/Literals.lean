import ReplDriver.Json.Reader
import ReplDriver.Json.Writer

/-!
# What string literals denote

A string literal of a module denotes a sequence of UTF-16 units. Most characters between its quotes
stand for themselves; a backslash begins an escape, which stands for one character or, at the end
of a line, for nothing. Modules are strict code, so the octal escapes of older scripts are no
literals.

* `units?_renderText`: a written JSON string is a literal for exactly the text that was written.
* `units?_of_noEscape`: a literal without a backslash denotes the text between its quotes.
* `units?_lt`: every backslash makes a literal denote less than the text between its quotes.
-/

namespace ReplDriver.Module.Literal

open Json (escapeChar escapeUnit hexValue? unit?)

/-! ## Units -/

/-- The UTF-16 units of a code point: one, or beyond the first plane a surrogate pair. -/
def unitsOf (n : Nat) : List Nat :=
  if n < 0x10000 then [n]
  else [0xd800 + (n - 0x10000) / 0x400, 0xdc00 + (n - 0x10000) % 0x400]

/-- The UTF-16 units of a text. -/
def units (s : Text) : List Nat := s.flatMap fun c => unitsOf c.toNat

@[simp] theorem units_cons (c : Char) (s : Text) : units (c :: s) = unitsOf c.toNat ++ units s :=
  rfl

@[simp] theorem units_append (s t : Text) : units (s ++ t) = units s ++ units t :=
  List.flatMap_append

theorem one_le_unitsOf (n : Nat) : 1 ≤ (unitsOf n).length := by
  unfold unitsOf
  split <;> simp

theorem unitsOf_le_two (n : Nat) : (unitsOf n).length ≤ 2 := by
  unfold unitsOf
  split <;> simp

/-- A text has at least as many units as characters. -/
theorem length_le_units (s : Text) : s.length ≤ (units s).length := by
  induction s with
  | nil => exact Nat.le_refl 0
  | cons c s ih =>
    have hc := one_le_unitsOf c.toNat
    rw [units_cons, List.length_append, List.length_cons]
    omega

/-! ## Escapes -/

/-- The number that hexadecimal digits write. -/
def hexNumber? (digits : Text) : Option Nat :=
  digits.foldlM (fun n d => (hexValue? d).map (16 * n + ·)) 0

/-- The character that a letter after a backslash stands for; most stand for themselves. -/
def escaped (c : Char) : Char :=
  match c with
  | 'b' => '\x08'
  | 'f' => '\x0c'
  | 'n' => '\n'
  | 'r' => '\r'
  | 't' => '\t'
  | 'v' => '\x0b'
  | c => c

/-- An escape by a letter takes no more units than the letter. -/
theorem unitsOf_escaped (c : Char) :
    (unitsOf (escaped c).toNat).length ≤ (unitsOf c.toNat).length := by
  unfold escaped
  split
  all_goals exact Nat.le_refl _

/-- The characters that end a line of a program. -/
def isLineEnd (c : Char) : Bool := c == '\n' || c == '\r' || c == '\u2028' || c == '\u2029'

/-- The units of an escape, given the text after its backslash, and the text after it. -/
def escape? : Text → Option (List Nat × Text)
  | [] => none
  | 'x' :: a :: b :: r => (hexNumber? [a, b]).map fun n => (unitsOf n, r)
  | 'u' :: '\x7b' :: r =>
    let digits := r.takeWhile (· != '\x7d')
    match r.dropWhile (· != '\x7d') with
    | [] => none
    | _ :: rest =>
      if digits.isEmpty then none
      else ((hexNumber? digits).filter (· ≤ 0x10ffff)).map fun n => (unitsOf n, rest)
  | 'u' :: a :: b :: c :: d :: r => (unit? a b c d).map fun n => (unitsOf n, r)
  | '\r' :: '\n' :: r => some ([], r)
  | '0' :: r => if r.head?.any Char.isDigit then none else some ([0], r)
  | c :: r =>
    if isLineEnd c then some ([], r)
    else if c.isDigit || c == 'x' || c == 'u' then none
    else some (unitsOf (escaped c).toNat, r)

/-- The units of an escape are no more than those of the text that writes it. -/
theorem escape?_used {s r : Text} {u : List Nat} (h : escape? s = some (u, r)) :
    ∃ used, s = used ++ r ∧ used ≠ [] ∧ u.length ≤ (units used).length := by
  -- a number may take two units, but at least three characters write it
  have hnumber : ∀ {n : Nat} {used : Text}, 2 ≤ used.length →
      (unitsOf n).length ≤ (units used).length :=
    fun hused => Nat.le_trans (unitsOf_le_two _) (Nat.le_trans hused (length_le_units _))
  unfold escape? at h
  split at h
  · cases h
  · next a b rest =>
    obtain ⟨n, -, h⟩ := Option.map_eq_some_iff.mp h
    cases h
    exact ⟨['x', a, b], rfl, List.cons_ne_nil _ _, hnumber (by simp)⟩
  · next rest =>
    dsimp only at h
    split at h
    · cases h
    · next c after hafter =>
      split at h
      · cases h
      · obtain ⟨n, -, h⟩ := Option.map_eq_some_iff.mp h
        cases h
        refine ⟨'u' :: '\x7b' :: (rest.takeWhile (· != '\x7d') ++ [c]), ?_, List.cons_ne_nil _ _,
          hnumber (by simp)⟩
        have hrest := List.takeWhile_append_dropWhile (p := (· != '\x7d')) (l := rest)
        rw [hafter] at hrest
        simp [hrest]
  · next a b c d rest _ =>
    obtain ⟨n, -, h⟩ := Option.map_eq_some_iff.mp h
    cases h
    exact ⟨['u', a, b, c, d], rfl, List.cons_ne_nil _ _, hnumber (by simp)⟩
  · next rest =>
    cases h
    exact ⟨['\r', '\n'], rfl, List.cons_ne_nil _ _, Nat.zero_le _⟩
  · next rest =>
    split at h
    · cases h
    · cases h
      exact ⟨['0'], rfl, List.cons_ne_nil _ _, by decide⟩
  · next c rest _ _ _ _ _ =>
    split at h
    · cases h
      exact ⟨[c], rfl, List.cons_ne_nil _ _, Nat.zero_le _⟩
    · split at h
      · cases h
      · cases h
        refine ⟨[c], rfl, List.cons_ne_nil _ _, ?_⟩
        simpa [units] using unitsOf_escaped c

theorem escape?_length {s r : Text} {u : List Nat} (h : escape? s = some (u, r)) :
    r.length < s.length := by
  obtain ⟨used, rfl, hne, -⟩ := escape?_used h
  have hused := List.length_pos_iff.mpr hne
  rw [List.length_append]
  omega

/-! ## Literals -/

/-- The units that a literal denotes, given the quote and the text between its quotes. -/
def units? (q : Char) (s : Text) : Option (List Nat) :=
  match s with
  | [] => some []
  | '\\' :: r =>
    match _h : escape? r with
    | none => none
    | some (u, rest) => (units? q rest).map (u ++ ·)
  | c :: r =>
    if c == q || c == '\n' || c == '\r' then none else (units? q r).map (unitsOf c.toNat ++ ·)
termination_by s.length
decreasing_by
  · have := escape?_length _h
    simp
    omega
  · simp

section

variable {q c : Char} {r rest s t : Text} {u : List Nat}

@[simp] theorem units?_nil (q : Char) : units? q [] = some [] := by rw [units?]

theorem units?_escape (h : escape? r = some (u, rest)) :
    units? q ('\\' :: r) = (units? q rest).map (u ++ ·) := by
  rw [units?]
  split
  · next h' => rw [h] at h'; cases h'
  · next h' => rw [h] at h'; cases h'; rfl

theorem units?_plain (hc : c ≠ '\\') (hquote : c ≠ q) (hline : c ≠ '\n' ∧ c ≠ '\r') :
    units? q (c :: r) = (units? q r).map (unitsOf c.toNat ++ ·) := by
  rw [units?]
  · simp [hquote, hline]
  · exact hc

/-- How a literal that is not empty begins: with an escape, or with a character that stands for
itself. -/
theorem units?_cases (h : units? q (c :: r) = some u) :
    (c = '\\' ∧ ∃ v rest w, escape? r = some (v, rest) ∧ units? q rest = some w ∧ u = v ++ w) ∨
    (c ≠ '\\' ∧ ∃ w, units? q r = some w ∧ u = unitsOf c.toNat ++ w) := by
  by_cases hc : c = '\\'
  · subst hc
    left
    rcases hescape : escape? r with _ | ⟨v, rest⟩
    · rw [units?] at h
      split at h
      · cases h
      · next h' => rw [hescape] at h'; cases h'
    · rw [units?_escape hescape] at h
      obtain ⟨w, hw, rfl⟩ := Option.map_eq_some_iff.mp h
      exact ⟨rfl, v, rest, w, rfl, hw, rfl⟩
  · right
    rw [units?] at h
    · split at h
      · cases h
      · obtain ⟨w, hw, rfl⟩ := Option.map_eq_some_iff.mp h
        exact ⟨hc, w, hw, rfl⟩
    · exact hc

/-- A literal denotes no more units than the text between its quotes has. -/
theorem units?_le (h : units? q s = some u) : u.length ≤ (units s).length := by
  induction hn : s.length using Nat.strongRecOn generalizing s u with
  | ind n ih =>
    subst hn
    cases s with
    | nil =>
      rw [units?_nil] at h
      cases h
      exact Nat.le_refl 0
    | cons c r =>
      rcases units?_cases h with ⟨rfl, v, rest, w, hescape, hw, rfl⟩ | ⟨-, w, hw, rfl⟩
      · obtain ⟨used, rfl, -, hused⟩ := escape?_used hescape
        have hshorter : rest.length < ('\\' :: (used ++ rest)).length := by
          rw [List.length_cons, List.length_append]
          omega
        have hrest := ih rest.length hshorter hw rfl
        simp only [units_cons, units_append, List.length_append]
        omega
      · have hrest := ih r.length (Nat.lt_succ_self _) hw rfl
        simp only [units_cons, List.length_append]
        omega

/-- Every backslash makes a literal denote less than the text between its quotes. -/
theorem units?_lt (h : units? q s = some u) (hmem : '\\' ∈ s) : u.length < (units s).length := by
  induction s generalizing u with
  | nil => cases hmem
  | cons c r ih =>
    rcases units?_cases h with ⟨rfl, v, rest, w, hescape, hw, rfl⟩ | ⟨hc, w, hw, rfl⟩
    · obtain ⟨used, rfl, -, hused⟩ := escape?_used hescape
      have hrest := units?_le hw
      have hbackslash := one_le_unitsOf '\\'.toNat
      simp only [units_cons, units_append, List.length_append]
      omega
    · have hr : '\\' ∈ r := (List.mem_cons.mp hmem).resolve_left (Ne.symm hc)
      have hrest := ih hw hr
      simp only [units_cons, List.length_append]
      omega

/-- A literal without a backslash denotes the text between its quotes. -/
theorem units?_of_noEscape (h : units? q s = some u) (hmem : '\\' ∉ s) : u = units s := by
  induction s generalizing u with
  | nil =>
    rw [units?_nil] at h
    cases h
    rfl
  | cons c r ih =>
    rcases units?_cases h with ⟨rfl, -⟩ | ⟨-, w, hw, rfl⟩
    · exact absurd List.mem_cons_self hmem
    · rw [ih hw fun hr => hmem (List.mem_cons_of_mem c hr), units_cons]

end

/-- A literal denotes the text between its quotes exactly if no backslash is in it. -/
theorem units?_eq_units_iff {q : Char} {s : Text} {u : List Nat} (h : units? q s = some u) :
    units s = u ↔ '\\' ∉ s := by
  constructor
  · intro hsame hmem
    have hless := units?_lt h hmem
    rw [hsame] at hless
    exact Nat.lt_irrefl _ hless
  · intro hmem
    exact (units?_of_noEscape h hmem).symm

/-! ## Written strings -/

/-- A hexadecimal digit is read back. -/
theorem hexValue?_digitChar {n : Nat} (h : n < 16) : hexValue? n.digitChar = some n := by
  have hall : ∀ k : Fin 16, hexValue? (Nat.digitChar k) = some k.val := by decide
  exact hall ⟨n, h⟩

/-- The last hexadecimal digit of a number that is padded to a width. -/
theorem hex_succ {width : Nat} (hwidth : 0 < width) (n : Nat) :
    Text.hex (width + 1) n = Text.hex width (n / 16) ++ [(n % 16).digitChar] := by
  unfold Text.hex
  rw [Nat.toDigits_eq_if (b := 16) (n := n) (by omega)]
  split
  · next hsmall =>
    have hzero : n / 16 = 0 := Nat.div_eq_of_lt hsmall
    obtain ⟨k, rfl⟩ := Nat.exists_eq_add_of_lt hwidth
    rw [hzero, Nat.toDigits_zero, Nat.mod_eq_of_lt hsmall]
    simp [List.replicate_succ']
  · simp

/-- Four hexadecimal digits write a UTF-16 unit. -/
theorem unit?_hex {n : Nat} (h : n < 0x10000) :
    ∃ a b c d, Text.hex 4 n = [a, b, c, d] ∧ unit? a b c d = some n := by
  refine ⟨(n / 16 / 16 / 16).digitChar, (n / 16 / 16 % 16).digitChar, (n / 16 % 16).digitChar,
    (n % 16).digitChar, ?_, ?_⟩
  · have hfirst : n / 16 / 16 / 16 < 16 := by omega
    have hone : Text.hex 1 (n / 16 / 16 / 16) = [(n / 16 / 16 / 16).digitChar] := by
      rw [Text.hex, Nat.toDigits_of_lt_base hfirst]
      rfl
    rw [hex_succ (by omega), hex_succ (by omega), hex_succ (by omega), hone]
    rfl
  · have hvalue : unit? (n / 16 / 16 / 16).digitChar (n / 16 / 16 % 16).digitChar
        (n / 16 % 16).digitChar (n % 16).digitChar =
          some (((n / 16 / 16 / 16 * 16 + n / 16 / 16 % 16) * 16 + n / 16 % 16) * 16 + n % 16) := by
      rw [unit?, hexValue?_digitChar (by omega), hexValue?_digitChar (by omega),
        hexValue?_digitChar (by omega), hexValue?_digitChar (by omega)]
      rfl
    rw [hvalue]
    congr 1
    omega

/-- A UTF-16 unit that is written as an escape is read back. -/
theorem units?_escapeUnit (q : Char) {n : Nat} (h : n < 0x10000) (t : Text) :
    units? q (escapeUnit n ++ t) = (units? q t).map (n :: ·) := by
  obtain ⟨a, b, c, d, hhex, hunit⟩ := unit?_hex h
  have hescape : escape? ('u' :: a :: b :: c :: d :: t) = some ([n], t) := by
    rw [escape?, hunit, Option.map_some, unitsOf, if_pos h]
    -- no brace is a digit, so the digits are not read up to a closing brace
    · rintro rfl
      cases hunit
  have htext : escapeUnit n ++ t = '\\' :: 'u' :: a :: b :: c :: d :: t := by
    rw [escapeUnit, hhex]
    rfl
  rw [htext, units?_escape hescape]
  rfl

/-- A character of a JSON string is read back as its units. -/
theorem units?_escapeChar (c : Char) (t : Text) :
    units? '\x22' (escapeChar c ++ t) = (units? '\x22' t).map (unitsOf c.toNat ++ ·) := by
  have hletter : ∀ {d : Char} {s : Text}, (c == d) = true →
      escape? s = some (unitsOf d.toNat, t) →
      units? '\x22' ('\\' :: s) = (units? '\x22' t).map (unitsOf c.toNat ++ ·) := by
    intro d s hc hescape
    rw [eq_of_beq hc]
    exact units?_escape hescape
  unfold escapeChar
  split
  · next h => exact hletter h rfl
  split
  · next h => exact hletter h rfl
  split
  · next h => exact hletter h rfl
  split
  · next h => exact hletter h rfl
  split
  · next h => exact hletter h rfl
  split
  · next h => exact hletter h rfl
  split
  · next h => exact hletter h rfl
  split
  · next hquote hescape hfeed hreturn _ _ _ _ =>
    simp only [beq_iff_eq] at hquote hescape hfeed hreturn
    exact units?_plain hescape hquote ⟨hfeed, hreturn⟩
  split
  · next hunit =>
    have hone : unitsOf c.toNat = [c.toNat] := if_pos hunit
    rw [units?_escapeUnit _ hunit, hone]
    rfl
  · next hpair =>
    -- beyond the first plane, both halves of the pair are written
    have hlimit : c.toNat < 0x110000 := by
      have hvalid := c.valid
      simp only [UInt32.isValidChar, Nat.isValidChar] at hvalid
      show c.val.toNat < 0x110000
      omega
    have htwo : unitsOf c.toNat = [0xd800 + (c.toNat - 0x10000) / 0x400,
      0xdc00 + (c.toNat - 0x10000) % 0x400] := if_neg hpair
    dsimp only
    rw [List.append_assoc, units?_escapeUnit _ (by omega), units?_escapeUnit _ (by omega), htwo,
      Option.map_map]
    rfl

/-- A written JSON string is a literal for exactly the text that was written. -/
theorem units?_renderText (s : Text) :
    units? '\x22' (s.flatMap escapeChar) = some (units s) := by
  induction s with
  | nil => exact units?_nil _
  | cons c s ih =>
    rw [List.flatMap_cons, units?_escapeChar, ih]
    rfl

end ReplDriver.Module.Literal
