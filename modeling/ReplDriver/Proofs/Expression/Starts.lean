import ReplDriver.Expression.Boundary
import ReplDriver.Proofs.Expression.Brackets

/-!
# Where strings and groups begin

A place in a text is an offset. Scanned back from its end, a bracket group is left at the offset at
which it was begun, whatever stands around it. So is a quoted string, unless a backslash before it
takes its opening quote along.

* `Operand.start_of_close`: the two offsets are those at which the scanner takes an operand to
  begin.
* `stringStart_quoted`: the opening quote of a string is found exactly where it is not escaped.
* `groupStart_and_stringStart`: from the ends of a group and of a string the scan comes back to
  their beginnings, and there the scanner takes the operand to begin.
-/

namespace ReplDriver.Expression

open Text (isQuote)

/-! ## Offsets -/

/-- The offset of the bracket that opens the group ending at an offset. -/
def groupStart (text : Text) (stop : Nat) : Option Nat :=
  (openGroup [] none (text.take stop).reverse).map fun (_, before) => before.length

/-- The offset of the quote that opens the string whose closing quote stands at an offset. -/
def stringStart (text : Text) (close : Nat) : Option Nat :=
  text[close]?.bind fun quote => (openString quote (text.take close).reverse).map List.length

theorem groupStart_append (s r : Text) :
    groupStart (s ++ r) s.length =
      (openGroup [] none s.reverse).map fun (_, before) => before.length := by
  rw [groupStart, List.take_left]

theorem stringStart_append (s : Text) (c : Char) (r : Text) :
    stringStart (s ++ c :: r) s.length = (openString c s.reverse).map List.length := by
  have hclose : (s ++ c :: r)[s.length]? = some c := by simp
  rw [stringStart, hclose, List.take_left]
  rfl

/-- The operand that a bracket or a quote closes begins where the group or the string does. -/
theorem Operand.start_of_close (s : Text) (c : Char) (r : Text) :
    ((opener? c).isSome = true →
      (Operand.of (s ++ [c]).reverse).map (·.before.length) =
        groupStart (s ++ [c] ++ r) (s ++ [c]).length) ∧
    (isQuote c = true →
      (Operand.of (s ++ [c]).reverse).map (·.before.length) =
        stringStart (s ++ c :: r) s.length) := by
  rw [groupStart_append, stringStart_append, List.reverse_append, List.reverse_singleton,
    List.singleton_append]
  constructor
  · intro hclose
    rw [Operand.of, if_pos hclose, Option.map_map]
    rfl
  · intro hq
    have hclose : ¬ (opener? c).isSome = true := by rw [(quote_plain hq).2]; decide
    rw [Operand.of, if_neg hclose, if_pos hq, Option.map_map]
    rfl

/-! ## Groups -/

/-- From the end of a group the scan comes to its opening bracket. -/
theorem groupStart_group {o : Char} {g : Text} (hg : Group o g) (p r : Text) :
    groupStart (p ++ g ++ r) (p ++ g).length = some p.length := by
  rw [groupStart_append, List.reverse_append, openGroup_group hg]
  exact congrArg some List.length_reverse

/-- So the operand that ends with a bracket group begins where the group does. -/
theorem Operand.start_group {o : Char} {g : Text} (hg : Group o g) (p : Text) :
    (Operand.of (p ++ g).reverse).map (·.before.length) = some p.length := by
  have hfound := groupStart_group hg p []
  cases hg with
  | @mk c inner hopener _ =>
    have htext : p ++ (o :: inner ++ [c]) = p ++ o :: inner ++ [c] := by simp
    have hclose : (opener? c).isSome = true := by rw [hopener]; rfl
    rw [htext] at hfound ⊢
    rw [(Operand.start_of_close (p ++ o :: inner) c []).1 hclose]
    exact hfound

/-! ## Strings -/

/-- A text that does not end with a backslash escapes nothing. -/
theorem isEscaped_reverse {p : Text} (h : p.getLast? ≠ some '\\') : isEscaped p.reverse = false :=
  isEscaped_of_head (by rwa [List.head?_reverse])

/-- From the end of a string the scan comes to its opening quote exactly where that quote is not
escaped; from an escaped one it goes on to the left. -/
theorem stringStart_quoted {q : Char} {x : Text} (hx : Quoted q x) (p r : Text) :
    stringStart (p ++ x ++ r) ((p ++ x).length - 1) = some p.length ↔
      isEscaped p.reverse = false := by
  cases hx with
  | @mk body hq hbody =>
    have hback := (quote_plain hq).1
    have htext : p ++ (q :: body ++ [q]) ++ r = p ++ q :: body ++ q :: r := by simp
    have hclose : (p ++ (q :: body ++ [q])).length - 1 = (p ++ q :: body).length := by simp
    have hpass : openString q (p ++ q :: body).reverse = openString q (q :: p.reverse) := by
      rw [List.reverse_append, List.reverse_cons, List.append_assoc, List.singleton_append,
        openString_body hback hbody (isEscaped_cons_of_ne hback _)]
    rw [htext, hclose, stringStart_append, hpass]
    constructor
    · intro h
      cases hescaped : isEscaped p.reverse with
      | false => rfl
      | true =>
        -- the escaped quote is passed over, so that what is found stands further left
        have hleft : openString q (q :: p.reverse) = openString q p.reverse := by
          simp [openString, hescaped]
        rw [hleft] at h
        obtain ⟨before, hopen, hlength⟩ := Option.map_eq_some_iff.1 h
        have hlt := openString_length hopen
        rw [List.length_reverse, hlength] at hlt
        exact absurd hlt (Nat.lt_irrefl _)
    · intro h
      simp [openString, h]

/-- So the operand that ends with a string begins at the opening quote that is found. -/
theorem Operand.start_quoted {q : Char} {x p : Text} (hx : Quoted q x)
    (hfound : stringStart (p ++ x ++ []) ((p ++ x).length - 1) = some p.length) :
    (Operand.of (p ++ x).reverse).map (·.before.length) = some p.length := by
  cases hx with
  | @mk body hq _ =>
    have htext : p ++ (q :: body ++ [q]) = p ++ q :: body ++ [q] := by simp
    have hend : (p ++ q :: body ++ [q]).length - 1 = (p ++ q :: body).length := by simp
    rw [htext, List.append_nil, hend] at hfound
    rw [htext, (Operand.start_of_close (p ++ q :: body) q []).2 hq]
    exact hfound

/-- In `\'a'` no opening quote is found: the one that is there is escaped. -/
example : stringStart "\\'a'".toList 3 = none := by decide

/-! ## From the end to the beginning -/

/-- Scanned back from its end, a bracket group is left at the offset at which it was begun, in every
text that holds it; and so is a quoted string in every text without a backslash before it. There
begins the operand that the scanner finds before the end. -/
theorem groupStart_and_stringStart :
    (∀ (p : Text) {o : Char} {g : Text}, Group o g → ∀ r : Text,
      groupStart (p ++ g ++ r) (p ++ g).length = some p.length ∧
        (Operand.of (p ++ g).reverse).map (·.before.length) = some p.length) ∧
    ∀ {p : Text} {q : Char} {x : Text}, Quoted q x → p.getLast? ≠ some '\\' → ∀ r : Text,
      stringStart (p ++ x ++ r) ((p ++ x).length - 1) = some p.length ∧
        (Operand.of (p ++ x).reverse).map (·.before.length) = some p.length := by
  constructor
  · intro p o g hg r
    exact ⟨groupStart_group hg p r, Operand.start_group hg p⟩
  · intro p q x hx hp r
    have hstart := fun r => (stringStart_quoted hx p r).2 (isEscaped_reverse hp)
    exact ⟨hstart r, Operand.start_quoted hx (hstart [])⟩

/-- In `a\['\']', (b)].c` the brackets in the string close nothing, and the backslash before the
group does not matter. In `x = '(\'"\\')` the string ends with an escaped backslash and holds an
escaped quote. -/
theorem groupStart_and_stringStart_escapes :
    Group '[' "['\\']', (b)]".toList ∧ Quoted '\x27' "'(\\'\"\\\\'".toList ∧
      "x = ".toList.getLast? ≠ some '\\' ∧
      (groupStart "a\\['\\']', (b)].c".toList 14 = some 2 ∧
        (Operand.of "a\\['\\']', (b)]".toList.reverse).map (·.before.length) = some 2) ∧
      stringStart "x = '(\\'\"\\\\')".toList 11 = some 4 ∧
        (Operand.of "x = '(\\'\"\\\\'".toList.reverse).map (·.before.length) = some 4 := by
  have hname : Content ['b'] := .neutral (by decide) .nil
  have hinner : Content "(b)".toList := @Content.group '(' ')' _ _ rfl hname .nil
  have hbody : StringBody '\x27' "\\']".toList :=
    .escaped '\x27' (.plain (by decide) (by decide) .nil)
  have hcontent : Content "'\\']', (b)".toList :=
    .string (.mk rfl hbody)
      (@Content.neutral ',' _ (by decide) (@Content.neutral ' ' _ (by decide) hinner))
  have hgroup : Group '[' "['\\']', (b)]".toList := @Group.mk '[' ']' _ rfl hcontent
  have hquoted : Quoted '\x27' "'(\\'\"\\\\'".toList :=
    .mk rfl (.plain (by decide) (by decide)
      (.escaped '\x27' (.plain (by decide) (by decide) (.escaped '\\' .nil))))
  have hlast : "x = ".toList.getLast? ≠ some '\\' := by decide
  obtain ⟨hgroups, hstrings⟩ := groupStart_and_stringStart
  exact ⟨hgroup, hquoted, hlast, hgroups "a\\".toList hgroup ".c".toList,
    hstrings hquoted hlast ")".toList⟩

end ReplDriver.Expression
