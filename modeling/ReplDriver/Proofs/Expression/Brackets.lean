import ReplDriver.Expression.Group

/-!
# Strings and bracket groups, read from both ends

The scanner reads a text from the right, but strings and bracket groups are written from the left:
a backslash takes the character after it along, and a bracket opens before it closes. This file
writes both down from the left and shows that the backward scan undoes them.

* `openString_body`: the backward search for the opening quote passes over a string body.
* `openGroup_content`: the backward bracket match passes over the content of a group.
* `openGroup_group`: hence a group is passed over as a whole.

The invariant behind all of them is the parity of the backslashes directly before a place: it is
even between any two pieces of a string body, so only an escaped quote is taken for one.
-/

namespace ReplDriver.Expression

open Text (isQuote)

/-! ## The grammar -/

/-- The body of a string between two quotes `q`: pairs of a backslash and any character, and
other characters except the backslash and `q`. -/
inductive StringBody (q : Char) : Text → Prop where
  | nil : StringBody q []
  | escaped (c : Char) {r : Text} : StringBody q r → StringBody q ('\\' :: c :: r)
  | plain {c : Char} {r : Text} : c ≠ '\\' → c ≠ q → StringBody q r → StringBody q (c :: r)

/-- A string between two quotes `q`, of one of the three kinds. -/
inductive Quoted (q : Char) : Text → Prop where
  | mk {body : Text} : isQuote q = true → StringBody q body → Quoted q (q :: body ++ [q])

/-- Characters that mean nothing to the bracket match. -/
def IsNeutral (c : Char) : Prop :=
  isQuote c = false ∧ c ≠ '\\' ∧ isOpener c = false ∧ opener? c = none

instance (c : Char) : Decidable (IsNeutral c) := inferInstanceAs (Decidable (_ ∧ _))

/-- What stands between two brackets: neutral characters, strings and groups. -/
inductive Content : Text → Prop where
  | nil : Content []
  | neutral {c : Char} {r : Text} : IsNeutral c → Content r → Content (c :: r)
  | string {q : Char} {s r : Text} : Quoted q s → Content r → Content (s ++ r)
  | group {o c : Char} {inner r : Text} : opener? c = some o → Content inner → Content r →
      Content (o :: inner ++ c :: r)

/-- A bracket group that opens with `o`. -/
inductive Group (o : Char) : Text → Prop where
  | mk {c : Char} {inner : Text} : opener? c = some o → Content inner →
      Group o (o :: inner ++ [c])

/-! ## Brackets and quotes as characters -/

/-- The three pairs of brackets. -/
theorem opener?_eq_some {c o : Char} (h : opener? c = some o) :
    (c = ')' ∧ o = '(') ∨ (c = ']' ∧ o = '[') ∨ (c = '\x7d' ∧ o = '\x7b') := by
  unfold opener? at h
  split at h
  · next hc => exact Or.inl ⟨by simpa using hc, by simpa using h.symm⟩
  · split at h
    · next hc => exact Or.inr (Or.inl ⟨by simpa using hc, by simpa using h.symm⟩)
    · split at h
      · next hc => exact Or.inr (Or.inr ⟨by simpa using hc, by simpa using h.symm⟩)
      · cases h

theorem isQuote_cases {c : Char} (h : isQuote c = true) :
    c = '\x27' ∨ c = '\x22' ∨ c = '\x60' := by
  simpa [isQuote, or_assoc] using h

/-- A closing bracket is no quote and no backslash. -/
theorem closer_plain {c o : Char} (h : opener? c = some o) : isQuote c = false ∧ c ≠ '\\' := by
  rcases opener?_eq_some h with ⟨rfl, -⟩ | ⟨rfl, -⟩ | ⟨rfl, -⟩ <;> decide

/-- An opening bracket opens, closes nothing, and is no quote and no backslash. -/
theorem opener_plain {c o : Char} (h : opener? c = some o) :
    isOpener o = true ∧ opener? o = none ∧ isQuote o = false ∧ o ≠ '\\' := by
  rcases opener?_eq_some h with ⟨-, rfl⟩ | ⟨-, rfl⟩ | ⟨-, rfl⟩ <;> decide

theorem quote_plain {q : Char} (h : isQuote q = true) : q ≠ '\\' ∧ opener? q = none := by
  rcases isQuote_cases h with rfl | rfl | rfl <;> decide

/-! ## Escapes -/

/-- A backslash turns the parity, any other character starts it anew. -/
theorem isEscaped_cons (c : Char) (s : Text) :
    isEscaped (c :: s) = if c = '\\' then !isEscaped s else false := by
  by_cases h : c = '\\'
  · subst h
    simp only [isEscaped, List.takeWhile_cons, beq_self_eq_true, if_true, List.length_cons]
    generalize (List.takeWhile (· == '\\') s).length = n
    rcases Nat.mod_two_eq_zero_or_one n with hn | hn
    · have : (n + 1) % 2 = 1 := by omega
      simp [hn, this]
    · have : (n + 1) % 2 = 0 := by omega
      simp [hn, this]
  · simp [isEscaped, h]

theorem isEscaped_cons_of_ne {c : Char} (h : c ≠ '\\') (s : Text) : isEscaped (c :: s) = false := by
  rw [isEscaped_cons, if_neg h]

/-- A text that does not begin with a backslash escapes nothing. -/
theorem isEscaped_of_head {s : Text} (h : s.head? ≠ some '\\') : isEscaped s = false := by
  cases s with
  | nil => rfl
  | cons c r => exact isEscaped_cons_of_ne (by simpa using h) r

/-- After a whole string body the parity is what it was before it. -/
theorem isEscaped_body {q : Char} {body : Text} (hb : StringBody q body) :
    ∀ {s : Text}, isEscaped s = false → isEscaped (body.reverse ++ s) = false := by
  induction hb with
  | nil => intro s hs; exact hs
  | escaped c _ ih =>
    intro s hs
    have hpair : isEscaped (c :: '\\' :: s) = false := by
      rw [isEscaped_cons, isEscaped_cons, hs]
      split <;> rfl
    simpa using ih hpair
  | plain hc _ _ ih =>
    intro s hs
    simpa using ih (isEscaped_cons_of_ne hc s)

/-! ## Strings -/

/-- The search for the opening quote passes over a string body: a quote `q` in it is escaped. -/
theorem openString_body {q : Char} (hq : q ≠ '\\') {body : Text} (hb : StringBody q body) :
    ∀ {s : Text}, isEscaped s = false → openString q (body.reverse ++ s) = openString q s := by
  induction hb with
  | nil => intro s _; rfl
  | escaped c _ ih =>
    intro s hs
    have hback : isEscaped ('\\' :: s) = true := by simp [isEscaped_cons, hs]
    have hpair : isEscaped (c :: '\\' :: s) = false := by
      rw [isEscaped_cons, hback]
      split <;> rfl
    have hskip : openString q (c :: '\\' :: s) = openString q s := by
      simp [openString, hback, Ne.symm hq]
    simpa [hskip] using ih hpair
  | @plain c r hc hcq _ ih =>
    intro s hs
    have hskip : openString q (c :: s) = openString q s := by simp [openString, hcq]
    simpa [hskip] using ih (isEscaped_cons_of_ne hc s)

/-- The opening quote of a string is found, unless what stands before it escapes it. -/
theorem openString_quoted {q : Char} (hq : q ≠ '\\') {body s : Text} (hb : StringBody q body)
    (hs : isEscaped s = false) : openString q (body.reverse ++ q :: s) = some s := by
  rw [openString_body hq hb (isEscaped_cons_of_ne hq s)]
  simp [openString, hs]

/-! ## Groups -/

/-- One step of the bracket match over a string. -/
theorem openGroup_quoted {awaited : List Char} {q : Char} {x s : Text} (hx : Quoted q x)
    (hs : isEscaped s = false) :
    openGroup awaited none (x.reverse ++ s) = openGroup awaited none s := by
  cases hx with
  | @mk body hq hb =>
    have hqb := (quote_plain hq).1
    have hclose : isEscaped (body.reverse ++ q :: s) = false :=
      isEscaped_body hb (isEscaped_cons_of_ne hqb s)
    have hstep : openGroup awaited none (q :: (body.reverse ++ q :: s)) =
        openGroup awaited (some q) (body.reverse ++ q :: s) := by
      simp [openGroup, hq, hclose]
    have hrev : (q :: body ++ [q]).reverse ++ s = q :: (body.reverse ++ q :: s) := by simp
    rw [hrev, hstep, openGroup_string, openString_quoted hqb hb hs]
    rfl

/-- One step of the bracket match over a closing bracket. -/
theorem openGroup_close {awaited : List Char} {c o : Char} (h : opener? c = some o) (s : Text) :
    openGroup awaited none (c :: s) = openGroup (o :: awaited) none s := by
  simp [openGroup, (closer_plain h).1, h]

/-- One step of the bracket match over an awaited opening bracket, with more of them awaited. -/
theorem openGroup_open {awaited : List Char} {c o o' : Char} (h : opener? c = some o) (s : Text) :
    openGroup (o :: o' :: awaited) none (o :: s) = openGroup (o' :: awaited) none s := by
  obtain ⟨hopen, hnone, hquote, -⟩ := opener_plain h
  simp [openGroup, hopen, hnone, hquote]

/-- The bracket match passes over the content of a group. The opening bracket that it looks for
comes first, or another neutral place: what stands before the content must not escape a quote. -/
theorem openGroup_content {x : Text} (hx : Content x) :
    ∀ {o : Char} {awaited : List Char} {s : Text}, s.head? ≠ some '\\' →
      openGroup (o :: awaited) none (x.reverse ++ s) = openGroup (o :: awaited) none s := by
  induction hx with
  | nil => intro o awaited s _; rfl
  | @neutral c r hc _ ih =>
    intro o awaited s hs
    obtain ⟨hquote, hback, hopen, hclose⟩ := hc
    have hskip : openGroup (o :: awaited) none (c :: s) = openGroup (o :: awaited) none s := by
      simp [openGroup, hquote, hopen, hclose]
    rw [List.reverse_cons, List.append_assoc, List.singleton_append, ih (by simpa using hback),
      hskip]
  | @string q x r hq _ ih =>
    intro o awaited s hs
    -- a string ends with its quote, which escapes nothing
    have hback : (x.reverse ++ s).head? ≠ some '\\' := by
      cases hq with
      | mk hq _ => simpa using (quote_plain hq).1
    rw [List.reverse_append, List.append_assoc, ih hback,
      openGroup_quoted hq (isEscaped_of_head hs)]
  | @group o' c inner r hc _ _ ihInner ihRest =>
    intro o awaited s hs
    have hback : (c :: (inner.reverse ++ o' :: s)).head? ≠ some '\\' := by
      simpa using (closer_plain hc).2
    have hinner : (o' :: s).head? ≠ some '\\' := by simpa using (opener_plain hc).2.2.2
    -- backwards the inner group begins with its closing bracket, and the opening one is awaited
    calc openGroup (o :: awaited) none ((o' :: inner ++ c :: r).reverse ++ s)
        = openGroup (o :: awaited) none (r.reverse ++ c :: (inner.reverse ++ o' :: s)) := by simp
      _ = openGroup (o :: awaited) none (c :: (inner.reverse ++ o' :: s)) := ihRest hback
      _ = openGroup (o' :: o :: awaited) none (inner.reverse ++ o' :: s) := openGroup_close hc _
      _ = openGroup (o' :: o :: awaited) none (o' :: s) := ihInner hinner
      _ = openGroup (o :: awaited) none s := openGroup_open hc s

/-- A group is passed over as a whole, whatever stands before it. -/
theorem openGroup_group {o : Char} {g : Text} (hg : Group o g) (s : Text) :
    openGroup [] none (g.reverse ++ s) = some (o, s) := by
  cases hg with
  | @mk c inner hc hinner =>
    obtain ⟨hopen, hnone, hquote, hback⟩ := opener_plain hc
    have hend : openGroup [o] none (o :: s) = some (o, s) := by
      simp [openGroup, hopen, hnone, hquote]
    have hrev : (o :: inner ++ [c]).reverse ++ s = c :: (inner.reverse ++ o :: s) := by simp
    rw [hrev, openGroup_close hc, openGroup_content hinner (by simpa using hback), hend]

end ReplDriver.Expression
