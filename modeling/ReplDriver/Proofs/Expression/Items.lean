import Mathlib.Data.List.Induction
import ReplDriver.Proofs.Expression.Chain

/-!
# What the scanner takes for one item

The scanner meets any text, well-formed or not: a stray quote, a bracket that nothing closes, a
backslash outside a string. This file says what it takes for an item all the same. Quotes pair up
from the right, an escaped one being no quote, and brackets have to match outside of what the
quotes enclose.

* `openString_eq_some`: the opening quote of a string is the nearest one that is not escaped.
* `openGroup_eq_some`: a group is found exactly where brackets match, read from the right.
* `Operand.of_eq_some`: the operand that ends at a place is the item that ends there.

Whether a quote is escaped depends on what stands before it, but not on what stands before the
opening bracket or quote of the item that it is in. That is why items can be described without
their surroundings.
-/

namespace ReplDriver.Expression

open Text (isBlank isQuote isIdentChar isBlankText StopsAt)

/-! ## The grammar -/

/-- A text in which every `q` is escaped. -/
def Unclosed (q : Char) (body : Text) : Prop :=
  ∀ u v, body = u ++ q :: v → isEscaped u.reverse = true

/-- What stands between two brackets, read from the right: quotes that are not escaped pair up
into strings, brackets outside of strings match, and any other character means nothing. -/
inductive Inside : Text → Prop where
  | nil : Inside []
  | other {x : Text} {c : Char} : Inside x → isOpener c = false → opener? c = none →
      (isQuote c = true → isEscaped x.reverse = true) → Inside (x ++ [c])
  | string {x body : Text} {q : Char} : Inside x → isQuote q = true →
      isEscaped x.reverse = false → Unclosed q body → isEscaped body.reverse = false →
      Inside (x ++ q :: body ++ [q])
  | group {x inner : Text} {o c : Char} : Inside x → Inside inner → opener? c = some o →
      Inside (x ++ o :: inner ++ [c])

/-- A bracket group that opens with `o`, read from the right. -/
inductive Bracketed (o : Char) : Text → Prop where
  | mk {c : Char} {inner : Text} : opener? c = some o → Inside inner →
      Bracketed o (o :: inner ++ [c])

/-- An item that begins with `c`: a run of identifier characters, a string, or a group. -/
inductive Item (c : Char) : Text → Prop where
  | word {r : Text} : IsWord (c :: r) → Item c (c :: r)
  | string {body : Text} : isQuote c = true → Unclosed c body → Item c (c :: body ++ [c])
  | group {g : Text} : Bracketed c g → Item c g

/-! ## Escapes -/

/-- What stands before a character other than the backslash does not matter to what comes after
it. -/
theorem isEscaped_append_cons {c : Char} (hc : c ≠ '\\') (u v : Text) :
    isEscaped (u ++ c :: v) = isEscaped u := by
  induction u with
  | nil => rw [List.nil_append, isEscaped_cons_of_ne hc]; rfl
  | cons d u ih => rw [List.cons_append, isEscaped_cons, isEscaped_cons, ih]

theorem Unclosed.nil (q : Char) : Unclosed q [] := by
  intro u v h
  simp at h

/-- A text in which every `q` is escaped stays so with one more character after it. -/
theorem unclosed_concat {q c : Char} {body : Text} :
    Unclosed q (body ++ [c]) ↔ Unclosed q body ∧ (c = q → isEscaped body.reverse = true) := by
  constructor
  · intro h
    refine ⟨fun u v huv => h u (v ++ [c]) (by simp [huv]), ?_⟩
    rintro rfl
    exact h body [] rfl
  · rintro ⟨hbody, hlast⟩ u v huv
    rcases List.eq_nil_or_concat v with rfl | ⟨v, d, rfl⟩
    · obtain ⟨rfl, hcq⟩ := List.append_inj' huv rfl
      exact hlast (by simpa using hcq)
    · rw [List.concat_eq_append, ← List.cons_append, ← List.append_assoc] at huv
      exact hbody u v (List.append_inj' huv rfl).1

/-! ## Strings -/

/-- The opening quote that is found is the nearest one that is not escaped. -/
theorem openString_eq_some {q : Char} (hq : q ≠ '\\') {s p : Text} :
    openString q s = some p ↔
      ∃ body, s = body.reverse ++ q :: p ∧ Unclosed q body ∧ isEscaped p = false := by
  constructor
  · intro h
    induction s with
    | nil => cases h
    | cons c s ih =>
      rw [openString] at h
      split at h
      · next hc =>
        cases h
        simp only [Bool.and_eq_true, beq_iff_eq, Bool.not_eq_true'] at hc
        exact ⟨[], by simp [hc.1], .nil q, hc.2⟩
      · next hc =>
        obtain ⟨body, rfl, hbody, hp⟩ := ih h
        refine ⟨body ++ [c], by simp, unclosed_concat.2 ⟨hbody, ?_⟩, hp⟩
        rintro rfl
        simpa [isEscaped_append_cons hq] using hc
  · rintro ⟨body, rfl, hbody, hp⟩
    induction body using List.reverseRecOn with
    | nil => simp [openString, hp]
    | append_singleton body c ih =>
      obtain ⟨hbody, hlast⟩ := unclosed_concat.1 hbody
      rw [List.reverse_append, List.reverse_singleton, List.singleton_append, List.cons_append,
        openString, if_neg, ih hbody]
      rw [Bool.and_eq_true, beq_iff_eq, isEscaped_append_cons hq]
      rintro ⟨hcq, hescaped⟩
      rw [hlast hcq] at hescaped
      cases hescaped

/-! ## Groups -/

/-- One step of the bracket match over a quote that is not escaped. -/
theorem openGroup_quote {awaited : List Char} {q : Char} {s : Text} (hq : isQuote q = true)
    (hs : isEscaped s = false) :
    openGroup awaited none (q :: s) = (openString q s).bind fun r => openGroup awaited none r := by
  rw [← openGroup_string]
  simp [openGroup, hq, hs]

/-- One step of the bracket match over a character that means nothing. -/
theorem openGroup_other {awaited : List Char} {c : Char} {s : Text}
    (hq : isQuote c = true → isEscaped s = true) (hclose : opener? c = none)
    (hopen : isOpener c = false) : openGroup awaited none (c :: s) = openGroup awaited none s := by
  have hskip : (isQuote c && !isEscaped s) = false := by
    cases hc : isQuote c with
    | false => rfl
    | true => rw [hq hc]; rfl
  simp [openGroup, hskip, hclose, hopen]

/-- An opening bracket at which the bracket match goes on, or ends, is the awaited one. -/
theorem eq_of_openGroup {a c : Char} {awaited : List Char} {s : Text} {r : Char × Text}
    (hopen : isOpener c = true) (hclose : opener? c = none)
    (hquote : ¬ (isQuote c && !isEscaped s) = true)
    (h : openGroup (a :: awaited) none (c :: s) = some r) : a = c := by
  by_contra hne
  cases awaited <;> simp [openGroup, hquote, hclose, hopen, hne] at h

/-- The bracket match passes over what stands between two brackets. -/
theorem openGroup_inside {x : Text} (hx : Inside x) :
    ∀ {a : Char} {awaited : List Char} {s : Text}, a ≠ '\\' →
      openGroup (a :: awaited) none (x.reverse ++ a :: s) =
        openGroup (a :: awaited) none (a :: s) := by
  induction hx with
  | nil => intros; rfl
  | @other x c _ hopen hclose hquote ih =>
    intro a awaited s ha
    have hescaped : isQuote c = true → isEscaped (x.reverse ++ a :: s) = true := by
      rwa [isEscaped_append_cons ha]
    rw [List.reverse_append, List.reverse_singleton, List.singleton_append, List.cons_append,
      openGroup_other hescaped hclose hopen, ih ha]
  | @string x body q _ hq hx hbody hclosing ih =>
    intro a awaited s ha
    have hqb := (quote_plain hq).1
    have hrev : (x ++ q :: body ++ [q]).reverse ++ a :: s =
        q :: (body.reverse ++ q :: (x.reverse ++ a :: s)) := by simp
    have hopening : openString q (body.reverse ++ q :: (x.reverse ++ a :: s)) =
        some (x.reverse ++ a :: s) :=
      (openString_eq_some hqb).2 ⟨body, rfl, hbody, by rw [isEscaped_append_cons ha, hx]⟩
    rw [hrev, openGroup_quote hq (by rw [isEscaped_append_cons hqb, hclosing]), hopening]
    exact ih ha
  | @group x inner o c _ _ hc ihx ihinner =>
    intro a awaited s ha
    have ho : o ≠ '\\' := (opener_plain hc).2.2.2
    calc openGroup (a :: awaited) none ((x ++ o :: inner ++ [c]).reverse ++ a :: s)
        = openGroup (a :: awaited) none (c :: (inner.reverse ++ o :: (x.reverse ++ a :: s))) := by
          simp
      _ = openGroup (o :: a :: awaited) none (inner.reverse ++ o :: (x.reverse ++ a :: s)) :=
          openGroup_close hc _
      _ = openGroup (o :: a :: awaited) none (o :: (x.reverse ++ a :: s)) := ihinner ho
      _ = openGroup (a :: awaited) none (x.reverse ++ a :: s) := openGroup_open hc _
      _ = openGroup (a :: awaited) none (a :: s) := ihx ha

/-- Whatever the bracket match finds, it has come to the nearest awaited bracket over something
that may stand between two brackets. -/
theorem inside_of_openGroup {a : Char} {awaited : List Char} {s p : Text} {o : Char}
    (ha : a ≠ '\\') (h : openGroup (a :: awaited) none s = some (o, p)) :
    ∃ x s', s = x.reverse ++ a :: s' ∧ Inside x ∧
      openGroup (a :: awaited) none (a :: s') = some (o, p) := by
  induction hn : s.length using Nat.strongRecOn generalizing s a awaited with
  | ind n ih =>
    subst hn
    cases s with
    | nil => cases h
    | cons c s =>
      have hlt : s.length < (c :: s).length := Nat.lt_succ_self _
      by_cases hquote : (isQuote c && !isEscaped s) = true
      -- a string, and what stands before it
      · obtain ⟨hq, hescaped⟩ : isQuote c = true ∧ isEscaped s = false := by simpa using hquote
        have hcb := (quote_plain hq).1
        rw [openGroup_quote hq hescaped] at h
        obtain ⟨t, hopen, hrest⟩ := Option.bind_eq_some_iff.1 h
        obtain ⟨body, rfl, hbody, ht⟩ := (openString_eq_some hcb).1 hopen
        obtain ⟨x, s', rfl, hx, hfound⟩ :=
          ih t.length (by simp; omega) ha hrest rfl
        rw [isEscaped_append_cons hcb] at hescaped
        rw [isEscaped_append_cons ha] at ht
        exact ⟨x ++ c :: body ++ [c], s', by simp, .string hx hq ht hbody hescaped, hfound⟩
      · cases hclose : opener? c with
        -- a group, and what stands before it
        | some b =>
          have hb : b ≠ '\\' := (opener_plain hclose).2.2.2
          rw [openGroup_close hclose] at h
          obtain ⟨inner, t, rfl, hinner, hopen⟩ := ih s.length hlt hb h rfl
          rw [openGroup_open hclose] at hopen
          obtain ⟨x, s', rfl, hx, hfound⟩ :=
            ih t.length (by simp; omega) ha hopen rfl
          exact ⟨x ++ b :: inner ++ [c], s', by simp, .group hx hinner hclose, hfound⟩
        | none =>
          by_cases hopener : isOpener c = true
          -- an opening bracket is the awaited one, or nothing is found
          · have hac := eq_of_openGroup hopener hclose hquote h
            subst hac
            exact ⟨[], s, rfl, .nil, h⟩
          · have hescaped : isQuote c = true → isEscaped s = true := by
              intro hq
              simpa [hq] using hquote
            have hopen : isOpener c = false := by simpa using hopener
            rw [openGroup_other hescaped hclose hopen] at h
            obtain ⟨x, s', rfl, hx, hfound⟩ := ih s.length hlt ha h rfl
            rw [isEscaped_append_cons ha] at hescaped
            exact ⟨x ++ [c], s', by simp, .other hx hopen hclose hescaped, hfound⟩

/-- A group is found exactly where brackets match, read from the right. -/
theorem openGroup_eq_some {c o : Char} {s p : Text} (hc : (opener? c).isSome = true) :
    openGroup [] none (c :: s) = some (o, p) ↔
      ∃ g, c :: s = g.reverse ++ p ∧ Bracketed o g := by
  obtain ⟨a, ha⟩ := Option.isSome_iff_exists.1 hc
  obtain ⟨hopen, hnone, hquote, hback⟩ := opener_plain ha
  have hend (t : Text) : openGroup [a] none (a :: t) = some (a, t) := by
    simp [openGroup, hopen, hnone, hquote]
  constructor
  · intro h
    rw [openGroup_close ha] at h
    obtain ⟨inner, t, rfl, hinner, hfound⟩ := inside_of_openGroup hback h
    rw [hend] at hfound
    cases hfound
    exact ⟨o :: inner ++ [c], by simp, .mk ha hinner⟩
  · rintro ⟨g, hg, hbracketed⟩
    cases hbracketed with
    | @mk c' inner hc' hinner =>
      have hrev : (o :: inner ++ [c']).reverse ++ p = c' :: (inner.reverse ++ o :: p) := by simp
      rw [hrev] at hg
      cases hg
      rw [ha] at hc'
      cases hc'
      rw [openGroup_close ha, openGroup_inside hinner hback, hend]

/-! ## Operands -/

/-- The word that ends at a place stands whole. -/
theorem wordBefore_whole (s : Text) :
    s = (wordBefore s).1.reverse ++ (wordBefore s).2 ∧
      (∀ c ∈ (wordBefore s).1, isIdentChar c = true) ∧ StopsAt isIdentChar (wordBefore s).2 := by
  refine ⟨by simp [wordBefore], ?_, Text.stopsAt_dropWhile s⟩
  intro c hc
  exact List.all_eq_true.1 List.all_takeWhile c (List.mem_reverse.1 hc)

theorem Bracketed.closes {o : Char} {g : Text} (h : Bracketed o g) :
    ∃ c r, g.reverse = c :: r ∧ opener? c = some o := by
  cases h with
  | @mk c inner hc _ => exact ⟨c, inner.reverse ++ [o], by simp, hc⟩

/-- The item that ends at a place is an operand, where its beginning may stand. -/
theorem Operand.of_item {c : Char} {u p : Text} (hu : Item c u) (hp : Fits c p) :
    Operand.of (u.reverse ++ p) = some ⟨c, p⟩ := by
  cases hu with
  | word hn => exact Operand.of_word hn (hp.unglued (hn.2 c List.mem_cons_self))
  | @string body hq hbody =>
    obtain ⟨hback, hopen⟩ := quote_plain hq
    have hrev : (c :: body ++ [c]).reverse ++ p = c :: (body.reverse ++ c :: p) := by simp
    have hstring := (openString_eq_some hback).2 ⟨body, rfl, hbody, hp.unescaped hq⟩
    rw [hrev]
    simp [Operand.of, hopen, hq, hstring]
  | group hg =>
    obtain ⟨e, r, hrev, he⟩ := hg.closes
    have hsome : (opener? e).isSome = true := by rw [he]; rfl
    rw [hrev, List.cons_append]
    have hgroup : openGroup [] none (e :: (r ++ p)) = some (c, p) :=
      (openGroup_eq_some hsome).2 ⟨u, by rw [hrev, List.cons_append], hg⟩
    simp [Operand.of, hsome, hgroup]

/-- The operand that ends at a place is the item that ends there. -/
theorem Operand.of_eq_some {s : Text} {o : Operand} :
    Operand.of s = some o ↔
      ∃ u, s = u.reverse ++ o.before ∧ Item o.first u ∧ Fits o.first o.before := by
  constructor
  · intro h
    cases s with
    | nil => cases h
    | cons e r =>
      rw [Operand.of] at h
      split at h
      · next hclose =>
        obtain ⟨⟨c, p⟩, hfound, rfl⟩ := Option.map_eq_some_iff.1 h
        obtain ⟨g, hg, hbracketed⟩ := (openGroup_eq_some hclose).1 hfound
        obtain ⟨e', -, -, he'⟩ := hbracketed.closes
        exact ⟨g, hg, .group hbracketed, .opener he' p⟩
      split at h
      · next hq =>
        obtain ⟨p, hfound, rfl⟩ := Option.map_eq_some_iff.1 h
        obtain ⟨body, rfl, hbody, hp⟩ := (openString_eq_some (quote_plain hq).1).1 hfound
        refine ⟨e :: body ++ [e], by simp, .string hq hbody, fun hident => ?_, fun _ => hp⟩
        rw [Text.isQuote_of_isIdentChar hident] at hq
        cases hq
      split at h
      · next hident =>
        cases h
        -- the word is the whole run, so it begins with the last character of the run read backwards
        obtain ⟨hrun, hword, hstop⟩ := wordBefore_whole (e :: r)
        obtain ⟨c, t, hn⟩ := List.exists_cons_of_ne_nil
          (show (wordBefore (e :: r)).1 ≠ [] by simp [wordBefore, hident])
        have hlast : ((e :: r).takeWhile isIdentChar).getLastD e = c := by
          rw [← List.reverse_reverse (List.takeWhile isIdentChar (e :: r)),
            show ((e :: r).takeWhile isIdentChar).reverse = c :: t from hn, List.reverse_cons,
            List.getLastD_concat]
        have hbefore : r.dropWhile isIdentChar = (wordBefore (e :: r)).2 := by
          simp [wordBefore, hident]
        rw [hn] at hrun hword
        rw [hlast, hbefore]
        refine ⟨c :: t, hrun, .word ⟨List.cons_ne_nil c t, hword⟩, ?_⟩
        exact .name (hword c List.mem_cons_self) hstop
      · cases h
  · rintro ⟨u, rfl, hu, hp⟩
    exact Operand.of_item hu hp

/-! ## The cursor -/

/-- With the cursor in the text, the scan begins where the cursor is. -/
theorem boundary_eq {text : Text} {point : Nat} (h : point ≤ text.length) :
    boundary text point = match beforeExpression (beforeCursor text point) with
      | some before => .ok before.length
      | none => .error (.noExpression point) := by
  have hinside : ¬ ((point : Int) < 0 ∨ (text.length : Int) < point) := by omega
  exact if_neg (by simpa using hinside)

end ReplDriver.Expression
