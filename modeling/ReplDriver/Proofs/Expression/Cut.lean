import ReplDriver.Proofs.Expression.Snippets

/-!
# Cutting a text where an expression begins

The scanner looks to the left of almost every place it comes to: whether backslashes escape a
quote, where a word begins, whether an arrow, a keyword or a value stands there. Here the text is
cut where the scan ends. No step of the scan has then depended on what stands before the cut.

* `Cut p q`: the text `q` may be cut off from the text `p` before it.
* `Operand.of_cut`, `Operand.chainStep_agrees`, `unaryStep_cut`: every step of the scan that leads
  to a place after the cut is taken without the text before it, too.
* `beforeExpression_cut`: so the scan of the expression alone finds all of it.

Beyond the cut the two texts differ, so a step that leads there may be taken in one and not in the
other. It does not come to that: the scan of the whole text ends at the cut, and so every place it
comes to lies after the cut.
-/

namespace ReplDriver.Expression

open Text (isBlank isQuote isIdentChar isBlankText StopsAt)

/-! ## Where a text may be cut -/

/-- Characters with which a snippet begins. -/
def beginsSnippet (c : Char) : Bool :=
  isIdentChar c || isQuote c || isOpener c || c == '!' || c == '+' || c == '-'

/-- The text `q` may be cut off from the text `p` before it: read backwards, it ends with the first
character of a snippet, and no word is torn apart. -/
def Cut (p q : Text) : Prop :=
  ∀ c, q.getLast? = some c →
    beginsSnippet c = true ∧ (isIdentChar c = true → StopsAt isIdentChar p)

theorem beginsSnippet_plain {c : Char} (h : beginsSnippet c = true) :
    isBlank c = false ∧ c ≠ '\\' := by
  simp only [beginsSnippet, Bool.or_eq_true, beq_iff_eq] at h
  rcases h with ((((h | h) | h) | rfl) | rfl) | rfl
  · exact ⟨Text.isBlank_of_isIdentChar h, Text.ne_of_class h (by decide)⟩
  · rcases isQuote_cases h with rfl | rfl | rfl <;> decide
  · have hc : c = '(' ∨ c = '[' ∨ c = '\x7b' := by simpa [isOpener, or_assoc] using h
    rcases hc with rfl | rfl | rfl <;> decide
  all_goals decide

theorem Item.begins {c : Char} {u : Text} (h : Item c u) : beginsSnippet c = true := by
  cases h with
  | word hn => simp [beginsSnippet, hn.2 c List.mem_cons_self]
  | string hq _ => simp [beginsSnippet, hq]
  | group hg =>
    obtain ⟨e, r, -, he⟩ := hg.closes
    simp [beginsSnippet, (opener_plain he).1]

theorem Items.begins {c : Char} {x : Text} (h : Items c x) : beginsSnippet c = true := by
  cases h with
  | one hu | arrow hu _ _ _ | member hu _ _ | next hu _ _ _ => exact hu.begins

theorem Snippet.begins {c : Char} {x : Text} (h : Snippet c x) : beginsSnippet c = true := by
  cases h with
  | items hx => exact hx.begins
  | function _ _ _ | async _ _ _ _ _ => decide
  | sign ho _ _ => rcases ho with rfl | rfl | rfl <;> decide
  | word ho _ _ _ =>
    obtain ⟨⟨-, hall⟩, -⟩ := unaryWords_plain ho
    simp [beginsSnippet, hall _ List.mem_cons_self]

namespace Cut

variable {p q u : Text}

theorem nil : Cut p [] := by
  intro c hc
  cases hc

theorem suffix (h : Cut p (u ++ q)) : Cut p q := by
  intro c hc
  apply h
  rw [List.getLast?_append, hc]
  rfl

/-- What the scanner has passed over may be cut off. -/
theorem of_passed {s : Text} {c : Char} (h : Passed Snippet s ⟨c, p⟩) :
    ∃ x, s = x ++ p ∧ Cut p x := by
  obtain ⟨x, rfl, hx, hstop⟩ := h
  refine ⟨x.reverse, rfl, fun d hd => ?_⟩
  rw [List.getLast?_reverse, hx.head.1] at hd
  cases hd
  exact ⟨hx.begins, hstop⟩

/-- Blanks are passed over alike with and without the text before. -/
theorem skipBlanks_eq (h : Cut p q) (hne : q ≠ []) :
    ∃ c r, skipBlanks q = c :: r ∧ skipBlanks (q ++ p) = c :: (r ++ p) ∧ Cut p (c :: r) := by
  obtain ⟨w, hw, hq⟩ := exists_blanks q
  have hskip : skipBlanks q ≠ [] := by
    intro hnil
    rw [hnil, List.append_nil] at hq
    have hlast := List.getLast?_eq_some_getLast hne
    have hblank := Text.isBlankText_iff.1 hw (q.getLast hne)
      (List.mem_reverse.1 (hq ▸ List.getLast_mem hne))
    rw [(beginsSnippet_plain (h _ hlast).1).1] at hblank
    cases hblank
  obtain ⟨c, r, hcr⟩ := List.exists_cons_of_ne_nil hskip
  rw [hcr] at hq
  refine ⟨c, r, hcr, ?_, ?_⟩
  · have hstop := stopsAt_skipBlanks q
    rw [hcr] at hstop
    rw [hq, List.append_assoc, skipBlanks_blanks hw, List.cons_append,
      skipBlanks_cons (hstop c rfl)]
  · rw [hq] at h
    exact h.suffix

/-- A word is read alike with and without the text before. -/
theorem wordBefore_eq {c : Char} {r : Text} (h : Cut p (c :: r)) :
    wordBefore (c :: (r ++ p)) = ((wordBefore (c :: r)).1, (wordBefore (c :: r)).2 ++ p) ∧
      Cut p (wordBefore (c :: r)).2 := by
  obtain ⟨hrun, hident, hstop⟩ := wordBefore_whole (c :: r)
  rw [← List.cons_append]
  generalize wordBefore (c :: r) = read at hrun hident hstop ⊢
  obtain ⟨n, s⟩ := read
  rw [hrun] at h
  refine ⟨?_, h.suffix⟩
  rw [hrun, List.append_assoc]
  apply wordBefore_word hident
  cases s with
  | cons d s =>
    intro e he
    exact hstop e he
  | nil =>
    -- the whole text is a word, which does not go on before the cut
    cases n with
    | nil => cases hrun
    | cons d n => exact (h d (by simp)).2 (hident d List.mem_cons_self)

/-- An item may stand after `q` alone where it may stand after `p` and `q`. -/
theorem fits {c : Char} (h : Cut p q) (hc : Fits c (q ++ p)) : Fits c q := by
  rcases List.eq_nil_or_concat q with rfl | ⟨q, d, rfl⟩
  · exact ⟨fun _ => .nil, fun _ => rfl⟩
  rw [List.concat_eq_append] at h hc ⊢
  have hback := (beginsSnippet_plain (h d (by simp)).1).2
  constructor
  · intro hident e he
    apply hc.unglued hident e
    rw [List.head?_append, he]
    rfl
  · intro hquote
    have hescaped := hc.unescaped hquote
    rw [List.append_assoc, List.singleton_append] at hescaped
    rwa [isEscaped_append_cons hback] at hescaped ⊢

end Cut

namespace Operand

variable {p q : Text}

/-- An operand is found alike with and without the text before. -/
theorem of_cut {t : Text} {c : Char} (ht : Cut p t) (h : of (t ++ p) = some ⟨c, q ++ p⟩) :
    of t = some ⟨c, q⟩ := by
  obtain ⟨u, hu, hitem, hfits⟩ := of_eq_some.1 h
  dsimp only at hu hitem hfits
  rw [← List.append_assoc] at hu
  obtain rfl := List.append_cancel_right hu
  exact of_item hitem (ht.suffix.fits hfits)

/-- The blanks before it are passed over first. -/
theorem of_skipBlanks_cut {t : Text} {c : Char} (ht : Cut p t)
    (h : of (skipBlanks (t ++ p)) = some ⟨c, q ++ p⟩) : of (skipBlanks t) = some ⟨c, q⟩ := by
  by_cases hne : t = []
  -- what stands before the cut holds no operand that ends there
  · have hlength := of_length h
    have hblanks := skipBlanks_length p
    simp only [hne, List.nil_append, List.length_append] at hlength
    omega
  · obtain ⟨d, r, hskip, hskip', hcut⟩ := ht.skipBlanks_eq hne
    rw [hskip', ← List.cons_append] at h
    rw [hskip]
    exact of_cut hcut h

theorem withAsync_cut {r : Text} {f c : Char} (hr : Cut p r)
    (h : withAsync ⟨f, r ++ p⟩ = ⟨c, q ++ p⟩) : withAsync ⟨f, r⟩ = ⟨c, q⟩ := by
  by_cases hne : r = []
  · subst hne
    rw [List.nil_append] at h
    rcases withAsync_cases ⟨f, p⟩ with hsame | ⟨v, p', hv, -, -, hasync⟩
    · rw [hsame] at h
      obtain ⟨rfl, hq⟩ := Operand.mk.inj h
      obtain rfl : q = [] := by simpa using hq
      rfl
    -- a word that is taken along leaves less than the text before the cut
    · rw [hasync] at h
      obtain ⟨-, rfl⟩ := Operand.mk.inj h
      have hlength := congrArg List.length hv
      simp only [List.length_append, List.length_reverse] at hlength
      have hword : 0 < "async".toList.length := by decide
      omega
  · obtain ⟨d, t, hskip, hskip', hcut⟩ := hr.skipBlanks_eq hne
    obtain ⟨hword, -⟩ := hcut.wordBefore_eq
    simp only [withAsync, hskip, hskip', hword] at h ⊢
    split at h
    · next hasync =>
      obtain ⟨rfl, hq⟩ := Operand.mk.inj h
      rw [if_pos hasync, List.append_cancel_right hq]
    · next hasync =>
      obtain ⟨rfl, hq⟩ := Operand.mk.inj h
      rw [if_neg hasync, List.append_cancel_right hq]

/-- A step in a text before which `p` stands, and the step without it: where the one leads to a
place after `p`, the other leads there too. -/
structure Step.Agrees (p : Text) (s s' : Step) : Prop where
  on : ∀ {c q}, s = .on ⟨c, q ++ p⟩ → s' = .on ⟨c, q⟩
  last : ∀ {c q}, s = .last ⟨c, q ++ p⟩ → s' = .last ⟨c, q⟩

theorem Step.Agrees.stay (s' : Step) : Agrees p .stay s' := by
  constructor <;> intro c q h <;> cases h

theorem Step.Agrees.ofOperand? {a b : Option Operand}
    (h : ∀ {c q}, a = some ⟨c, q ++ p⟩ → b = some ⟨c, q⟩) :
    Agrees p (.ofOperand? a) (.ofOperand? b) := by
  constructor
  · intro c q hon
    rw [h (ofOperand?_on hon)]
    rfl
  · intro c q hlast
    cases a <;> cases hlast

/-- A step to the left is taken alike with and without the text before. -/
theorem chainStep_agrees {f : Char} (hq : Cut p q) (hne : q ≠ []) :
    (chainStep ⟨f, q ++ p⟩).Agrees p (chainStep ⟨f, q⟩) := by
  obtain ⟨c, r, hskip, hskip', hcut⟩ := hq.skipBlanks_eq hne
  obtain ⟨hword, hbefore⟩ := hcut.wordBefore_eq
  simp only [chainStep, hskip, hskip', hword]
  split
  -- the word `function`, and `async` before it
  · constructor <;> intro d t h
    · cases h
    · injection h with h
      rw [withAsync_cut hbefore h]
  split
  -- a dot, which no snippet begins with, so more of `q` stands before it
  · next hdot =>
    obtain rfl : c = '.' := eq_of_beq hdot
    cases r with
    | nil => exact absurd (hcut '.' rfl).1 (by decide)
    | cons d r =>
      have hrest : Cut p r := hcut.suffix (u := ['.', d])
      rw [List.cons_append]
      split
      · next hmark =>
        cases hmark
        exact .ofOperand? (of_skipBlanks_cut hrest)
      · next hdots =>
        cases hdots
        exact .stay _
      · next hmark hdots =>
        split
        · next hd => cases hd; exact (hmark _ rfl).elim
        · next hd => cases hd; exact (hdots _ rfl).elim
        · rw [← List.cons_append]
          exact .ofOperand? (of_skipBlanks_cut (hcut.suffix (u := ['.'])))
  split
  · exact .stay _
  split
  -- a word
  · split
    · exact .stay _
    · constructor <;> intro d t h
      · injection h with h
        obtain ⟨rfl, ht⟩ := Operand.mk.inj h
        rw [List.append_cancel_right ht]
      · cases h
  split
  -- the end of a group or string
  · rw [← List.cons_append]
    exact .ofOperand? (of_cut hcut)
  · exact .stay _

/-! ## Places to the left -/

theorem withAsync_suffix (o : Operand) : o.withAsync.before <:+ o.before := by
  rcases withAsync_cases o with hsame | ⟨v, p, hv, -, -, hasync⟩
  · exact ⟨[], by rw [hsame, List.nil_append]⟩
  · rw [hasync, hv, ← List.append_assoc]
    exact List.suffix_append _ _

/-- A step to the left leads to a place before the operand. -/
theorem chainStep_suffix {o o' : Operand} (h : chainStep o = .on o' ∨ chainStep o = .last o') :
    o'.before <:+ o.before ∧ o'.before.length < o.before.length := by
  rcases h with h | h
  · obtain ⟨u, j, hbefore, -⟩ := chainStep_on h
    refine ⟨?_, chainStep_length h⟩
    rw [hbefore, ← List.append_assoc]
    exact List.suffix_append _ _
  · obtain ⟨w, s, hbefore, -, -, rfl⟩ := chainStep_last h
    have hs := withAsync_suffix ⟨'f', s⟩
    constructor
    · rw [hbefore, ← List.append_assoc]
      exact hs.trans (List.suffix_append _ _)
    · have hle : _ ≤ s.length := hs.length_le
      have hlength := congrArg List.length hbefore
      simp only [List.length_append, List.length_reverse] at hlength
      have hword : 0 < "function".toList.length := by decide
      omega

theorem extend_suffix (o : Operand) : o.extend.before <:+ o.before := by
  induction hn : o.before.length using Nat.strongRecOn generalizing o with
  | ind n ih =>
    subst hn
    cases hstep : chainStep o with
    | stay => exact ⟨[], by rw [extend_stay hstep, List.nil_append]⟩
    | last o' =>
      rw [extend_last hstep]
      exact (chainStep_suffix (.inr hstep)).1
    | on o' =>
      obtain ⟨hsuffix, hlt⟩ := chainStep_suffix (.inl hstep)
      rw [extend_on hstep]
      exact (ih _ hlt o' rfl).trans hsuffix

end Operand

/-! ## Prefix operators -/

variable {p q : Text}

theorem skipUnary_suffix (s : Text) : skipUnary s <:+ s := by
  induction hn : s.length using Nat.strongRecOn generalizing s with
  | ind n ih =>
    subst hn
    cases hstep : unaryStep s with
    | none => exact ⟨[], by rw [skipUnary_none hstep, List.nil_append]⟩
    | some r =>
      obtain ⟨w, o, k, hs, -⟩ := unaryStep_some hstep
      rw [skipUnary_some hstep]
      refine (ih _ (unaryStep_length hstep) r rfl).trans ?_
      rw [hs, ← List.append_assoc]
      exact List.suffix_append _ _

/-- A sign that joins no two values with the text before joins none without it. -/
theorem isBinaryAfter_cut (hq : Cut p q) (h : isBinaryAfter (q ++ p) = false) :
    isBinaryAfter q = false := by
  by_cases hne : q = []
  · subst hne; rfl
  · obtain ⟨c, r, hskip, hskip', hcut⟩ := hq.skipBlanks_eq hne
    obtain ⟨hword, -⟩ := hcut.wordBefore_eq
    simpa only [isBinaryAfter, hskip, hskip', hword, List.head?_cons] using h

/-- A prefix operator is found alike with and without the text before. -/
theorem unaryStep_cut {r : Text} (hq : Cut p q) (hne : q ≠ [])
    (h : unaryStep (q ++ p) = some (r ++ p)) : unaryStep q = some r := by
  obtain ⟨c, t, hskip, hskip', hcut⟩ := hq.skipBlanks_eq hne
  obtain ⟨hword, -⟩ := hcut.wordBefore_eq
  have hrest {s : Text} (hs : some (s ++ p) = some (r ++ p)) : some s = some r :=
    congrArg some (List.append_cancel_right (Option.some.inj hs))
  simp only [unaryStep, hskip, hskip', hword] at h ⊢
  split at h
  · next hsome =>
    rw [if_pos hsome]
    split at h
    · next hunary =>
      rw [if_pos hunary]
      exact hrest h
    · cases h
  · next hsome =>
    rw [if_neg hsome]
    split at h
    · next hbang =>
      rw [if_pos hbang]
      exact hrest h
    · next hbang =>
      rw [if_neg hbang]
      split at h
      · next hsign =>
        simp only [Bool.and_eq_true, Bool.not_eq_true'] at hsign
        have hbinary := isBinaryAfter_cut (hcut.suffix (u := [c])) hsign.2
        rw [if_pos (by simp [hsign.1, hbinary])]
        exact hrest h
      · cases h

/-- Where the scan over prefix operators ends, it has come over one, or it was there from the
start. -/
theorem unaryStep_of_skipUnary (hq : Cut p q) (h : skipUnary (q ++ p) = p) :
    q = [] ∨ ∃ r, unaryStep (q ++ p) = some (r ++ p) ∧ unaryStep q = some r ∧ Cut p r ∧
      r.length < q.length := by
  by_cases hne : q = []
  · exact .inl hne
  cases hstep : unaryStep (q ++ p) with
  | none =>
    rw [skipUnary_none hstep] at h
    exact .inl (by simpa using h)
  | some s =>
    rw [skipUnary_some hstep] at h
    obtain ⟨r, rfl⟩ := h ▸ skipUnary_suffix s
    have hlength := unaryStep_length hstep
    obtain ⟨w, o, k, hs, -⟩ := unaryStep_some hstep
    rw [← List.append_assoc, ← List.append_assoc] at hs
    refine .inr ⟨r, rfl, unaryStep_cut hq hne hstep, ?_, by simpa using hlength⟩
    rw [List.append_cancel_right hs] at hq
    exact hq.suffix

/-- The scan over prefix operators that ends at the cut takes all of the text after it. -/
theorem skipUnary_cut (hq : Cut p q) (h : skipUnary (q ++ p) = p) : skipUnary q = [] := by
  induction hn : q.length using Nat.strongRecOn generalizing q with
  | ind n ih =>
    subst hn
    rcases unaryStep_of_skipUnary hq h with rfl | ⟨r, hstep, hstep', hr, hlt⟩
    · exact skipUnary_none rfl
    · rw [skipUnary_some hstep] at h
      rw [skipUnary_some hstep']
      exact ih _ hlt hr h rfl

/-- No chain goes on over a prefix operator. -/
theorem chainStep_of_unaryStep {f : Char} {s r : Text} (h : unaryStep s = some r) :
    Operand.chainStep ⟨f, s⟩ = .stay := by
  obtain ⟨w, o, k, rfl, hw, ⟨rfl, hsign⟩ | ⟨hk, hr⟩⟩ := unaryStep_some h
  · have hplain : isBlank o = false ∧ isIdentChar o = false ∧ o ≠ '.' ∧ endsValue o = false ∧
        o ≠ '\\' := by
      rcases hsign with rfl | rfl | rfl <;> decide
    obtain ⟨hblank, hident, hdot, hvalue, hback⟩ := hplain
    exact (Opening.mark hblank hident hdot (fun h => absurd h (by simp [hvalue]))
      (fun h => absurd h hback) hw r).stays
  · obtain ⟨hword, hstatement, hfunction, -⟩ := unaryWords_plain hk
    obtain ⟨e, t, hrev, he⟩ := hword.reverse_eq
    have hdot : e ≠ '.' := Text.ne_of_class he (by decide)
    have hcons : (o :: k).reverse ++ r = e :: (t ++ r) := by rw [hrev, List.cons_append]
    simp only [Operand.chainStep, skipBlanks_word hw hword r, wordBefore_word hword.2 hr]
    rw [hcons]
    dsimp only
    rw [if_neg (by simpa using hfunction), if_neg (by simpa using hdot)]
    simp [hstatement]

namespace Operand

/-- A place before an operand that lies after the cut leaves something between the two. -/
theorem ne_nil_of_length_lt {q' : Text} (h : (q' ++ p).length < (q ++ p).length) : q ≠ [] := by
  rintro rfl
  simp only [List.nil_append, List.length_append] at h
  omega

/-- The chain that an operand belongs to begins at the same operand without the text before, if
it begins after the cut. -/
theorem extend_cut {o : Operand} {d : Text} (ho : o.before = q ++ p) (hq : Cut p q)
    (hend : o.extend.before = d ++ p) (hunary : skipUnary (d ++ p) = p) :
    extend ⟨o.first, q⟩ = ⟨o.extend.first, d⟩ := by
  induction hn : q.length using Nat.strongRecOn generalizing o q with
  | ind n ih =>
    subst hn
    obtain ⟨f, b⟩ := o
    dsimp only at ho ⊢
    subst ho
    cases hstep : chainStep ⟨f, q ++ p⟩ with
    | stay =>
      rw [extend_stay hstep] at hend ⊢
      obtain rfl := List.append_cancel_right hend
      refine extend_stay ?_
      rcases unaryStep_of_skipUnary hq hunary with rfl | ⟨r, -, hr, -⟩
      · rfl
      · exact chainStep_of_unaryStep hr
    | last o' =>
      obtain ⟨-, hlt⟩ := chainStep_suffix (.inr hstep)
      rw [extend_last hstep] at hend ⊢
      obtain ⟨c, b⟩ := o'
      dsimp only at hend
      subst hend
      have hne := ne_nil_of_length_lt hlt
      exact extend_last ((chainStep_agrees hq hne).last hstep)
    | on o' =>
      obtain ⟨hsuffix, hlt⟩ := chainStep_suffix (.inl hstep)
      rw [extend_on hstep] at hend ⊢
      obtain ⟨c, b⟩ := o'
      -- the operand that comes next stands after the cut, as what the chain begins with does
      obtain ⟨q', rfl⟩ : ∃ q', b = q' ++ p := by
        obtain ⟨t, ht⟩ := hend ▸ extend_suffix ⟨c, b⟩
        exact ⟨t ++ d, by rw [List.append_assoc]; exact ht.symm⟩
      obtain ⟨t, ht⟩ := hsuffix
      dsimp only at ht hlt
      rw [← List.append_assoc] at ht
      have hq' : Cut p q' := (List.append_cancel_right ht ▸ hq).suffix
      have hne := ne_nil_of_length_lt hlt
      rw [extend_on ((chainStep_agrees hq hne).on hstep)]
      exact ih _ (by simpa using hlt) (o := ⟨c, q' ++ p⟩) rfl hq' hend rfl

/-- An arrow function is found alike with and without the text before. -/
theorem arrowFunction_cut {t : Text} {o : Operand} (ht : Cut p t)
    (h : arrowFunction (t ++ p) = some o) (ho : o.before = q ++ p) :
    arrowFunction t = some ⟨o.first, q⟩ := by
  obtain ⟨x, hs, hx, -⟩ := arrowFunction_passed h
  rw [ho, ← List.append_assoc] at hs
  obtain rfl := List.append_cancel_right hs
  -- the text after the cut is not empty, so it is what ends with the block
  have hne : x.reverse ++ q ≠ [] := by
    have hhead := hx.head.1
    cases x with
    | nil => cases hhead
    | cons => simp
  obtain ⟨e, r, hrev⟩ := List.exists_cons_of_ne_nil hne
  rw [hrev] at h ht ⊢
  rw [List.cons_append] at h
  unfold arrowFunction at h
  split at h
  · next s heq =>
    obtain ⟨rfl, rfl⟩ := List.cons.inj heq
    obtain ⟨⟨c, before⟩, hgroup, h⟩ := Option.bind_eq_some_iff.1 h
    dsimp only at h
    split at h
    · next parameters hskip =>
      obtain ⟨o', hof, rfl⟩ := Option.map_eq_some_iff.1 h
      -- everything that is found stands after the cut, as the beginning of the function does
      obtain ⟨q', hq'⟩ : ∃ q', o'.before = q' ++ p := by
        obtain ⟨z, hz⟩ := withAsync_suffix o'
        exact ⟨z ++ q, by rw [← hz, ho, List.append_assoc]⟩
      obtain ⟨v, rfl⟩ : ∃ v, parameters = v ++ q' ++ p := by
        obtain ⟨w, -, hw⟩ := exists_blanks parameters
        obtain ⟨u, hu, -⟩ := of_eq_some.1 hof
        exact ⟨w.reverse ++ u.reverse, by
          rw [hw, hu, hq', List.append_assoc, List.append_assoc]⟩
      obtain ⟨w, hw, hbefore⟩ := exists_blanks before
      obtain ⟨g, hg, hbracketed⟩ := (openGroup_eq_some (by decide)).1 hgroup
      rw [hskip] at hbefore
      have hblock : '\x7d' :: r = g.reverse ++ (w.reverse ++ '>' :: '=' :: (v ++ q')) := by
        have hwhole : '\x7d' :: r ++ p =
            g.reverse ++ (w.reverse ++ '>' :: '=' :: (v ++ q')) ++ p := by
          rw [List.cons_append, hg, hbefore]
          simp
        exact List.append_cancel_right hwhole
      have hcut : Cut p (v ++ q') := by
        rw [hblock] at ht
        exact (ht.suffix (u := g.reverse)).suffix.suffix (u := ['>', '='])
      have hgroup' := (openGroup_eq_some (by decide)).2 ⟨g, hblock, hbracketed⟩
      have hskip' : skipBlanks (w.reverse ++ '>' :: '=' :: (v ++ q')) = '>' :: '=' :: (v ++ q') :=
        skipBlanks_mark hw (by decide) _
      obtain ⟨f, b⟩ := o'
      dsimp only at hq'
      subst hq'
      have hof' := of_skipBlanks_cut hcut hof
      have hasync := withAsync_cut (c := (withAsync ⟨f, q' ++ p⟩).first) hcut.suffix (by rw [← ho])
      simp [arrowFunction, hgroup', hskip', hof', hasync]
    · cases h
  · cases h

/-- Where an arrow function ends, an arrow stands before the block that is found there. -/
theorem arrow_before_block {s b : Text} {o : Operand} {c : Char} (harrow : arrowFunction s = some o)
    (hof : of s = some ⟨c, b⟩) : ∃ r, skipBlanks b = '>' :: r := by
  unfold arrowFunction at harrow
  split at harrow
  · obtain ⟨⟨c', before⟩, hgroup, h⟩ := Option.bind_eq_some_iff.1 harrow
    obtain ⟨⟨c'', b'⟩, hgroup', hb⟩ := Option.map_eq_some_iff.1 hof
    rw [hgroup] at hgroup'
    cases hgroup'
    cases hb
    dsimp only at h
    split at h
    · next hskip => exact ⟨_, hskip⟩
    · cases h
  · cases harrow

end Operand

/-! ## The boundary -/

/-- Neither a chain nor a prefix operator goes on over an arrow. -/
theorem stays_before_arrow {f : Char} {s r : Text} (h : skipBlanks s = '>' :: r) :
    Operand.chainStep ⟨f, s⟩ = .stay ∧ unaryStep s = none := by
  obtain ⟨w, hw, hs⟩ := exists_blanks s
  rw [h] at hs
  constructor
  · rw [hs]
    exact (Opening.mark (by decide) (by decide) (by decide) (fun h => absurd h (by decide))
      (fun h => absurd h (by decide)) hw r).stays
  · simp [unaryStep, h, wordBefore_none (StopsAt.cons (show isIdentChar '>' = false by decide) r)]

/-- Where the scan goes on from a block to the cut, the text after the cut is no arrow function:
the scan would not leave a block that an arrow stands before. -/
theorem arrowFunction_cut_eq_none {x : Text} {c : Char} (hof : Operand.of x = some ⟨c, q⟩)
    (hq : Cut p q) (hend : skipUnary (Operand.extend ⟨c, q ++ p⟩).before = p) :
    Operand.arrowFunction x = none := by
  cases harrow : Operand.arrowFunction x with
  | none => rfl
  | some o =>
    obtain ⟨r, hr⟩ := Operand.arrow_before_block harrow hof
    have hne : q ≠ [] := by
      rintro rfl
      cases hr
    obtain ⟨d, t, hskip, hskip', -⟩ := hq.skipBlanks_eq hne
    rw [hskip] at hr
    cases hr
    obtain ⟨hstay, hnone⟩ := stays_before_arrow (f := c) hskip'
    rw [Operand.extend_stay hstay, skipUnary_none hnone] at hend
    exact absurd (by simpa using hend) hne

/-- From an operand from which the scan comes to the cut, it comes to the end of the text that has
been cut off. -/
theorem scan_cut {x y : Text} {o : Operand} (hx : Cut p x) (ho : x ++ p = y ++ o.before)
    (hend : skipUnary o.extend.before = p) :
    ∃ q, o.before = q ++ p ∧ Cut p q ∧ skipUnary (Operand.extend ⟨o.first, q⟩).before = [] := by
  obtain ⟨d, hd⟩ : p <:+ o.extend.before := hend ▸ skipUnary_suffix _
  obtain ⟨z, hz⟩ := Operand.extend_suffix o
  rw [← hd, ← List.append_assoc] at hz
  rw [← hz, ← List.append_assoc] at ho
  obtain rfl := List.append_cancel_right ho
  have hq : Cut p (z ++ d) := hx.suffix
  rw [← hd] at hend
  refine ⟨z ++ d, hz.symm, hq, ?_⟩
  rw [Operand.extend_cut hz.symm hq hd.symm hend]
  exact skipUnary_cut hq.suffix hend

/-- What stands before the boundary has no part in finding it. -/
theorem beforeExpression_cut {s : Text} (h : beforeExpression s = some p) :
    ∃ x, s = x ++ p ∧ beforeExpression x = some [] := by
  obtain ⟨hnone, -⟩ | ⟨c, p', hsome, hpassed⟩ := beforeExpression_passed s
  · rw [hnone] at h
    cases h
  rw [h] at hsome
  cases hsome
  obtain ⟨x, rfl, hx⟩ := Cut.of_passed hpassed
  refine ⟨x, rfl, ?_⟩
  unfold beforeExpression at h ⊢
  cases harrow : Operand.arrowFunction (x ++ p) with
  | some o =>
    rw [harrow] at h
    obtain ⟨y, hy, -⟩ := Operand.arrowFunction_passed harrow
    obtain ⟨q, hq, -, hend⟩ := scan_cut hx hy (Option.some.inj h)
    rw [Operand.arrowFunction_cut hx harrow hq]
    exact congrArg some hend
  | none =>
    rw [harrow] at h
    obtain ⟨⟨c, b⟩, hof, hp⟩ := Option.map_eq_some_iff.1 h
    replace hof : Operand.of (x ++ p) = some ⟨c, b⟩ := hof
    obtain ⟨y, hy, -⟩ := Operand.of_eq_some.1 hof
    obtain ⟨q, rfl, hq, hend⟩ := scan_cut hx hy hp
    have hof' := Operand.of_cut hx hof
    rw [arrowFunction_cut_eq_none hof' hq hp, hof']
    exact congrArg some hend

end ReplDriver.Expression
