import ReplDriver.Proofs.Expression.Items
import ReplDriver.Proofs.Expression.Recognition

/-!
# What the boundary scanner finds

Whatever the text, the scanner either finds no expression or stops at the beginning of a snippet:
prefix operators, the words of a function, and then items that are joined into one expression.

* `Operand.chainStep_on`, `Operand.chainStep_last`: one step to the left passes over a joint and an
  item, or over the word `function`.
* `Operand.extend_passed`, `skipUnary_passed`: what the scanner has passed over is a snippet at
  every place at which it may stop. Besides, a word that it has passed over stands whole, so that
  no two words touch.
* `boundary_snippet`: the boundary is the beginning of a snippet, unless no item ends before the
  cursor.
-/

namespace ReplDriver.Expression

open Text (isBlank isQuote isIdentChar isBlankText StopsAt)

/-! ## The grammar -/

/-- Items from one that begins with `c` on. Two items are joined by blanks or by a dot; two words
do not touch. An arrow may stand before the last item, a block. -/
inductive Items : Char → Text → Prop where
  | one {c : Char} {u : Text} : Item c u → Items c u
  | arrow {c : Char} {u w w' block : Text} : Item c u → isBlankText w = true →
      isBlankText w' = true → Bracketed '\x7b' block →
      Items c (u ++ w ++ "=>".toList ++ w' ++ block)
  | member {c d : Char} {u dot r : Text} : Item c u → Dot dot → Items d r → Items c (u ++ dot ++ r)
  | next {c d : Char} {u w r : Text} : Item c u → isBlankText w = true →
      (w = [] → IsWord u → isIdentChar d = false) → Items d r → Items c (u ++ w ++ r)

/-- A snippet that begins with `c`: items, with the words of a function before them and prefix
operators before those. -/
inductive Snippet : Char → Text → Prop where
  | items {c : Char} {x : Text} : Items c x → Snippet c x
  | function {c : Char} {w x : Text} : isBlankText w = true → (w = [] → isIdentChar c = false) →
      Items c x → Snippet 'f' ("function".toList ++ w ++ x)
  | async {c : Char} {v w x : Text} : v ≠ [] → isBlankText v = true → isBlankText w = true →
      (w = [] → isIdentChar c = false) → Items c x →
      Snippet 'a' ("async".toList ++ v ++ "function".toList ++ w ++ x)
  | sign {o c : Char} {w x : Text} : o = '!' ∨ o = '+' ∨ o = '-' → isBlankText w = true →
      Snippet c x → Snippet o (o :: w ++ x)
  | word {o c : Char} {k w x : Text} : o :: k ∈ unaryWords → isBlankText w = true →
      (w = [] → isIdentChar c = false) → Snippet c x → Snippet o (o :: k ++ w ++ x)

/-- The text `t` up to the cursor without what follows the expression in it: blanks, and at most
one separator. -/
def Trimmed (t e : Text) : Prop :=
  ∃ w, t = e ++ w ∧ Trailing w ∧ StopsAt isBlank e.reverse ∧
    (isBlankText w = true → StopsAt isSeparator e.reverse)

/-- The scan has come from the end of the text `s` to an operand over a text of the grammar `P`,
and if that text begins with a word, the whole word belongs to it. -/
def Passed (P : Char → Text → Prop) (s : Text) (o : Operand) : Prop :=
  ∃ x, s = x.reverse ++ o.before ∧ P o.first x ∧
    (isIdentChar o.first = true → StopsAt isIdentChar o.before)

/-! ## Blanks and words before a place -/

/-- What is passed over as blanks is blank. -/
theorem exists_blanks (s : Text) : ∃ w, isBlankText w = true ∧ s = w.reverse ++ skipBlanks s := by
  refine ⟨(s.takeWhile isBlank).reverse, ?_, by simp [skipBlanks]⟩
  rw [Text.isBlankText_iff]
  intro c hc
  exact List.all_eq_true.1 List.all_takeWhile c (List.mem_reverse.1 hc)

theorem stopsAt_skipBlanks (s : Text) : StopsAt isBlank (skipBlanks s) :=
  Text.stopsAt_dropWhile s

/-- A word leaves no room for another one directly before it. -/
theorem not_stopsAt_word {n : Text} (hn : IsWord n) (s : Text) :
    ¬ StopsAt isIdentChar (n.reverse ++ s) := by
  obtain ⟨e, r, hrev, he⟩ := hn.reverse_eq
  rw [hrev]
  intro hstop
  rw [hstop e rfl] at he
  cases he

/-- Between a word that stands whole and a word before it there are blanks. -/
theorem unglued {c : Char} {n w p : Text} (hn : IsWord n)
    (hc : isIdentChar c = true → StopsAt isIdentChar (w.reverse ++ (n.reverse ++ p)))
    (hw : w = []) : isIdentChar c = false := by
  subst hw
  cases hident : isIdentChar c with
  | false => rfl
  | true => exact absurd (hc hident) (not_stopsAt_word hn p)

namespace Operand

/-- The operand that ends at a place is one item. -/
theorem of_passed {s : Text} {o : Operand} (h : of s = some o) : Passed Items s o := by
  obtain ⟨u, hs, hu, hfits⟩ := of_eq_some.1 h
  exact ⟨u, hs, .one hu, hfits.unglued⟩

/-! ## Steps along a chain -/

/-- A step to an operand that ends at a place. -/
theorem ofOperand?_on {p : Option Operand} {o : Operand} (h : Step.ofOperand? p = .on o) :
    p = some o := by
  unfold Step.ofOperand? at h
  split at h
  · cases h; rfl
  · cases h

/-- A step to the left passes over what joins two items, and over the item before it. -/
theorem chainStep_on {o o' : Operand} (h : chainStep o = .on o') :
    ∃ u j, o.before = j.reverse ++ (u.reverse ++ o'.before) ∧ Item o'.first u ∧
      Fits o'.first o'.before ∧ (Dot j ∨ isBlankText j = true) := by
  obtain ⟨w, hw, hbefore⟩ := exists_blanks o.before
  unfold chainStep at h
  simp only at h
  split at h
  · cases h
  · next c r hskip =>
    rw [hskip] at hbefore h
    split at h
    · cases h
    split at h
    · next hdot =>
      obtain rfl : c = '.' := eq_of_beq hdot
      split at h
      · next r' _ =>
        obtain ⟨w', hw', hr⟩ := exists_blanks r'
        obtain ⟨u, hu, hitem, hfits⟩ := of_eq_some.1 (ofOperand?_on h)
        rw [hu] at hr
        exact ⟨u, w' ++ '?' :: '.' :: w, by simp [hbefore, hr], hitem, hfits,
          .inl (.optional hw' hw)⟩
      · cases h
      · obtain ⟨w', hw', hr⟩ := exists_blanks r
        obtain ⟨u, hu, hitem, hfits⟩ := of_eq_some.1 (ofOperand?_on h)
        rw [hu] at hr
        exact ⟨u, w' ++ '.' :: w, by simp [hbefore, hr], hitem, hfits, .inl (.plain hw' hw)⟩
    split at h
    · cases h
    split at h
    · next hword =>
      split at h
      · cases h
      · cases h
        obtain ⟨hrun, hident, hstop⟩ := wordBefore_whole (c :: r)
        obtain ⟨a, n, hn⟩ := List.exists_cons_of_ne_nil
          (show (wordBefore (c :: r)).1 ≠ [] by simpa using hword)
        rw [hn] at hrun hident ⊢
        have hword : o.before = w.reverse ++ ((a :: n).reverse ++ (wordBefore (c :: r)).2) :=
          hbefore.trans (congrArg (w.reverse ++ ·) hrun)
        exact ⟨a :: n, w, hword, .word ⟨List.cons_ne_nil a n, hident⟩,
          .name (hident a List.mem_cons_self) hstop, .inr hw⟩
    split at h
    · obtain ⟨u, hu, hitem, hfits⟩ := of_eq_some.1 (ofOperand?_on h)
      exact ⟨u, w, by rw [hbefore, hu], hitem, hfits, .inr hw⟩
    · cases h

/-- A last step to the left passes over the word `function`. -/
theorem chainStep_last {o o' : Operand} (h : chainStep o = .last o') :
    ∃ w p, o.before = w.reverse ++ ("function".toList.reverse ++ p) ∧ isBlankText w = true ∧
      StopsAt isIdentChar p ∧ o' = withAsync ⟨'f', p⟩ := by
  have hoperand (t : Option Operand) : Step.ofOperand? t ≠ .last o' := by
    cases t <;> rintro ⟨⟩
  obtain ⟨w, hw, hbefore⟩ := exists_blanks o.before
  unfold chainStep at h
  simp only at h
  split at h
  · cases h
  · next c r hskip =>
    rw [hskip] at hbefore h
    split at h
    · next hword =>
      cases h
      obtain ⟨hrun, -, hstop⟩ := wordBefore_whole (c :: r)
      rw [eq_of_beq hword] at hrun
      exact ⟨w, _, hbefore.trans (congrArg (w.reverse ++ ·) hrun), hw, hstop, rfl⟩
    split at h
    · split at h
      · exact absurd h (hoperand _)
      · cases h
      · exact absurd h (hoperand _)
    split at h
    · cases h
    split at h
    · split at h <;> cases h
    split at h
    · exact absurd h (hoperand _)
    · cases h

/-- The word `async` is taken along, or the operand stays. -/
theorem withAsync_cases (o : Operand) :
    o.withAsync = o ∨
      ∃ v p, o.before = v.reverse ++ ("async".toList.reverse ++ p) ∧ isBlankText v = true ∧
        StopsAt isIdentChar p ∧ o.withAsync = ⟨'a', p⟩ := by
  obtain ⟨v, hv, hbefore⟩ := exists_blanks o.before
  obtain ⟨hrun, -, hstop⟩ := wordBefore_whole (skipBlanks o.before)
  by_cases hword : (wordBefore (skipBlanks o.before)).1 = "async".toList
  · refine .inr ⟨v, _, ?_, hv, hstop, ?_⟩
    · rw [← hword, ← hrun, ← hbefore]
    · simp only [withAsync, hword]
      rfl
  · exact .inl (withAsync_of_ne hword)

/-- A step to the left goes on from items to items. -/
theorem passed_on {s : Text} {o o' : Operand} (ho : Passed Items s o) (h : chainStep o = .on o') :
    Passed Items s o' := by
  obtain ⟨x, hs, hx, hstop⟩ := ho
  obtain ⟨u, j, hbefore, hitem, hfits, hjoint⟩ := chainStep_on h
  refine ⟨u ++ j ++ x, by simp [hs, hbefore], ?_, hfits.unglued⟩
  rcases hjoint with hdot | hblank
  · exact .member hitem hdot hx
  · rw [hbefore] at hstop
    exact .next hitem hblank (fun hj hu => unglued hu hstop hj) hx

/-- From items the scanner arrives at items, or at a function. -/
theorem extend_passed {s : Text} {o : Operand} (ho : Passed Items s o) :
    Passed Snippet s o.extend := by
  induction hn : o.before.length using Nat.strongRecOn generalizing o with
  | ind n ih =>
    subst hn
    cases hstep : chainStep o with
    | stay =>
      rw [extend_stay hstep]
      obtain ⟨x, hs, hx, hstop⟩ := ho
      exact ⟨x, hs, .items hx, hstop⟩
    | on o' =>
      rw [extend_on hstep]
      exact ih _ (chainStep_length hstep) (passed_on ho hstep) rfl
    | last o' =>
      rw [extend_last hstep]
      obtain ⟨x, hs, hx, hstop⟩ := ho
      obtain ⟨w, p, hbefore, hw, hp, rfl⟩ := chainStep_last hstep
      rw [hbefore] at hstop
      have hglue := unglued (IsWord.of_all (by decide) rfl) hstop
      rcases withAsync_cases ⟨'f', p⟩ with hsame | ⟨v, p', hv, hblank, hp', hasync⟩
      · rw [hsame]
        exact ⟨"function".toList ++ w ++ x, by simp [hs, hbefore], .function hw hglue hx,
          fun _ => hp⟩
      · dsimp only at hv
        rw [hasync]
        refine ⟨"async".toList ++ v ++ "function".toList ++ w ++ x, by simp [hs, hbefore, hv],
          .async ?_ hblank hw hglue hx, fun _ => hp'⟩
        rw [hv] at hp
        intro hnil
        have := unglued (c := 'f') (IsWord.of_all (by decide) rfl) (fun _ => hp) hnil
        cases this

/-- An arrow function is passed over from its block to its parameters. -/
theorem arrowFunction_passed {s : Text} {o : Operand} (h : arrowFunction s = some o) :
    Passed Items s o := by
  unfold arrowFunction at h
  split at h
  · next r =>
    obtain ⟨⟨c, before⟩, hgroup, h⟩ := Option.bind_eq_some_iff.1 h
    obtain ⟨block, hs, hblock⟩ := (openGroup_eq_some (by decide)).1 hgroup
    obtain ⟨w', hw', hbefore⟩ := exists_blanks before
    dsimp only at h
    split at h
    · next parameters hskip =>
      obtain ⟨o', hof, rfl⟩ := Option.map_eq_some_iff.1 h
      obtain ⟨w, hw, hparameters⟩ := exists_blanks parameters
      obtain ⟨u, hu, hitem, hfits⟩ := of_eq_some.1 hof
      obtain rfl : c = '\x7b' := by
        obtain ⟨e, t, hrev, he⟩ := hblock.closes
        rw [hrev] at hs
        cases hs
        cases he
        rfl
      rw [hskip] at hbefore
      rw [hu] at hparameters
      have harrow := Items.arrow hitem hw hw' hblock
      have hs' : '\x7d' :: r = (u ++ w ++ "=>".toList ++ w' ++ block).reverse ++ o'.before := by
        simp [hs, hbefore, hparameters]
      rcases withAsync_cases o' with hsame | ⟨v, p, hv, hblank, hp, hasync⟩
      · rw [hsame]
        exact ⟨_, hs', harrow, hfits.unglued⟩
      · rw [hasync]
        have hstop := hfits.unglued
        rw [hv] at hstop
        have hword : IsWord "async".toList := .of_all (by decide) rfl
        exact ⟨"async".toList ++ v ++ _, by simp [hs', hv],
          .next (.word hword) hblank (fun hnil hn => unglued hn hstop hnil) harrow, fun _ => hp⟩
    · cases h
  · cases h

end Operand

/-! ## Prefix operators -/

/-- A step over a prefix operator passes over a sign, or over a whole word. -/
theorem unaryStep_some {s r : Text} (h : unaryStep s = some r) :
    ∃ w o k, s = w.reverse ++ ((o :: k).reverse ++ r) ∧ isBlankText w = true ∧
      (k = [] ∧ (o = '!' ∨ o = '+' ∨ o = '-') ∨ o :: k ∈ unaryWords ∧ StopsAt isIdentChar r) := by
  obtain ⟨w, hw, hs⟩ := exists_blanks s
  unfold unaryStep at h
  split at h
  · cases h
  · next c t hskip =>
    rw [hskip] at hs
    simp only at h
    split at h
    · next hword =>
      split at h
      · next hunary =>
        cases h
        obtain ⟨hrun, -, hstop⟩ := wordBefore_whole (c :: t)
        obtain ⟨o, k, hk⟩ := List.exists_cons_of_ne_nil
          (show (wordBefore (c :: t)).1 ≠ [] by simpa using hword)
        rw [hk] at hrun hunary
        exact ⟨w, o, k, hs.trans (congrArg (w.reverse ++ ·) hrun), hw,
          .inr ⟨by simpa using hunary, hstop⟩⟩
      · cases h
    split at h
    · next hbang =>
      cases h
      exact ⟨w, c, [], hs, hw, .inl ⟨rfl, .inl (eq_of_beq hbang)⟩⟩
    split at h
    · next hsign =>
      cases h
      have hc : c = '+' ∨ c = '-' := by
        simp only [Bool.and_eq_true, Bool.or_eq_true, beq_iff_eq] at hsign
        exact hsign.1
      exact ⟨w, c, [], hs, hw, .inl ⟨rfl, .inr hc⟩⟩
    · cases h

/-- The scanner goes on over prefix operators from a snippet to a snippet. -/
theorem skipUnary_passed {s p : Text} {c : Char} (h : Passed Snippet s ⟨c, p⟩) :
    ∃ d, Passed Snippet s ⟨d, skipUnary p⟩ := by
  induction hn : p.length using Nat.strongRecOn generalizing p c with
  | ind n ih =>
    subst hn
    cases hstep : unaryStep p with
    | none => exact ⟨c, by rwa [skipUnary_none hstep]⟩
    | some r =>
      rw [skipUnary_some hstep]
      obtain ⟨x, hs, hx, hstop⟩ := h
      obtain ⟨w, o, k, hp, hw, hoperator⟩ := unaryStep_some hstep
      have hs' : s = (o :: k ++ w ++ x).reverse ++ r := by
        rw [hs]
        dsimp only
        rw [hp]
        simp
      refine ih r.length (unaryStep_length hstep) (c := o) ⟨o :: k ++ w ++ x, hs', ?_, ?_⟩ rfl
      · rcases hoperator with ⟨rfl, ho⟩ | ⟨hword, -⟩
        · exact .sign ho hw hx
        · dsimp only at hstop
          rw [hp] at hstop
          exact .word hword hw (unglued (unaryWords_plain hword).1 hstop) hx
      · intro ho
        rcases hoperator with ⟨rfl, hsign⟩ | ⟨-, hr⟩
        · rcases hsign with rfl | rfl | rfl <;> cases ho
        · exact hr

/-! ## The boundary -/

/-- An item begins with its first character, which is no blank. -/
theorem Item.head {c : Char} {u : Text} (h : Item c u) : u.head? = some c ∧ isBlank c = false := by
  cases h with
  | word hn => exact ⟨rfl, Text.isBlank_of_isIdentChar (hn.2 c List.mem_cons_self)⟩
  | string hq _ =>
    refine ⟨rfl, ?_⟩
    rcases isQuote_cases hq with rfl | rfl | rfl <;> rfl
  | group hg =>
    cases hg with
    | mk hc _ =>
      refine ⟨rfl, ?_⟩
      rcases opener?_eq_some hc with ⟨-, rfl⟩ | ⟨-, rfl⟩ | ⟨-, rfl⟩ <;> rfl

theorem Items.head {c : Char} {x : Text} (h : Items c x) :
    x.head? = some c ∧ isBlank c = false := by
  cases h with
  | one hu => exact hu.head
  | arrow hu _ _ _ | member hu _ _ | next hu _ _ _ =>
    obtain ⟨hhead, hblank⟩ := hu.head
    exact ⟨by simp [List.head?_append, hhead], hblank⟩

/-- A snippet begins with its first character, which is no blank. -/
theorem Snippet.head {c : Char} {x : Text} (h : Snippet c x) :
    x.head? = some c ∧ isBlank c = false := by
  cases h with
  | items hx => exact hx.head
  | function _ _ _ => exact ⟨rfl, rfl⟩
  | async _ _ _ _ _ => exact ⟨rfl, rfl⟩
  | sign ho _ _ => exact ⟨rfl, by rcases ho with rfl | rfl | rfl <;> rfl⟩
  | word ho _ _ _ =>
    obtain ⟨⟨-, hall⟩, -⟩ := unaryWords_plain ho
    exact ⟨rfl, Text.isBlank_of_isIdentChar (hall _ List.mem_cons_self)⟩

/-- What the scanner stops at is the beginning of a snippet, and it stops somewhere exactly if an
item ends before the cursor. -/
theorem beforeExpression_passed (s : Text) :
    (beforeExpression s = none ∧ Operand.of s = none) ∨
      ∃ c p, beforeExpression s = some p ∧ Passed Snippet s ⟨c, p⟩ := by
  have hscan {o : Operand} (ho : Passed Items s o) :
      ∃ c, Passed Snippet s ⟨c, skipUnary o.extend.before⟩ :=
    skipUnary_passed (c := o.extend.first) (Operand.extend_passed ho)
  unfold beforeExpression
  cases harrow : Operand.arrowFunction s with
  | some o =>
    obtain ⟨c, hpassed⟩ := hscan (Operand.arrowFunction_passed harrow)
    exact .inr ⟨c, _, rfl, hpassed⟩
  | none =>
    cases hof : Operand.of s with
    | none => exact .inl ⟨rfl, rfl⟩
    | some o =>
      obtain ⟨c, hpassed⟩ := hscan (Operand.of_passed hof)
      exact .inr ⟨c, _, rfl, hpassed⟩

/-- The scan begins at the end of the text up to the cursor without blanks and one separator. -/
theorem beforeCursor_trimmed (text : Text) (point : Nat) :
    Trimmed (text.take point) (beforeCursor text point).reverse := by
  obtain ⟨w, hw, hs⟩ := exists_blanks (text.take point).reverse
  have htext : text.take point = (skipBlanks (text.take point).reverse).reverse ++ w := by
    simpa using congrArg List.reverse hs
  have hblank := stopsAt_skipBlanks (text.take point).reverse
  unfold beforeCursor
  dsimp only
  split
  · next c r hskip =>
    rw [hskip] at htext hblank
    split
    · next hsep =>
      obtain rfl : c = ';' := eq_of_beq hsep
      obtain ⟨w', hw', hr⟩ := exists_blanks r
      refine ⟨w' ++ ';' :: w, ?_, .separator hw' hw, ?_, ?_⟩
      · rw [htext]
        conv => lhs; rw [hr]
        simp
      · rw [List.reverse_reverse]
        exact stopsAt_skipBlanks r
      · intro hall
        rw [Text.isBlankText_iff] at hall
        exact absurd (hall ';' (by simp)) (by decide)
    · next hsep =>
      rw [hskip]
      refine ⟨w, htext, .blanks hw, by rwa [List.reverse_reverse], fun _ => ?_⟩
      rw [List.reverse_reverse]
      exact StopsAt.cons (by simpa using hsep) r
  · next hskip =>
    rw [hskip] at htext
    exact ⟨w, htext, .blanks hw, StopsAt.nil, fun _ => StopsAt.nil⟩

/-- The boundary is sound: for every cursor in every text, the scanner either finds the beginning
of a snippet that ends at the cursor, before blanks and at most one separator, or it fails because
no item ends there. -/
theorem boundary_snippet {text : Text} {point : Nat} (h : point ≤ text.length) :
    ∃ stop ≤ point, Trimmed (text.take point) (text.take stop) ∧
      ((boundary text point = .error (.noExpression point) ∧
          ∀ c p u, text.take stop = p ++ u → Item c u → ¬ Fits c p.reverse) ∨
        ∃ start c, boundary text point = .ok start ∧ start < stop ∧ text[start]? = some c ∧
          isBlank c = false ∧ Snippet c ((text.take stop).drop start)) := by
  have htrimmed := beforeCursor_trimmed text point
  generalize hs : beforeCursor text point = s at htrimmed
  -- the scanned text is what stands before its own length
  have hlength : s.length ≤ point ∧ text.take s.length = s.reverse := by
    obtain ⟨w, htake, -⟩ := htrimmed
    have hle : s.length ≤ (text.take point).length := by simp [htake]
    rw [List.length_take] at hle
    refine ⟨by omega, ?_⟩
    calc text.take s.length = (text.take point).take s.length := by
          rw [List.take_take, Nat.min_eq_left (by omega)]
      _ = s.reverse := by rw [htake, List.take_left' (by simp)]
  refine ⟨s.length, hlength.1, by rwa [hlength.2], ?_⟩
  rw [boundary_eq h, hs, hlength.2]
  rcases beforeExpression_passed s with ⟨hnone, hof⟩ | ⟨c, p, hsome, x, hx, hsnippet, -⟩
  · refine .inl ⟨by rw [hnone], fun d q u hend hu hfits => ?_⟩
    have hitem := Operand.of_item hu hfits
    rw [← List.reverse_append, ← hend, List.reverse_reverse, hof] at hitem
    cases hitem
  · dsimp only at hx
    obtain ⟨hhead, hblank⟩ := hsnippet.head
    have hdrop : s.reverse.drop p.length = x := by
      rw [hx, List.reverse_append, List.drop_left' (by simp), List.reverse_reverse]
    have hlt : p.length < s.length := by
      cases x with
      | nil => cases hhead
      | cons => simp [hx]; omega
    refine .inr ⟨p.length, c, by rw [hsome], hlt, ?_, hblank, by rwa [hdrop]⟩
    have hget : text[p.length]? = (text.take s.length)[p.length]? := by
      rw [List.getElem?_take_of_lt hlt]
    rw [hget, hlength.2, ← Nat.add_zero p.length, ← List.getElem?_drop, hdrop,
      ← List.head?_eq_getElem?, hhead]

/-- In `x] - f(')') ;` a bracket that nothing opens and a bracket in a string stand before the
cursor. -/
theorem boundary_snippet_stray :
    13 ≤ "x] - f(')') ;".toList.length ∧
      ∃ stop ≤ 13, Trimmed ("x] - f(')') ;".toList.take 13) ("x] - f(')') ;".toList.take stop) ∧
        ((boundary "x] - f(')') ;".toList 13 = .error (.noExpression 13) ∧
            ∀ c p u, "x] - f(')') ;".toList.take stop = p ++ u → Item c u → ¬ Fits c p.reverse) ∨
          ∃ start c, boundary "x] - f(')') ;".toList 13 = .ok start ∧ start < stop ∧
            "x] - f(')') ;".toList[start]? = some c ∧ isBlank c = false ∧
            Snippet c (("x] - f(')') ;".toList.take stop).drop start)) :=
  ⟨by decide, boundary_snippet (by decide)⟩

end ReplDriver.Expression
