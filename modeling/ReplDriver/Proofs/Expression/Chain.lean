import ReplDriver.Expression.Boundary
import ReplDriver.Proofs.Expression.Brackets
import ReplDriver.Proofs.Text.Characters

/-!
# Chains of operands

A chain is an operand followed by member accesses, calls and indexings. It is written from the
left, each link after what it is a link of; the scanner meets the last link first.

* `chainStep_dot`, `chainStep_call`: one step to the left over a dot, and from a call or an
  indexing to what is called or indexed.
* `Chain.walk`: from the last operand of a chain the scanner arrives at its first one, and goes on
  from there as from that one alone.
-/

namespace ReplDriver.Expression

open Text (isBlank isQuote isIdentChar isBlankText StopsAt)

/-! ## The grammar -/

/-- A run of identifier characters. -/
def IsWord (n : Text) : Prop := n ≠ [] ∧ ∀ c ∈ n, isIdentChar c = true

/-- A name: a word that begins no statement, operand or function. -/
def IsName (n : Text) : Prop := IsWord n ∧ n ∉ statementWords ∧ n ≠ "function".toList

/-- An operand that begins with `c`: a name, a string, or a group in parentheses or square
brackets. -/
inductive Piece (c : Char) : Text → Prop where
  | name {r : Text} : IsName (c :: r) → Piece c (c :: r)
  | string {x : Text} : Quoted c x → Piece c x
  | group {g : Text} : Group c g → c ≠ '\x7b' → Piece c g

/-- A dot or an optional dot, with blanks around it. -/
inductive Dot : Text → Prop where
  | plain {w w' : Text} : isBlankText w = true → isBlankText w' = true → Dot (w ++ '.' :: w')
  | optional {w w' : Text} : isBlankText w = true → isBlankText w' = true →
      Dot (w ++ '?' :: '.' :: w')

/-- What joins a call or an indexing to what is called or indexed: blanks, or an optional dot. -/
inductive Joint : Text → Prop where
  | blanks {w : Text} : isBlankText w = true → Joint w
  | optional {w w' : Text} : isBlankText w = true → isBlankText w' = true →
      Joint (w ++ '?' :: '.' :: w')

/-- A chain that begins with `c`. -/
inductive Chain (c : Char) : Text → Prop where
  | head {t : Text} : Piece c t → Chain c t
  | member {t d n : Text} : Chain c t → Dot d → IsName n → Chain c (t ++ d ++ n)
  | call {t j g : Text} {o : Char} : Chain c t → Joint j → Group o g → o ≠ '\x7b' →
      Chain c (t ++ j ++ g)

/-! ## Blanks and words before a place -/

/-- A word by the test of all its characters. -/
theorem IsWord.of_all {n : Text} (hne : n ≠ []) (h : n.all isIdentChar = true) : IsWord n :=
  ⟨hne, List.all_eq_true.1 h⟩

/-- Read backwards, a word begins with an identifier character. -/
theorem IsWord.reverse_eq {n : Text} (h : IsWord n) :
    ∃ e r, n.reverse = e :: r ∧ isIdentChar e = true := by
  obtain ⟨e, r, hrev⟩ := List.exists_cons_of_ne_nil (show n.reverse ≠ [] by simpa using h.1)
  refine ⟨e, r, hrev, h.2 e ?_⟩
  rw [← List.mem_reverse, hrev]
  exact List.mem_cons_self

/-- Read backwards, blanks begin with a blank. -/
theorem blanks_reverse_eq {w : Text} (hw : isBlankText w = true) (hne : w ≠ []) :
    ∃ b r, w.reverse = b :: r ∧ isBlank b = true := by
  obtain ⟨b, r, hrev⟩ := List.exists_cons_of_ne_nil (show w.reverse ≠ [] by simpa using hne)
  refine ⟨b, r, hrev, Text.isBlankText_iff.1 hw b ?_⟩
  rw [← List.mem_reverse, hrev]
  exact List.mem_cons_self

/-- A blank is no identifier character. -/
theorem isIdentChar_of_isBlank {b : Char} (h : isBlank b = true) : isIdentChar b = false := by
  cases hident : isIdentChar b with
  | false => rfl
  | true =>
    rw [Text.isBlank_of_isIdentChar hident] at h
    cases h

/-- The blanks before a place are passed over. -/
theorem skipBlanks_blanks {w : Text} (hw : isBlankText w = true) (s : Text) :
    skipBlanks (w.reverse ++ s) = skipBlanks s := by
  have hall : ∀ c ∈ w.reverse, isBlank c = true := by
    intro c hc
    exact Text.isBlankText_iff.1 hw c (List.mem_reverse.1 hc)
  exact List.dropWhile_append_of_pos hall

theorem skipBlanks_cons {c : Char} (h : isBlank c = false) (s : Text) :
    skipBlanks (c :: s) = c :: s :=
  Text.dropWhile_stops (StopsAt.cons h s)

/-- A word is read as a whole where no identifier character stands before it. -/
theorem wordBefore_word {n s : Text} (hn : ∀ c ∈ n, isIdentChar c = true)
    (hs : StopsAt isIdentChar s) : wordBefore (n.reverse ++ s) = (n, s) := by
  have hall : ∀ c ∈ n.reverse, isIdentChar c = true := by
    intro c hc
    exact hn c (List.mem_reverse.1 hc)
  simp [wordBefore, Text.takeWhile_run hall hs, Text.dropWhile_run hall hs]

/-- At least one blank keeps a word from what stands before it. -/
theorem stopsAt_gap {w : Text} (hw : isBlankText w = true) (hne : w ≠ []) (s : Text) :
    StopsAt isIdentChar (w.reverse ++ s) := by
  obtain ⟨b, r, hrev, hb⟩ := blanks_reverse_eq hw hne
  rw [hrev]
  exact StopsAt.cons (isIdentChar_of_isBlank hb) _

/-- Blanks are no part of a word. -/
theorem stopsAt_blanks {w s : Text} (hw : isBlankText w = true) (hs : StopsAt isIdentChar s) :
    StopsAt isIdentChar (w.reverse ++ s) := by
  by_cases hne : w = []
  · rw [hne]
    exact hs
  · exact stopsAt_gap hw hne s

theorem wordBefore_none {s : Text} (hs : StopsAt isIdentChar s) : wordBefore s = ([], s) := by
  simp [wordBefore, Text.takeWhile_stops hs, Text.dropWhile_stops hs]

/-! ## What an operand ends with, and where it may begin -/

/-- Characters that end an operand other than a block. -/
def EndsPiece (c : Char) : Prop := isIdentChar c = true ∨ isQuote c = true ∨ c = ')' ∨ c = ']'

/-- A character that ends an operand is no blank, no part of a dot, and no end of a block. -/
theorem EndsPiece.plain {c : Char} (h : EndsPiece c) :
    isBlank c = false ∧ c ≠ '.' ∧ c ≠ '?' ∧ c ≠ ';' ∧ c ≠ '\x7d' := by
  rcases h with h | h | rfl | rfl
  · exact ⟨Text.isBlank_of_isIdentChar h, Text.ne_of_class h (by decide),
      Text.ne_of_class h (by decide), Text.ne_of_class h (by decide),
      Text.ne_of_class h (by decide)⟩
  · rcases isQuote_cases h with rfl | rfl | rfl <;> decide
  · decide
  · decide

/-- An operand is not empty, and its last character ends an operand. -/
theorem Piece.reverse_eq {c : Char} {u : Text} (h : Piece c u) :
    ∃ e r, u.reverse = e :: r ∧ EndsPiece e := by
  cases h with
  | @name r hn =>
    obtain ⟨e, t, hrev, he⟩ := hn.1.reverse_eq
    exact ⟨e, t, hrev, Or.inl he⟩
  | string hq =>
    cases hq with
    | @mk body hq _ => exact ⟨c, body.reverse ++ [c], by simp, Or.inr (Or.inl hq)⟩
  | group hg hc =>
    cases hg with
    | @mk e inner he _ =>
      refine ⟨e, inner.reverse ++ [c], by simp, ?_⟩
      rcases opener?_eq_some he with ⟨rfl, -⟩ | ⟨rfl, -⟩ | ⟨-, rfl⟩
      · exact Or.inr (Or.inr (Or.inl rfl))
      · exact Or.inr (Or.inr (Or.inr rfl))
      · exact absurd rfl hc

/-- Where an operand that begins with `c` may stand, given what stands before it: a name is not
glued to another word, and the quote of a string is not escaped. -/
structure Fits (c : Char) (s : Text) : Prop where
  unglued : isIdentChar c = true → StopsAt isIdentChar s
  unescaped : isQuote c = true → isEscaped s = false

/-- A bracket may stand anywhere. -/
theorem Fits.opener {c o : Char} (h : opener? c = some o) (s : Text) : Fits o s := by
  obtain ⟨hopen, -, hquote, -⟩ := opener_plain h
  constructor
  · intro hi
    rcases opener?_eq_some h with ⟨-, rfl⟩ | ⟨-, rfl⟩ | ⟨-, rfl⟩ <;> exact absurd hi (by decide)
  · intro hq
    rw [hquote] at hq
    cases hq

/-- A name may stand after a character that is none of an identifier. -/
theorem Fits.name {c : Char} (hc : isIdentChar c = true) {s : Text}
    (hs : StopsAt isIdentChar s) : Fits c s := by
  constructor
  · intro _
    exact hs
  · intro hq
    rw [Text.isQuote_of_isIdentChar hc] at hq
    cases hq

theorem opener?_of_isIdentChar {c : Char} (h : isIdentChar c = true) : opener? c = none := by
  have h1 : c ≠ ')' := Text.ne_of_class h (by decide)
  have h2 : c ≠ ']' := Text.ne_of_class h (by decide)
  have h3 : c ≠ '\x7d' := Text.ne_of_class h (by decide)
  simp [opener?, h1, h2, h3]

/-! ## Reading one operand -/

/-- A word is an operand. -/
theorem Operand.of_word {c : Char} {r s : Text} (hn : IsWord (c :: r))
    (hs : StopsAt isIdentChar s) : Operand.of ((c :: r).reverse ++ s) = some ⟨c, s⟩ := by
  obtain ⟨e, t, ht, he⟩ := hn.reverse_eq
  have hall : ∀ d ∈ (c :: r).reverse, isIdentChar d = true := by
    intro d hd
    exact hn.2 d (List.mem_reverse.1 hd)
  have htake : ((c :: r).reverse ++ s).takeWhile isIdentChar = (c :: r).reverse :=
    Text.takeWhile_run hall hs
  have hdrop : ((c :: r).reverse ++ s).dropWhile isIdentChar = s := Text.dropWhile_run hall hs
  have hcons : (c :: r).reverse ++ s = e :: (t ++ s) := by rw [ht, List.cons_append]
  rw [hcons] at htake hdrop ⊢
  have hrest : (t ++ s).dropWhile isIdentChar = s := by
    rw [List.dropWhile_cons, if_pos he] at hdrop
    exact hdrop
  simp [Operand.of, opener?_of_isIdentChar he, Text.isQuote_of_isIdentChar he, he, htake, hrest]

/-- A group is an operand, a block included. -/
theorem Operand.of_group {o : Char} {g : Text} (hg : Group o g) (s : Text) :
    Operand.of (g.reverse ++ s) = some ⟨o, s⟩ := by
  have hopen := openGroup_group hg s
  cases hg with
  | @mk c inner hc _ =>
    have hrev : (o :: inner ++ [c]).reverse ++ s = c :: (inner.reverse ++ o :: s) := by simp
    rw [hrev] at hopen ⊢
    simp [Operand.of, hc, hopen]

/-- An operand is read as a whole where it may stand. -/
theorem Operand.of_piece {c : Char} {u s : Text} (hu : Piece c u) (hs : Fits c s) :
    Operand.of (u.reverse ++ s) = some ⟨c, s⟩ := by
  cases hu with
  | name hn => exact Operand.of_word hn.1 (hs.unglued (hn.1.2 c List.mem_cons_self))
  | string hq =>
    cases hq with
    | @mk body hq hb =>
      obtain ⟨hback, hopen⟩ := quote_plain hq
      have hrev : (c :: body ++ [c]).reverse ++ s = c :: (body.reverse ++ c :: s) := by simp
      rw [hrev]
      simp [Operand.of, hopen, hq, openString_quoted hback hb (hs.unescaped hq)]
  | group hg _ => exact Operand.of_group hg s

/-! ## One step along a chain -/

namespace Operand

theorem extend_stay {o : Operand} (h : chainStep o = .stay) : o.extend = o := by
  rw [extend]
  split
  · rfl
  · next h' => rw [h] at h'; cases h'
  · next h' => rw [h] at h'; cases h'

theorem extend_last {o o' : Operand} (h : chainStep o = .last o') : o.extend = o' := by
  rw [extend]
  split
  · next h' => rw [h] at h'; cases h'
  · next h' => rw [h] at h'; cases h'; rfl
  · next h' => rw [h] at h'; cases h'

theorem extend_on {o o' : Operand} (h : chainStep o = .on o') : o.extend = o'.extend := by
  rw [extend]
  split
  · next h' => rw [h] at h'; cases h'
  · next h' => rw [h] at h'; cases h'
  · next h' => rw [h] at h'; cases h'; rfl

end Operand

/-- The dot after a character that ends an operand leads to that operand. -/
theorem chainStep_dot {f e : Char} {d r : Text} (hd : Dot d) (he : EndsPiece e) :
    Operand.chainStep ⟨f, d.reverse ++ e :: r⟩ = .ofOperand? (Operand.of (e :: r)) := by
  obtain ⟨hblank, hdot, hmark, -⟩ := he.plain
  cases hd with
  | @plain w w' hw hw' =>
    have hstop : StopsAt isIdentChar ('.' :: (w.reverse ++ e :: r)) := StopsAt.cons (by decide) _
    have hskip : skipBlanks ((w ++ '.' :: w').reverse ++ e :: r) =
        '.' :: (w.reverse ++ e :: r) := by
      rw [List.reverse_append, List.reverse_cons, List.append_assoc, List.append_assoc,
        skipBlanks_blanks hw']
      exact skipBlanks_cons (by decide) _
    have hunit : skipBlanks (w.reverse ++ e :: r) = e :: r := by
      rw [skipBlanks_blanks hw, skipBlanks_cons hblank]
    -- what stands directly before the dot is a blank or the end of the operand
    have hbefore : ∀ c t, w.reverse ++ e :: r = c :: t → c ≠ '?' ∧ c ≠ '.' := by
      intro c t hct
      by_cases hne : w = []
      · rw [hne] at hct
        cases hct
        exact ⟨hmark, hdot⟩
      · obtain ⟨b, bs, hrev, hb⟩ := blanks_reverse_eq hw hne
        rw [hrev] at hct
        cases hct
        exact ⟨Text.ne_of_class hb (by decide), Text.ne_of_class hb (by decide)⟩
    simp only [Operand.chainStep, hskip, wordBefore_none hstop]
    rw [if_neg (by decide), if_pos (by decide)]
    split
    · next t' h' => exact absurd rfl (hbefore _ _ h').1
    · next t' h' => exact absurd rfl (hbefore _ _ h').2
    · rw [hunit]
  | @optional w w' hw hw' =>
    have hstop : StopsAt isIdentChar ('.' :: '?' :: (w.reverse ++ e :: r)) :=
      StopsAt.cons (by decide) _
    have hskip : skipBlanks ((w ++ '?' :: '.' :: w').reverse ++ e :: r) =
        '.' :: '?' :: (w.reverse ++ e :: r) := by
      rw [List.reverse_append, List.reverse_cons, List.reverse_cons, List.append_assoc,
        List.append_assoc, List.append_assoc, skipBlanks_blanks hw']
      exact skipBlanks_cons (by decide) _
    have hunit : skipBlanks (w.reverse ++ e :: r) = e :: r := by
      rw [skipBlanks_blanks hw, skipBlanks_cons hblank]
    simp only [Operand.chainStep, hskip, wordBefore_none hstop]
    rw [if_neg (by decide), if_pos (by decide), hunit]

/-- A call or an indexing leads to the operand before it. -/
theorem chainStep_call {f c : Char} {w u s : Text} (hf : isOpener f = true) (hblock : f ≠ '\x7b')
    (hw : isBlankText w = true) (hu : Piece c u) (hs : Fits c s) :
    Operand.chainStep ⟨f, w.reverse ++ (u.reverse ++ s)⟩ = .on ⟨c, s⟩ := by
  have hof := Operand.of_piece hu hs
  obtain ⟨e, r, hrev, he⟩ := hu.reverse_eq
  obtain ⟨hblank, hdot, -, hsep, -⟩ := he.plain
  have hskip : skipBlanks (w.reverse ++ (u.reverse ++ s)) = u.reverse ++ s := by
    rw [skipBlanks_blanks hw, hrev, List.cons_append, skipBlanks_cons hblank]
  have hcons : u.reverse ++ s = e :: (r ++ s) := by rw [hrev, List.cons_append]
  cases hu with
  | @name t hn =>
    obtain ⟨⟨hne, hall⟩, hstatement, hfunction⟩ := hn
    have hword := wordBefore_word hall (hs.unglued (hall c List.mem_cons_self))
    -- the word before the bracket is neither a statement word nor `function`, so it is called
    simp only [Operand.chainStep, hskip, hword]
    rw [hcons]
    dsimp only
    rw [if_neg (by simpa using hfunction)]
    simp [hf, hblock, hdot, isSeparator, hsep, hstatement]
  | string hq =>
    have hquote : isQuote e = true := by
      cases hq with
      | @mk body hq _ =>
        simp at hrev
        rw [← hrev.1]
        exact hq
    -- a quote ends the operand before the bracket, so no word stands there
    have hstop : StopsAt isIdentChar (u.reverse ++ s) := by
      rw [hcons]
      refine StopsAt.cons ?_ _
      rcases isQuote_cases hquote with rfl | rfl | rfl <;> decide
    simp only [Operand.chainStep, hskip, wordBefore_none hstop, hof]
    rw [hcons]
    simp [hf, hblock, hdot, isSeparator, hsep, hquote, Operand.Step.ofOperand?]
  | group hg hc =>
    have hbracket : e = ')' ∨ e = ']' := by
      cases hg with
      | @mk e' inner he' _ =>
        simp at hrev
        obtain ⟨rfl, -⟩ := hrev
        rcases opener?_eq_some he' with ⟨rfl, -⟩ | ⟨rfl, -⟩ | ⟨-, rfl⟩
        · exact Or.inl rfl
        · exact Or.inr rfl
        · exact absurd rfl hc
    have hstop : StopsAt isIdentChar (u.reverse ++ s) := by
      rw [hcons]
      refine StopsAt.cons ?_ _
      rcases hbracket with rfl | rfl <;> decide
    simp only [Operand.chainStep, hskip, wordBefore_none hstop, hof]
    rw [hcons]
    rcases hbracket with rfl | rfl <;>
      simp [hf, hblock, isSeparator, Operand.Step.ofOperand?]

/-! ## The walk along a chain -/

/-- The last operand of a chain stands where it may, and the scanner goes from it to the first one
and on from there. -/
theorem Chain.walk {c : Char} {t : Text} (ht : Chain c t) {s : Text} (hs : Fits c s) :
    ∃ c' u s', t.reverse ++ s = u.reverse ++ s' ∧ Piece c' u ∧ Fits c' s' ∧
      Operand.extend ⟨c', s'⟩ = Operand.extend ⟨c, s⟩ := by
  induction ht with
  | @head u hu => exact ⟨c, u, s, rfl, hu, hs, rfl⟩
  | @member t d n _ hd hn ih =>
    -- the scanner goes from the name over the dot to the last operand of the shorter chain
    obtain ⟨c', u, s', hrev, hu, hfits, hwalk⟩ := ih
    obtain ⟨e, r, hlast, he⟩ := hu.reverse_eq
    obtain ⟨a, n', rfl⟩ := List.exists_cons_of_ne_nil hn.1.1
    have ha : isIdentChar a = true := hn.1.2 a List.mem_cons_self
    have hstop : StopsAt isIdentChar (d.reverse ++ (t.reverse ++ s)) := by
      cases hd with
      | plain _ hw' => simpa using stopsAt_blanks hw' (StopsAt.cons (by decide) _)
      | optional _ hw' => simpa using stopsAt_blanks hw' (StopsAt.cons (by decide) _)
    refine ⟨a, a :: n', d.reverse ++ (t.reverse ++ s), by simp, Piece.name hn,
      Fits.name ha hstop, ?_⟩
    have hstep : Operand.chainStep ⟨a, d.reverse ++ (t.reverse ++ s)⟩ = .on ⟨c', s'⟩ := by
      rw [hrev, hlast, List.cons_append, chainStep_dot hd he, ← List.cons_append, ← hlast,
        Operand.of_piece hu hfits]
      rfl
    rw [Operand.extend_on hstep, hwalk]
  | @call t j g o _ hj hg ho ih =>
    -- from the group it goes to the last operand of the shorter chain, over a dot or blanks alone
    obtain ⟨c', u, s', hrev, hu, hfits, hwalk⟩ := ih
    refine ⟨o, g, j.reverse ++ (t.reverse ++ s), by simp, Piece.group hg ho, ?_, ?_⟩
    · cases hg with
      | mk hc _ => exact Fits.opener hc _
    · have hopen : isOpener o = true := by
        cases hg with
        | mk hc _ => exact (opener_plain hc).1
      have hstep : Operand.chainStep ⟨o, j.reverse ++ (t.reverse ++ s)⟩ = .on ⟨c', s'⟩ := by
        cases hj with
        | blanks hw =>
          rw [hrev]
          exact chainStep_call hopen ho hw hu hfits
        | optional hw hw' =>
          obtain ⟨e, r, hlast, he⟩ := hu.reverse_eq
          rw [hrev, hlast, List.cons_append, chainStep_dot (Dot.optional hw hw') he,
            ← List.cons_append, ← hlast, Operand.of_piece hu hfits]
          rfl
      rw [Operand.extend_on hstep, hwalk]

end ReplDriver.Expression
