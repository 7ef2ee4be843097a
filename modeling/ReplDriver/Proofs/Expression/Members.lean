import ReplDriver.Proofs.Expression.Items
import ReplDriver.Proofs.Expression.Recognition

/-!
# Calls and indexings of a member

A call of a member, or an indexing of it, begins where the member begins, since the scanner goes on
from the brackets to the word before them. It does not ask whether a dot stands before that word:
a member whose name is a statement word or `function` is not taken for a callee.

* `Dot.before`: nothing is absorbed before a dot.
* `boundary_member_call`: where the expression begins, for every name of the member.
-/

namespace ReplDriver.Expression

open Text (isBlank isQuote isIdentChar isBlankText StopsAt)

/-! ## What stands before a member -/

/-- Read backwards, a dot begins with blanks and the character of the dot. -/
theorem Dot.reverse_eq {d : Text} (h : Dot d) (p : Text) :
    ∃ w r, isBlankText w = true ∧ (p ++ d).reverse = w.reverse ++ '.' :: r := by
  cases h with
  | @plain w w' _ hw' => exact ⟨w', w.reverse ++ p.reverse, hw', by simp⟩
  | @optional w w' _ hw' => exact ⟨w', '?' :: (w.reverse ++ p.reverse), hw', by simp⟩

/-- Before a word that comes after a dot there is no other word, and neither the word `async` nor a
prefix operator. -/
theorem Dot.before {d : Text} (h : Dot d) (p : Text) :
    StopsAt isIdentChar (p ++ d).reverse ∧
      (wordBefore (skipBlanks (p ++ d).reverse)).1 = [] ∧
      skipUnary (p ++ d).reverse = (p ++ d).reverse := by
  obtain ⟨w, r, hw, hrev⟩ := h.reverse_eq p
  have hstop : StopsAt isIdentChar ('.' :: r) := StopsAt.cons (by decide) r
  have hskip : skipBlanks (w.reverse ++ '.' :: r) = '.' :: r := skipBlanks_mark hw (by decide) r
  rw [hrev]
  refine ⟨stopsAt_blanks hw hstop, by rw [hskip, wordBefore_none hstop], skipUnary_none ?_⟩
  simp [unaryStep, hskip, wordBefore_none hstop]

/-! ## The end of the text as the cursor -/

/-- With the cursor at the end of a text that ends with an operand, the scan begins there. -/
theorem boundary_end {t s : Text} {e : Char} (ht : t.reverse = e :: s) (he : EndsPiece e) :
    boundary t t.length = match beforeExpression t.reverse with
      | some before => .ok before.length
      | none => .error (.noExpression t.length) := by
  obtain ⟨hblank, -, -, hsep, -⟩ := he.plain
  have hcursor : beforeCursor t t.length = t.reverse := by
    simpa using beforeCursor_trailing (r := []) ht hblank hsep (Trailing.blanks (w := []) rfl)
  rw [← hcursor]
  exact boundary_eq (Nat.le_refl _)

/-- An operand that ends a text without a block is scanned as it is. -/
theorem beforeExpression_operand {e : Char} {s : Text} {o : Operand} (he : EndsPiece e)
    (ho : Operand.of (e :: s) = some o) :
    beforeExpression (e :: s) = some (skipUnary o.extend.before) := by
  have harrow : Operand.arrowFunction (e :: s) = none := by
    unfold Operand.arrowFunction
    split
    · next heq =>
      cases heq
      exact absurd rfl he.plain.2.2.2.2
    · rfl
  simp [beforeExpression, harrow, ho]

/-! ## Calls and indexings -/

/-- From the brackets after a word that stands whole, the scanner goes on to the word, unless it
takes it for the beginning of a statement, an operand or a function. -/
theorem chainStep_brackets {o c : Char} {n s : Text} (hn : IsWord (c :: n))
    (hs : StopsAt isIdentChar s) (ho : isOpener o = true) (hblock : o ≠ '\x7b') :
    Operand.chainStep ⟨o, (c :: n).reverse ++ s⟩ =
      if c :: n = "function".toList then .last (Operand.withAsync ⟨'f', s⟩)
      else if c :: n ∈ statementWords then .stay
      else .on ⟨c, s⟩ := by
  obtain ⟨e, r, hrev, he⟩ := hn.reverse_eq
  have hskip : skipBlanks ((c :: n).reverse ++ s) = (c :: n).reverse ++ s := by
    simpa using skipBlanks_word (w := []) rfl hn s
  have hdot : e ≠ '.' := Text.ne_of_class he (by decide)
  have hsep : e ≠ ';' := Text.ne_of_class he (by decide)
  simp only [Operand.chainStep, hskip, wordBefore_word hn.2 hs]
  rw [hrev, List.cons_append]
  dsimp only
  by_cases hfunction : c :: n = "function".toList
  · rw [if_pos (by simpa using hfunction), if_pos hfunction]
  · rw [if_neg (by simpa using hfunction), if_neg hfunction]
    simp [hdot, ho, isSeparator, hsep, hblock]

/-- A call or an indexing of a member begins where the member does, unless the name of the member
is a statement word or `function`: such a word is not called. The brackets alone are then the
expression, and the word is taken along where it is a prefix operator or begins a function. -/
theorem boundary_member_call {p d n g : Text} {o : Char} (hd : Dot d) (hn : IsWord n)
    (hg : Bracketed o g) (ho : o ≠ '\x7b') :
    boundary (p ++ d ++ n ++ g) (p ++ d ++ n ++ g).length =
      if n = "function".toList ∨ n ∈ unaryWords then .ok (p ++ d).length
      else if n ∈ statementWords then .ok (p ++ d ++ n).length
      else boundary (p ++ d ++ n) (p ++ d ++ n).length := by
  obtain ⟨hstop, hasync, hunary⟩ := hd.before p
  obtain ⟨c, n, rfl⟩ := List.exists_cons_of_ne_nil hn.1
  generalize p ++ d = q at hstop hasync hunary ⊢
  obtain ⟨e, r, hrev, he⟩ := hn.reverse_eq
  obtain ⟨e', r', hrev', he'⟩ := hg.closes
  have hends : EndsPiece e' := by
    rcases opener?_eq_some he' with ⟨rfl, -⟩ | ⟨rfl, -⟩ | ⟨-, rfl⟩
    · exact .inr (.inr (.inl rfl))
    · exact .inr (.inr (.inr rfl))
    · exact absurd rfl ho
  have hmember : (q ++ c :: n).reverse = (c :: n).reverse ++ q.reverse := List.reverse_append
  have hcall : (q ++ c :: n ++ g).reverse = e' :: (r' ++ (q ++ c :: n).reverse) := by
    rw [List.reverse_append, hrev', List.cons_append]
  have hof : Operand.of (e' :: (r' ++ (q ++ c :: n).reverse)) =
      some ⟨o, (q ++ c :: n).reverse⟩ := by
    rw [← List.cons_append, ← hrev']
    exact Operand.of_item (.group hg) (.opener he' _)
  have hstep := chainStep_brackets hn hstop (opener_plain he').1 ho
  rw [← hmember] at hstep
  rw [boundary_end hcall hends, hcall, beforeExpression_operand hends hof]
  dsimp only
  by_cases hfunction : c :: n = "function".toList
  · rw [if_pos hfunction] at hstep
    have hstay : Operand.withAsync ⟨'f', q.reverse⟩ = ⟨'f', q.reverse⟩ := by
      refine Operand.withAsync_of_ne ?_
      rw [hasync]
      decide
    rw [if_pos (.inl hfunction), Operand.extend_last hstep, hstay, hunary, List.length_reverse]
  · rw [if_neg hfunction] at hstep
    by_cases hstatement : c :: n ∈ statementWords
    · rw [if_pos hstatement] at hstep
      have hword : unaryStep (q ++ c :: n).reverse =
          if c :: n ∈ unaryWords then some q.reverse else none := by
        rw [hmember]
        simpa using unaryStep_word (w := []) hn rfl hstop
      rw [Operand.extend_stay hstep, if_pos hstatement]
      by_cases hoperator : c :: n ∈ unaryWords
      · rw [if_pos hoperator] at hword
        rw [if_pos (.inr hoperator), skipUnary_some hword, hunary, List.length_reverse]
      · rw [if_neg hoperator] at hword
        rw [if_neg (not_or.2 ⟨hfunction, hoperator⟩), skipUnary_none hword, List.length_reverse]
    · rw [if_neg hstatement] at hstep
      have hoperator : c :: n ∉ unaryWords := fun h => hstatement (unaryWords_plain h).2.1
      have hmember' : (q ++ c :: n).reverse = e :: (r ++ q.reverse) := by
        rw [hmember, hrev, List.cons_append]
      have hword : Operand.of (e :: (r ++ q.reverse)) = some ⟨c, q.reverse⟩ := by
        rw [← hmember', hmember]
        exact Operand.of_word hn hstop
      rw [Operand.extend_on hstep, if_neg (not_or.2 ⟨hfunction, hoperator⟩), if_neg hstatement,
        boundary_end hmember' (.inl he), hmember', beforeExpression_operand (.inl he) hword]

/-- In `a ?. f('(')` the call begins where the member does; in `p.catch(f)` the brackets are the
whole expression, as `catch` is a statement word. -/
theorem boundary_member_call_catch :
    Dot " ?. ".toList ∧ IsWord "f".toList ∧ Bracketed '(' "('(')".toList ∧
      Dot ".".toList ∧ IsWord "catch".toList ∧ Bracketed '(' "(f)".toList ∧ '(' ≠ '\x7b' ∧
      boundary "a ?. f('(')".toList 11 = boundary "a ?. f".toList 6 ∧
      boundary "p.catch(f)".toList 10 = .ok 7 := by
  have hoptional : Dot " ?. ".toList := @Dot.optional [' '] [' '] rfl rfl
  have hname : IsWord "f".toList := .of_all (by decide) rfl
  have hstring : Bracketed '(' "('(')".toList :=
    .mk rfl (@Inside.string [] ['('] '\x27' .nil rfl rfl
      (unclosed_concat.2 ⟨.nil _, fun h => absurd h (by decide)⟩) rfl)
  have hdot : Dot ".".toList := @Dot.plain [] [] rfl rfl
  have hcatch : IsWord "catch".toList := .of_all (by decide) rfl
  have hargument : Bracketed '(' "(f)".toList :=
    .mk rfl (@Inside.other [] 'f' .nil rfl rfl (fun h => absurd h (by decide)))
  refine ⟨hoptional, hname, hstring, hdot, hcatch, hargument, by decide, ?_, ?_⟩
  · have hcall := boundary_member_call (p := "a".toList) hoptional hname hstring (by decide)
    rwa [if_neg (by decide), if_neg (by decide)] at hcall
  · have hcall := boundary_member_call (p := "p".toList) hdot hcatch hargument (by decide)
    rwa [if_neg (by decide), if_pos (by decide)] at hcall

end ReplDriver.Expression
