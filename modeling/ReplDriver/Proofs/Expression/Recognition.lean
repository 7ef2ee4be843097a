import ReplDriver.Proofs.Expression.Chain

/-!
# What the boundary scanner recognises

The scanner finds the beginning of every expression of its grammar: chains and functions, with
prefix operators before them, and arrow functions with a block body.

* `Start c p`: what may stand before an expression that begins with `c`. After a value, an opening
  bracket or a sign would go on from that value, so there the expression begins with something else.
* `Operated.scan`, `Arrow.scan`: from the end of an expression the scanner arrives at its
  beginning. Each prefix operator is passed over in the order in which it is met, innermost first;
  what carries the induction is `Opening`, which holds between any two of them.
* `boundary_expression`: the boundary is where the expression begins, whatever blanks and one
  separator follow it.
-/

namespace ReplDriver.Expression

open Text (isBlank isQuote isIdentChar isBlankText StopsAt)

/-! ## The grammar -/

/-- A function from its keyword on, with or without a name. -/
inductive FunctionTail : Text → Prop where
  | anonymous {w w' parameters body : Text} : isBlankText w = true → isBlankText w' = true →
      Group '(' parameters → Group '\x7b' body →
      FunctionTail ("function".toList ++ w ++ parameters ++ w' ++ body)
  | named {v n w w' parameters body : Text} : v ≠ [] → isBlankText v = true → IsName n →
      isBlankText w = true → isBlankText w' = true → Group '(' parameters → Group '\x7b' body →
      FunctionTail ("function".toList ++ v ++ n ++ w ++ parameters ++ w' ++ body)

/-- A chain or a function, with prefix operators before it, that begins with `c`. -/
inductive Operated : Char → Text → Prop where
  | chain {c : Char} {t : Text} : Chain c t → Operated c t
  | function {t : Text} : FunctionTail t → Operated 'f' t
  | async {v t : Text} : v ≠ [] → isBlankText v = true → FunctionTail t →
      Operated 'a' ("async".toList ++ v ++ t)
  | sign {o c : Char} {w t : Text} : o = '!' ∨ o = '+' ∨ o = '-' → isBlankText w = true →
      Operated c t → Operated o (o :: w ++ t)
  | word {o c : Char} {k w t : Text} : o :: k ∈ unaryWords → isBlankText w = true →
      (w = [] → isIdentChar c = false) → Operated c t → Operated o (o :: k ++ w ++ t)

/-- The parameters of an arrow function: a group in parentheses, or one word. -/
inductive Parameters (c : Char) : Text → Prop where
  | group {g : Text} : c = '(' → Group c g → Parameters c g
  | word {r : Text} : IsWord (c :: r) → Parameters c (c :: r)

/-- An arrow function with a block body that begins with `c`. -/
inductive Arrow : Char → Text → Prop where
  | plain {c : Char} {ps w w' body : Text} : Parameters c ps → isBlankText w = true →
      isBlankText w' = true → Group '\x7b' body → Arrow c (ps ++ w ++ "=>".toList ++ w' ++ body)
  | async {c : Char} {v ps w w' body : Text} : Parameters c ps → isBlankText v = true →
      (v = [] → isIdentChar c = false) → isBlankText w = true → isBlankText w' = true →
      Group '\x7b' body → Arrow 'a' ("async".toList ++ v ++ ps ++ w ++ "=>".toList ++ w' ++ body)

/-- An expression of the recognised grammar that begins with `c`. -/
def IsExpression (c : Char) (t : Text) : Prop := Operated c t ∨ Arrow c t

/-- What may follow an expression up to the cursor: blanks, with at most one separator. -/
inductive Trailing : Text → Prop where
  | blanks {w : Text} : isBlankText w = true → Trailing w
  | separator {w w' : Text} : isBlankText w = true → isBlankText w' = true →
      Trailing (w ++ ';' :: w')

/-! ## Where an expression may begin -/

/-- Whether an expression that begins with the character would go on from a value before it. -/
def goesOn (c : Char) : Bool := isOpener c || c == '+' || c == '-'

/-- A text that ends with a value: with a word that begins no statement or operand, or with a
character that ends a value. -/
inductive EndsWithValue : Text → Prop where
  | word {p k w : Text} : IsWord k → StopsAt isIdentChar p.reverse → k ∉ statementWords →
      isBlankText w = true → EndsWithValue (p ++ k ++ w)
  | mark {p w : Text} {d : Char} : endsValue d = true → isBlankText w = true →
      EndsWithValue (p ++ d :: w)

/-- What may stand before an expression that begins with `c`. -/
inductive Start (c : Char) : Text → Prop where
  /-- Nothing but blanks. -/
  | blanks {w : Text} : isBlankText w = true → Start c w
  /-- A word that is no prefix operator and no part of a function. -/
  | word {p k w : Text} : IsWord k → StopsAt isIdentChar p.reverse → k ∉ unaryWords →
      k ≠ "function".toList → k ≠ "async".toList → (k ∈ statementWords ∨ goesOn c = false) →
      isBlankText w = true → (w = [] → isIdentChar c = false) → Start c (p ++ k ++ w)
  /-- A character that is no dot and no prefix operator, such as a separator, an opening bracket,
  or the last one of another operator. A block before a bracket is a statement of its own. -/
  | mark {p w : Text} {d : Char} : isBlank d = false → isIdentChar d = false →
      d ∉ ".!+-".toList → (endsValue d = true → goesOn c = false ∨ d = '\x7d' ∧ isOpener c = true) →
      (d = '\\' → w = [] → isQuote c = false) → isBlankText w = true → Start c (p ++ d :: w)
  /-- The dots of a spread. -/
  | spread {p w : Text} : isBlankText w = true → Start c (p ++ "...".toList ++ w)
  /-- A sign that joins the expression to a value. -/
  | joined {p w : Text} {o : Char} : o = '+' ∨ o = '-' → EndsWithValue p → isBlankText w = true →
      Start c (p ++ o :: w)

/-- A place between two prefix operators, or before the first one: an operand that begins with `c`
may stand there, no chain goes on beyond it, and a sign there joins no two values. -/
structure Opening (c : Char) (s : Text) : Prop where
  fits : Fits c s
  stays : Operand.chainStep ⟨c, s⟩ = .stay
  prefixSign : c = '+' ∨ c = '-' → isBinaryAfter s = false
  notAsync : (wordBefore (skipBlanks s)).1 ≠ "async".toList

theorem skipBlanks_mark {w : Text} (hw : isBlankText w = true) {d : Char} (hd : isBlank d = false)
    (s : Text) : skipBlanks (w.reverse ++ d :: s) = d :: s := by
  rw [skipBlanks_blanks hw, skipBlanks_cons hd]

theorem skipBlanks_word {w k : Text} (hw : isBlankText w = true) (hk : IsWord k) (s : Text) :
    skipBlanks (w.reverse ++ (k.reverse ++ s)) = k.reverse ++ s := by
  obtain ⟨e, r, hrev, he⟩ := hk.reverse_eq
  rw [skipBlanks_blanks hw, hrev, List.cons_append,
    skipBlanks_cons (Text.isBlank_of_isIdentChar he)]

/-- Blanks escape nothing, and neither does what stands before them. -/
theorem isEscaped_blanks {w : Text} (hw : isBlankText w = true) (hne : w ≠ []) (s : Text) :
    isEscaped (w.reverse ++ s) = false := by
  obtain ⟨b, r, hrev, hb⟩ := blanks_reverse_eq hw hne
  rw [hrev, List.cons_append]
  exact isEscaped_cons_of_ne (Text.ne_of_class hb (by decide)) _

theorem Opening.blanks (c : Char) {w : Text} (hw : isBlankText w = true) :
    Opening c w.reverse := by
  have hskip : skipBlanks w.reverse = [] := by
    simpa [skipBlanks] using skipBlanks_blanks hw []
  have hhead : isEscaped w.reverse = false := by
    by_cases hne : w = []
    · rw [hne]; rfl
    · simpa using isEscaped_blanks hw hne []
  refine ⟨⟨fun _ => ?_, fun _ => hhead⟩, ?_, fun _ => ?_, ?_⟩
  · simpa using stopsAt_blanks hw StopsAt.nil
  · simp [Operand.chainStep, hskip]
  · simp [isBinaryAfter, hskip, wordBefore]
  · rw [hskip]
    decide

/-- An expression may begin after a mark, unless it would go on from a value that the mark ends. -/
theorem Opening.mark {c d : Char} {w : Text} (hblank : isBlank d = false)
    (hident : isIdentChar d = false) (hdot : d ≠ '.')
    (hvalue : endsValue d = true → goesOn c = false ∨ d = '\x7d' ∧ isOpener c = true)
    (hescape : d = '\\' → w = [] → isQuote c = false) (hw : isBlankText w = true) (s : Text) :
    Opening c (w.reverse ++ d :: s) := by
  have hskip := skipBlanks_mark hw hblank s
  have hstop : StopsAt isIdentChar (d :: s) := StopsAt.cons hident s
  refine ⟨⟨fun _ => stopsAt_blanks hw hstop, fun hquote => ?_⟩, ?_, fun hsign => ?_, ?_⟩
  · by_cases hne : w = []
    · rw [hne]
      refine isEscaped_cons_of_ne ?_ s
      intro hd
      rw [hescape hd hne] at hquote
      cases hquote
    · exact isEscaped_blanks hw hne _
  -- no chain goes on before a mark unless the mark ends a value and a bracket comes after it
  · simp only [Operand.chainStep, hskip, wordBefore_none hstop]
    rw [if_neg (by decide), if_neg (by simpa using hdot)]
    by_cases hopen : isOpener c = true
    · have hclose : d ≠ ')' ∧ d ≠ ']' ∧ isQuote d = false := by
        by_cases hd : endsValue d = true
        · rcases hvalue hd with hgo | ⟨rfl, -⟩
          · simp [goesOn, hopen] at hgo
          · decide
        · simp [endsValue] at hd
          exact ⟨hd.1.1.1, hd.1.1.2, hd.2⟩
      simp [hclose]
    · simp [hopen]
  -- a sign after a value would be an operator between two values
  · have hd : endsValue d = false := by
      cases hd : endsValue d with
      | false => rfl
      | true =>
        rcases hvalue hd with hgo | ⟨-, hopen⟩
        · rcases hsign with rfl | rfl <;> cases hgo
        · rcases hsign with rfl | rfl <;> cases hopen
    simp [isBinaryAfter, hskip, wordBefore_none hstop, hd]
  · rw [hskip, wordBefore_none hstop]
    exact show ([] : Text) ≠ "async".toList by decide

/-- An operand may stand after a word that it is not glued to. -/
theorem Fits.after_word {c : Char} {k w : Text} (hk : IsWord k) (hw : isBlankText w = true)
    (hglue : w = [] → isIdentChar c = false) (s : Text) :
    Fits c (w.reverse ++ (k.reverse ++ s)) := by
  obtain ⟨e, r, hrev, he⟩ := hk.reverse_eq
  constructor
  · intro hc
    by_cases hne : w = []
    · rw [hglue hne] at hc
      cases hc
    · exact stopsAt_gap hw hne _
  · intro _
    by_cases hne : w = []
    · rw [hne, hrev]
      exact isEscaped_cons_of_ne (Text.ne_of_class he (by decide)) _
    · exact isEscaped_blanks hw hne _

/-- An expression may begin after a word, unless it would go on from a value that the word names. -/
theorem Opening.word {c : Char} {k w s : Text} (hk : IsWord k) (hs : StopsAt isIdentChar s)
    (hfunction : k ≠ "function".toList) (hasync : k ≠ "async".toList)
    (hvalue : k ∈ statementWords ∨ goesOn c = false) (hw : isBlankText w = true)
    (hglue : w = [] → isIdentChar c = false) : Opening c (w.reverse ++ (k.reverse ++ s)) := by
  have hskip := skipBlanks_word hw hk s
  have hword := wordBefore_word hk.2 hs
  obtain ⟨e, r, hrev, he⟩ := hk.reverse_eq
  have hdot : e ≠ '.' := Text.ne_of_class he (by decide)
  have hcons : k.reverse ++ s = e :: (r ++ s) := by rw [hrev, List.cons_append]
  refine ⟨Fits.after_word hk hw hglue s, ?_, fun hsign => ?_, ?_⟩
  · simp only [Operand.chainStep, hskip, hword]
    rw [hcons]
    dsimp only
    rw [if_neg (by simpa using hfunction), if_neg (by simpa using hdot)]
    rcases hvalue with hstatement | hgo
    · simp [hk.1, hstatement]
    · have hopen : isOpener c = false := by
        simp [goesOn] at hgo
        exact hgo.1.1
      simp [hopen]
  -- a sign goes on from a value, so the word before it is a statement word
  · have hstatement : k ∈ statementWords := by
      rcases hvalue with h | hgo
      · exact h
      · rcases hsign with rfl | rfl <;> cases hgo
    have hend : endsValue e = false := by
      have h1 : e ≠ ')' := Text.ne_of_class he (by decide)
      have h2 : e ≠ ']' := Text.ne_of_class he (by decide)
      have h3 : e ≠ '\x7d' := Text.ne_of_class he (by decide)
      simp [endsValue, h1, h2, h3, Text.isQuote_of_isIdentChar he]
    simp only [isBinaryAfter, hskip, hword]
    rw [hcons]
    simp [hstatement, hend]
  · rw [hskip, hword]
    exact hasync

/-- An expression may begin after the dots of a spread. -/
theorem Opening.spread (c : Char) {w : Text} (hw : isBlankText w = true) (s : Text) :
    Opening c (w.reverse ++ '.' :: '.' :: s) := by
  have hskip := skipBlanks_mark hw (show isBlank '.' = false by decide) ('.' :: s)
  have hstop : StopsAt isIdentChar ('.' :: '.' :: s) := StopsAt.cons (by decide) _
  have hescaped : isEscaped (w.reverse ++ '.' :: '.' :: s) = false := by
    by_cases hne : w = []
    · rw [hne]
      exact isEscaped_cons_of_ne (by decide) _
    · exact isEscaped_blanks hw hne _
  refine ⟨⟨fun _ => stopsAt_blanks hw hstop, fun _ => hescaped⟩, ?_, fun _ => ?_, ?_⟩
  · simp only [Operand.chainStep, hskip, wordBefore_none hstop]
    rw [if_neg (by decide), if_pos (by decide)]
  · simp [isBinaryAfter, hskip, wordBefore_none hstop, endsValue, isQuote]
  · rw [hskip, wordBefore_none hstop]
    exact show ([] : Text) ≠ "async".toList by decide

/-! ## Prefix operators -/

theorem skipUnary_some {s r : Text} (h : unaryStep s = some r) : skipUnary s = skipUnary r := by
  rw [skipUnary]
  split
  · next h' => rw [h] at h'; cases h'; rfl
  · next h' => rw [h] at h'; cases h'

theorem skipUnary_none {s : Text} (h : unaryStep s = none) : skipUnary s = s := by
  rw [skipUnary]
  split
  · next h' => rw [h] at h'; cases h'
  · rfl

/-- A prefix operator that is a sign is passed over. -/
theorem unaryStep_sign {o : Char} {w s : Text} (ho : o = '!' ∨ o = '+' ∨ o = '-')
    (hw : isBlankText w = true) (hs : o = '+' ∨ o = '-' → isBinaryAfter s = false) :
    unaryStep (w.reverse ++ o :: s) = some s := by
  have hblank : isBlank o = false := by rcases ho with rfl | rfl | rfl <;> decide
  have hident : isIdentChar o = false := by rcases ho with rfl | rfl | rfl <;> decide
  have hskip := skipBlanks_mark hw hblank s
  have hword := wordBefore_none (StopsAt.cons hident s)
  simp only [unaryStep, hskip, hword]
  rcases ho with rfl | rfl | rfl
  · rfl
  · simp [hs (Or.inl rfl)]
  · simp [hs (Or.inr rfl)]

/-- A word that stands whole is passed over exactly if it is a prefix operator. -/
theorem unaryStep_word {k w s : Text} (hk : IsWord k) (hw : isBlankText w = true)
    (hs : StopsAt isIdentChar s) :
    unaryStep (w.reverse ++ (k.reverse ++ s)) = if k ∈ unaryWords then some s else none := by
  have hskip := skipBlanks_word hw hk s
  have hword := wordBefore_word hk.2 hs
  obtain ⟨e, r, hrev, -⟩ := hk.reverse_eq
  have hcons : k.reverse ++ s = e :: (r ++ s) := by rw [hrev, List.cons_append]
  rw [hcons] at hword hskip ⊢
  simp [unaryStep, hskip, hword, hk.1]

/-- Prefix operators that are words, and their class. -/
theorem unaryWords_plain {k : Text} (h : k ∈ unaryWords) :
    IsWord k ∧ k ∈ statementWords ∧ k ≠ "function".toList ∧ k ≠ "async".toList := by
  have hk : k = "void".toList ∨ k = "typeof".toList ∨ k = "delete".toList := by
    simpa [unaryWords] using h
  rcases hk with rfl | rfl | rfl <;>
    exact ⟨.of_all (by decide) rfl, by decide, by decide, by decide⟩

/-! ## Where an expression begins -/

/-- What ends with a value makes a sign after it join two values. -/
theorem EndsWithValue.isBinaryAfter {p : Text} (h : EndsWithValue p) :
    isBinaryAfter p.reverse = true := by
  cases h with
  | @word p k w hk hp hstatement hw =>
    have hrev : (p ++ k ++ w).reverse = w.reverse ++ (k.reverse ++ p.reverse) := by simp
    simp only [Expression.isBinaryAfter, hrev, skipBlanks_word hw hk, wordBefore_word hk.2 hp]
    simp [hk.1, hstatement]
  | @mark p w d hd hw =>
    have hblank : isBlank d = false := by
      cases hblank : isBlank d with
      | false => rfl
      | true =>
        simp [endsValue, isQuote] at hd
        rcases hd with (((rfl | rfl) | rfl) | (rfl | rfl) | rfl) <;> cases hblank
    have hrev : (p ++ d :: w).reverse = w.reverse ++ d :: p.reverse := by simp
    simp [Expression.isBinaryAfter, hrev, skipBlanks_mark hw hblank, hd]

/-- Where an expression may begin, an operand may, and no prefix operator stands before it. -/
theorem Start.opening {c : Char} {p : Text} (h : Start c p) :
    Opening c p.reverse ∧ unaryStep p.reverse = none := by
  cases h with
  | blanks hw =>
    refine ⟨Opening.blanks c hw, ?_⟩
    have hskip : skipBlanks p.reverse = [] := by
      simpa [skipBlanks] using skipBlanks_blanks hw []
    simp [unaryStep, hskip]
  | @word p k w hk hp hunary hfunction hasync hvalue hw hglue =>
    have hrev : (p ++ k ++ w).reverse = w.reverse ++ (k.reverse ++ p.reverse) := by simp
    rw [hrev]
    refine ⟨Opening.word hk hp hfunction hasync hvalue hw hglue, ?_⟩
    rw [unaryStep_word hk hw hp, if_neg hunary]
  | @mark p w d hblank hident hmark hvalue hescape hw =>
    have hrev : (p ++ d :: w).reverse = w.reverse ++ d :: p.reverse := by simp
    have hne : d ≠ '.' ∧ d ≠ '!' ∧ d ≠ '+' ∧ d ≠ '-' := by simpa using hmark
    rw [hrev]
    refine ⟨Opening.mark hblank hident hne.1 hvalue hescape hw _, ?_⟩
    simp [unaryStep, skipBlanks_mark hw hblank, wordBefore_none (StopsAt.cons hident _), hne]
  | @spread p w hw =>
    have hrev : (p ++ "...".toList ++ w).reverse =
        w.reverse ++ '.' :: '.' :: '.' :: p.reverse := by simp
    rw [hrev]
    refine ⟨Opening.spread c hw _, ?_⟩
    have hskip := skipBlanks_mark hw (show isBlank '.' = false by decide) ('.' :: '.' :: p.reverse)
    simp [unaryStep, hskip, wordBefore, isIdentChar]
  | @joined p w o ho hp hw =>
    have hrev : (p ++ o :: w).reverse = w.reverse ++ o :: p.reverse := by simp
    have hblank : isBlank o = false := by rcases ho with rfl | rfl <;> decide
    have hident : isIdentChar o = false := by rcases ho with rfl | rfl <;> decide
    have hend : endsValue o = false := by rcases ho with rfl | rfl <;> decide
    rw [hrev]
    constructor
    · refine Opening.mark hblank hident ?_ ?_ ?_ hw _
      · rcases ho with rfl | rfl <;> decide
      · intro hvalue
        rw [hend] at hvalue
        cases hvalue
      · rintro rfl
        rcases ho with h | h <;> cases h
    · have hbang : o ≠ '!' := by rcases ho with rfl | rfl <;> decide
      simp [unaryStep, skipBlanks_mark hw hblank, wordBefore_none (StopsAt.cons hident _), hbang,
        hp.isBinaryAfter]

/-! ## Functions -/

/-- The keyword of a function ends the walk, and a mark of an asynchronous one before it is taken
along. -/
theorem chainStep_function {f : Char} {w s : Text} (hw : isBlankText w = true)
    (hs : StopsAt isIdentChar s) :
    Operand.chainStep ⟨f, w.reverse ++ ("function".toList.reverse ++ s)⟩ =
      .last (Operand.withAsync ⟨'f', s⟩) := by
  have hword : IsWord "function".toList := .of_all (by decide) rfl
  have hskip := skipBlanks_word hw hword s
  have hbefore := wordBefore_word hword.2 hs
  simp only [Operand.chainStep, hskip, hbefore]
  rfl

/-- A block leads to the parameters before it. -/
theorem chainStep_block {w ps s : Text} (hw : isBlankText w = true) (hps : Group '(' ps) :
    Operand.chainStep ⟨'\x7b', w.reverse ++ (ps.reverse ++ s)⟩ = .on ⟨'(', s⟩ := by
  have hof := Operand.of_group hps s
  cases hps with
  | @mk c inner hc _ =>
    have hclose : c = ')' := by
      rcases opener?_eq_some hc with ⟨h, -⟩ | ⟨-, h⟩ | ⟨-, h⟩
      · exact h
      · cases h
      · cases h
    subst hclose
    have hrev : ('(' :: inner ++ [')']).reverse ++ s = ')' :: (inner.reverse ++ '(' :: s) := by
      simp
    rw [hrev] at hof ⊢
    have hskip := skipBlanks_mark hw (show isBlank ')' = false by decide)
      (inner.reverse ++ '(' :: s)
    have hstop : StopsAt isIdentChar (')' :: (inner.reverse ++ '(' :: s)) :=
      StopsAt.cons (by decide) _
    simp only [Operand.chainStep, hskip, wordBefore_none hstop, hof]
    rfl

/-- Where no mark of an asynchronous function stands before an operand, it stays. -/
theorem Operand.withAsync_of_ne {o : Operand}
    (h : (wordBefore (skipBlanks o.before)).1 ≠ "async".toList) : o.withAsync = o := by
  unfold Operand.withAsync
  exact if_neg fun heq => h (eq_of_beq heq)

/-- The mark of an asynchronous function is taken along. -/
theorem Operand.withAsync_mark {f : Char} {v s : Text} (hv : isBlankText v = true)
    (hs : StopsAt isIdentChar s) :
    Operand.withAsync ⟨f, v.reverse ++ ("async".toList.reverse ++ s)⟩ = ⟨'a', s⟩ := by
  have hword : IsWord "async".toList := .of_all (by decide) rfl
  have hskip := skipBlanks_word hv hword s
  have hbefore := wordBefore_word hword.2 hs
  simp only [Operand.withAsync, hskip, hbefore]
  rfl

/-- A group that is opened by a brace ends with one. -/
theorem block_reverse_eq {body : Text} (h : Group '\x7b' body) :
    ∃ r, body.reverse = '\x7d' :: r := by
  cases h with
  | @mk c inner hc _ =>
    refine ⟨inner.reverse ++ ['\x7b'], ?_⟩
    rcases opener?_eq_some hc with ⟨-, h⟩ | ⟨-, h⟩ | ⟨rfl, -⟩
    · cases h
    · cases h
    · simp

/-- What ends with a block that no arrow stands before is no arrow function. -/
theorem arrowFunction_block {body w e s : Text} {d : Char} (hbody : Group '\x7b' body)
    (hw : isBlankText w = true) (hd : isBlank d = false) (hne : d ≠ '>') (he : e = d :: s) :
    Operand.arrowFunction (body.reverse ++ (w.reverse ++ e)) = none := by
  have hopen := openGroup_group hbody (w.reverse ++ e)
  obtain ⟨r, hrev⟩ := block_reverse_eq hbody
  rw [hrev, List.cons_append] at hopen ⊢
  have hskip : skipBlanks (w.reverse ++ e) = d :: s := by rw [he, skipBlanks_mark hw hd]
  simp only [Operand.arrowFunction, hopen, Option.bind_eq_bind, Option.bind_some, hskip]
  split
  · next h => cases h; exact absurd rfl hne
  · rfl

/-- From the end of a function the scanner arrives at its keyword. -/
theorem FunctionTail.scan {t : Text} (ht : FunctionTail t) {s : Text}
    (hs : StopsAt isIdentChar s) :
    Operand.arrowFunction (t.reverse ++ s) = none ∧
      ∃ o, Operand.of (t.reverse ++ s) = some o ∧ o.extend = Operand.withAsync ⟨'f', s⟩ := by
  -- the parameters end with a parenthesis, so no arrow stands before the block
  have hparameters : ∀ {ps : Text}, Group '(' ps → ∃ r, ps.reverse = ')' :: r := by
    rintro _ ⟨hc, -⟩
    rcases opener?_eq_some hc with ⟨rfl, -⟩ | ⟨-, h⟩ | ⟨-, h⟩
    · simp
    · cases h
    · cases h
  cases ht with
  | @anonymous w w' ps body hw hw' hps hbody =>
    have hrev : ("function".toList ++ w ++ ps ++ w' ++ body).reverse ++ s =
        body.reverse ++ (w'.reverse ++ (ps.reverse ++
          (w.reverse ++ ("function".toList.reverse ++ s)))) := by
      simp only [List.reverse_append, List.append_assoc]
    obtain ⟨r, hr⟩ := hparameters hps
    rw [hrev]
    -- from the block the walk goes to the parameters, and from there to the keyword
    constructor
    · exact arrowFunction_block hbody hw' (show isBlank ')' = false by decide) (by decide)
        (by rw [hr, List.cons_append])
    · refine ⟨_, Operand.of_group hbody _, ?_⟩
      rw [Operand.extend_on (chainStep_block hw' hps),
        Operand.extend_last (chainStep_function hw hs)]
  | @named v n w w' ps body hne hv hn hw hw' hps hbody =>
    have hrev : ("function".toList ++ v ++ n ++ w ++ ps ++ w' ++ body).reverse ++ s =
        body.reverse ++ (w'.reverse ++ (ps.reverse ++
          (w.reverse ++ (n.reverse ++ (v.reverse ++ ("function".toList.reverse ++ s)))))) := by
      simp only [List.reverse_append, List.append_assoc]
    obtain ⟨r, hr⟩ := hparameters hps
    obtain ⟨a, n', rfl⟩ := List.exists_cons_of_ne_nil hn.1.1
    have hstop : StopsAt isIdentChar (v.reverse ++ ("function".toList.reverse ++ s)) :=
      stopsAt_gap hv hne _
    have hname := chainStep_call (f := '(') rfl (by decide) hw (Piece.name hn)
      (Fits.name (hn.1.2 a List.mem_cons_self) hstop)
    rw [hrev]
    -- here the name of the function stands between the parameters and the keyword
    constructor
    · exact arrowFunction_block hbody hw' (show isBlank ')' = false by decide) (by decide)
        (by rw [hr, List.cons_append])
    · refine ⟨_, Operand.of_group hbody _, ?_⟩
      rw [Operand.extend_on (chainStep_block hw' hps), Operand.extend_on hname,
        Operand.extend_last (chainStep_function hv hs)]

/-! ## Recognition -/

/-- From the end of an expression with prefix operators the scanner arrives at its beginning. -/
theorem Operated.scan {c : Char} {t : Text} (ht : Operated c t) :
    ∀ {s : Text}, Opening c s → Operand.arrowFunction (t.reverse ++ s) = none ∧
      ∃ o, Operand.of (t.reverse ++ s) = some o ∧ skipUnary o.extend.before = skipUnary s := by
  induction ht with
  | @chain c t hchain =>
    intro s hs
    obtain ⟨c', u, s', hrev, hu, hfits, hwalk⟩ := hchain.walk hs.fits
    obtain ⟨e, r, hlast, he⟩ := hu.reverse_eq
    -- a chain ends with no block, so there is no arrow function to look for
    constructor
    · rw [hrev, hlast, List.cons_append]
      unfold Operand.arrowFunction
      split
      · next h => cases h; exact absurd rfl he.plain.2.2.2.2
      · rfl
    · refine ⟨⟨c', s'⟩, by rw [hrev, Operand.of_piece hu hfits], ?_⟩
      rw [hwalk, Operand.extend_stay hs.stays]
  | function htail =>
    intro s hs
    obtain ⟨harrow, o, hof, hextend⟩ := htail.scan (hs.fits.unglued (by decide))
    refine ⟨harrow, o, hof, ?_⟩
    rw [hextend, Operand.withAsync_of_ne hs.notAsync]
  | @async v t hne hv htail =>
    intro s hs
    have hstop : StopsAt isIdentChar (v.reverse ++ ("async".toList.reverse ++ s)) :=
      stopsAt_gap hv hne _
    obtain ⟨harrow, o, hof, hextend⟩ := htail.scan hstop
    have hrev : ("async".toList ++ v ++ t).reverse ++ s =
        t.reverse ++ (v.reverse ++ ("async".toList.reverse ++ s)) := by
      simp only [List.reverse_append, List.append_assoc]
    rw [hrev]
    refine ⟨harrow, o, hof, ?_⟩
    rw [hextend, Operand.withAsync_mark hv (hs.fits.unglued (by decide))]
  | @sign o c w t ho hw _ ih =>
    intro s hs
    -- behind the sign a new expression opens, and the scanner absorbs the sign on its way back
    have hopening : Opening c (w.reverse ++ o :: s) := by
      refine Opening.mark ?_ ?_ ?_ ?_ ?_ hw s
      · rcases ho with rfl | rfl | rfl <;> decide
      · rcases ho with rfl | rfl | rfl <;> decide
      · rcases ho with rfl | rfl | rfl <;> decide
      · intro hvalue
        rcases ho with rfl | rfl | rfl <;> cases hvalue
      · rintro rfl
        rcases ho with h | h | h <;> cases h
    obtain ⟨harrow, o', hof, hskip⟩ := ih hopening
    have hrev : (o :: w ++ t).reverse ++ s = t.reverse ++ (w.reverse ++ o :: s) := by simp
    rw [hrev]
    refine ⟨harrow, o', hof, ?_⟩
    rw [hskip, skipUnary_some (unaryStep_sign ho hw hs.prefixSign)]
  | @word o c k w t hk hw hglue _ ih =>
    intro s hs
    obtain ⟨hword, hstatement, hfunction, hasync⟩ := unaryWords_plain hk
    have hstop : StopsAt isIdentChar s := hs.fits.unglued (hword.2 o List.mem_cons_self)
    have hopening := Opening.word hword hstop hfunction hasync (Or.inl hstatement) hw hglue
    obtain ⟨harrow, o', hof, hskip⟩ := ih hopening
    have hrev : (o :: k ++ w ++ t).reverse ++ s =
        t.reverse ++ (w.reverse ++ ((o :: k).reverse ++ s)) := by
      simp only [List.reverse_append, List.append_assoc]
    rw [hrev]
    refine ⟨harrow, o', hof, ?_⟩
    have hstep := unaryStep_word hword hw hstop
    rw [if_pos hk] at hstep
    rw [hskip, skipUnary_some hstep]

/-- The parameters of an arrow function are read as a whole where they may stand. -/
theorem Parameters.of {c : Char} {ps s : Text} (hps : Parameters c ps) (hs : Fits c s) :
    Operand.of (ps.reverse ++ s) = some ⟨c, s⟩ := by
  cases hps with
  | group hc hg =>
    subst hc
    exact Operand.of_group hg s
  | word hn => exact Operand.of_word hn (hs.unglued (hn.2 c List.mem_cons_self))

/-- The parameters of an arrow function do not end with a blank. -/
theorem Parameters.skipBlanks {c : Char} {ps w : Text} (hps : Parameters c ps)
    (hw : isBlankText w = true) (s : Text) :
    skipBlanks (w.reverse ++ (ps.reverse ++ s)) = ps.reverse ++ s := by
  cases hps with
  | group hc hg =>
    subst hc
    obtain ⟨e, r, hrev, he⟩ := (Piece.group hg (by decide)).reverse_eq
    rw [hrev, List.cons_append, skipBlanks_mark hw he.plain.1]
  | word hn => exact skipBlanks_word hw hn s

/-- From the end of an arrow function the scanner jumps to its parameters. -/
theorem arrowFunction_arrow {c : Char} {ps w w' body s : Text} (hps : Parameters c ps)
    (hs : Fits c s) (hw : isBlankText w = true) (hw' : isBlankText w' = true)
    (hbody : Group '\x7b' body) :
    Operand.arrowFunction ((ps ++ w ++ "=>".toList ++ w' ++ body).reverse ++ s) =
      some (Operand.withAsync ⟨c, s⟩) := by
  have hrev : (ps ++ w ++ "=>".toList ++ w' ++ body).reverse ++ s =
      body.reverse ++ (w'.reverse ++ '>' :: '=' :: (w.reverse ++ (ps.reverse ++ s))) := by simp
  have hopen := openGroup_group hbody (w'.reverse ++ '>' :: '=' :: (w.reverse ++ (ps.reverse ++ s)))
  obtain ⟨r, hr⟩ := block_reverse_eq hbody
  have hskip := skipBlanks_mark hw' (show isBlank '>' = false by decide)
    ('=' :: (w.reverse ++ (ps.reverse ++ s)))
  rw [hrev]
  rw [hr, List.cons_append] at hopen ⊢
  simp only [Operand.arrowFunction, hopen, Option.bind_eq_bind, Option.bind_some, hskip,
    hps.skipBlanks hw, hps.of hs, Option.map_some]

/-- From the end of an arrow function the scanner arrives at its beginning. -/
theorem Arrow.scan {c : Char} {t : Text} (ht : Arrow c t) {s : Text} (hs : Opening c s) :
    ∃ o, Operand.arrowFunction (t.reverse ++ s) = some o ∧
      skipUnary o.extend.before = skipUnary s := by
  cases ht with
  | plain hps hw hw' hbody =>
    refine ⟨_, arrowFunction_arrow hps hs.fits hw hw' hbody, ?_⟩
    rw [Operand.withAsync_of_ne hs.notAsync, Operand.extend_stay hs.stays]
  | @async c v ps w w' body hps hv hglue hw hw' hbody =>
    have hstop : StopsAt isIdentChar s := hs.fits.unglued (by decide)
    have hfits : Fits c (v.reverse ++ ("async".toList.reverse ++ s)) :=
      Fits.after_word (.of_all (by decide) rfl) hv hglue s
    have hrev : ("async".toList ++ v ++ ps ++ w ++ "=>".toList ++ w' ++ body).reverse ++ s =
        (ps ++ w ++ "=>".toList ++ w' ++ body).reverse ++
          (v.reverse ++ ("async".toList.reverse ++ s)) := by
      simp only [List.reverse_append, List.append_assoc]
    rw [hrev]
    refine ⟨_, arrowFunction_arrow hps hfits hw hw' hbody, ?_⟩
    rw [Operand.withAsync_mark hv hstop, Operand.extend_stay hs.stays]

/-- Read backwards, an expression does not begin with a blank or a separator. -/
theorem IsExpression.reverse_eq {c : Char} {t : Text} (ht : IsExpression c t) :
    ∃ e r, t.reverse = e :: r ∧ isBlank e = false ∧ e ≠ ';' := by
  -- all functions end with the closing brace of their block
  have hblock : ∀ {x body : Text}, Group '\x7b' body →
      ∃ e r, (x ++ body).reverse = e :: r ∧ isBlank e = false ∧ e ≠ ';' := by
    intro x body hbody
    obtain ⟨r, hr⟩ := block_reverse_eq hbody
    exact ⟨'\x7d', r ++ x.reverse, by rw [List.reverse_append, hr, List.cons_append], by decide,
      by decide⟩
  have hlonger : ∀ {x y : Text}, (∃ e r, y.reverse = e :: r ∧ isBlank e = false ∧ e ≠ ';') →
      ∃ e r, (x ++ y).reverse = e :: r ∧ isBlank e = false ∧ e ≠ ';' := by
    rintro x y ⟨e, r, hr, he⟩
    exact ⟨e, r ++ x.reverse, by rw [List.reverse_append, hr, List.cons_append], he⟩
  have htail : ∀ {y : Text}, FunctionTail y →
      ∃ e r, y.reverse = e :: r ∧ isBlank e = false ∧ e ≠ ';' := by
    intro y hy
    cases hy with
    | anonymous _ _ _ hbody => exact hblock hbody
    | named _ _ _ _ _ _ hbody => exact hblock hbody
  rcases ht with ht | ht
  · induction ht with
    | @chain c t hchain =>
      obtain ⟨c', u, s', hrev, hu, -, -⟩ :=
        hchain.walk (s := []) ⟨fun _ => StopsAt.nil, fun _ => rfl⟩
      obtain ⟨e, r, hlast, he⟩ := hu.reverse_eq
      refine ⟨e, r ++ s', ?_, he.plain.1, he.plain.2.2.2.1⟩
      rw [← List.append_nil t.reverse, hrev, hlast, List.cons_append]
    | function hy => exact htail hy
    | async _ _ hy => exact hlonger (htail hy)
    | sign _ _ _ ih => exact hlonger ih
    | word _ _ _ _ ih => exact hlonger ih
  · cases ht with
    | plain _ _ _ hbody => exact hblock hbody
    | async _ _ _ _ _ hbody => exact hblock hbody

/-- What follows a text up to the cursor does not move the place where the scan begins, unless the
text has a separator at its end, too. -/
theorem beforeCursor_append {t w : Text} (ht : StopsAt isSeparator (skipBlanks t.reverse))
    (hw : Trailing w) (r : Text) :
    beforeCursor (t ++ w ++ r) (t ++ w).length = skipBlanks t.reverse := by
  unfold beforeCursor
  rw [List.take_left' rfl, List.reverse_append]
  cases hw with
  | blanks hw =>
    rw [skipBlanks_blanks hw]
    cases hskip : skipBlanks t.reverse with
    | nil => rfl
    | cons c s =>
      rw [hskip] at ht
      simp [ht c rfl]
  | @separator w w' hw hw' =>
    have hrev : (w ++ ';' :: w').reverse ++ t.reverse =
        w'.reverse ++ ';' :: (w.reverse ++ t.reverse) := by simp
    rw [hrev, skipBlanks_mark hw' (by decide)]
    simp [isSeparator, skipBlanks_blanks hw]

/-- What follows an expression up to the cursor does not move the end of it. -/
theorem beforeCursor_trailing {t w r : Text} {e : Char} {s : Text} (ht : t.reverse = e :: s)
    (hblank : isBlank e = false) (hsep : e ≠ ';') (hw : Trailing w) :
    beforeCursor (t ++ w ++ r) (t ++ w).length = t.reverse := by
  have hskip : skipBlanks t.reverse = t.reverse := by rw [ht, skipBlanks_cons hblank]
  have hstop : StopsAt isSeparator (skipBlanks t.reverse) := by
    rw [hskip, ht]
    exact StopsAt.cons (by simpa [isSeparator] using hsep) s
  rw [beforeCursor_append hstop hw, hskip]

/-- The boundary is found: before the end of an expression of the grammar, and before blanks and at
most one separator after it, the scanner stops where the expression begins. -/
theorem boundary_expression {c : Char} {p t w : Text} (ht : IsExpression c t) (hp : Start c p)
    (hw : Trailing w) (r : Text) :
    boundary (p ++ t ++ w ++ r) (p ++ t ++ w).length = .ok p.length := by
  obtain ⟨hopening, hunary⟩ := hp.opening
  obtain ⟨e, s, hrev, hblank, hsep⟩ := ht.reverse_eq
  have hcursor : beforeCursor (p ++ t ++ w ++ r) (p ++ t ++ w).length = t.reverse ++ p.reverse := by
    have hpt : (p ++ t).reverse = e :: (s ++ p.reverse) := by
      rw [List.reverse_append, hrev, List.cons_append]
    rw [beforeCursor_trailing hpt hblank hsep hw, List.reverse_append]
  have hbefore : beforeExpression (t.reverse ++ p.reverse) = some p.reverse := by
    unfold beforeExpression
    -- either way the scanner arrives at the beginning, where no prefix operator is left to absorb
    rcases ht with ht | ht
    · obtain ⟨harrow, o, hof, hskip⟩ := ht.scan hopening
      rw [harrow, hof]
      simp [hskip, skipUnary_none hunary]
    · obtain ⟨o, harrow, hskip⟩ := ht.scan hopening
      rw [harrow]
      simp [hskip, skipUnary_none hunary]
  have hinside : ¬ (((p ++ t ++ w).length : Int) < 0 ∨
      ((p ++ t ++ w ++ r).length : Int) < (p ++ t ++ w).length) := by
    have hlength : (p ++ t ++ w ++ r).length = (p ++ t ++ w).length + r.length :=
      List.length_append
    omega
  unfold boundary
  rw [if_neg (by simpa using hinside), Int.toNat_natCast, hcursor, hbefore]
  simp

/-- In `x = typeof f ?. (')') ; y` the expression before the separator begins with `typeof`; the
parenthesis in the string closes nothing. -/
theorem boundary_typeof_call :
    IsExpression 't' "typeof f ?. (')')".toList ∧ Start 't' "x = ".toList ∧
      Trailing " ; ".toList ∧ boundary "x = typeof f ?. (')') ; y".toList 24 = .ok 4 := by
  have hcallee : Chain 'f' "f".toList :=
    .head (.name ⟨.of_all (by decide) rfl, by decide, by decide⟩)
  have hjoint : Joint " ?. ".toList := @Joint.optional [' '] [' '] rfl rfl
  have hargument : Content "')'".toList :=
    .string (.mk rfl (.plain (by decide) (by decide) .nil)) .nil
  have hcall : Chain 'f' "f ?. (')')".toList :=
    .call hcallee hjoint (@Group.mk '(' ')' _ rfl hargument) (by decide)
  have hexpression : IsExpression 't' "typeof f ?. (')')".toList :=
    Or.inl (@Operated.word 't' 'f' "ypeof".toList [' '] _ (by decide) rfl (fun h => by cases h)
      (.chain hcall))
  have hstart : Start 't' "x = ".toList :=
    @Start.mark 't' "x ".toList [' '] '=' rfl rfl (by decide) (by decide) (by decide) rfl
  have htrailing : Trailing " ; ".toList := @Trailing.separator [' '] [' '] rfl rfl
  exact ⟨hexpression, hstart, htrailing,
    boundary_expression hexpression hstart htrailing "y".toList⟩

end ReplDriver.Expression
