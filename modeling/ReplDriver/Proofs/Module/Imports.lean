import ReplDriver.Proofs.Module.Clause
import ReplDriver.Proofs.Module.Layout

/-!
# Recognising imports

The clause of an import may hold the word `from` and even end with it: it goes up to the word
before the path, because only there a quote comes next.

* `clause?_eq`, `clause?_eq_none`: where a clause ends, and that it ends before no semicolon.
* `import?_eq`, `import?_bare`: imports with a clause and without one are found.
-/

namespace ReplDriver.Module

open Statement
open Text (isBlank isIndent atWordEnd after? StopsAt)

/-! ## The clause of an import -/

/-- The characters of a text that are not blank. -/
def visible (s : Text) : Text := s.filter fun c => !isBlank c

theorem visible_blanks (s : Text) : visible (blanks s) = visible s := by
  induction s with
  | nil => rfl
  | cons c r ih =>
    by_cases hc : isBlank c = true
    · have hdrop : blanks (c :: r) = blanks r := List.dropWhile_cons_of_pos hc
      have hvisible : visible (c :: r) = visible r := List.filter_cons_of_neg (by simp [hc])
      rw [hdrop, ih, hvisible]
    · have hdrop : blanks (c :: r) = c :: r := List.dropWhile_cons_of_neg hc
      rw [hdrop]

/-- No word `from` with a quote after it comes next if, before a quote or a semicolon, something
else than the word and blanks comes. -/
theorem fromQuote?_eq_none {v s : Text} {z : Char} (hv : ∀ c ∈ v, endsClause c = false)
    (hz : z = ';' ∨ z = '\x27' ∨ z = '\x22') (hvisible : z ≠ ';' → visible v ≠ "from".toList) :
    fromQuote? (blanks (v ++ z :: s)) = none := by
  have hblank : isBlank z = false := by rcases hz with rfl | rfl | rfl <;> decide
  have hmem : ∀ c ∈ blanks v, endsClause c = false :=
    fun c hc => hv c ((List.dropWhile_sublist _).mem hc)
  rw [blanks_append_cons hblank]
  rw [← visible_blanks] at hvisible
  generalize blanks v = u at hvisible hmem
  rw [fromQuote?]
  rcases hafter : after? "from" (u ++ z :: s) with _ | r
  · rfl
  -- the word ends before the quote or the semicolon, which is no letter of it
  · obtain ⟨x, rfl, rfl⟩ : ∃ x, u = "from".toList ++ x ∧ r = x ++ z :: s := by
      rcases List.append_eq_append_iff.mp (Text.after?_eq_some.mp hafter) with
        ⟨x, hword, hx⟩ | ⟨x, hword, hr⟩
      · cases x with
        | nil => exact ⟨[], by simpa using hword.symm, by simpa using hx.symm⟩
        | cons c x =>
          obtain ⟨rfl, -⟩ := List.cons.inj hx
          have hletter : z ∈ "from".toList := by simp [hword]
          rcases hz with rfl | rfl | rfl <;> exact absurd hletter (by decide)
      · exact ⟨x, hword, hr⟩
    refine if_neg fun hquote => ?_
    rw [blanks_append_cons hblank] at hquote
    cases hrest : blanks x with
    | nil =>
      -- the character comes right after the word, so it would have to be a quote
      rw [hrest] at hquote
      have hnone : visible x = [] := by rw [← visible_blanks, hrest]; rfl
      have hword : visible ("from".toList ++ x) = "from".toList := by
        have happend : visible ("from".toList ++ x) = "from".toList ++ visible x :=
          List.filter_append ..
        rw [happend, hnone, List.append_nil]
      rcases hz with rfl | rfl | rfl
      · simp at hquote
      · exact hvisible (by decide) hword
      · exact hvisible (by decide) hword
    | cons c y =>
      rw [hrest] at hquote
      have hc : c ∈ x := (List.dropWhile_sublist isBlank).mem (by
        rw [show x.dropWhile isBlank = c :: y from hrest]
        exact List.mem_cons_self)
      have hplain := hmem c (List.mem_append_right _ hc)
      have hcquote : c = '\x27' ∨ c = '\x22' := by simpa using hquote
      rcases hcquote with rfl | rfl <;> exact absurd hplain (by decide)

/-- The word `from` and a quote after it. -/
theorem fromQuote?_eq {b s : Text} {q : Char} (hb : ∀ c ∈ b, isBlank c = true)
    (hq : q = '\x27' ∨ q = '\x22') : fromQuote? ("from" ++ (b ++ q :: s)) = some (q :: s) := by
  have hafter : after? "from" ("from" ++ (b ++ q :: s)) = some (b ++ q :: s) :=
    Text.after?_eq_some.mpr rfl
  have hblanks : blanks (b ++ q :: s) = q :: s :=
    blanks_append hb (.cons (by rcases hq with rfl | rfl <;> decide) s)
  rw [fromQuote?, hafter]
  refine (if_pos ?_).trans (by rw [hblanks])
  rw [hblanks]
  rcases hq with rfl | rfl <;> rfl

theorem clause?_found {before : Option Char} {s r : Text}
    (hstart : (s.head?.any isBlank || Text.atWordStart before) = true)
    (hfrom : fromQuote? (blanks s) = some r) : clause? before s = some ([], r) := by
  rw [clause?.eq_def]
  dsimp only
  rw [if_pos hstart, hfrom]

theorem clause?_cons {before : Option Char} {c : Char} {s : Text}
    (hfrom : fromQuote? (blanks (c :: s)) = none) (hc : endsClause c = false) :
    clause? before (c :: s) = (clause? (some c) s).map fun (k, rest) => (c :: k, rest) := by
  rw [clause?.eq_def]
  dsimp only
  rw [hfrom, ite_self]
  exact if_neg (by simp [hc])

theorem clause?_ends {before : Option Char} {c : Char} {s : Text}
    (hfrom : fromQuote? (blanks (c :: s)) = none) (hc : endsClause c = true) :
    clause? before (c :: s) = none := by
  rw [clause?.eq_def]
  dsimp only
  rw [hfrom, ite_self]
  exact if_pos hc

/-- A class of characters that holds neither a semicolon nor a quote ends no clause. -/
theorem endsClause_of_class {p : Char → Bool} {c : Char} (hc : p c = true)
    (hp : ∀ d ∈ [';', '\x27', '\x22', '\x60'], p d = false) : endsClause c = false := by
  have hne : ∀ d ∈ [';', '\x27', '\x22', '\x60'], c ≠ d := fun d hd =>
    Text.ne_of_class hc (hp d hd)
  simpa [endsClause, Text.isQuote, and_assoc] using hne

theorem endsClause_of_isBlank {c : Char} (h : isBlank c = true) : endsClause c = false :=
  endsClause_of_class h (Text.forall_mem_eq (by decide))

theorem visible_append (s t : Text) : visible (s ++ t) = visible s ++ visible t :=
  List.filter_append ..

theorem visible_of_blank {b : Text} (hb : ∀ c ∈ b, isBlank c = true) : visible b = [] :=
  List.filter_eq_nil_iff.mpr fun c hc => by simp [hb c hc]

/-- A text that does not end with a blank shows something. -/
theorem visible_ne_nil {s : Text} (hlast : StopsAt isBlank s.reverse) (hne : s ≠ []) :
    visible s ≠ [] := by
  intro h
  have hall := List.filter_eq_nil_iff.mp h
  have hlastc := hlast (s.getLast hne)
    (by rw [List.head?_reverse, List.getLast?_eq_some_getLast hne])
  exact absurd hlastc (by simpa using hall _ (List.getLast_mem hne))

/-- Within a clause no word `from` with a quote after it is found. -/
theorem fromQuote?_clause {k g b s : Text} {q : Char} (hne : k ≠ [])
    (hk : ∀ c ∈ k, endsClause c = false) (hlast : StopsAt isBlank k.reverse)
    (hg : ∀ c ∈ g, isBlank c = true) (hb : ∀ c ∈ b, isBlank c = true)
    (hq : q = '\x27' ∨ q = '\x22') :
    fromQuote? (blanks (k ++ (g ++ ("from" ++ (b ++ q :: s))))) = none := by
  have hsplit : k ++ (g ++ ("from".toList ++ (b ++ q :: s))) =
      (k ++ (g ++ ("from".toList ++ b))) ++ q :: s := by simp
  rw [hsplit]
  refine fromQuote?_eq_none (fun c hc => ?_) (.inr hq) fun _ hvisible => ?_
  · simp only [List.mem_append] at hc
    rcases hc with hc | hc | hc | hc
    · exact hk c hc
    · exact endsClause_of_isBlank (hg c hc)
    · have hletters : ∀ c ∈ "from".toList, endsClause c = false := Text.forall_mem_eq (by decide)
      exact hletters c hc
    · exact endsClause_of_isBlank (hb c hc)
  -- what is visible before the quote is longer than the word `from`
  · have hword : visible "from".toList = "from".toList := by decide
    rw [visible_append, visible_append, visible_append, visible_of_blank hg, visible_of_blank hb,
      hword, List.append_nil, List.nil_append] at hvisible
    have hlength := congrArg List.length hvisible
    rw [List.length_append] at hlength
    exact visible_ne_nil hlast hne (List.length_eq_zero_iff.mp (by omega))

/-- The clause of an import goes up to the word `from` before the path. -/
theorem clause?_eq {before : Option Char} {k g b s : Text} {q : Char}
    (hk : ∀ c ∈ k, endsClause c = false) (hlast : StopsAt isBlank k.reverse)
    (hg : ∀ c ∈ g, isBlank c = true) (hb : ∀ c ∈ b, isBlank c = true)
    (hq : q = '\x27' ∨ q = '\x22')
    (hgap : g = [] → ∀ c, (before.toList ++ k).getLast? = some c → Text.isWord c = false) :
    clause? before (k ++ (g ++ ("from" ++ (b ++ q :: s)))) = some (k, q :: s) := by
  -- the clause is read character by character, each of them before the word that ends it
  induction k generalizing before with
  | nil =>
    have hstart : ((g ++ ("from".toList ++ (b ++ q :: s))).head?.any isBlank ||
        Text.atWordStart before) = true := by
      cases g with
      | nil =>
        have hbefore : Text.atWordStart before = true := by
          cases before with
          | none => rfl
          | some c => simpa [Text.atWordStart] using hgap rfl c rfl
        rw [hbefore, Bool.or_true]
      | cons c g => simp [hg c List.mem_cons_self]
    apply clause?_found hstart
    show fromQuote? (blanks (g ++ ("from".toList ++ (b ++ q :: s)))) = _
    have hstop : StopsAt isBlank ("from".toList ++ (b ++ q :: s)) :=
      .cons (show isBlank 'f' = false by decide) _
    rw [blanks_append hg hstop]
    exact fromQuote?_eq hb hq
  | cons c r ih =>
    have hnone := fromQuote?_clause (s := s) (List.cons_ne_nil c r) hk hlast hg hb hq
    have hlast' : StopsAt isBlank r.reverse := by
      intro d hd
      refine hlast d ?_
      rw [List.reverse_cons, List.head?_append, hd]
      rfl
    have hrest : clause? (some c) (r ++ (g ++ ("from" ++ (b ++ q :: s)))) = some (r, q :: s) :=
      ih (fun d hd => hk d (List.mem_cons_of_mem c hd)) hlast' (by
      intro hnil d hd
      refine hgap hnil d ?_
      rw [List.getLast?_append, show (c :: r).getLast? = some d from hd]
      rfl)
    rw [List.cons_append] at hnone ⊢
    rw [clause?_cons hnone (hk c List.mem_cons_self), hrest]
    rfl

/-- A clause that ends with a semicolon instead is not found. -/
theorem clause?_eq_none {before : Option Char} {k s : Text} (hk : ∀ c ∈ k, endsClause c = false) :
    clause? before (k ++ ';' :: s) = none := by
  induction k generalizing before with
  | nil =>
    have hnone : fromQuote? (blanks (';' :: s)) = none :=
      fromQuote?_eq_none (v := []) nofun (.inl rfl) (by simp)
    exact clause?_ends hnone rfl
  | cons c r ih =>
    have hnone : fromQuote? (blanks (c :: r ++ ';' :: s)) = none :=
      fromQuote?_eq_none hk (.inl rfl) (by simp)
    have hrest : clause? (some c) (r ++ ';' :: s) = none :=
      ih fun d hd => hk d (List.mem_cons_of_mem c hd)
    rw [List.cons_append] at hnone ⊢
    rw [clause?_cons hnone (hk c List.mem_cons_self), hrest]
    rfl

/-! ## Imports -/

theorem endsClause_of_isClauseChar {c : Char} (h : isClauseChar c = true) :
    endsClause c = false :=
  endsClause_of_class h (Text.forall_mem_eq (by decide))

theorem importKeyword?_eq {g s : Text} (hg : ∀ c ∈ g, isBlank c = true) (hs : StopsAt isBlank s)
    (hend : atWordEnd (g ++ s) = true) (hhead : ∀ c, s.head? = some c → c ≠ '(' ∧ c ≠ '.') :
    importKeyword? ("import" ++ (g ++ s)) = some s := by
  have hafter : after? "import" ("import" ++ (g ++ s)) = some (g ++ s) :=
    Text.after?_eq_some.mpr rfl
  have hblanks : blanks (g ++ s) = s := blanks_append hg hs
  have hcall : (s.head?.any fun c => c == '(' || c == '.') = false := by
    rw [Option.any_eq_false]
    intro c hc
    simpa using hhead c hc
  rw [importKeyword?, hafter, Option.bind_eq_bind, Option.bind_some, hblanks, hend, hcall]
  rfl

/-- An import is found from its keyword, its clause and its source. -/
theorem import?_of_parts {indent s r clause t path rest : Text} {attributes : Option Text}
    (hindent : ∀ c ∈ indent, isIndent c = true) (hs : StopsAt isIndent s)
    (hkeyword : importKeyword? s = some r) (hclause : importClause? r = some (clause, t ++ rest))
    (hsource : WritesSource t path attributes) :
    Statement.import? (indent ++ s) = some (⟨indent, clause, path, attributes⟩, rest) := by
  obtain ⟨u, hpath, hattributes, hsemicolon⟩ := hsource.found rest
  rw [import?, Text.dropWhile_run hindent hs, Text.takeWhile_run hindent hs]
  simp only [Option.bind_eq_bind, hkeyword, hclause, hpath, hattributes, hsemicolon,
    Option.bind_some]
  rfl

/-- An import with a clause is found, the clause up to the word `from` before the path. -/
theorem import?_eq {indent g k g' b t path : Text} {attributes : Option Text}
    (hindent : ∀ c ∈ indent, isIndent c = true) (hg : ∀ c ∈ g, isBlank c = true)
    (hk : ∀ c ∈ k, isClauseChar c = true) (hne : k ≠ []) (htrim : Text.Trimmed k)
    (hstart : atWordEnd (g ++ k) = true) (hg' : ∀ c ∈ g', isBlank c = true)
    (hend : g' = [] → StopsAt Text.isWord k.reverse) (hb : ∀ c ∈ b, isBlank c = true)
    (hsource : WritesSource t path attributes) (rest : Text) :
    Statement.import?
      (indent ++ ("import" ++ (g ++ (k ++ (g' ++ ("from" ++ (b ++ (t ++ rest)))))))) =
      some (⟨indent, k, path, attributes⟩, rest) := by
  obtain ⟨c, r, rfl⟩ := List.exists_cons_of_ne_nil hne
  have hc := hk c List.mem_cons_self
  have hclauseEnd : ∀ d ∈ c :: r, endsClause d = false :=
    fun d hd => endsClause_of_isClauseChar (hk d hd)
  refine import?_of_parts hindent (.cons (show isIndent 'i' = false by decide) _)
    (importKeyword?_eq hg (.cons (htrim.1 c rfl) _) ?_ ?_) ?_ hsource
  · cases g with
    | nil => exact hstart
    | cons d g => exact hstart
  · intro d hd
    cases hd
    constructor
    · rintro rfl
      exact absurd hc (by decide)
    · rintro rfl
      exact absurd hc (by decide)
  · obtain ⟨q, s, rfl, hq⟩ := hsource.head
    have hquote : Text.isQuote c = false := by
      have := hclauseEnd c List.mem_cons_self
      rw [endsClause, Bool.or_eq_false_iff] at this
      exact this.2
    have hword : g' = [] →
        ∀ d, ((none : Option Char).toList ++ c :: r).getLast? = some d → Text.isWord d = false := by
      intro hnil d hd
      refine hend hnil d ?_
      rw [List.head?_reverse]
      exact hd
    have hclause := clause?_eq (s := s ++ rest) hclauseEnd htrim.2 hg' hb hq hword
    rw [importClause?]
    exact (if_neg (by simp [hquote])).trans hclause

/-- An import for its effects alone is found. -/
theorem import?_bare {indent g t path : Text} {attributes : Option Text}
    (hindent : ∀ c ∈ indent, isIndent c = true) (hg : ∀ c ∈ g, isBlank c = true)
    (hsource : WritesSource t path attributes) (rest : Text) :
    Statement.import? (indent ++ ("import" ++ (g ++ (t ++ rest)))) =
      some (⟨indent, [], path, attributes⟩, rest) := by
  obtain ⟨q, s, rfl, hq⟩ := hsource.head
  have hword : Text.isWord q = false := by
    have hboth : Text.isWord '\x27' = false ∧ Text.isWord '\x22' = false := by decide +kernel
    rcases hq with rfl | rfl
    · exact hboth.1
    · exact hboth.2
  have hblank : isBlank q = false := by rcases hq with rfl | rfl <;> decide
  refine import?_of_parts hindent (.cons (show isIndent 'i' = false by decide) _)
    (importKeyword?_eq hg (.cons hblank _) ?_ ?_) ?_ hsource
  · cases g with
    | nil => rw [List.nil_append, List.cons_append, Text.atWordEnd_cons, hword]; rfl
    | cons d g =>
      rw [List.cons_append, Text.atWordEnd_cons, Text.isWord_of_isBlank (hg d List.mem_cons_self)]
      rfl
  · intro d hd
    cases hd
    rcases hq with rfl | rfl <;> decide
  · have hquote : Text.isQuote q = true := by rcases hq with rfl | rfl <;> rfl
    rw [importClause?]
    exact if_pos (by simp [hquote])

/-- No import is found where a semicolon comes before any quote. -/
theorem import?_eq_none_of_semicolon {s : Text}
    (h : ∀ r, after? "import" (s.dropWhile isIndent) = some r →
      ∃ k u, blanks r = k ++ ';' :: u ∧ ∀ c ∈ k, endsClause c = false) : import? s = none := by
  rcases hkeyword : importKeyword? (s.dropWhile isIndent) with _ | r
  · rw [import?, hkeyword]
    rfl
  · obtain ⟨t, hafter, hcond⟩ := Option.bind_eq_some_iff.mp hkeyword
    obtain ⟨k, u, hblanks, hk⟩ := h t hafter
    obtain rfl : blanks t = r := by
      split at hcond
      · exact Option.some.inj hcond
      · cases hcond
    have hquote : ((k ++ ';' :: u).head?.any Text.isQuote) = false := by
      cases k with
      | nil => rfl
      | cons c k =>
        have hc := hk c List.mem_cons_self
        rw [endsClause, Bool.or_eq_false_iff] at hc
        simpa using hc.2
    have hclause : importClause? (k ++ ';' :: u) = none := by
      rw [importClause?, hquote]
      exact clause?_eq_none hk
    rw [import?, hkeyword, hblanks, Option.bind_eq_bind, Option.bind_some, hclause]
    rfl

end ReplDriver.Module
