import Mathlib.Data.List.Forall2
import ReplDriver.Proofs.Module.Clause

/-!
# The layout of import clauses

A clause as its tokens: the default export by its name, the whole module as a star, `as` and a
name, and named exports between braces, with commas between. Blanks may stand anywhere between two
tokens and may be missing wherever the tokens stay apart without them, which is everywhere but
between two words. However the tokens are laid out, exactly the bindings that they stand for are
read back.

* `Laid.forall₂_splitOn`: a layout cut at its commas is a layout of what is between the commas.
* `Laid.writesClause`: a layout of a clause writes it.
* `ofClause?_of_laid`: the bindings are read back, with one statement for each of them that has a
  value at run time.
-/

namespace ReplDriver.Module

open Text (isBlank isIdent isIdentChar words splitOn StopsAt)

/-! ## Tokens and their layouts -/

/-- A word, or a sign that is one character. -/
inductive Token
  | word (w : Text)
  | sign (c : Char)
deriving DecidableEq

/-- The layouts of tokens: blanks may stand before each of them and after the last. Words are
identifiers, and no identifier character comes right after one. -/
inductive Laid : List Token → Text → Prop
  | nil {g : Text} (hg : ∀ c ∈ g, isBlank c = true) : Laid [] g
  | word {g w s : Text} {ts : List Token} (hg : ∀ c ∈ g, isBlank c = true) (hw : isIdent w = true)
      (hapart : StopsAt isIdentChar s) (h : Laid ts s) : Laid (.word w :: ts) (g ++ (w ++ s))
  | sign {g s : Text} {c : Char} {ts : List Token} (hg : ∀ c ∈ g, isBlank c = true)
      (hc : isBlank c = false) (h : Laid ts s) : Laid (.sign c :: ts) (g ++ c :: s)

/-- Lists of tokens with a comma between each two. -/
def separated : List (List Token) → List Token
  | [] => []
  | [ts] => ts
  | ts :: next :: rest => ts ++ .sign ',' :: separated (next :: rest)

/-- Nothing, or the nothing that stands after a last comma. -/
def afterComma (comma : Bool) : List (List Token) := if comma then [[]] else []

/-- Whether a text is a layout of tokens. -/
def isLaid : List Token → Text → Bool
  | [], s => Text.isBlankText s
  | .word w :: ts, s =>
    match Text.after? w (s.dropWhile isBlank) with
    | none => false
    | some r => isIdent w && !r.head?.any isIdentChar && isLaid ts r
  | .sign c :: ts, s =>
    match s.dropWhile isBlank with
    | [] => false
    | d :: r => d == c && isLaid ts r

theorem laid_iff {ts : List Token} {s : Text} : Laid ts s ↔ isLaid ts s = true := by
  constructor
  · intro h
    induction h with
    | nil hg => exact Text.isBlankText_iff.mpr hg
    | @word g w s ts hg hw hapart _ ih =>
      obtain ⟨c, r, rfl⟩ := List.exists_cons_of_ne_nil (Text.isIdentChar_of_isIdent hw).1
      have hc : isBlank c = false := Text.isBlank_of_isIdentChar
        ((Text.isIdentChar_of_isIdent hw).2 c List.mem_cons_self)
      have hnext : s.head?.any isIdentChar = false := by
        cases s with
        | nil => rfl
        | cons d s => exact hapart d rfl
      have hdrop : (g ++ (c :: r ++ s)).dropWhile isBlank = c :: r ++ s :=
        Text.dropWhile_run hg (.cons hc _)
      rw [isLaid, hdrop, Text.after?_eq_some.mpr rfl]
      simp [hw, hnext, ih]
    | @sign g s c ts hg hc _ ih =>
      rw [isLaid, Text.dropWhile_run hg (.cons hc s)]
      simp [ih]
  · intro h
    induction ts generalizing s with
    | nil => exact .nil (Text.isBlankText_iff.mp h)
    | cons t ts ih =>
      have hs : s.takeWhile isBlank ++ s.dropWhile isBlank = s := List.takeWhile_append_dropWhile
      have hg : ∀ c ∈ s.takeWhile isBlank, isBlank c = true :=
        List.all_eq_true.mp List.all_takeWhile
      rw [← hs]
      cases t with
      | word w =>
        rw [isLaid] at h
        split at h
        · cases h
        · next r hr =>
          simp only [Bool.and_eq_true, Bool.not_eq_true'] at h
          obtain ⟨⟨hw, hnext⟩, hr'⟩ := h
          rw [Text.after?_eq_some.mp hr]
          refine .word hg hw (fun c hc => ?_) (ih hr')
          rwa [hc] at hnext
      | sign c =>
        rw [isLaid] at h
        split at h
        · cases h
        · next d r hr =>
          rw [Bool.and_eq_true, beq_iff_eq] at h
          obtain ⟨rfl, hr'⟩ := h
          rw [hr]
          exact .sign hg (Text.stopsAt_dropWhile s d (by rw [hr]; rfl)) (ih hr')

instance (ts : List Token) (s : Text) : Decidable (Laid ts s) := decidable_of_iff _ laid_iff.symm

/-! ## Clauses and what they bind -/

/-- What a clause names: the default export, the whole module and, between braces, named
exports. -/
structure Clause where
  default : Option Text
  whole : Option Text
  named : Option (List Named)

/-- The tokens between the braces, perhaps with a comma after the last of the named exports. -/
def namedTokens (named : List Named) (comma : Bool) : List Token :=
  separated (named.map (·.words.map .word) ++ afterComma comma)

/-- The tokens before the braces, part by part. -/
def Clause.partsBefore (k : Clause) : List (List Token) :=
  (k.default.map fun name => [.word name]).toList ++
    (k.whole.map fun name => [.sign '*', .word "as".toList, .word name]).toList

/-- The tokens of a clause, with or without a comma after the last of the named exports and after
the last part. -/
def Clause.tokens (k : Clause) (inner outer : Bool) : List Token :=
  separated (k.partsBefore ++
    (k.named.map fun named =>
      .sign '\x7b' :: (namedTokens named inner ++ [.sign '\x7d'])).toList ++ afterComma outer)

/-- What a module exports: its default export, all of it as a whole, and its exports by name. -/
inductive Exported
  | default
  | whole
  | named (name : Text)

/-- The names that are bound at run time, in their order, each with what it is bound to. -/
def Clause.exports (k : Clause) : List (Text × Exported) :=
  (k.default.map (·, .default)).toList ++ (k.whole.map (·, .whole)).toList ++
    ((k.named.getD []).filter (!·.typeOnly)).map fun b => (b.localName, .named b.name)

/-- The statement that gives a name to what the module `m` exports. -/
def Exported.statement (name : Text) : Exported → Text
  | .default => "g." ++ name ++ " = m.default;"
  | .whole => "g." ++ name ++ " = m;"
  | .named original => "g." ++ name ++ " = m." ++ original ++ " ?? m.default?." ++ original ++ ";"

/-! ## Layouts cut into pieces -/

theorem Laid.blank {s : Text} (h : Laid [] s) : ∀ c ∈ s, isBlank c = true := by
  cases h with
  | nil hg => exact hg

theorem Laid.isIdent {ts : List Token} {s w : Text} (h : Laid ts s) (hw : .word w ∈ ts) :
    isIdent w = true := by
  induction h with
  | nil => cases hw
  | word _ hident _ _ ih =>
    rcases List.mem_cons.mp hw with hw | hw
    · cases hw
      exact hident
    · exact ih hw
  | sign _ _ _ ih => exact ih ((List.mem_cons.mp hw).resolve_left nofun)

/-- A sign ends the layout of the tokens before it. -/
theorem Laid.split {ts ts' : List Token} {c : Char} {s : Text} (h : Laid (ts ++ .sign c :: ts') s) :
    ∃ a b, s = a ++ c :: b ∧ Laid ts a ∧ Laid ts' b := by
  induction ts generalizing s with
  | nil =>
    cases h with
    | @sign g s _ _ hg hc h => exact ⟨g, s, rfl, .nil hg, h⟩
  | cons t ts ih =>
    cases h with
    | @word g w s _ hg hw hapart h =>
      obtain ⟨a, b, rfl, ha, hb⟩ := ih h
      refine ⟨g ++ (w ++ a), b, by simp, .word hg hw ?_ ha, hb⟩
      intro d hd
      exact hapart d (by rw [List.head?_append, hd]; rfl)
    | @sign g s d _ hg hd h =>
      obtain ⟨a, b, rfl, ha, hb⟩ := ih h
      exact ⟨g ++ d :: a, b, by simp, .sign hg hd ha, hb⟩

/-- A sign that is no token is not in the layout. -/
theorem Laid.not_mem {ts : List Token} {s : Text} {c : Char} (h : Laid ts s)
    (hts : .sign c ∉ ts) (hblank : isBlank c = false) (hident : isIdentChar c = false) :
    c ∉ s := by
  have hgap : ∀ {g : Text}, (∀ c ∈ g, isBlank c = true) → c ∉ g := fun hg hmem =>
    Bool.false_ne_true (hblank.symm.trans (hg c hmem))
  induction h with
  | nil hg => exact hgap hg
  | @word g w s ts hg hw _ _ ih =>
    have hword : c ∉ w := fun hmem =>
      Bool.false_ne_true (hident.symm.trans ((Text.isIdentChar_of_isIdent hw).2 c hmem))
    simp only [List.mem_append, not_or]
    exact ⟨hgap hg, hword, ih fun hmem => hts (List.mem_cons_of_mem _ hmem)⟩
  | @sign g s d ts hg _ _ ih =>
    have hne : c ≠ d := by
      rintro rfl
      exact hts List.mem_cons_self
    simp only [List.mem_append, List.mem_cons, not_or]
    exact ⟨hgap hg, hne, ih fun hmem => hts (List.mem_cons_of_mem _ hmem)⟩

/-- A layout cut at its commas is a layout of what is between the commas. -/
theorem Laid.forall₂_splitOn {parts : List (List Token)} {s : Text} (h : Laid (separated parts) s)
    (hne : parts ≠ []) (hparts : ∀ ts ∈ parts, .sign ',' ∉ ts) :
    List.Forall₂ Laid parts (splitOn ',' s) := by
  have hcomma : ∀ {ts : List Token} {a : Text}, .sign ',' ∉ ts → Laid ts a → ',' ∉ a :=
    fun hts ha => ha.not_mem hts (by decide) (by decide)
  induction parts generalizing s with
  | nil => exact absurd rfl hne
  | cons part parts ih =>
    have hpart := hparts part List.mem_cons_self
    cases parts with
    | nil =>
      rw [Text.splitOn_of_not_mem (hcomma hpart h)]
      exact .cons h .nil
    | cons next parts =>
      obtain ⟨a, b, rfl, ha, hb⟩ := Laid.split h
      rw [Text.splitOn_append_cons, Text.splitOn_of_not_mem (hcomma hpart ha)]
      exact .cons ha (ih hb (List.cons_ne_nil next parts) fun ts hts =>
        hparts ts (List.mem_cons_of_mem part hts))

/-- Where nothing is between commas, a blank text is the only piece. -/
theorem Laid.exists_forall₂_splitOn {parts : List (List Token)} {s : Text}
    (h : Laid (separated parts) s) (hparts : ∀ ts ∈ parts, .sign ',' ∉ ts) :
    ∃ blanks, (∀ ts ∈ blanks, ts = []) ∧ List.Forall₂ Laid (parts ++ blanks) (splitOn ',' s) := by
  cases parts with
  | nil =>
    -- the layout of no part is the layout of a part without tokens
    have hblank : Laid (separated [[]]) s := h
    exact ⟨[[]], by simp, hblank.forall₂_splitOn (List.cons_ne_nil _ _) (by simp)⟩
  | cons part parts =>
    exact ⟨[], nofun, by simpa using h.forall₂_splitOn (List.cons_ne_nil part parts) hparts⟩

/-! ## Words -/

/-- Among words, only a blank comes right after one of them. -/
theorem Laid.stopsAt {ws : List Text} {s : Text} (h : Laid (ws.map .word) s)
    (hapart : StopsAt isIdentChar s) : StopsAt (fun c => !isBlank c) s := by
  intro c hc
  rw [Bool.not_eq_false']
  cases ws with
  | nil => exact h.blank c (List.mem_of_head? hc)
  | cons w ws =>
    cases h with
    | @word g _ s _ hg hw _ _ =>
      cases g with
      | nil =>
        -- no word begins here, since its first character would be one of the word before
        obtain ⟨hne, hchars⟩ := Text.isIdentChar_of_isIdent hw
        obtain ⟨d, r, rfl⟩ := List.exists_cons_of_ne_nil hne
        have hd := hapart d rfl
        rw [hchars d List.mem_cons_self] at hd
        cases hd
      | cons d r =>
        obtain rfl := Option.some.inj hc
        exact hg d List.mem_cons_self

/-- The words of a layout of words are these words. -/
theorem Laid.words_eq {ws : List Text} {s : Text} (h : Laid (ws.map .word) s) : words s = ws := by
  induction ws generalizing s with
  | nil => exact Text.words_blanks h.blank
  | cons w ws ih =>
    cases h with
    | @word g _ s _ hg hw hapart h =>
      obtain ⟨hne, hchars⟩ := Text.isIdentChar_of_isIdent hw
      rw [Text.words_blanks_append hg, Text.words_run hne
        (fun c hc => Text.isBlank_of_isIdentChar (hchars c hc)) (h.stopsAt hapart), ih h]

/-- The words of a star, `as` and a name. -/
theorem Laid.wholeWords {s name : Text}
    (h : Laid [.sign '*', .word "as".toList, .word name] s) : WholeWords (words s) name := by
  cases h with
  | @sign g s _ _ hg _ h =>
    rw [Text.words_blanks_append hg]
    have hlaid : Laid (["as".toList, name].map .word) s := h
    have hwords := hlaid.words_eq
    cases h with
    | @word g _ s _ hg _ hapart h =>
      cases g with
      | nil =>
        have hname : Laid ([name].map .word) s := h
        have hstar : words ("*as".toList ++ s) = "*as".toList :: words s :=
          Text.words_run (by decide) (Text.forall_mem_eq (by decide)) (hname.stopsAt hapart)
        exact .inr (hstar.trans (congrArg _ hname.words_eq))
      | cons c r =>
        have hstar := Text.words_word_append (w := "*".toList) (by decide)
          (Text.forall_mem_eq (by decide)) (List.cons_ne_nil c r) hg ("as".toList ++ s)
        rw [Text.words_blanks_append hg] at hwords
        exact .inl (hstar.trans (congrArg _ hwords))

/-! ## What a layout writes -/

/-- A piece without tokens is blank. -/
theorem blank_of_forall₂ {blanks : List (List Token)} {pieces : List Text}
    (h : List.Forall₂ Laid blanks pieces) (hblanks : ∀ ts ∈ blanks, ts = []) :
    ∀ piece ∈ pieces, ∀ c ∈ piece, isBlank c = true := by
  induction h with
  | nil => nofun
  | cons hfirst _ ih =>
    obtain rfl := hblanks _ List.mem_cons_self
    intro piece hpiece
    rcases List.mem_cons.mp hpiece with rfl | hpiece
    · exact hfirst.blank
    · exact ih (fun ts hts => hblanks ts (List.mem_cons_of_mem _ hts)) piece hpiece

theorem eq_nil_of_mem_afterComma {comma : Bool} {ts : List Token} (h : ts ∈ afterComma comma) :
    ts = [] := by
  cases comma
  · cases h
  · exact List.mem_singleton.mp h

/-- Where lists with a last element correspond, their last elements do. -/
theorem forall₂_concat {α β : Type} {R : α → β → Prop} {x : α} {l : List α} {m : List β}
    (h : List.Forall₂ R (l ++ [x]) m) :
    ∃ y m', m = m' ++ [y] ∧ List.Forall₂ R l m' ∧ R x y := by
  have hreverse : List.Forall₂ R (x :: l.reverse) m.reverse := by
    simpa using List.forall₂_reverse_iff.mpr h
  obtain ⟨y, m', hy, hm', hm⟩ := List.forall₂_cons_left_iff.mp hreverse
  exact ⟨y, m'.reverse, by simpa using congrArg List.reverse hm,
    by simpa using List.forall₂_reverse_iff.mpr hm', hy⟩

/-- The pieces of a layout of named exports have their words, and blank pieces have none. -/
theorem words_of_forall₂ {named : List Named} {blanks : List (List Token)} {pieces : List Text}
    (h : List.Forall₂ Laid (named.map (·.words.map .word) ++ blanks) pieces)
    (hblanks : ∀ ts ∈ blanks, ts = []) :
    (pieces.map words).filter (· ≠ []) = named.map Named.words := by
  induction named generalizing pieces with
  | nil =>
    rw [List.map_nil, List.filter_eq_nil_iff]
    intro ws hws
    obtain ⟨piece, hpiece, rfl⟩ := List.mem_map.mp hws
    simp [Text.words_blanks (blank_of_forall₂ h hblanks piece hpiece)]
  | cons b named ih =>
    obtain ⟨piece, pieces, hpiece, hrest, rfl⟩ := List.forall₂_cons_left_iff.mp h
    have hwords : words piece = b.words := hpiece.words_eq
    have hne : b.words ≠ [] := by simp [Named.words]
    rw [List.map_cons, hwords, List.filter_cons_of_pos (by simpa using hne), ih hrest,
      List.map_cons]

/-- What is between two commas is in the whole. -/
theorem mem_separated {t : Token} {ts : List Token} {parts : List (List Token)} (hts : ts ∈ parts)
    (ht : t ∈ ts) : t ∈ separated parts := by
  induction parts with
  | nil => cases hts
  | cons part parts ih =>
    cases parts with
    | nil =>
      obtain rfl := List.mem_singleton.mp hts
      exact ht
    | cons next parts =>
      rw [separated, List.mem_append, List.mem_cons]
      rcases List.mem_cons.mp hts with rfl | hts
      · exact .inl ht
      · exact .inr (.inr (ih hts))

/-- A layout of named exports between commas writes them. -/
theorem Laid.writesNamed {named : List Named} {comma : Bool} {s : Text}
    (h : Laid (namedTokens named comma) s) : WritesNamed s named := by
  have hcomma : ∀ ts ∈ named.map (·.words.map Token.word) ++ afterComma comma,
      Token.sign ',' ∉ ts := by
    intro ts hts
    rcases List.mem_append.mp hts with hts | hts
    · obtain ⟨b, -, rfl⟩ := List.mem_map.mp hts
      simp
    · simp [eq_nil_of_mem_afterComma hts]
  obtain ⟨blanks, hblanks, hpieces⟩ := Laid.exists_forall₂_splitOn h hcomma
  rw [List.append_assoc] at hpieces
  refine ⟨words_of_forall₂ hpieces ?_, ?_⟩
  · intro ts hts
    exact (List.mem_append.mp hts).elim eq_nil_of_mem_afterComma (hblanks ts)
  · intro b hb
    have hwords : ∀ w ∈ b.words, Text.isIdent w = true := fun w hw =>
      h.isIdent (mem_separated (List.mem_append_left _ (List.mem_map_of_mem hb))
        (List.mem_map_of_mem hw))
    refine ⟨hwords b.name (by simp [Named.words]), fun name hname => hwords name ?_⟩
    simp [Named.words, hname]

/-- Blank parts name nothing. -/
theorem WritesParts.of_blanks {parts : List Text}
    (h : ∀ part ∈ parts, ∀ c ∈ part, isBlank c = true) : WritesParts parts none none := by
  induction parts with
  | nil => exact .nil
  | cons part parts ih =>
    exact .blank (h part List.mem_cons_self) (ih fun p hp => h p (List.mem_cons_of_mem part hp))

/-- The pieces of a layout of the parts before the braces, with blank pieces after them. -/
theorem Clause.writesParts {k : Clause} {blanks : List (List Token)} {pieces : List Text}
    (h : List.Forall₂ Laid (k.partsBefore ++ blanks) pieces) (hblanks : ∀ ts ∈ blanks, ts = []) :
    WritesParts pieces k.default k.whole := by
  obtain ⟨default, whole, named⟩ := k
  have hdefault : ∀ {name piece : Text} {pieces : List Text} {whole : Option Text},
      Laid [.word name] piece → WritesParts pieces none whole →
        WritesParts (piece :: pieces) (some name) whole := fun {name piece _ _} hpiece hrest =>
    have hword : Laid ([name].map .word) piece := hpiece
    .default hword.words_eq (hpiece.isIdent List.mem_cons_self) hrest
  have hwhole : ∀ {name piece : Text} {pieces : List Text},
      Laid [.sign '*', .word "as".toList, .word name] piece → WritesParts pieces none none →
        WritesParts (piece :: pieces) none (some name) := fun hpiece hrest =>
    .whole hpiece.wholeWords (hpiece.isIdent (by simp)) hrest
  cases default with
  | none =>
    cases whole with
    | none => exact .of_blanks (blank_of_forall₂ h hblanks)
    | some name =>
      obtain ⟨piece, pieces, hpiece, hrest, rfl⟩ := List.forall₂_cons_left_iff.mp h
      exact hwhole hpiece (.of_blanks (blank_of_forall₂ hrest hblanks))
  | some name =>
    obtain ⟨piece, pieces, hpiece, hrest, rfl⟩ := List.forall₂_cons_left_iff.mp h
    cases whole with
    | none => exact hdefault hpiece (.of_blanks (blank_of_forall₂ hrest hblanks))
    | some name' =>
      obtain ⟨piece', pieces, hpiece', hblank, rfl⟩ := List.forall₂_cons_left_iff.mp hrest
      exact hdefault hpiece (hwhole hpiece' (.of_blanks (blank_of_forall₂ hblank hblanks)))

theorem Clause.comma_not_mem_partsBefore (k : Clause) :
    ∀ ts ∈ k.partsBefore, Token.sign ',' ∉ ts := by
  obtain ⟨default, whole, named⟩ := k
  cases default <;> cases whole <;> simp [Clause.partsBefore]

/-- What comes before a part among others, and after it. -/
theorem separated_append_cons (before : List (List Token)) (ts : List Token)
    (after : List (List Token)) :
    separated (before ++ ts :: after) =
      separated (before ++ [[]]) ++ (ts ++ separated ([] :: after)) := by
  induction before with
  | nil => cases after <;> simp [separated]
  | cons part before ih =>
    cases before with
    | nil => cases after <;> simp [separated]
    | cons next before =>
      simp only [List.cons_append, separated] at ih ⊢
      rw [ih]
      simp

/-- A layout of a clause writes it. -/
theorem Laid.writesClause {k : Clause} {inner outer : Bool} {s : Text}
    (h : Laid (k.tokens inner outer) s) :
    WritesClause s k.default k.whole (k.named.getD []) := by
  have hparts : ∀ ts ∈ k.partsBefore ++ afterComma outer, Token.sign ',' ∉ ts := by
    intro ts hts
    rcases List.mem_append.mp hts with hts | hts
    · exact k.comma_not_mem_partsBefore ts hts
    · simp [eq_nil_of_mem_afterComma hts]
  cases hnamed : k.named with
  | none =>
    rw [Clause.tokens, hnamed, Option.map_none, Option.toList_none, List.append_nil] at h
    obtain ⟨blanks, hblanks, hpieces⟩ := Laid.exists_forall₂_splitOn h hparts
    rw [List.append_assoc] at hpieces
    refine .parts (Clause.writesParts hpieces fun ts hts => ?_)
    exact (List.mem_append.mp hts).elim eq_nil_of_mem_afterComma (hblanks ts)
  | some named =>
    rw [Clause.tokens, hnamed, Option.map_some, Option.toList_some, List.append_assoc,
      List.singleton_append, separated_append_cons, List.cons_append, List.append_assoc,
      List.singleton_append] at h
    obtain ⟨before, _, rfl, hbefore, h⟩ := h.split
    obtain ⟨content, after, rfl, hcontent, hafter⟩ := h.split
    have hbefore := hbefore.forall₂_splitOn (by simp) fun ts hts => by
      rcases List.mem_append.mp hts with hts | hts
      · exact k.comma_not_mem_partsBefore ts hts
      · simp [List.mem_singleton.mp hts]
    have hafter := hafter.forall₂_splitOn (List.cons_ne_nil _ _) fun ts hts => by
      rcases List.mem_cons.mp hts with rfl | hts
      · simp
      · simp [eq_nil_of_mem_afterComma hts]
    -- the last piece before the braces and the first piece after them are blank
    obtain ⟨b, parts, hsplit, hparts, hb⟩ := forall₂_concat hbefore
    obtain ⟨a, parts', ha, hparts', hsplit'⟩ := List.forall₂_cons_left_iff.mp hafter
    exact .braces hsplit hb.blank hsplit' ha.blank
      (Clause.writesParts (List.rel_append hparts hparts') fun ts => eq_nil_of_mem_afterComma)
      hcontent.writesNamed

/-! ## Blanks at the ends -/

/-- An identifier neither begins nor ends with a blank. -/
theorem trimmed_of_isIdent {w : Text} (hw : isIdent w = true) : Text.Trimmed w := by
  have hchars : ∀ c ∈ w, isBlank c = false := fun c hc =>
    Text.isBlank_of_isIdentChar ((Text.isIdentChar_of_isIdent hw).2 c hc)
  exact ⟨fun c hc => hchars c (List.mem_of_head? hc),
    fun c hc => hchars c (List.mem_reverse.mp (List.mem_of_head? hc))⟩

theorem Laid.trimLeft {ts : List Token} {s : Text} (h : Laid ts s) :
    Laid ts (Text.trimLeft s) := by
  cases h with
  | nil hg =>
    rw [Text.trimLeft, List.dropWhile_eq_nil_iff.mpr hg]
    exact .nil (List.forall_mem_nil _)
  | @word g w s ts hg hw hapart h =>
    obtain ⟨c, r, rfl⟩ := List.exists_cons_of_ne_nil (Text.isIdentChar_of_isIdent hw).1
    have hstops : StopsAt isBlank (c :: r ++ s) := .cons ((trimmed_of_isIdent hw).1 c rfl) _
    rw [Text.trimLeft, Text.dropWhile_run hg hstops]
    exact .word (List.forall_mem_nil _) hw hapart h
  | @sign g s c ts hg hc h =>
    rw [Text.trimLeft, Text.dropWhile_run hg (.cons hc s)]
    exact .sign (List.forall_mem_nil _) hc h

theorem Laid.trimRight {ts : List Token} {s : Text} (h : Laid ts s) :
    Laid ts (Text.trimRight s) := by
  induction h with
  | nil hg =>
    refine .nil fun c hc => hg c ?_
    exact List.mem_reverse.mp ((List.dropWhile_sublist _).mem (List.mem_reverse.mp hc))
  | @word g w s ts hg hw hapart h ih =>
    obtain ⟨c, r, hreverse⟩ := List.exists_cons_of_ne_nil
      (List.reverse_ne_nil_iff.mpr (Text.isIdentChar_of_isIdent hw).1)
    have hstops : StopsAt isBlank (g ++ w).reverse := by
      rw [List.reverse_append, hreverse, List.cons_append]
      exact .cons ((trimmed_of_isIdent hw).2 c (by rw [hreverse]; rfl)) _
    rw [← List.append_assoc, Text.trimRight, Text.dropRightWhile_append hstops, List.append_assoc]
    refine .word hg hw ?_ ih
    intro d hd
    apply hapart d
    rw [← Text.dropRightWhile_append_takeRightWhile isBlank s, List.head?_append, hd]
    rfl
  | @sign g s c ts hg hc h ih =>
    have hstops : StopsAt isBlank (g ++ [c]).reverse := by
      rw [List.reverse_append]
      exact .cons hc _
    rw [List.append_cons, Text.trimRight, Text.dropRightWhile_append hstops, List.append_assoc]
    exact .sign hg hc ih

/-! ## Reading a layout back -/

/-- An empty clause is read back. -/
theorem WritesClause.ofClause?_nil {default whole : Option Text} {named : List Named}
    (h : WritesClause [] default whole named) (path : Text) :
    Import.ofClause? [] path = some ⟨path, whole, default, named, false⟩ := by
  generalize hk : [] = k at h
  cases h with
  | parts hparts =>
    subst hk
    have hfold := hparts.foldlM_eq path [] none none
    rwa [Option.or_none, Option.or_none] at hfold
  | braces => simp at hk

theorem Clause.assignments_eq (k : Clause) (path : Text) :
    Import.assignments ⟨path, k.whole, k.default, k.named.getD [], false⟩ =
      k.exports.map fun b => b.2.statement b.1 := by
  obtain ⟨default, whole, named⟩ := k
  simp only [Import.assignments, Clause.exports, List.map_append, List.map_map]
  cases default <;> cases whole <;> rfl

/-- However a clause is laid out, exactly its bindings are read back, and there is one statement
for each of those that have a value at run time. -/
theorem ofClause?_of_laid {k : Clause} {inner outer : Bool} {s : Text}
    (h : Laid (k.tokens inner outer) s) (path : Text) :
    ∃ i, Import.ofClause? s path = some i ∧
      i = ⟨path, k.whole, k.default, k.named.getD [], false⟩ ∧
      i.assignments = k.exports.map fun b => b.2.statement b.1 := by
  refine ⟨_, ?_, rfl, k.assignments_eq path⟩
  have hclause : WritesClause (Text.trim s) k.default k.whole (k.named.getD []) :=
    h.trimLeft.trimRight.writesClause
  have htrim : Import.ofClause? s path = Import.ofClause? (Text.trim s) path := by
    simp only [Import.ofClause?, (Text.trimmed_trim s).trim_eq]
  rw [htrim]
  by_cases hempty : Text.trim s = []
  · -- nothing is named by an empty clause
    rw [hempty] at hclause ⊢
    exact hclause.ofClause?_nil path
  · exact hclause.ofClause?_eq (Text.trimmed_trim s) hempty path

/-- Words with a meaning of their own in clauses may be names of any part of one. -/
theorem ofClause?_of_laid_words :
    Laid (Clause.tokens ⟨some "type".toList, some "from".toList,
        some [⟨"as".toList, none, true⟩, ⟨"type".toList, some "as".toList, false⟩,
          ⟨"as".toList, some "x".toList, true⟩, ⟨"default".toList, some "d".toList, false⟩]⟩
        true false)
      "type,*as\nfrom , \x7btype as,type  as as, type as as x,\tdefault as d , \x7d ".toList ∧
    ∃ i, Import.ofClause?
        "type,*as\nfrom , \x7btype as,type  as as, type as as x,\tdefault as d , \x7d ".toList
        "m".toList = some i ∧
      i.assignments = ["g.type = m.default;".toList, "g.from = m;".toList,
        "g.as = m.type ?? m.default?.type;".toList,
        "g.d = m.default ?? m.default?.default;".toList] := by
  have hlaid : Laid (Clause.tokens ⟨some "type".toList, some "from".toList,
        some [⟨"as".toList, none, true⟩, ⟨"type".toList, some "as".toList, false⟩,
          ⟨"as".toList, some "x".toList, true⟩, ⟨"default".toList, some "d".toList, false⟩]⟩
        true false)
      "type,*as\nfrom , \x7btype as,type  as as, type as as x,\tdefault as d , \x7d ".toList := by
    decide +kernel
  obtain ⟨i, hi, -, hassignments⟩ := ofClause?_of_laid hlaid "m".toList
  exact ⟨hlaid, i, hi, hassignments⟩

end ReplDriver.Module
