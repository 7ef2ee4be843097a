import ReplDriver.Proofs.Module.InnerLines
import ReplDriver.Proofs.Module.Rendering
import ReplDriver.Proofs.Module.Types

/-!
# Modules statement by statement

`Becomes` says how the statements of a module are written and what becomes of each: an import turns
into a dynamic one that makes the same bindings, an import of types leaves an empty line, exports
from other modules and lists vanish with their line, a declaration loses its keywords, and any other
text stays. The transformation goes over the text four times, but no pass reaches across a
statement or undoes another.

* `Becomes.handled`: what becomes of a statement does not depend on what stands around it.
* `transform_statements`: the transformation acts statement by statement.
-/

namespace ReplDriver.Module

open Statement
open Text (isBlank isIndent isIdentChar isIdent words StopsAt)

/-! ## How statements are written -/

/-- How an import with a clause is written; where no blank is around the clause, no name may run
into the words around it. -/
inductive WritesImport : Text → (indent clause path : Text) → (attributes : Option Text) → Prop
  | mk {indent g k g' b t path : Text} {attributes : Option Text}
      (hindent : ∀ c ∈ indent, isIndent c = true) (hg : ∀ c ∈ g, isBlank c = true) (hne : k ≠ [])
      (htrim : Text.Trimmed k) (hapart : g = [] → StopsAt isIdentChar k)
      (hg' : ∀ c ∈ g', isBlank c = true) (hapart' : g' = [] → StopsAt isIdentChar k.reverse)
      (hb : ∀ c ∈ b, isBlank c = true) (hsource : WritesSource t path attributes) :
      WritesImport (indent ++ ("import" ++ (g ++ (k ++ (g' ++ ("from" ++ (b ++ t)))))))
        indent k path attributes

/-- How a statement is written, with its line end, and what becomes of it. -/
inductive Becomes : Text → Text → Prop
  /-- An import for its effects alone becomes a dynamic one. -/
  | effects {indent g t path : Text} {attributes : Option Text}
      (hindent : ∀ c ∈ indent, isIndent c = true) (hg : ∀ c ∈ g, isBlank c = true)
      (hsource : WritesSource t path attributes) :
      Becomes (indent ++ ("import" ++ (g ++ t)) ++ ['\n'])
        (indent ++ (Import.bare path).render attributes ++ ['\n'])
  /-- An import becomes a dynamic one that makes its bindings. -/
  | bindings {s indent k path : Text} {attributes default whole : Option Text} {named : List Named}
      (h : WritesImport s indent k path attributes) (hk : WritesClause k default whole named) :
      Becomes (s ++ ['\n'])
        (indent ++ Import.render ⟨path, whole, default, named, false⟩ attributes ++ ['\n'])
  /-- Of an import of types only the line stays. -/
  | types {s indent k path : Text} {attributes : Option Text}
      (h : WritesImport s indent k path attributes) (hk : WritesTypes k) (hfrom : ¬ NamesFrom k) :
      Becomes (s ++ ['\n']) (indent ++ ['\n'])
  /-- But it stays whole if its name goes on with a dollar sign after `from`. -/
  | typesFrom {s indent k path : Text} {attributes : Option Text}
      (h : WritesImport s indent k path attributes) (hk : NamesFrom k) :
      Becomes (s ++ ['\n']) (s ++ ['\n'])
  /-- An export from another module vanishes. -/
  | exported {indent start what b t path : Text} {attributes : Option Text}
      (hindent : ∀ c ∈ indent, isIndent c = true) (hstart : WritesExport start)
      (hwhat : WritesExported what) (hb : ∀ c ∈ b, isBlank c = true)
      (hsource : WritesSource t path attributes) :
      Becomes (indent ++ (start ++ (what ++ ("from" ++ (b ++ t)))) ++ ['\n']) []
  /-- An export list vanishes. -/
  | list {indent start content ind : Text}
      (hindent : ∀ c ∈ indent, isIndent c = true) (hstart : WritesExport start)
      (hcontent : WritesList content) (hind : ∀ c ∈ ind, isIndent c = true) :
      Becomes (indent ++ (start ++ '\x7b' :: (content ++ '\x7d' :: (ind ++ [';']))) ++ ['\n']) []
  /-- A declaration loses the word `export`. -/
  | declaration {indent g d : Text} (hindent : ∀ c ∈ indent, isIndent c = true) (hgap : g ≠ [])
      (hg : ∀ c ∈ g, isBlank c = true) (hd : Declares d) (hlines : PlainWithin (g ++ d)) :
      Becomes (indent ++ ("export" ++ (g ++ d)) ++ ['\n']) (indent ++ d ++ ['\n'])
  /-- The default export loses the words `export` and `default`. -/
  | defaultExport {indent g g' s : Text} {c : Char} (hindent : ∀ c ∈ indent, isIndent c = true)
      (hgap : g ≠ []) (hg : ∀ c ∈ g, isBlank c = true) (hgap' : g' ≠ [])
      (hg' : ∀ c ∈ g', isBlank c = true) (hc : beginsDeclaration c = true)
      (hlines : PlainWithin (g' ++ c :: s)) :
      Becomes (indent ++ ("export" ++ (g ++ ("default" ++ (g' ++ c :: s)))) ++ ['\n'])
        (indent ++ c :: s ++ ['\n'])
  /-- Any other text stays. -/
  | plain {s : Text} (hs : ¬ BeginsStatement s) (hlines : PlainWithin s) :
      Becomes (s ++ ['\n']) (s ++ ['\n'])

/-! ## Imports -/

theorem atWordEnd_of_apart {g k : Text} (hg : ∀ c ∈ g, isBlank c = true)
    (hk : ∀ c ∈ k, isClauseChar c = true) (hapart : g = [] → StopsAt isIdentChar k) :
    Text.atWordEnd (g ++ k) = true := by
  cases g with
  | nil =>
    cases k with
    | nil => rfl
    | cons c k =>
      rw [List.nil_append, Text.atWordEnd_cons,
        isWord_of_isClauseChar (hk c List.mem_cons_self) (hapart rfl c rfl)]
      rfl
  | cons c g =>
    rw [List.cons_append, Text.atWordEnd_cons, Text.isWord_of_isBlank (hg c List.mem_cons_self)]
    rfl

/-- The indentation, the clause and the source of an import. -/
theorem WritesImport.parts {s indent k path : Text} {attributes : Option Text}
    (h : WritesImport s indent k path attributes) :
    (∀ c ∈ indent, isIndent c = true) ∧ k ≠ [] ∧ Text.Trimmed k ∧
      ∃ t, WritesSource t path attributes := by
  cases h with
  | mk hindent hg hne htrim hapart hg' hapart' hb hsource =>
    exact ⟨hindent, hne, htrim, _, hsource⟩

/-- An import is found with its clause. -/
theorem WritesImport.import?_eq {s indent k path : Text} {attributes : Option Text}
    (h : WritesImport s indent k path attributes) (hk : ∀ c ∈ k, isClauseChar c = true)
    (rest : Text) : import? (s ++ rest) = some (⟨indent, k, path, attributes⟩, rest) := by
  cases h with
  | @mk _ g _ g' b t _ _ hindent hg hne htrim hapart hg' hapart' hb hsource =>
    have hlast : g' = [] → StopsAt Text.isWord k.reverse := by
      intro hnil c hc
      refine isWord_of_isClauseChar (hk c ?_) (hapart' hnil c hc)
      exact List.mem_reverse.mp (List.mem_of_mem_head? hc)
    have himport := Module.import?_eq hindent hg hk hne htrim (atWordEnd_of_apart hg hk hapart) hg'
      hlast hb hsource rest
    simpa using himport

/-- An import ends with a semicolon. -/
theorem WritesImport.last {s indent k path : Text} {attributes : Option Text}
    (h : WritesImport s indent k path attributes) : s.getLast? ≠ some '\n' := by
  cases h with
  | mk hindent hg hne htrim hapart hg' hapart' hb hsource =>
    obtain ⟨x, rfl⟩ := hsource.last
    simp only [← List.append_assoc, List.getLast?_concat]
    decide

/-- An import that is found is replaced as a whole. -/
theorem passes_import {s out : Text} {i : ImportParts}
    (h : ∀ rest, import? (s ++ rest) = some (i, rest)) (hlast : s.getLast? ≠ some '\n')
    (hout : replaceImport s i = out) : Passes importRule (s ++ ['\n']) (out ++ ['\n']) := by
  have hmatch : ∀ rest, importRule.match? (s ++ ([] ++ '\n' :: rest)) =
      some (out, [] ++ '\n' :: rest) := by
    intro rest
    rw [importRule_match (h _), hout]
  have hpasses := passes_replaced hmatch (fun hfeed => absurd hfeed hlast)
    (linesWithin_line List.not_mem_nil)
  rwa [List.append_nil, List.append_nil] at hpasses

/-- What an import is replaced by stays in the other passes if it is a line that begins no
statement. -/
theorem handled_import {s out : Text} {i : ImportParts}
    (h : ∀ rest, import? (s ++ rest) = some (i, rest)) (hlast : s.getLast? ≠ some '\n')
    (hout : replaceImport s i = out) (hline : '\n' ∉ out) (hplain : ¬ BeginsStatement out) :
    Handled (s ++ ['\n']) (out ++ ['\n']) := by
  have hfirst := passes_import h hlast hout
  refine .of_import hfirst fun rule hrule => ?_
  exact passes_spared (spares_of_plain hplain (mem_rules_of_exports hrule)) (linesWithin_line hline)

/-- Attributes stand on one line. -/
theorem WritesSource.line {t path : Text} {attributes : Option Text}
    (h : WritesSource t path attributes) : ∀ a, attributes = some a → '\n' ∉ a := by
  cases h with
  | path => nofun
  | attributes hq hpath hg hword hg' hline =>
    intro a ha
    obtain rfl := Option.some.inj ha
    simp [hline]

/-- A dynamic import after an indentation is a line that begins no statement. -/
theorem rendered_line {indent t path : Text} {i : Import} {attributes : Option Text}
    (hindent : ∀ c ∈ indent, isIndent c = true) (hsource : WritesSource t path attributes)
    (hnames : ∀ name ∈ i.names, '\n' ∉ name) :
    '\n' ∉ indent ++ i.render attributes ∧ ¬ BeginsStatement (indent ++ i.render attributes) := by
  constructor
  · exact not_mem_append (not_mem_of_isIndent hindent) (Import.not_mem_render hnames hsource.line)
  · intro hbegins
    have hbegins' := hbegins.of_gap (blank_of_indent hindent)
    obtain ⟨r, hr⟩ : ∃ r, i.render attributes = '(' :: r := by
      unfold Import.render
      exact ⟨_, rfl⟩
    rw [hr] at hbegins'
    exact not_beginsStatement (by decide) (by decide) (by decide) r hbegins'

theorem names_bare (path : Text) : ∀ name ∈ (Import.bare path).names, '\n' ∉ name := by
  rw [show (Import.bare path).names = [] from rfl]
  nofun

theorem WritesParts.isIdent {parts : List Text} {default whole : Option Text}
    (h : WritesParts parts default whole) :
    ∀ name, default = some name ∨ whole = some name → Text.isIdent name = true := by
  induction h with
  | nil => nofun
  | blank hblank h ih => exact ih
  | default hwords hname h ih =>
    rintro name (heq | heq)
    · exact Option.some.inj heq ▸ hname
    · exact ih name (.inr heq)
  | whole hwords hname h ih =>
    rintro name (heq | heq)
    · exact ih name (.inl heq)
    · exact Option.some.inj heq ▸ hname

/-- The names that a clause binds are identifiers. -/
theorem WritesClause.names {k : Text} {default whole : Option Text} {named : List Named}
    (h : WritesClause k default whole named) (path : Text) :
    ∀ name ∈ (⟨path, whole, default, named, false⟩ : Import).names, '\n' ∉ name := by
  have hnamed : ∀ b ∈ named, b.IsNamed := by
    cases h with
    | parts => nofun
    | braces _ _ _ _ _ hcontent => exact hcontent.2
  have hbeside : ∀ name, default = some name ∨ whole = some name → isIdent name = true := by
    cases h with
    | parts hparts => exact hparts.isIdent
    | braces _ _ _ _ hparts => exact hparts.isIdent
  intro name hname
  simp only [Import.names, List.mem_append, Option.mem_toList, List.mem_flatMap, List.mem_cons,
    List.not_mem_nil, or_false] at hname
  rcases hname with hname | ⟨b, hb, rfl | rfl⟩
  · exact not_mem_ident (hbeside name hname)
  · exact not_mem_ident (hnamed b hb).1
  · have hb := hnamed b hb
    rw [Named.localName]
    cases hrenamed : b.renamed with
    | none => exact not_mem_ident hb.1
    | some other => exact not_mem_ident (hb.2 other hrenamed)

/-! ## Imports of types that stay -/

/-- The first word of a text begins as the text does. -/
theorem words_head {c : Char} {s w : Text} {ws : List Text} (hc : isBlank c = false)
    (h : words (c :: s) = w :: ws) : w.head? = some c := by
  obtain ⟨t, hdrop, -, -, hne⟩ := Text.dropBlanks_of_words h
  rw [List.dropWhile_cons_of_neg (by simp [hc])] at hdrop
  cases w with
  | nil => exact absurd rfl hne
  | cons d w => rw [(List.cons.inj hdrop).1]; rfl

/-- No line inside of the clause of such an import begins an export. -/
theorem NamesFrom.not_beginsExport {k l : Text} (h : NamesFrom k) (hl : InnerLine k l) :
    ¬ BeginsExport l := by
  rintro ⟨r, hword, -⟩
  obtain ⟨before, rfl⟩ := hl
  obtain ⟨rest, hwords, -⟩ := h
  have hsplit := List.takeWhile_append_dropWhile (p := isIndent) (l := l)
  have hindent : ∀ c ∈ l.takeWhile isIndent, isBlank c = true :=
    blank_of_indent (List.all_eq_true.mp List.all_takeWhile)
  have hletter : isBlank 'e' = false := by decide
  -- the line would give the clause a word that begins with `e`
  rw [← hsplit, hword, Text.words_append_cons (by decide),
    Text.words_blanks_append hindent] at hwords
  obtain ⟨w, ws, hw⟩ := List.exists_cons_of_ne_nil (Text.words_cons_ne_nil hletter ("xport" ++ r))
  have hhead := words_head hletter hw
  have hmem : w ∈ words before ++ words ("export".toList ++ r) :=
    List.mem_append_right _ (List.mem_of_mem_head? (congrArg List.head? hw))
  rw [hwords] at hmem
  simp only [List.mem_cons, List.not_mem_nil, or_false] at hmem
  rcases hmem with rfl | rfl <;> exact absurd hhead (by simp)

/-- A line inside of a text that ends with no blank is not blank. -/
theorem InnerLine.exists_not_blank {k l : Text} (hl : InnerLine k l)
    (hlast : StopsAt isBlank k.reverse) : ∃ d ∈ l, isBlank d = false := by
  obtain ⟨before, rfl⟩ := hl
  have hne : '\n' :: l ≠ [] := List.cons_ne_nil _ _
  have hblank : isBlank (('\n' :: l).getLast hne) = false := by
    apply hlast
    rw [List.head?_reverse, List.getLast?_append, List.getLast?_eq_some_getLast hne]
    rfl
  rcases List.mem_cons.mp (List.getLast_mem hne) with hfeed | hmem
  · rw [hfeed] at hblank
    exact absurd hblank (by decide)
  · exact ⟨_, hmem, hblank⟩

/-- The passes over the exports leave the lines inside of the clause of such an import and after
it. -/
theorem NamesFrom.sparesWithin {k g s : Text} (h : NamesFrom k) (hlast : StopsAt isBlank k.reverse)
    (hg : ∀ c ∈ g, isBlank c = true) {rule : Rule}
    (hrule : rule ∈ [reexportRule, exportListRule, exportKeywordRule])
    (hafter : SparesWithin rule (g ++ ("from" ++ s))) :
    SparesWithin rule (k ++ (g ++ ("from" ++ s))) := by
  intro line hline
  rcases innerLine_append hline with ⟨l, hl, rfl⟩ | hline
  · obtain ⟨d, hmem, hd⟩ := hl.exists_not_blank hlast
    -- what comes after the clause does not complete the word `export`
    obtain ⟨e, x, hx, he⟩ : ∃ (e : Char) (x : Text),
        g ++ ("from" ++ s) = e :: x ∧ e ∉ "export".toList := by
      cases g with
      | nil => exact ⟨'f', _, rfl, by decide⟩
      | cons e g =>
        exact ⟨e, _, rfl,
          Text.not_mem_of_isBlank (Text.forall_mem_eq (by decide)) (hg e List.mem_cons_self)⟩
    rw [hx]
    refine spares_exports (fun hbegins => h.not_beginsExport hl ?_) hrule
    exact hbegins.of_append (dropIndent_of_mem hmem (isIndent_eq_false hd) _) he
  · exact hafter line hline

/-- The passes over the exports leave such an import. -/
theorem WritesImport.spares {s indent k path : Text} {attributes : Option Text}
    (h : WritesImport s indent k path attributes) (hk : NamesFrom k) {rule : Rule}
    (hrule : rule ∈ [reexportRule, exportListRule, exportKeywordRule]) :
    Spares rule s ∧ SparesWithin rule s := by
  have hrule' := mem_rules_of_exports hrule
  cases h with
  | @mk _ g _ g' b t _ _ hindent hg hne htrim hapart hg' hapart' hb hsource =>
    have hclause := hk.sparesWithin htrim.2 hg' hrule
      ((hsource.plainWithin_from hg' hb).spares hrule')
    obtain ⟨c, k, rfl⟩ := List.exists_cons_of_ne_nil hne
    obtain rfl : c = 't' := by
      obtain ⟨rest, hwords, -⟩ := hk
      have hhead := words_head (htrim.1 c rfl) hwords
      exact (Option.some.inj hhead).symm
    have hletter := not_beginsStatement (c := 't') (by decide) (by decide) (by decide)
      (k ++ (g' ++ ("from" ++ (b ++ t))))
    constructor
    · -- the statement begins with `import`, so with no `export`
      refine spares_exports (fun hbegins => ?_) hrule
      obtain ⟨r, hword, -⟩ := hbegins.of_gap (blank_of_indent hindent)
      cases hword
    · exact .append (not_mem_of_isIndent hindent)
        (.append (by decide) (.append_gap hg (spares_gap hletter hrule') hclause))

theorem WritesImport.handled_typesFrom {s indent k path : Text} {attributes : Option Text}
    (h : WritesImport s indent k path attributes) (hk : NamesFrom k) :
    Handled (s ++ ['\n']) (s ++ ['\n']) := by
  obtain ⟨-, -, htrim, -⟩ := h.parts
  have hout : replaceImport s ⟨indent, k, path, attributes⟩ = s := by
    rw [replaceImport, hk.ofClause?_eq htrim]
  have hfirst := passes_import (h.import?_eq hk.writesTypes.isClauseChar) h.last hout
  refine .of_import hfirst fun rule hrule => ?_
  obtain ⟨hstart, hinner⟩ := h.spares hk hrule
  exact passes_spared hstart hinner

/-! ## Exports -/

/-- A list is no export from another module. -/
theorem reexport?_list {indent start content ind : Text}
    (hindent : ∀ c ∈ indent, isIndent c = true) (hstart : WritesExport start)
    (hclose : '\x7d' ∉ content) (hind : ∀ c ∈ ind, isIndent c = true) (rest : Text) :
    reexport? (indent ++ (start ++ '\x7b' :: (content ++ '\x7d' :: (ind ++ ';' :: rest)))) =
      none := by
  have hblanks : blanks (ind ++ ';' :: rest) = ';' :: rest :=
    blanks_append (blank_of_indent hind) (.cons (by decide) rest)
  rw [reexport?, hstart.exportType?_eq hindent (.inr rfl)]
  simp only [Option.bind_eq_bind, Option.bind_some, exported?, braced?_eq hclose, Option.map_some,
    hblanks]
  rfl

theorem handled_list {indent start content ind : Text}
    (hindent : ∀ c ∈ indent, isIndent c = true) (hstart : WritesExport start)
    (hcontent : WritesList content) (hind : ∀ c ∈ ind, isIndent c = true) :
    Handled (indent ++ (start ++ '\x7b' :: (content ++ '\x7d' :: (ind ++ [';']))) ++ ['\n'])
      [] := by
  have hclose := hcontent.close
  have hbrace := not_beginsStatement (c := '\x7b') (by decide) (by decide) (by decide)
    (content ++ '\x7d' :: (ind ++ [';']))
  have hlines : ∀ rule ∈ rules, SparesWithin rule (content ++ '\x7d' :: (ind ++ [';'])) →
      SparesWithin rule (start ++ '\x7b' :: (content ++ '\x7d' :: (ind ++ [';']))) :=
    fun rule hrule h => hstart.sparesWithin hrule hbrace (.append (s := ['\x7b']) (by decide) h)
  have hfirst := hstart.passes hindent
    (hlines importRule importRule_mem (hcontent.sparesWithin hind).1)
  have hsecond : Passes reexportRule
      (indent ++ (start ++ '\x7b' :: (content ++ '\x7d' :: (ind ++ [';']))) ++ ['\n'])
      (indent ++ (start ++ '\x7b' :: (content ++ '\x7d' :: (ind ++ [';']))) ++ ['\n']) := by
    refine passes_spared (fun rest => .inl ?_) (.append (not_mem_of_isIndent hindent)
      (hlines reexportRule reexportRule_mem (hcontent.sparesWithin hind).2))
    show (reexport? _).map _ = none
    have hnone := reexport?_list hindent hstart hclose hind ('\n' :: rest)
    simp only [List.append_assoc, List.cons_append, List.nil_append] at hnone ⊢
    rw [hnone]
    rfl
  refine ⟨_, _, _, hfirst, hsecond, passes_removed fun rest => ?_, .nil _⟩
  have hfound := exportList?_eq hindent hstart hclose hind rest
  show (exportList? _).map _ = _
  simp only [List.append_assoc, List.cons_append, List.nil_append] at hfound ⊢
  rw [hfound]
  rfl

theorem handled_exported {indent start what b t path : Text} {attributes : Option Text}
    (hindent : ∀ c ∈ indent, isIndent c = true) (hstart : WritesExport start)
    (hwhat : WritesExported what) (hb : ∀ c ∈ b, isBlank c = true)
    (hsource : WritesSource t path attributes) :
    Handled (indent ++ (start ++ (what ++ ("from" ++ (b ++ t)))) ++ ['\n']) [] := by
  have hplain : ¬ BeginsStatement (what ++ ("from" ++ (b ++ t))) := by
    obtain ⟨c, s, rfl, hc⟩ := hwhat.head
    rcases hc with rfl | rfl <;> exact not_beginsStatement (by decide) (by decide) (by decide) _
  have hfirst := hstart.passes hindent
    (hstart.sparesWithin importRule_mem hplain (hwhat.sparesWithin hb hsource))
  refine ⟨_, _, _, hfirst, passes_removed fun rest => ?_, .nil _, .nil _⟩
  have hfound := reexport?_eq hindent hstart hwhat hb hsource rest
  show (reexport? _).map _ = _
  simp only [List.append_assoc] at hfound ⊢
  rw [hfound]
  rfl

/-- The last pass takes the keywords away and leaves the rest, whose lines begin no statement. -/
theorem passes_exportKeyword (word : Text) {indent g kept : Text}
    (hindent : ∀ c ∈ indent, isIndent c = true) (hgap : g ≠ [])
    (hkeyword : ∀ rest, exportKeyword?
      (indent ++ ("export" ++ (g ++ (word ++ (kept ++ '\n' :: rest))))) =
        some (kept ++ '\n' :: rest))
    (hlines : PlainWithin (g ++ (word ++ kept))) :
    Passes exportKeywordRule (indent ++ ("export" ++ (g ++ (word ++ kept))) ++ ['\n'])
      (indent ++ kept ++ ['\n']) := by
  have hmatch : ∀ rest, exportKeywordRule.match?
      (indent ++ ("export" ++ (g ++ word)) ++ (kept ++ '\n' :: rest)) =
        some (indent, kept ++ '\n' :: rest) := by
    intro rest
    have hsplit : indent ++ ("export" ++ (g ++ word)) ++ (kept ++ '\n' :: rest) =
        indent ++ ("export" ++ (g ++ (word ++ (kept ++ '\n' :: rest)))) := by simp
    have hrun : (indent ++ ("export" ++ (g ++ (word ++ (kept ++ '\n' :: rest))))).takeWhile
        isIndent = indent :=
      Text.takeWhile_run hindent (.cons (show isIndent 'e' = false by decide) _)
    rw [hsplit]
    show (exportKeyword? _).map _ = _
    rw [hkeyword, Option.map_some, hrun]
  -- the declaration may begin a line of its own
  have hstart : (indent ++ ("export" ++ (g ++ word))).getLast? = some '\n' →
      Spares exportKeywordRule kept := by
    intro hfeed
    rcases List.eq_nil_or_concat (g ++ word) with hnil | ⟨x, d, hx⟩
    · exact absurd (List.append_eq_nil_iff.mp hnil).1 hgap
    · have hend : indent ++ ("export" ++ (g ++ word)) = indent ++ ("export" ++ x) ++ [d] := by
        rw [hx]
        simp
      rw [hend, List.getLast?_concat] at hfeed
      obtain rfl := Option.some.inj hfeed
      refine spares_of_plain (hlines kept ⟨x, ?_⟩) exportKeywordRule_mem
      rw [← List.append_assoc, hx]
      simp
  have hkept : PlainWithin kept := by
    rintro line ⟨before, rfl⟩
    exact hlines line ⟨g ++ (word ++ before), by simp⟩
  have hpasses := passes_replaced hmatch hstart (hkept.spares exportKeywordRule_mem)
  simpa using hpasses

/-- An export loses its keywords before something that reads neither like a list nor like an export
from another module, if none of its lines begins a statement. -/
theorem handled_exportKeyword (word : Text) {indent g kept : Text}
    (hindent : ∀ c ∈ indent, isIndent c = true) (hgap : g ≠ []) (hg : ∀ c ∈ g, isBlank c = true)
    (htype : ∀ rest, ∃ c s, exportType?
      (indent ++ ("export" ++ (g ++ (word ++ (kept ++ '\n' :: rest))))) = some (c :: s) ∧
        c ≠ '*' ∧ c ≠ '\x7b')
    (hkeyword : ∀ rest, exportKeyword?
      (indent ++ ("export" ++ (g ++ (word ++ (kept ++ '\n' :: rest))))) =
        some (kept ++ '\n' :: rest))
    (hlines : PlainWithin (g ++ (word ++ kept))) :
    Handled (indent ++ ("export" ++ (g ++ (word ++ kept))) ++ ['\n'])
      (indent ++ kept ++ ['\n']) := by
  have hexport : PlainWithin ("export" ++ g ++ (word ++ kept)) := by
    rw [List.append_assoc]
    exact .append (by decide) hlines
  have hwhole : PlainWithin (indent ++ ("export" ++ (g ++ (word ++ kept)))) := by
    rw [List.append_assoc] at hexport
    exact .append (not_mem_of_isIndent hindent) hexport
  have hfirst : Passes importRule (indent ++ ("export" ++ (g ++ (word ++ kept))) ++ ['\n'])
      (indent ++ ("export" ++ (g ++ (word ++ kept))) ++ ['\n']) := by
    have hpasses := (WritesExport.values hgap hg).passes hindent (hexport.spares importRule_mem)
    rwa [List.append_assoc "export".toList] at hpasses
  -- the passes over other exports leave the keyword, each for a reason of its own
  have hspares : ∀ rule ∈ rules, (∀ rest, rule.match?
        (indent ++ ("export" ++ (g ++ (word ++ (kept ++ '\n' :: rest))))) = none) →
      Passes rule (indent ++ ("export" ++ (g ++ (word ++ kept))) ++ ['\n'])
        (indent ++ ("export" ++ (g ++ (word ++ kept))) ++ ['\n']) := by
    intro rule hrule hnone
    refine passes_spared (fun rest => .inl ?_) (hwhole.spares hrule)
    simpa using hnone rest
  have hsecond := hspares reexportRule reexportRule_mem fun rest => by
    obtain ⟨c, s, hc, hstar, hopen⟩ := htype rest
    apply reexport?_eq_none
    rw [hc, Option.bind_some, exported?]
    · exact fun _ heq => hstar (List.cons.inj heq).1
    · exact fun _ heq => hopen (List.cons.inj heq).1
  have hthird := hspares exportListRule exportListRule_mem fun rest => by
    obtain ⟨c, s, hc, -, hopen⟩ := htype rest
    apply exportList?_eq_none
    intro r hr hhead
    obtain rfl := Option.some.inj (hc.symm.trans hr)
    exact hopen (Option.some.inj hhead)
  exact ⟨_, _, _, hfirst, hsecond, hthird,
    passes_exportKeyword word hindent hgap hkeyword hlines⟩

theorem handled_declaration {indent g d : Text} (hindent : ∀ c ∈ indent, isIndent c = true)
    (hgap : g ≠ []) (hg : ∀ c ∈ g, isBlank c = true) (hd : Declares d)
    (hlines : PlainWithin (g ++ d)) :
    Handled (indent ++ ("export" ++ (g ++ d)) ++ ['\n']) (indent ++ d ++ ['\n']) :=
  handled_exportKeyword [] hindent hgap hg (hd.exportType?_head hindent hgap hg)
    (hd.exportKeyword?_eq hindent hgap hg) hlines

theorem handled_default {indent g g' s : Text} {c : Char}
    (hindent : ∀ c ∈ indent, isIndent c = true) (hgap : g ≠ [])
    (hg : ∀ c ∈ g, isBlank c = true) (hgap' : g' ≠ []) (hg' : ∀ c ∈ g', isBlank c = true)
    (hc : beginsDeclaration c = true) (hlines : PlainWithin (g' ++ c :: s)) :
    Handled (indent ++ ("export" ++ (g ++ ("default" ++ (g' ++ c :: s)))) ++ ['\n'])
      (indent ++ c :: s ++ ['\n']) := by
  have hletter := not_beginsStatement (c := 'd') (by decide) (by decide) (by decide)
    ("efault" ++ (g' ++ c :: s))
  have hword : PlainWithin ("default" ++ (g' ++ c :: s)) := .append (by decide) hlines
  have hwords : PlainWithin (g ++ ("default" ++ g' ++ c :: s)) := by
    rw [List.append_assoc]
    exact .append_gap hg (plain_gap hletter) hword
  have hhandled := handled_exportKeyword ("default" ++ g') hindent hgap hg
    (fun rest => by
      have hstop : StopsAt isBlank ("default" ++ g' ++ (c :: s ++ '\n' :: rest)) :=
        .cons (show isBlank 'd' = false by decide) _
      have hnone : spacedWord? "type" ("default" ++ g' ++ (c :: s ++ '\n' :: rest)) = none :=
        spacedWord?_eq_none rfl
      rw [exportType?_export hindent hgap hg hstop, hnone]
      exact ⟨'d', _, rfl, by decide, by decide⟩)
    (fun rest => by
      have hkeyword := exportKeyword?_default (s := s ++ '\n' :: rest) hindent hgap hg hgap' hg' hc
      simpa using hkeyword)
    hwords
  rwa [List.append_assoc "default".toList] at hhandled

/-! ## All statements -/

/-- What becomes of a statement does not depend on what stands around it. -/
theorem Becomes.handled {s out : Text} (h : Becomes s out) : Handled s out := by
  cases h with
  | @effects indent g t path attributes hindent hg hsource =>
    have hline := rendered_line hindent hsource (names_bare path)
    refine handled_import (i := ⟨indent, [], path, attributes⟩) (fun rest => ?_) ?_ rfl
      hline.1 hline.2
    · simpa using import?_bare hindent hg hsource rest
    · obtain ⟨x, rfl⟩ := hsource.last
      simp only [← List.append_assoc, List.getLast?_concat]
      decide
  | @bindings s indent k path attributes default whole named h hk =>
    obtain ⟨hindent, hne, htrim, t, hsource⟩ := h.parts
    have hline := rendered_line hindent hsource (hk.names path)
    refine handled_import (h.import?_eq hk.isClauseChar) h.last ?_ hline.1 hline.2
    rw [replaceImport, hk.ofClause?_eq htrim hne]
    rfl
  | @types s indent k path attributes h hk hfrom =>
    obtain ⟨hindent, hne, htrim, -⟩ := h.parts
    refine handled_import (h.import?_eq hk.isClauseChar) h.last ?_ (not_mem_of_isIndent hindent) ?_
    · rw [replaceImport, ofClause?_types htrim hne (hk.importsTypes_eq htrim hfrom)]
      rfl
    · exact not_beginsStatement_blanks (blank_of_indent hindent)
  | typesFrom h hk => exact h.handled_typesFrom hk
  | exported hindent hstart hwhat hb hsource =>
    exact handled_exported hindent hstart hwhat hb hsource
  | list hindent hstart hcontent hind => exact handled_list hindent hstart hcontent hind
  | declaration hindent hgap hg hd hlines => exact handled_declaration hindent hgap hg hd hlines
  | defaultExport hindent hgap hg hgap' hg' hc hlines =>
    exact handled_default hindent hgap hg hgap' hg' hc hlines
  | plain hs hlines =>
    have hspares : ∀ rule ∈ rules, Passes rule _ _ :=
      fun rule hrule => passes_spared (spares_of_plain hs hrule) (hlines.spares hrule)
    exact .of_import (hspares _ importRule_mem) fun rule hrule =>
      hspares rule (mem_rules_of_exports hrule)

/-- The transformation acts statement by statement. -/
theorem transform_statements (blocks : List (Text × Text)) (h : ∀ b ∈ blocks, Becomes b.1 b.2) :
    transform (blocks.flatMap (·.1)) = blocks.flatMap (·.2) := by
  apply Handled.transform_eq
  induction blocks with
  | nil => exact .nil
  | cons b rest ih =>
    have hb := (h b List.mem_cons_self).handled
    have hrest := ih fun b' hb' => h b' (List.mem_cons_of_mem b hb')
    rw [List.flatMap_cons, List.flatMap_cons]
    exact hb.append hrest

/-- An import, a list that vanishes, and an import of types that stays. -/
theorem transform_three_statements :
    transform ("import a, \x7b b as c \x7d from 'x';\n" ++ "export \x7b a \x7d;\n" ++
        "import type from$ from 'x';\n") =
      "((g, m) => \x7b g.a = m.default; g.c = m.b ?? m.default?.b; \x7d)(globalThis, " ++
        "await import(\x22x\x22));\n" ++ "import type from$ from 'x';\n" := by
  have hspace : ∀ c ∈ [' '], isBlank c = true := Text.forall_mem_eq (by decide)
  have hquoted : WritesSource "'x';" "x" none :=
    @WritesSource.path '\x27' "x" [] (.inl rfl) ⟨by decide, Text.forall_mem_eq (by decide)⟩ nofun
  have hnamed : ∀ b ∈ [(⟨"b", some "c".toList, false⟩ : Named)], b.IsNamed :=
    List.forall_mem_singleton.mpr ⟨by decide, fun name hname => by cases hname; decide⟩
  have hparts : WritesParts ["a".toList] (some "a".toList) none :=
    .default (by decide) (by decide) .nil
  have hclause : WritesClause "a, \x7b b as c \x7d" (some "a".toList) none
      [⟨"b", some "c".toList, false⟩] :=
    @WritesClause.braces "a, " " b as c " [] [' '] [] ["a".toList] [] _ _ _ (by decide) hspace
      (by decide) nofun hparts ⟨by decide, hnamed⟩
  have hlist : WritesNamed " a " [⟨"a", none, false⟩] :=
    ⟨by decide, List.forall_mem_singleton.mpr ⟨by decide, nofun⟩⟩
  have hfrom : NamesFrom "type from$" := ⟨[], by decide, by decide⟩
  have htrim : Text.Trimmed "a, \x7b b as c \x7d" :=
    ⟨.cons (show isBlank 'a' = false by decide) _, .cons (show isBlank '\x7d' = false by decide) _⟩
  have htrim' : Text.Trimmed "type from$" :=
    ⟨.cons (show isBlank 't' = false by decide) _, .cons (show isBlank '$' = false by decide) _⟩
  have hfirst := Becomes.bindings (@WritesImport.mk [] [' '] "a, \x7b b as c \x7d" [' '] [' '] _ _ _
    nofun hspace (by decide) htrim nofun hspace nofun hspace hquoted) hclause
  have hsecond := @Becomes.list [] "export " " a " [] nofun
    (@WritesExport.values [' '] (by decide) hspace) (.names hlist) nofun
  have hthird := Becomes.typesFrom (@WritesImport.mk [] [' '] "type from$" [' '] [' '] _ _ _
    nofun hspace (by decide) htrim' nofun hspace nofun hspace hquoted) hfrom
  have htransform := transform_statements [(_, _), (_, _), (_, _)] (List.forall_mem_cons.mpr
    ⟨hfirst, List.forall_mem_cons.mpr ⟨hsecond, List.forall_mem_cons.mpr ⟨hthird, nofun⟩⟩⟩)
  -- the statements one after the other are the source, and what becomes of them is its result
  refine Eq.trans (congrArg transform ?_) (htransform.trans ?_)
  · decide +kernel
  · decide +kernel

end ReplDriver.Module
