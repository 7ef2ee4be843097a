import ReplDriver.Proofs.Module.Exports
import ReplDriver.Proofs.Module.Imports

/-!
# The lines inside of exports

The pass over the imports comes first, when the exports are still there, and an export may go over
several lines. None of its lines is taken for an import. Between braces a name may be `import`, and
then the rest of the export reads like the clause and the source of an import; but the clause closes
braces that it has not opened, and so the pass leaves it.

* `WritesNamed.sparesWithin_source`, `WritesNamed.sparesWithin_list`: the lines between braces are
  left, in an export from another module and in a list.
* `WritesExport.spares`, `WritesExport.sparesWithin`: the other lines of exports are left.
-/

namespace ReplDriver.Module

open Statement
open Text (isBlank isIndent isIdentChar atWordEnd after? StopsAt)

/-! ## Sources -/

theorem not_mem_of_isIndent {s : Text} (h : ∀ c ∈ s, isIndent c = true) : '\n' ∉ s :=
  not_mem_of_chars h (by decide)

theorem not_mem_path {q : Char} {path : Text} (hq : q = '\x27' ∨ q = '\x22') (hpath : IsPath path) :
    '\n' ∉ q :: (path ++ [q]) := by
  have hquote : '\n' ≠ q := by rcases hq with rfl | rfl <;> decide
  simp [hquote, not_mem_of_chars hpath.2 (show isPathChar '\n' = false by decide)]

/-- No line inside of a source begins a statement. -/
theorem WritesSource.plainWithin {t path : Text} {attributes : Option Text}
    (h : WritesSource t path attributes) : PlainWithin t := by
  cases h with
  | @path q path ind hq hpath hind =>
    have hend : '\n' ∉ ind ++ [';'] := by simp [not_mem_of_isIndent hind]
    have hparts : PlainWithin (q :: (path ++ [q]) ++ (ind ++ [';'])) :=
      .append (not_mem_path hq hpath) (linesWithin_line hend)
    simpa using hparts
  | @attributes q path g word g' content ind hq hpath hg hword hg' hline hclose hind =>
    have hbraces : '\n' ∉ '\x7b' :: (content ++ '\x7d' :: (ind ++ [';'])) := by
      simp [hline, not_mem_of_isIndent hind]
    have hbrace := not_beginsStatement (c := '\x7b') (by decide) (by decide) (by decide)
      (content ++ '\x7d' :: (ind ++ [';']))
    have hafter : PlainWithin (g' ++ '\x7b' :: (content ++ '\x7d' :: (ind ++ [';']))) :=
      .append_gap hg' (plain_gap hbrace) (linesWithin_line hbraces)
    have hword' : ∀ s, ¬ BeginsStatement (word ++ s) := by
      intro s
      rcases hword with rfl | rfl
      · exact not_beginsStatement (c := 'w') (by decide) (by decide) (by decide) _
      · exact not_beginsStatement (c := 'a') (by decide) (by decide) (by decide) _
    have hline' : '\n' ∉ word := by rcases hword with rfl | rfl <;> decide
    have hattributes : PlainWithin
        (g ++ (word ++ (g' ++ '\x7b' :: (content ++ '\x7d' :: (ind ++ [';']))))) :=
      .append_gap hg (plain_gap (hword' _)) (.append hline' hafter)
    have hparts := LinesWithin.append (not_mem_path hq hpath) hattributes
    simpa using hparts

theorem not_beginsStatement_from (s : Text) : ¬ BeginsStatement ("from" ++ s) :=
  not_beginsStatement (c := 'f') (by decide) (by decide) (by decide) _

/-- No line inside of the word `from` and a source begins a statement, nor after blanks. -/
theorem WritesSource.plainWithin_from {g b t path : Text} {attributes : Option Text}
    (h : WritesSource t path attributes) (hg : ∀ c ∈ g, isBlank c = true)
    (hb : ∀ c ∈ b, isBlank c = true) : PlainWithin (g ++ ("from" ++ (b ++ t))) := by
  have hstart : ¬ BeginsStatement t := by
    obtain ⟨q, s, rfl, hq⟩ := h.head
    rcases hq with rfl | rfl <;> exact not_beginsStatement (by decide) (by decide) (by decide) s
  have hfrom : PlainWithin ("from" ++ (b ++ t)) :=
    .append (by decide) (.append_gap hb (plain_gap hstart) h.plainWithin)
  exact .append_gap hg (plain_gap (not_beginsStatement_from _)) hfrom

/-! ## Names between braces -/

theorem endsClause_of_isBindingChar {c : Char} (h : isBindingChar c = true) :
    endsClause c = false :=
  endsClause_of_isClauseChar (isClauseChar_of_isPartChar (isPartChar_of_isBindingChar h))

theorem WritesNamed.isBindingChar_line {content l : Text} {named : List Named}
    (h : WritesNamed content named) (hl : InnerLine content l) :
    ∀ c ∈ l, Module.isBindingChar c = true := by
  obtain ⟨before, rfl⟩ := hl
  exact fun c hc => h.isBindingChar c (by simp [hc])

theorem dropIndent_brace (l s : Text) :
    (l ++ '\x7d' :: s).dropWhile isIndent = l.dropWhile isIndent ++ '\x7d' :: s :=
  dropIndent_append (by decide) l s

/-- The lines between the braces of a list are left: a semicolon comes before any quote. -/
theorem WritesNamed.sparesWithin_list {content ind : Text} {named : List Named}
    (h : WritesNamed content named) (hind : ∀ c ∈ ind, isIndent c = true) :
    SparesWithin importRule (content ++ '\x7d' :: (ind ++ [';'])) := by
  intro line hline
  rcases innerLine_append hline with ⟨l, hl, rfl⟩ | hline
  · have hchars := h.isBindingChar_line hl
    intro rest
    left
    have hnone : import? (l ++ '\x7d' :: (ind ++ [';']) ++ '\n' :: rest) = none := by
      -- up to the semicolon stand only the names and the brace that closes the list
      apply import?_eq_none_of_semicolon
      intro r hr
      have hsplit : l ++ '\x7d' :: (ind ++ [';']) ++ '\n' :: rest =
          l ++ '\x7d' :: (ind ++ ';' :: '\n' :: rest) := by simp
      rw [hsplit, dropIndent_brace] at hr
      obtain ⟨r', hword, rfl⟩ := after?_append (by decide) hr
      refine ⟨blanks r' ++ '\x7d' :: ind, '\n' :: rest, ?_, fun c hc => ?_⟩
      · rw [blanks_append_cons (by decide)]
        simp
      · rw [List.mem_append, List.mem_cons] at hc
        rcases hc with hc | rfl | hc
        · have hmem : c ∈ l.dropWhile isIndent := by
            rw [hword]
            exact List.mem_append_right _ ((List.dropWhile_sublist _).mem hc)
          exact endsClause_of_isBindingChar (hchars c ((List.dropWhile_sublist _).mem hmem))
        · decide
        · exact endsClause_of_isBlank (isBlank_of_isIndent (hind c hc))
    show (import? _).map _ = none
    rw [hnone]
    rfl
  · refine absurd hline (not_innerLine ?_ line)
    simp [not_mem_of_isIndent hind]

/-- What is read between `import`, as a name at the beginning of a line, and the word `from` after
the braces is no import of types. -/
theorem WritesNamed.not_importsTypes {content indent g v : Text} {named : List Named}
    (h : WritesNamed content named) (hindent : ∀ c ∈ indent, isIndent c = true)
    (hl : InnerLine content (indent ++ ("import" ++ (g ++ v)))) (hg : ∀ c ∈ g, isBlank c = true)
    (hend : atWordEnd (g ++ (v ++ ['\x7d'])) = true) : importsTypes (v ++ ['\x7d']) = false := by
  rcases himports : importsTypes (v ++ ['\x7d']) with _ | _
  · rfl
  · exfalso
    unfold importsTypes at himports
    split at himports
    · cases himports
    · next r hr =>
      obtain ⟨r', rfl, rfl⟩ := after?_append (by decide) hr
      simp only [Bool.and_eq_true, decide_eq_true_eq] at himports
      -- without blanks between them the two words would be one
      have hgap : g ≠ [] := by
        rintro rfl
        have hletter : Text.isWord 't' = false := by simpa using hend
        exact absurd hletter (by decide +kernel)
      cases r' with
      | nil => exact absurd himports.1.1 (by simp [show isBlank '\x7d' = false by decide])
      | cons c r' =>
        by_cases hc : isBlank c = true
        · obtain ⟨before, hcontent⟩ := hl
          exact h.ne_importType (blank_of_indent hindent) hgap hg hc before hcontent
        · rw [List.cons_append, List.dropWhile_cons_of_neg hc] at himports
          exact absurd himports.1.1 (Nat.lt_irrefl _)

/-- A line between the braces of an export from another module that reads like an import is put
back. -/
theorem WritesNamed.spares_line {content indent g₀ v g b t path : Text} {named : List Named}
    {attributes : Option Text} (h : WritesNamed content named)
    (hindent : ∀ c ∈ indent, isIndent c = true)
    (hl : InnerLine content (indent ++ ("import" ++ (g₀ ++ v)))) (hg₀ : ∀ c ∈ g₀, isBlank c = true)
    (hv : StopsAt isBlank v) (hend : atWordEnd (g₀ ++ v) = true) (hg : ∀ c ∈ g, isBlank c = true)
    (hb : ∀ c ∈ b, isBlank c = true) (hsource : WritesSource t path attributes) :
    Spares importRule
      (indent ++ ("import" ++ (g₀ ++ v)) ++ '\x7d' :: (g ++ ("from" ++ (b ++ t)))) := by
  have hchars : ∀ c ∈ v, Module.isBindingChar c = true :=
    fun c hc => h.isBindingChar_line hl c (by simp [hc])
  have hclauseChars : ∀ c ∈ v ++ ['\x7d'], isClauseChar c = true := by
    intro c hc
    rcases List.mem_append.mp hc with hc | hc
    · exact isClauseChar_of_isPartChar (isPartChar_of_isBindingChar (hchars c hc))
    · obtain rfl := List.mem_singleton.mp hc
      decide
  have htrim : Text.Trimmed (v ++ ['\x7d']) := by
    constructor
    · cases v with
      | nil => exact .cons (by decide) []
      | cons c v => exact .cons (hv c rfl) _
    · rw [List.reverse_append]
      exact .cons (by decide) _
  have hstart : atWordEnd (g₀ ++ (v ++ ['\x7d'])) = true := by
    rw [← List.append_assoc]
    cases hgv : g₀ ++ v with
    | nil => rw [List.nil_append, Text.atWordEnd_cons, Text.isWord_dollar_brace.2]; rfl
    | cons c s => rw [hgv] at hend; exact hend
  have hlast : g = [] → StopsAt Text.isWord (v ++ ['\x7d']).reverse := by
    intro _
    rw [List.reverse_append]
    exact .cons Text.isWord_dollar_brace.2 _
  -- the clause that is found here closes braces that it does not open
  have hnone : Import.ofClause? (v ++ ['\x7d']) path = none := by
    refine ofClause?_eq_none htrim ?_ (by simp) (h.not_importsTypes hindent hl hg₀ hstart) path
    have hopen := not_mem_of_chars (d := '\x7b') hchars (by decide)
    simp [hopen]
  intro rest
  right
  have himport : import? (indent ++ ("import" ++ (g₀ ++ v)) ++
      '\x7d' :: (g ++ ("from" ++ (b ++ t))) ++ '\n' :: rest) =
        some (⟨indent, v ++ ['\x7d'], path, attributes⟩, '\n' :: rest) := by
    have hfound := import?_eq hindent hg₀ hclauseChars (by simp) htrim hstart hg hlast hb hsource
      ('\n' :: rest)
    simpa using hfound
  constructor
  · rw [importRule_match himport, replaceImport, hnone]
  · obtain ⟨s, rfl⟩ := hsource.last
    have hends : indent ++ ("import" ++ (g₀ ++ v)) ++
        '\x7d' :: (g ++ ("from" ++ (b ++ (s ++ [';'])))) =
          indent ++ ("import" ++ (g₀ ++ v)) ++ '\x7d' :: (g ++ ("from" ++ (b ++ s))) ++ [';'] := by
      simp
    rw [hends, List.getLast?_concat]
    decide

/-- The lines between the braces of an export from another module are left. -/
theorem WritesNamed.sparesWithin_source {content g b t path : Text} {named : List Named}
    {attributes : Option Text} (h : WritesNamed content named) (hg : ∀ c ∈ g, isBlank c = true)
    (hb : ∀ c ∈ b, isBlank c = true) (hsource : WritesSource t path attributes) :
    SparesWithin importRule (content ++ '\x7d' :: (g ++ ("from" ++ (b ++ t)))) := by
  intro line hline
  rcases innerLine_append hline with ⟨l, hl, rfl⟩ | hline
  · by_cases hbegins : BeginsImport (l ++ '\x7d' :: (g ++ ("from" ++ (b ++ t))))
    -- here a name `import` begins the line, and what the pass finds ends its clause with the brace
    · obtain ⟨r, hword, hend, -⟩ := hbegins.of_append (dropIndent_brace l _) (by decide)
      have hindent : ∀ c ∈ l.takeWhile isIndent, isIndent c = true :=
        List.all_eq_true.mp List.all_takeWhile
      have hg₀ : ∀ c ∈ r.takeWhile isBlank, isBlank c = true :=
        List.all_eq_true.mp List.all_takeWhile
      have hv : StopsAt isBlank (r.dropWhile isBlank) := Text.stopsAt_dropWhile r
      have hline : l = l.takeWhile isIndent ++
          ("import" ++ (r.takeWhile isBlank ++ r.dropWhile isBlank)) := by
        rw [List.takeWhile_append_dropWhile, ← hword, List.takeWhile_append_dropWhile]
      rw [← List.takeWhile_append_dropWhile (p := isBlank) (l := r)] at hend
      generalize l.takeWhile isIndent = indent at hindent hline
      generalize r.takeWhile isBlank = g₀ at hg₀ hline hend
      generalize r.dropWhile isBlank = v at hv hline hend
      subst hline
      exact h.spares_line hindent hl hg₀ hv hend hg hb hsource
    · exact spares_import hbegins
  · have hafter : PlainWithin ('\x7d' :: (g ++ ("from" ++ (b ++ t)))) :=
      .append (s := ['\x7d']) (by decide) (hsource.plainWithin_from hg hb)
    exact hafter.spares List.mem_cons_self line hline

/-! ## Exports -/

/-- A closing brace ends no line that begins a statement. -/
theorem PlainWithin.append_brace {content s : Text} (h : PlainWithin content) (hs : PlainWithin s) :
    PlainWithin (content ++ '\x7d' :: s) := by
  intro line hline
  -- what comes before the brace decides whether the line begins a statement
  rcases innerLine_append hline with ⟨l, hl, rfl⟩ | hline
  · rintro (himport | hexport)
    · exact h l hl (.inl (himport.of_append (dropIndent_brace l s) (by decide)))
    · exact h l hl (.inr (hexport.of_append (dropIndent_brace l s) (by decide)))
  · exact LinesWithin.append (s := ['\x7d']) (by decide) hs line hline

/-- The lines between the braces of an export from another module are left in the pass over the
imports. -/
theorem WritesList.sparesWithin_source {content g b t path : Text} {attributes : Option Text}
    (h : WritesList content) (hg : ∀ c ∈ g, isBlank c = true) (hb : ∀ c ∈ b, isBlank c = true)
    (hsource : WritesSource t path attributes) :
    SparesWithin importRule (content ++ '\x7d' :: (g ++ ("from" ++ (b ++ t)))) := by
  cases h with
  | names h => exact h.sparesWithin_source hg hb hsource
  | plain hclose hlines =>
    exact (hlines.append_brace (hsource.plainWithin_from hg hb)).spares List.mem_cons_self

theorem dropIndent_of_mem {l : Text} {c : Char} (hmem : c ∈ l) (hc : isIndent c = false)
    (s : Text) : (l ++ s).dropWhile isIndent = l.dropWhile isIndent ++ s := by
  obtain ⟨a, r, rfl⟩ := List.append_of_mem hmem
  rw [List.append_assoc, List.cons_append, dropIndent_append hc, dropIndent_append hc,
    List.append_assoc, List.cons_append]

/-- No line inside of what is exported from another module begins an import, the word `from` and the
source included. -/
theorem WritesExported.sparesWithin {what b t path : Text} {attributes : Option Text}
    (h : WritesExported what) (hb : ∀ c ∈ b, isBlank c = true)
    (hsource : WritesSource t path attributes) :
    SparesWithin importRule (what ++ ("from" ++ (b ++ t))) := by
  have himport : importRule ∈ rules := List.mem_cons_self
  have hgap : ∀ {g : Text}, (∀ c ∈ g, isBlank c = true) →
      SparesWithin importRule (g ++ ("from" ++ (b ++ t))) :=
    fun hg => (hsource.plainWithin_from hg hb).spares himport
  cases h with
  | all hg => exact .append (s := ['*']) (by decide) (hgap hg)
  | list hcontent hg =>
    have hparts := LinesWithin.append (s := ['\x7b']) (by decide)
      (hcontent.sparesWithin_source hg hb hsource)
    simpa using hparts
  | @whole g g' name g'' hg hgap' hg' hname hlines hgap'' hg'' =>
    have hchars := Text.isIdentChar_of_isIdent hname
    have hline : '\n' ∉ name := not_mem_of_chars hchars.2 (by decide)
    have hname' : SparesWithin importRule (g' ++ name ++ (g'' ++ ("from" ++ (b ++ t)))) := by
      intro line hinner
      rcases innerLine_append hinner with ⟨l, hl, rfl⟩ | hinner
      · -- the line goes on with a blank after the name
        obtain ⟨d, x, rfl⟩ := List.exists_cons_of_ne_nil hgap''
        obtain ⟨c, r, rfl⟩ := List.exists_cons_of_ne_nil hchars.1
        have hmem : c ∈ l := by
          rcases innerLine_append hl with ⟨l', -, rfl⟩ | hl
          · simp
          · exact absurd hl (not_innerLine hline l)
        have hc : isIndent c = false :=
          isIndent_eq_false (Text.isBlank_of_isIdentChar (hchars.2 c List.mem_cons_self))
        have hd : d ∉ "import".toList :=
          Text.not_mem_of_isBlank (Text.forall_mem_eq (by decide)) (hg'' d List.mem_cons_self)
        exact spares_import fun hbegins =>
          hlines l hl (hbegins.of_append (dropIndent_of_mem hmem hc _) hd)
      · exact hgap hg'' line hinner
    have hletter := not_beginsStatement (c := 'a') (by decide) (by decide) (by decide)
      ("s" ++ (g' ++ name ++ (g'' ++ ("from" ++ (b ++ t)))))
    have hword : SparesWithin importRule
        (g ++ ("as" ++ (g' ++ name ++ (g'' ++ ("from" ++ (b ++ t)))))) :=
      .append_gap hg (spares_gap hletter himport) (.append (by decide) hname')
    have hparts := LinesWithin.append (s := ['*']) (by decide) hword
    simpa using hparts

theorem WritesExport.sparesWithin {rule : Rule} (hrule : rule ∈ rules) {start s : Text}
    (h : WritesExport start) (hs : ¬ BeginsStatement s) (hs' : SparesWithin rule s) :
    SparesWithin rule (start ++ s) := by
  cases h with
  | values hgap hg =>
    rw [List.append_assoc]
    exact .append (by decide) (.append_gap hg (spares_gap hs hrule) hs')
  | @types g g' hgap hg hgap' hg' =>
    rw [List.append_assoc, List.append_assoc, List.append_assoc]
    have hletter := not_beginsStatement (c := 't') (by decide) (by decide) (by decide)
      ("ype" ++ (g' ++ s))
    have htype : SparesWithin rule ("type" ++ (g' ++ s)) :=
      .append (by decide) (.append_gap hg' (spares_gap hs hrule) hs')
    exact .append (by decide) (.append_gap hg (spares_gap hletter hrule) htype)

/-- The pass over the imports leaves an export if it leaves the lines inside. -/
theorem WritesExport.passes {indent start s : Text} (h : WritesExport start)
    (hindent : ∀ c ∈ indent, isIndent c = true) (hlines : SparesWithin importRule (start ++ s)) :
    Passes importRule (indent ++ (start ++ s) ++ ['\n']) (indent ++ (start ++ s) ++ ['\n']) := by
  obtain ⟨u, rfl⟩ : ∃ u, start = 'e' :: u := by
    cases h with
    | values => exact ⟨_, rfl⟩
    | types => exact ⟨_, rfl⟩
  refine passes_spared (spares_import fun hbegins => ?_)
    (hlines.append (not_mem_of_isIndent hindent))
  obtain ⟨r, hword, -⟩ := hbegins.of_gap (blank_of_indent hindent)
  rw [List.cons_append, List.dropWhile_cons_of_neg (by decide)] at hword
  cases (List.cons.inj hword).1

/-! ## Lists and the pass over exports from other modules -/

theorem spacedWord?_split {word s r : Text} (h : spacedWord? word s = some r) :
    ∃ b : Text, s = word ++ (b ++ r) ∧ ∀ c ∈ b, isBlank c = true := by
  obtain ⟨t, ht, rfl, -⟩ := spacedWord?_some h
  refine ⟨t.takeWhile isBlank, ?_, List.all_eq_true.mp List.all_takeWhile⟩
  rw [blanks, List.takeWhile_append_dropWhile]
  exact Text.after?_eq_some.mp ht

/-- The beginning of an export holds no brace. -/
theorem exportType?_split {s r : Text} (h : exportType? s = some r) :
    ∃ u, s = u ++ r ∧ '\x7d' ∉ u := by
  obtain ⟨t, ht, hr⟩ := Option.bind_eq_some_iff.mp h
  obtain ⟨b, hword, hb⟩ := spacedWord?_split ht
  have hblank : ∀ {g : Text}, (∀ c ∈ g, isBlank c = true) → '\x7d' ∉ g :=
    fun hg => not_mem_of_chars hg (by decide)
  have hindent : '\x7d' ∉ s.takeWhile isIndent :=
    not_mem_of_chars (List.all_eq_true.mp List.all_takeWhile) (by decide)
  have hexport : '\x7d' ∉ "export".toList := by decide
  have hsplit := List.takeWhile_append_dropWhile (p := isIndent) (l := s)
  rw [hword] at hsplit
  generalize s.takeWhile isIndent = indent at hindent hsplit
  cases htype : spacedWord? "type" t with
  | none =>
    rw [htype] at hr
    obtain rfl : t = r := Option.some.inj hr
    refine ⟨indent ++ ("export" ++ b), by rw [← hsplit]; simp, ?_⟩
    simp only [List.mem_append, not_or]
    exact ⟨hindent, hexport, hblank hb⟩
  | some t' =>
    rw [htype] at hr
    obtain rfl : t' = r := Option.some.inj hr
    obtain ⟨b', rfl, hb'⟩ := spacedWord?_split htype
    have htype' : '\x7d' ∉ "type".toList := by decide
    refine ⟨indent ++ ("export" ++ (b ++ ("type" ++ b'))), by rw [← hsplit]; simp, ?_⟩
    simp only [List.mem_append, not_or]
    exact ⟨hindent, hexport, hblank hb, htype', hblank hb'⟩

/-- The lines between the braces of a list are no exports from another module. -/
theorem WritesNamed.sparesWithin_reexport {content ind : Text} {named : List Named}
    (h : WritesNamed content named) (hind : ∀ c ∈ ind, isIndent c = true) :
    SparesWithin reexportRule (content ++ '\x7d' :: (ind ++ [';'])) := by
  intro line hline
  rcases innerLine_append hline with ⟨l, hl, rfl⟩ | hline
  · have hchars := h.isBindingChar_line hl
    intro rest
    left
    apply reexport?_eq_none
    have hsplit : l ++ '\x7d' :: (ind ++ [';']) ++ '\n' :: rest =
        l ++ '\x7d' :: (ind ++ ';' :: '\n' :: rest) := by simp
    rw [hsplit]
    generalize ind ++ ';' :: '\n' :: rest = w
    rcases htype : exportType? (l ++ '\x7d' :: w) with _ | r
    · rfl
    · obtain ⟨u, hu, hclose⟩ := exportType?_split htype
      -- what comes next is a name or the brace that closes the list
      have hhead : ∃ c s, r = c :: s ∧ c ≠ '*' ∧ c ≠ '\x7b' := by
        rcases List.append_eq_append_iff.mp hu with ⟨x, rfl, hr⟩ | ⟨x, rfl, hr⟩
        · cases x with
          | nil => exact ⟨'\x7d', w, hr.symm, by decide, by decide⟩
          | cons c x =>
            obtain ⟨rfl, -⟩ := List.cons.inj hr
            exact absurd (by simp) hclose
        · cases x with
          | nil => exact ⟨'\x7d', w, by simpa using hr, by decide, by decide⟩
          | cons c x =>
            have hc := hchars c (by simp)
            refine ⟨c, x ++ '\x7d' :: w, hr, ?_, ?_⟩
            · rintro rfl
              exact absurd hc (by decide)
            · rintro rfl
              exact absurd hc (by decide)
      obtain ⟨c, s, rfl, hstar, hopen⟩ := hhead
      rw [Option.bind_some, exported?]
      · exact fun _ heq => hstar (List.cons.inj heq).1
      · exact fun _ heq => hopen (List.cons.inj heq).1
  · refine absurd hline (Module.not_innerLine ?_ line)
    simp [not_mem_of_isIndent hind]

/-- The lines between the braces of a list are left in both passes before the one over the lists. -/
theorem WritesList.sparesWithin {content ind : Text} (h : WritesList content)
    (hind : ∀ c ∈ ind, isIndent c = true) :
    SparesWithin importRule (content ++ '\x7d' :: (ind ++ [';'])) ∧
      SparesWithin reexportRule (content ++ '\x7d' :: (ind ++ [';'])) := by
  cases h with
  | names h => exact ⟨h.sparesWithin_list hind, h.sparesWithin_reexport hind⟩
  | plain hclose hlines =>
    have hend : '\n' ∉ ind ++ [';'] := by simp [not_mem_of_isIndent hind]
    have hplain := hlines.append_brace (linesWithin_line hend)
    exact ⟨hplain.spares importRule_mem, hplain.spares reexportRule_mem⟩

end ReplDriver.Module
