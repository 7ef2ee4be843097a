import ReplDriver.Proofs.Module.DefaultExport
import ReplDriver.Proofs.Module.Literals

/-!
# The path of a rewritten import

The path of an import statement is a string literal, and the dynamic import that the statement
becomes has a string literal in its place. The new literal is written for the text between the old
quotes, and not for what the old literal denotes. The two are the same as long as no escape stands
in the path.

* `Reaches`: how far a pass has come, and what it has written so far.
* `import?_parts`: the path of an import stands between two equal quotes in the statement.
* `ofClause?_valid`: a clause binds identifiers only, and keeps the path.
* `transform_importPath`: where the new literal stands, what it denotes, and when exactly that is
  what the old one denotes.
-/

namespace ReplDriver.Module

open Statement
open Text (isBlank isIndent isIdent after?)

/-! ## How far a pass has come -/

/-- A pass over `s` comes to `rest` after it has written `written`; the two flags tell whether a
line starts at `s` and at `rest`. -/
inductive Reaches (rule : Rule) : Bool → Text → Text → Bool → Text → Prop
  -- nothing is done yet
  | start (atStart : Bool) (s : Text) : Reaches rule atStart s [] atStart s
  -- no statement is recognised, and the character stays
  | skip {atStart : Bool} {c : Char} {r written : Text} {here : Bool} {rest : Text}
      (hnone : atStart = true → rule.match? (c :: r) = none)
      (hmore : Reaches rule (c == '\n') r written here rest) :
      Reaches rule atStart (c :: r) (c :: written) here rest
  -- a statement is replaced, and the search goes on after it
  | replace {s t r written : Text} {here : Bool} {rest : Text}
      (hmatch : rule.match? s = some (t, r))
      (hmore : Reaches rule (endsLine s r) r written here rest) :
      Reaches rule true s (t ++ written) here rest

theorem Reaches.replaceLines_eq {rule : Rule} {atStart here : Bool} {s written rest : Text}
    (h : Reaches rule atStart s written here rest) :
    replaceLines rule atStart s = written ++ replaceLines rule here rest := by
  induction h with
  | start => rfl
  | skip hnone _ ih => rw [replaceLines_skip hnone, ih, List.cons_append]
  | replace hmatch _ ih => rw [replaceLines_match hmatch, ih, List.append_assoc]

/-! ## The path in a statement -/

theorem blanks_suffix (s : Text) : blanks s <:+ s := List.dropWhile_suffix _

theorem after?_suffix {word s r : Text} (h : after? word s = some r) : r <:+ s :=
  ⟨word, (Text.after?_eq_some.mp h).symm⟩

theorem fromQuote?_suffix {s r : Text} (h : fromQuote? s = some r) : r <:+ s := by
  obtain ⟨t, hafter, h⟩ := Option.bind_eq_some_iff.mp h
  split at h
  · cases h
    exact (blanks_suffix t).trans (after?_suffix hafter)
  · cases h

theorem clause?_suffix {before : Option Char} {s k r : Text} (h : clause? before s = some (k, r)) :
    r <:+ s := by
  induction s generalizing before k with
  | nil =>
    unfold clause? at h
    dsimp only at h
    split at h
    · next hfound =>
      cases h
      split at hfound
      · exact (fromQuote?_suffix hfound).trans (blanks_suffix _)
      · cases hfound
    · cases h
  | cons c t ih =>
    unfold clause? at h
    dsimp only at h
    split at h
    · next hfound =>
      cases h
      split at hfound
      · exact (fromQuote?_suffix hfound).trans (blanks_suffix _)
      · cases hfound
    · split at h
      · cases h
      · obtain ⟨⟨k', r'⟩, hclause, h⟩ := Option.map_eq_some_iff.mp h
        cases h
        exact (ih hclause).trans (List.suffix_cons c t)

theorem importClause?_suffix {s k r : Text} (h : importClause? s = some (k, r)) : r <:+ s := by
  unfold importClause? at h
  split at h
  · cases h
    exact List.suffix_refl s
  · exact clause?_suffix h

theorem importKeyword?_suffix {s r : Text} (h : importKeyword? s = some r) : r <:+ s := by
  obtain ⟨t, hafter, h⟩ := Option.bind_eq_some_iff.mp h
  split at h
  · cases h
    exact (blanks_suffix t).trans (after?_suffix hafter)
  · cases h

theorem braced?_suffix {s content r : Text} (h : braced? s = some (content, r)) : r <:+ s := by
  unfold braced? at h
  split at h
  · next c rest hdrop =>
    cases h
    have hrest : c :: r <:+ s := hdrop ▸ List.dropWhile_suffix _
    exact (List.suffix_cons c r).trans hrest
  · cases h

theorem attributes?_suffix {s a r : Text} (h : attributes? s = some (a, r)) : r <:+ s := by
  obtain ⟨t, hword, h⟩ := Option.bind_eq_some_iff.mp h
  have ht : t <:+ s := by
    rcases Option.or_eq_some_iff.mp hword with hwith | ⟨-, hassert⟩
    · exact (after?_suffix hwith).trans (blanks_suffix s)
    · exact (after?_suffix hassert).trans (blanks_suffix s)
  split at h
  · next u hopen =>
    obtain ⟨⟨content, rest⟩, hbraced, h⟩ := Option.bind_eq_some_iff.mp h
    cases h
    have hu : '\x7b' :: u <:+ t := hopen ▸ blanks_suffix t
    exact (braced?_suffix hbraced).trans (((List.suffix_cons _ u).trans hu).trans ht)
  · cases h

theorem semicolon_suffix (s : Text) : semicolon s <:+ s := by
  have hdrop : s.dropWhile isIndent <:+ s := List.dropWhile_suffix _
  unfold semicolon
  split
  · next r hr =>
    rw [hr] at hdrop
    exact (List.suffix_cons _ r).trans hdrop
  · exact hdrop

/-- A path that is found stands between two equal quotes. -/
theorem quotedPath?_parts {s path r : Text} (h : quotedPath? s = some (path, r)) :
    ∃ q, (q = '\x27' ∨ q = '\x22') ∧ s = q :: (path ++ q :: r) ∧ IsPath path := by
  unfold quotedPath? at h
  split at h
  · cases h
  · next q t =>
    dsimp only at h
    split at h
    · next c rest hdrop =>
      split at h
      · next hquotes =>
        cases h
        simp only [Bool.and_eq_true, Bool.or_eq_true, beq_iff_eq, Bool.not_eq_true',
          List.isEmpty_eq_false_iff] at hquotes
        obtain ⟨⟨hquote, rfl⟩, hne⟩ := hquotes
        refine ⟨c, hquote, ?_, hne, fun d hd => ?_⟩
        · rw [← hdrop, List.takeWhile_append_dropWhile]
        · exact List.all_eq_true.mp List.all_takeWhile d hd
      · cases h
    · cases h

/-- The path of an import stands between two equal quotes in the statement. -/
theorem import?_parts {s rest : Text} {i : ImportParts} (h : import? s = some (i, rest)) :
    (∀ c ∈ i.indent, isIndent c = true) ∧ IsPath i.path ∧
      ∃ before q after, (q = '\x27' ∨ q = '\x22') ∧
        s = before ++ (q :: (i.path ++ q :: (after ++ rest))) := by
  obtain ⟨r, hkeyword, h⟩ := Option.bind_eq_some_iff.mp h
  obtain ⟨⟨k, u⟩, hclause, h⟩ := Option.bind_eq_some_iff.mp h
  obtain ⟨⟨path, v⟩, hquoted, h⟩ := Option.bind_eq_some_iff.mp h
  cases h
  obtain ⟨q, hquote, rfl, hpath⟩ := quotedPath?_parts hquoted
  have hbefore : q :: (path ++ q :: v) <:+ s :=
    ((importClause?_suffix hclause).trans (importKeyword?_suffix hkeyword)).trans
      (List.dropWhile_suffix _)
  have hafter : semicolon (((attributes? v).map (·.2)).getD v) <:+ v := by
    refine (semicolon_suffix _).trans ?_
    cases hfound : attributes? v with
    | none => exact List.suffix_refl v
    | some found => exact attributes?_suffix (a := found.1) (r := found.2) hfound
  obtain ⟨before, hbefore⟩ := hbefore
  obtain ⟨after, hafter⟩ := hafter
  refine ⟨fun c hc => List.all_eq_true.mp List.all_takeWhile c hc, hpath, before, q, after, hquote,
    ?_⟩
  rw [hafter]
  exact hbefore.symm

/-! ## What a clause binds -/

/-- An import of a path that binds identifiers only. -/
structure Import.Valid (path : Text) (i : Import) : Prop where
  path_eq : i.path = path
  default : ∀ name, i.default = some name → isIdent name = true
  whole : ∀ name, i.whole = some name → isIdent name = true
  named : ∀ b ∈ i.named, isIdent b.name = true ∧ isIdent b.localName = true

theorem Import.Valid.names {path : Text} {i : Import} (h : i.Valid path) :
    ∀ name ∈ i.names, isIdent name = true := by
  intro name hname
  simp only [Import.names, List.mem_append, Option.mem_toList, List.mem_flatMap, List.mem_cons,
    List.not_mem_nil, or_false] at hname
  rcases hname with (hname | hname) | ⟨b, hb, rfl | rfl⟩
  · exact h.default name hname
  · exact h.whole name hname
  · exact (h.named b hb).1
  · exact (h.named b hb).2

theorem Named.ofWords?_ident {words : List Text} {b : Named} (h : Named.ofWords? words = some b) :
    isIdent b.name = true ∧ isIdent b.localName = true := by
  unfold Named.ofWords? at h
  split at h
  all_goals first | cases h | (split at h <;> cases h)
  all_goals
    next hwords =>
    simp_all [Named.localName]

theorem namedEntries?_ident {content : Text} {named : List Named}
    (h : namedEntries? content = some named) :
    ∀ b ∈ named, isIdent b.name = true ∧ isIdent b.localName = true := by
  unfold namedEntries? at h
  generalize ((Text.splitOn ',' content).map Text.words).filter (· ≠ []) = entries at h
  induction entries generalizing named with
  | nil =>
    cases h
    intro b hb
    cases hb
  | cons words entries ih =>
    rw [List.mapM_cons] at h
    obtain ⟨b, hb, h⟩ := Option.bind_eq_some_iff.mp h
    obtain ⟨more, hmore, h⟩ := Option.bind_eq_some_iff.mp h
    cases h
    intro c hc
    rcases List.mem_cons.mp hc with rfl | hc
    · exact Named.ofWords?_ident hb
    · exact ih hmore c hc

theorem Import.Valid.addPart? {path : Text} {i j : Import} {words : List Text} (hi : i.Valid path)
    (h : i.addPart? words = some j) : j.Valid path := by
  have hsome : ∀ {name : Text}, isIdent name = true →
      ∀ n, some name = some n → isIdent n = true := by
    intro name hname n hn
    rwa [← Option.some.inj hn]
  unfold Import.addPart? at h
  split at h
  · cases h
    exact hi
  · split at h
    · next hname =>
      cases h
      exact { hi with default := hsome hname }
    · cases h
  · split at h
    · next hname =>
      cases h
      exact { hi with whole := hsome (Bool.and_eq_true_iff.mp hname).2 }
    · cases h
  · split at h
    · next hname =>
      cases h
      exact { hi with whole := hsome (Bool.and_eq_true_iff.mp hname).2 }
    · cases h
  · cases h

theorem Import.Valid.foldlM {path : Text} {i j : Import} {parts : List (List Text)}
    (hi : i.Valid path) (h : parts.foldlM Import.addPart? i = some j) : j.Valid path := by
  induction parts generalizing i with
  | nil =>
    cases h
    exact hi
  | cons words parts ih =>
    rw [List.foldlM_cons] at h
    obtain ⟨k, hk, h⟩ := Option.bind_eq_some_iff.mp h
    exact ih (hi.addPart? hk) h

/-- A clause binds identifiers only, and keeps the path. -/
theorem ofClause?_valid {clause path : Text} {i : Import}
    (h : Import.ofClause? clause path = some i) : i.Valid path := by
  have hbare : ∀ {named : List Named} {typeOnly : Bool},
      (∀ b ∈ named, isIdent b.name = true ∧ isIdent b.localName = true) →
      Import.Valid path ⟨path, none, none, named, typeOnly⟩ :=
    fun hnamed => ⟨rfl, nofun, nofun, hnamed⟩
  unfold Import.ofClause? at h
  dsimp only at h
  split at h
  · cases h
    exact hbare nofun
  · split at h
    · cases h
      exact hbare nofun
    · split at h
      · obtain ⟨⟨named, rest⟩, hnamed, h⟩ := Option.bind_eq_some_iff.mp h
        obtain ⟨entries, hentries, hcut⟩ := Option.map_eq_some_iff.mp hnamed
        cases hcut
        exact Import.Valid.foldlM (hbare (namedEntries?_ident hentries)) h
      · have hnone : ∀ b ∈ ([] : List Named), isIdent b.name = true ∧ isIdent b.localName = true :=
          fun b hb => absurd hb List.not_mem_nil
        exact Import.Valid.foldlM (hbare hnone) h

/-! ## The emitted statement -/

/-- The statements that copy the bindings, with the blanks around them. -/
def Import.body (i : Import) : Text :=
  match i.assignments with
  | [] => " "
  | lines => " " ++ Text.join " " lines ++ " "

/-- A dynamic import up to the literal of its path. -/
def Import.opening (i : Import) : Text :=
  "((g, m) => \x7b" ++ (i.body ++ "\x7d)(globalThis, await import(")

/-- The attributes as the options of a dynamic import. -/
def options (attributes : Option Text) : Text :=
  match attributes with
  | some a => if a.isEmpty then [] else ", \x7b with: " ++ a ++ " \x7d"
  | none => []

/-- A dynamic import from the literal of its path on. -/
def closing (attributes : Option Text) : Text := options attributes ++ "));"

theorem Import.render_eq (i : Import) (attributes : Option Text) :
    i.render attributes = i.opening ++ (Json.renderText i.path ++ closing attributes) := by
  have hwritten : ∀ body path options : Text,
      "((g, m) => \x7b" ++ body ++ "\x7d)(globalThis, await import(" ++ path ++ options ++ "));" =
        "((g, m) => \x7b" ++ (body ++ "\x7d)(globalThis, await import(") ++
          (path ++ (options ++ "));")) := by
    intro body path options
    simp only [List.append_assoc]
  unfold render opening closing
  exact hwritten i.body (Json.renderText i.path) (options attributes)

/-- A dynamic import begins with a parenthesis, and up to the literal it has no line feeds. -/
theorem Import.Valid.opening_eq {path : Text} {i : Import} (h : i.Valid path) :
    ∃ line, i.opening = '(' :: line ∧ '\n' ∉ line := by
  have hlines : '\n' ∉ Text.join " " i.assignments :=
    not_mem_join (by decide)
      (Import.not_mem_assignments fun name hname => not_mem_ident (h.names name hname))
  have hbody : '\n' ∉ i.body := by
    unfold body
    cases hassign : i.assignments with
    | nil => decide
    | cons line rest =>
      rw [hassign] at hlines
      exact not_mem_append (not_mem_append (by decide) hlines) (by decide)
  unfold opening
  generalize i.body = body at hbody
  exact ⟨"(g, m) => \x7b".toList ++ (body ++ "\x7d)(globalThis, await import("), rfl,
    not_mem_append (by decide) (not_mem_append hbody (by decide))⟩

/-! ## The passes for exports -/

/-- The passes after the imports, over a text before which a line starts or does not. -/
def exportPasses (atStart : Bool) (s : Text) : Text :=
  [reexportRule, exportListRule, exportKeywordRule].foldl
    (fun t rule => replaceLines rule atStart t) s

/-- The passes for exports leave a line whose first character, after spaces and tabs, is no letter
of a keyword; they go on inside the line. -/
theorem exportPasses_line {indent line : Text} {c : Char}
    (hindent : ∀ d ∈ indent, isIndent d = true) (hc : isIndent c = false) (hword : c ≠ 'e')
    (hline : '\n' ∉ c :: line) (tail : Text) :
    exportPasses true (indent ++ c :: line ++ tail) =
      indent ++ c :: line ++ exportPasses false tail := by
  have hpass : ∀ rule ∈ [reexportRule, exportListRule, exportKeywordRule],
      PassesLine rule (indent ++ c :: line) (indent ++ c :: line) := by
    intro rule hrule
    refine passesLine_spared (by simp) (not_mem_append (not_mem_of_isIndent hindent) hline)
      fun t => ?_
    refine exportRules_eq_none (spacedWord?_eq_none ?_) hrule
    rw [List.append_assoc, List.cons_append, Text.dropWhile_run hindent (.cons hc _)]
    rcases hafter : after? "export" (c :: (line ++ t)) with _ | r
    · rfl
    · have hfirst := (List.cons.inj (Text.after?_eq_some.mp hafter)).1
      exact absurd hfirst hword
  unfold exportPasses
  simp only [List.foldl_cons, List.foldl_nil]
  rw [hpass reexportRule (by simp), hpass exportListRule (by simp),
    hpass exportKeywordRule (by simp)]

/-! ## Rewritten imports -/

/-- An import of a source that the transformation rewrites: where the pass over the imports comes
to it, its parts, and what it binds, which is not only types. -/
structure RewrittenImport (source : Text) where
  written : Text
  text : Text
  rest : Text
  parts : ImportParts
  bindings : Import
  hreached : Reaches importRule true source written true text
  hfound : import? text = some (parts, rest)
  hbindings : Import.ofClause? parts.clause parts.path = some bindings
  hvalues : bindings.typeOnly = false

namespace RewrittenImport

variable {source : Text} (m : RewrittenImport source)

/-- What stands before the path in the statement that is written. -/
def opening : Text := m.parts.indent ++ m.bindings.opening

/-- What comes after the path when the imports have been rewritten. -/
def tail : Text :=
  closing m.parts.attributes ++ replaceLines importRule (endsLine m.text m.rest) m.rest

theorem valid : m.bindings.Valid m.parts.path := ofClause?_valid m.hbindings

/-- The first pass writes the path of the statement as a JSON string. -/
theorem replaceLines_eq : replaceLines importRule true m.text =
    m.opening ++ (Json.renderText m.parts.path ++ m.tail) := by
  have hmatch : importRule.match? m.text =
      some (m.parts.indent ++ m.bindings.render m.parts.attributes, m.rest) := by
    show (import? m.text).map _ = _
    rw [m.hfound, Option.map_some]
    simp only [replaceImport, m.hbindings, m.hvalues, Bool.false_eq_true, if_false]
  rw [replaceLines_match hmatch, Import.render_eq, m.valid.path_eq, opening, tail]
  simp only [List.append_assoc]

/-- The other passes leave the statement that is written, up to the end of the path. -/
theorem exportPasses_eq :
    exportPasses true (m.opening ++ (Json.renderText m.parts.path ++ m.tail)) =
      m.opening ++ (Json.renderText m.parts.path ++ exportPasses false m.tail) := by
  obtain ⟨line, hopening, hline⟩ := m.valid.opening_eq
  have hindent := (import?_parts m.hfound).1
  have hpath : '\n' ∉ Json.renderText m.parts.path := fun hmem =>
    absurd (Json.isPlain_of_mem_renderText hmem) (by decide)
  have hfree : '\n' ∉ '(' :: (line ++ Json.renderText m.parts.path) :=
    List.not_mem_cons_of_ne_of_not_mem (by decide) (not_mem_append hline hpath)
  have hpasses := exportPasses_line hindent (by decide) (by decide) hfree m.tail
  rw [opening, hopening]
  simpa only [List.append_assoc, List.cons_append] using hpasses

end RewrittenImport

/-- The literal of a rewritten import. It stands where the first pass comes to the statement, and in
the script wherever the text before the statement is handled on its own. It denotes the text between
the quotes of the statement; so it denotes what the literal of the statement denotes exactly if no
backslash is in the path. -/
theorem transform_importPath {source : Text} (m : RewrittenImport source) :
    ∃ before q after, (q = '\x27' ∨ q = '\x22') ∧
      m.text = before ++ (q :: (m.parts.path ++ q :: (after ++ m.rest))) ∧
      transform source =
        exportPasses true (m.written ++ (m.opening ++ (Json.renderText m.parts.path ++ m.tail))) ∧
      (∀ start start', Handled start start' → transform (start ++ m.text) =
        start' ++ (m.opening ++ (Json.renderText m.parts.path ++ exportPasses false m.tail))) ∧
      Literal.units? '\x22' (m.parts.path.flatMap Json.escapeChar) =
        some (Literal.units m.parts.path) ∧
      ∀ u, Literal.units? q m.parts.path = some u →
        (Literal.units? '\x22' (m.parts.path.flatMap Json.escapeChar) = some u ↔
          '\\' ∉ m.parts.path) := by
  obtain ⟨-, -, before, q, after, hquote, htext⟩ := import?_parts m.hfound
  have hfirst : replaceLines importRule true source =
      m.written ++ (m.opening ++ (Json.renderText m.parts.path ++ m.tail)) := by
    rw [m.hreached.replaceLines_eq, m.replaceLines_eq]
  have hliteral := Literal.units?_renderText m.parts.path
  refine ⟨before, q, after, hquote, htext, ?_, ?_, hliteral, ?_⟩
  · rw [← hfirst]
    rfl
  · intro start start' hstart
    rw [hstart.transform_append, ← m.exportPasses_eq, ← m.replaceLines_eq]
    rfl
  · intro u hu
    rw [hliteral, Option.some.injEq, Literal.units?_eq_units_iff hu]

/-- An import of `./a.js`, spelt with an escape, becomes an import of a path with a backslash. -/
theorem transform_importPath_escape :
    transform "let n = 1;\nimport './\\x61.js';".toList =
      "let n = 1;\n((g, m) => \x7b \x7d)(globalThis, await import(\x22./\\\\x61.js\x22));".toList ∧
    Literal.units? '\x27' "./\\x61.js".toList = some (Literal.units "./a.js".toList) ∧
    Literal.units? '\x22' "./\\\\x61.js".toList ≠ some (Literal.units "./a.js".toList) := by
  have hstart : Handled "let n = 1;\n".toList "let n = 1;\n".toList :=
    (Becomes.plain (s := "let n = 1;".toList)
      (not_beginsStatement (by decide) (by decide) (by decide) _)
      (linesWithin_line (by decide))).handled
  let m : RewrittenImport "import './\\x61.js';".toList :=
    { written := []
      text := "import './\\x61.js';".toList
      rest := []
      parts := ⟨[], [], "./\\x61.js".toList, none⟩
      bindings := Import.bare "./\\x61.js".toList
      hreached := .start true _
      hfound := by decide +kernel
      hbindings := by decide +kernel
      hvalues := rfl }
  obtain ⟨-, q, -, hquote, -, -, hscript, -, hsame⟩ := transform_importPath m
  have hold : Literal.units? q "./\\x61.js".toList = some (Literal.units "./a.js".toList) := by
    rcases hquote with rfl | rfl <;> decide +kernel
  have htail : exportPasses false m.tail = "));".toList := by decide +kernel
  refine ⟨?_, by decide +kernel, ?_⟩
  · rw [htail] at hscript
    exact hscript _ _ hstart
  · intro hnew
    exact (hsame _ hold).mp hnew (by decide +kernel)

end ReplDriver.Module
