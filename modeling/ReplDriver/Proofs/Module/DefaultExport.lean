import ReplDriver.Proofs.Module.Statements

/-!
# Lines with a default export

What becomes of a line `export default` and an expression, wherever it stands and whatever the
expression begins with. Both keywords go only before the characters that a declaration is known to
begin with. Before any other character, such as a slash, a sign or a letter that is not ASCII, the
search for `default` is given up and the keyword stays, since it begins like a declaration itself.

* `DefaultLine.keywords_match`: what the last pass finds in such a line; the other passes find
  nothing.
* `transform_defaultLine`: what the line becomes, and when exactly the expression alone is left.
-/

namespace ReplDriver.Module

open Statement
open Text (isBlank isIndent after? StopsAt)

/-! ## The lines -/

/-- A line on which a default export is written: an indentation, the two keywords with blanks
after each of them, and an expression with its first character. -/
structure DefaultLine where
  indent : Text
  gap : Text
  gap' : Text
  first : Char
  more : Text
  hindent : ∀ c ∈ indent, isBlank c = true
  hgap : gap ≠ [] ∧ ∀ c ∈ gap, isBlank c = true
  hgap' : gap' ≠ [] ∧ ∀ c ∈ gap', isBlank c = true
  hfirst : isBlank first = false
  hline : '\n' ∉ indent ++ (gap ++ (gap' ++ first :: more))

namespace DefaultLine

variable (l : DefaultLine)

/-- The expression that is exported. -/
def expression : Text := l.first :: l.more

/-- The line as it is written. -/
def text : Text :=
  l.indent ++ ("export" ++ (l.gap ++ ("default" ++ (l.gap' ++ l.expression))))

/-- What stays after the keywords that go. -/
def kept : Text :=
  if beginsDeclaration l.first then l.expression else "default" ++ (l.gap' ++ l.expression)

/-- What the line becomes: it stays where the indentation has other characters than spaces and
tabs. -/
def script : Text := if l.indent.all isIndent then l.indent ++ l.kept else l.text

end DefaultLine

/-! ## What is found in them -/

/-- After blanks other than spaces and tabs, no keyword is found at the start of the line. -/
theorem after?_of_blank {indent word : Text} {c : Char} (hindent : ∀ d ∈ indent, isBlank d = true)
    (hother : indent.all isIndent = false) (hc : isIndent c = false)
    (hword : ∀ d ∈ word, isBlank d = false) (hne : word ≠ []) (s : Text) :
    after? word ((indent ++ c :: s).dropWhile isIndent) = none := by
  rw [dropIndent_append hc]
  obtain ⟨d, r, hdrop⟩ : ∃ d r, indent.dropWhile isIndent = d :: r := by
    apply List.exists_cons_of_ne_nil
    rw [Ne, List.dropWhile_eq_nil_iff, ← List.all_eq_true, hother]
    exact Bool.false_ne_true
  have hd : isBlank d = true :=
    hindent d ((List.dropWhile_sublist _).mem (hdrop ▸ List.mem_cons_self))
  rw [hdrop]
  rcases hafter : after? word (d :: r ++ c :: s) with _ | t
  · rfl
  · exfalso
    -- the word would begin with the blank
    obtain ⟨e, w, rfl⟩ := List.exists_cons_of_ne_nil hne
    obtain ⟨rfl, -⟩ := List.cons.inj (Text.after?_eq_some.mp hafter)
    rw [hword d List.mem_cons_self] at hd
    cases hd

namespace DefaultLine

variable (l : DefaultLine)

theorem text_append (tail : Text) :
    l.text ++ tail = l.indent ++
      ("export" ++ (l.gap ++ ("default" ++ (l.gap' ++ l.first :: (l.more ++ tail))))) := by
  simp [text, expression]

theorem exportType?_eq (tail : Text) (h : l.indent.all isIndent = true) :
    ∃ s, exportType? (l.text ++ tail) = some ('d' :: s) := by
  have hletter : StopsAt isBlank
      ("default".toList ++ (l.gap' ++ l.first :: (l.more ++ tail))) :=
    .cons (show isBlank 'd' = false by decide) _
  have hnone : spacedWord? "type"
      ("default".toList ++ (l.gap' ++ l.first :: (l.more ++ tail))) = none :=
    spacedWord?_eq_none rfl
  rw [text_append, exportType?_export (List.all_eq_true.mp h) l.hgap.1 l.hgap.2 hletter, hnone]
  exact ⟨_, rfl⟩

theorem spacedWord?_eq_none (tail : Text) (h : l.indent.all isIndent = false) :
    spacedWord? "export" ((l.text ++ tail).dropWhile isIndent) = none := by
  apply Module.spacedWord?_eq_none
  rw [text_append]
  exact after?_of_blank l.hindent h (by decide) (Text.forall_mem_eq (by decide)) (by decide) _

/-- The first three passes find nothing. -/
theorem others_match {rule : Rule} (hrule : rule ∈ [importRule, reexportRule, exportListRule])
    (tail : Text) : rule.match? (l.text ++ tail) = none := by
  simp only [List.mem_cons, List.not_mem_nil, or_false] at hrule
  cases hindent : l.indent.all isIndent with
  | true =>
    obtain ⟨s, htype⟩ := l.exportType?_eq tail hindent
    rcases hrule with rfl | rfl | rfl
    · apply import?_eq_none
      rw [text_append, dropIndent_export (List.all_eq_true.mp hindent)]
      rfl
    · apply reexport?_eq_none
      rw [htype]
      rfl
    · apply exportList?_eq_none
      intro r hr
      obtain rfl := Option.some.inj (htype.symm.trans hr)
      simp
  | false =>
    have hexport := l.spacedWord?_eq_none tail hindent
    rcases hrule with rfl | rfl | rfl
    · apply import?_eq_none
      have himport : after? "import" ((l.text ++ tail).dropWhile isIndent) = none := by
        rw [text_append]
        exact after?_of_blank l.hindent hindent (by decide) (Text.forall_mem_eq (by decide))
          (by decide) _
      rw [importKeyword?, himport]
      rfl
    · exact exportRules_eq_none hexport (by simp)
    · exact exportRules_eq_none hexport (by simp)

/-- The last pass finds the keywords after spaces and tabs, and both of them if a declaration can
begin as the expression does. -/
theorem keywords_match (tail : Text) : exportKeywordRule.match? (l.text ++ tail) =
    if l.indent.all isIndent then some (l.indent, l.kept ++ tail) else none := by
  cases hindent : l.indent.all isIndent with
  | true =>
    have hchars := List.all_eq_true.mp hindent
    have hletter : StopsAt isBlank
        ("default".toList ++ (l.gap' ++ l.first :: (l.more ++ tail))) :=
      .cons (show isBlank 'd' = false by decide) _
    have htake : (l.text ++ tail).takeWhile isIndent = l.indent := by
      rw [text_append]
      exact Text.takeWhile_run hchars (.cons (show isIndent 'e' = false by decide) _)
    have hkeywords : exportKeyword? (l.text ++ tail) = some (l.kept ++ tail) := by
      rw [text_append, exportKeyword?, dropIndent_export hchars,
        spacedWord?_eq _ l.hgap.1 l.hgap.2 hletter]
      simp only [Option.bind_eq_bind, Option.bind_some,
        spacedWord?_eq "default" l.hgap'.1 l.hgap'.2 (.cons l.hfirst (l.more ++ tail)),
        List.head?_cons, Option.any_some, kept, expression]
      split <;> simp_all
    show (exportKeyword? _).map _ = _
    rw [hkeywords, Option.map_some, htake, if_pos rfl]
  | false =>
    rw [if_neg Bool.false_ne_true]
    exact exportRules_eq_none (l.spacedWord?_eq_none tail hindent) (by simp)

end DefaultLine

/-! ## The passes -/

/-- Inside a line nothing is looked for. -/
theorem replaceLines_cons (rule : Rule) (c : Char) (s : Text) :
    replaceLines rule false (c :: s) = c :: replaceLines rule (c == '\n') s :=
  replaceLines_skip (by simp)

/-- The rest of a line stays, and the text after it is looked at next. -/
theorem replaceLines_inLine {rule : Rule} {s : Text} (hs : '\n' ∉ s) (tail : Text) :
    replaceLines rule false (s ++ tail) = s ++ replaceLines rule false tail := by
  induction s with
  | nil => rfl
  | cons c s ih =>
    have hc : (c == '\n') = false := by
      rw [beq_eq_false_iff_ne]
      exact fun hc => hs (hc ▸ List.mem_cons_self)
    rw [List.cons_append, replaceLines_cons, hc,
      ih fun hmem => hs (List.mem_cons_of_mem c hmem)]
    rfl

/-- A pass makes a line into another, however the text goes on after the line. -/
def PassesLine (rule : Rule) (line out : Text) : Prop :=
  ∀ tail, replaceLines rule true (line ++ tail) = out ++ replaceLines rule false tail

section PassesLine

variable {rule : Rule} {line out : Text}

theorem passesLine_spared (hne : line ≠ []) (hline : '\n' ∉ line)
    (h : ∀ tail, rule.match? (line ++ tail) = none) : PassesLine rule line line := by
  intro tail
  obtain ⟨c, s, rfl⟩ := List.exists_cons_of_ne_nil hne
  have hfirst := h tail
  rw [List.cons_append] at hfirst
  rw [← replaceLines_inLine hline, List.cons_append, replaceLines_skip fun _ => hfirst,
    replaceLines_cons]

theorem passesLine_replaced {found kept start : Text} (hline : '\n' ∉ found ++ kept)
    (h : ∀ tail, rule.match? (found ++ kept ++ tail) = some (start, kept ++ tail)) :
    PassesLine rule (found ++ kept) (start ++ kept) := by
  intro tail
  have hends : endsLine (found ++ kept ++ tail) (kept ++ tail) = false := by
    rw [List.append_assoc, endsLine_append, beq_eq_false_iff_ne]
    exact fun hlast => hline (List.mem_append_left kept (List.mem_of_mem_getLast? hlast))
  rw [replaceLines_match (h tail), hends,
    replaceLines_inLine (fun hmem => hline (List.mem_append_right found hmem)), List.append_assoc]

/-- At the end of the text. -/
theorem PassesLine.last (h : PassesLine rule line out) : replaceLines rule true line = out := by
  have hlast := h []
  rwa [List.append_nil, replaceLines_nil, List.append_nil] at hlast

/-- Before other lines. -/
theorem PassesLine.passes (h : PassesLine rule line out) :
    Passes rule (line ++ ['\n']) (out ++ ['\n']) := by
  intro rest
  rw [List.append_assoc, h, List.singleton_append, replaceLines_cons, List.append_assoc]
  rfl

end PassesLine

namespace DefaultLine

variable (l : DefaultLine)

theorem not_mem_text : '\n' ∉ l.text := by
  have hexport : '\n' ∉ "export".toList := by decide
  have hdefault : '\n' ∉ "default".toList := by decide
  have hline := l.hline
  simp only [text, expression, List.mem_append, not_or] at hline ⊢
  exact ⟨hline.1, hexport, hline.2.1, hdefault, hline.2.2⟩

theorem passesLine_others {rule : Rule}
    (hrule : rule ∈ [importRule, reexportRule, exportListRule]) :
    PassesLine rule l.text l.text := by
  have hne : l.text ≠ [] := by simp [text, expression]
  exact passesLine_spared hne l.not_mem_text (l.others_match hrule)

theorem passesLine_keywords : PassesLine exportKeywordRule l.text l.script := by
  cases hindent : l.indent.all isIndent with
  | true =>
    -- what is found ends before the expression, or before `default`
    obtain ⟨found, hfound⟩ : ∃ found, l.text = found ++ l.kept := by
      rw [text, kept]
      split
      · exact ⟨l.indent ++ ("export" ++ (l.gap ++ ("default" ++ l.gap'))), by simp⟩
      · exact ⟨l.indent ++ ("export" ++ l.gap), by simp⟩
    have hmatch := l.keywords_match
    simp only [hindent, if_true] at hmatch
    rw [script, hindent, if_pos rfl]
    rw [hfound] at hmatch ⊢
    exact passesLine_replaced (hfound ▸ l.not_mem_text) hmatch
  | false =>
    have hmatch := l.keywords_match
    simp only [hindent, Bool.false_eq_true, if_false] at hmatch
    rw [script, hindent, if_neg Bool.false_ne_true]
    have hne : l.text ≠ [] := by simp [text, expression]
    exact passesLine_spared hne l.not_mem_text hmatch

/-- The expression alone is left after the indentation exactly if this consists of spaces and tabs
and the expression begins as a declaration can. -/
theorem script_eq_iff : l.script = l.indent ++ l.expression ↔
    (∀ c ∈ l.indent, isIndent c = true) ∧ beginsDeclaration l.first = true := by
  have hkept : l.kept = l.expression ↔ beginsDeclaration l.first = true := by
    rw [kept]
    split
    · next hfirst => simp [hfirst]
    · next hfirst =>
      refine iff_of_false (fun h => ?_) hfirst
      have hlength := congrArg List.length h
      simp at hlength
      omega
  rw [script]
  split
  · next hindent =>
    rw [List.append_cancel_left_eq, hkept, ← List.all_eq_true]
    exact ⟨fun h => ⟨hindent, h⟩, And.right⟩
  · next hindent =>
    refine iff_of_false (fun h => ?_) fun h => hindent (List.all_eq_true.mpr h.1)
    have hlength := congrArg List.length h
    simp [text] at hlength
    omega

end DefaultLine

/-! ## The transformation -/

/-- What comes after a handled text is transformed on its own. -/
theorem Handled.transform_append {s out : Text} (h : Handled s out) (rest : Text) :
    transform (s ++ rest) = out ++ transform rest := by
  obtain ⟨a, b, c, h₁, h₂, h₃, h₄⟩ := h
  simp only [transform, rules, List.foldl_cons, List.foldl_nil]
  rw [h₁, h₂, h₃, h₄]

/-- What a line with a default export becomes after any text that is handled on its own: at the end
of the text, and before other lines, which are transformed as if they stood alone. The expression
alone is left exactly if it begins as a declaration can, after spaces and tabs. -/
theorem transform_defaultLine (l : DefaultLine) {before before' : Text}
    (hbefore : Handled before before') :
    transform (before ++ l.text) = before' ++ l.script ∧
    (∀ rest, transform (before ++ (l.text ++ '\n' :: rest)) =
      before' ++ (l.script ++ '\n' :: transform rest)) ∧
    (l.script = l.indent ++ l.expression ↔
      (∀ c ∈ l.indent, isIndent c = true) ∧ beginsDeclaration l.first = true) := by
  have hspared : ∀ {rule : Rule}, rule ∈ [importRule, reexportRule, exportListRule] →
      PassesLine rule l.text l.text := l.passesLine_others
  refine ⟨?_, fun rest => ?_, l.script_eq_iff⟩
  · have hline : transform l.text = l.script := by
      simp only [transform, rules, List.foldl_cons, List.foldl_nil]
      rw [(hspared (by simp)).last, (hspared (by simp)).last, (hspared (by simp)).last,
        l.passesLine_keywords.last]
    rw [hbefore.transform_append, hline]
  · have hline : Handled (l.text ++ ['\n']) (l.script ++ ['\n']) :=
      ⟨_, _, _, (hspared (by simp)).passes, (hspared (by simp)).passes, (hspared (by simp)).passes,
        l.passesLine_keywords.passes⟩
    have htransform := (hbefore.append hline).transform_append rest
    simpa only [List.append_assoc, List.singleton_append] using htransform

/-- Of the default export of a regular expression only the word `export` goes, and of one that
stands in parentheses both keywords go. -/
theorem transform_regExp_line :
    transform "let n = 1;\nexport default /a/;".toList = "let n = 1;\ndefault /a/;".toList ∧
    transform "let n = 1;\nexport default (/a/);\n".toList = "let n = 1;\n(/a/);\n".toList := by
  have hbefore : Handled "let n = 1;\n".toList "let n = 1;\n".toList :=
    (Becomes.plain (s := "let n = 1;".toList)
      (not_beginsStatement (by decide) (by decide) (by decide) _)
      (linesWithin_line (by decide))).handled
  have hgap : [' '] ≠ [] ∧ ∀ c ∈ [' '], isBlank c = true :=
    ⟨List.cons_ne_nil _ _, Text.forall_mem_eq (by decide)⟩
  have hslash := transform_defaultLine
    ⟨[], [' '], [' '], '/', "a/;".toList, nofun, hgap, hgap, by decide, by decide⟩ hbefore
  have hparen := transform_defaultLine
    ⟨[], [' '], [' '], '(', "/a/);".toList, nofun, hgap, hgap, by decide, by decide⟩ hbefore
  exact ⟨hslash.1, (hparen.2.1 []).trans (by rw [Handled.nil.transform_eq]; rfl)⟩

end ReplDriver.Module
