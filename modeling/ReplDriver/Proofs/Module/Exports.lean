import ReplDriver.Proofs.Module.Clause
import ReplDriver.Proofs.Module.Layout
import ReplDriver.Proofs.Module.Passes

/-!
# Recognising exports

Exports from other modules, lists of exports and exported declarations all begin with the word
`export`. What follows it, and perhaps the word `type`, tells them apart.

* `reexport?_eq`, `exportList?_eq`: exports from other modules and lists are found, with their line
  end.
* `Declares.exportKeyword?_eq`, `exportKeyword?_default`: before a declaration the keywords are
  found.
* `Declares.exportType?_head`: a declaration is neither a list nor an export from another module.
-/

namespace ReplDriver.Module

open Statement
open Text (isBlank isIndent isIdent isIdentChar isIdentStart after? StopsAt)

/-! ## Exports -/

/-- How an export begins: with the word `export`, and perhaps the word `type`, and blanks after
each of them. -/
inductive WritesExport : Text → Prop
  | values {g : Text} (hgap : g ≠ []) (hg : ∀ c ∈ g, isBlank c = true) :
      WritesExport ("export" ++ g)
  | types {g g' : Text} (hgap : g ≠ []) (hg : ∀ c ∈ g, isBlank c = true) (hgap' : g' ≠ [])
      (hg' : ∀ c ∈ g', isBlank c = true) : WritesExport ("export" ++ (g ++ ("type" ++ g')))

/-- What stands between the braces of an export: names, of which any may be `import`, or anything
else without a closing brace of which no line begins a statement. -/
inductive WritesList (content : Text) : Prop
  | names {named : List Named} (h : WritesNamed content named)
  | plain (hclose : '\x7d' ∉ content) (hlines : PlainWithin content)

theorem WritesList.close {content : Text} (h : WritesList content) : '\x7d' ∉ content := by
  cases h with
  | names h => exact not_mem_of_chars h.isBindingChar (by decide)
  | plain hclose => exact hclose

/-- What is written for the exports of another module, up to the word `from`: a star for all of
them, perhaps under a name, or a list between braces. Where the name begins a line, it must not read
like an import there. -/
inductive WritesExported : Text → Prop
  | all {g : Text} (hg : ∀ c ∈ g, isBlank c = true) : WritesExported ('*' :: g)
  | whole {g g' name g'' : Text} (hg : ∀ c ∈ g, isBlank c = true) (hgap' : g' ≠ [])
      (hg' : ∀ c ∈ g', isBlank c = true) (hname : isIdent name = true)
      (hlines : ∀ line, InnerLine (g' ++ name) line → ¬ BeginsImport line) (hgap'' : g'' ≠ [])
      (hg'' : ∀ c ∈ g'', isBlank c = true) :
      WritesExported ('*' :: (g ++ ("as" ++ (g' ++ (name ++ g'')))))
  | list {content g : Text} (hcontent : WritesList content) (hg : ∀ c ∈ g, isBlank c = true) :
      WritesExported ('\x7b' :: (content ++ '\x7d' :: g))

theorem spacedWord?_eq_none {word s : Text} (h : after? word s = none) :
    spacedWord? word s = none := by
  rw [spacedWord?, h]
  rfl

theorem dropIndent_export {indent : Text} (h : ∀ c ∈ indent, isIndent c = true) (s : Text) :
    (indent ++ ("export" ++ s)).dropWhile isIndent = "export" ++ s :=
  Text.dropWhile_run h (.cons (show isIndent 'e' = false by decide) _)

theorem exportType?_export {indent g s : Text} (hindent : ∀ c ∈ indent, isIndent c = true)
    (hgap : g ≠ []) (hg : ∀ c ∈ g, isBlank c = true) (hs : StopsAt isBlank s) :
    exportType? (indent ++ ("export" ++ (g ++ s))) = some ((spacedWord? "type" s).getD s) := by
  rw [exportType?, dropIndent_export hindent, spacedWord?_eq _ hgap hg hs]
  rfl

/-- The beginning of an export is found before a star or a brace. -/
theorem WritesExport.exportType?_eq {indent start : Text} {c : Char} (h : WritesExport start)
    (hindent : ∀ c ∈ indent, isIndent c = true) (hc : c = '*' ∨ c = '\x7b') (s : Text) :
    exportType? (indent ++ (start ++ c :: s)) = some (c :: s) := by
  have hblank : isBlank c = false := by rcases hc with rfl | rfl <;> decide
  have htype : spacedWord? "type" (c :: s) = none := by
    rcases hc with rfl | rfl <;> exact spacedWord?_eq_none rfl
  cases h with
  | @values g hgap hg =>
    rw [List.append_assoc, exportType?_export hindent hgap hg (.cons hblank s), htype]
    rfl
  | @types g g' hgap hg hgap' hg' =>
    have hletter : StopsAt isBlank ("type".toList ++ (g' ++ c :: s)) :=
      .cons (show isBlank 't' = false by decide) _
    rw [List.append_assoc, List.append_assoc, List.append_assoc,
      exportType?_export hindent hgap hg hletter, spacedWord?_eq _ hgap' hg' (.cons hblank s)]
    rfl

theorem WritesExported.head {what : Text} (h : WritesExported what) :
    ∃ c s, what = c :: s ∧ (c = '*' ∨ c = '\x7b') := by
  cases h with
  | all => exact ⟨_, _, rfl, .inl rfl⟩
  | whole => exact ⟨_, _, rfl, .inl rfl⟩
  | list => exact ⟨_, _, rfl, .inr rfl⟩

theorem stopsAt_from (s : Text) : StopsAt isBlank ("from" ++ s) :=
  .cons (show isBlank 'f' = false by decide) _

theorem after?_from {g : Text} (hg : ∀ c ∈ g, isBlank c = true) (s : Text) :
    after? "from" (blanks (g ++ ("from" ++ s))) = some s := by
  rw [blanks_append hg (stopsAt_from s)]
  exact Text.after?_eq_some.mpr rfl

/-- The name for a whole module ends before the blanks and the word `from`. -/
theorem asName?_eq {g g' name g'' : Text} (hg : ∀ c ∈ g, isBlank c = true) (hgap' : g' ≠ [])
    (hg' : ∀ c ∈ g', isBlank c = true) (hname : isIdent name = true) (hgap'' : g'' ≠ [])
    (hg'' : ∀ c ∈ g'', isBlank c = true) (s : Text) :
    asName? (g ++ ("as" ++ (g' ++ (name ++ (g'' ++ ("from" ++ s)))))) =
      some (g'' ++ ("from" ++ s)) := by
  have hchars := (Text.isIdentChar_of_isIdent hname).2
  have hfrom := after?_from hg'' s
  obtain ⟨d, x, rfl⟩ := List.exists_cons_of_ne_nil hgap''
  have hd : isIdentChar d = false := by
    rcases hident : isIdentChar d with _ | _
    · rfl
    · rw [← Text.isBlank_of_isIdentChar hident]
      exact (hg'' d List.mem_cons_self).symm
  have hstop : StopsAt isIdentChar (d :: x ++ ("from" ++ s)) := .cons hd _
  generalize d :: x ++ ("from" ++ s) = rest at hfrom hstop ⊢
  obtain ⟨c, r, rfl⟩ := List.exists_cons_of_ne_nil (Text.isIdentChar_of_isIdent hname).1
  rw [isIdent, Bool.and_eq_true] at hname
  have hrun : ∀ e ∈ r, isIdentChar e = true := fun e he => hchars e (List.mem_cons_of_mem c he)
  have has := spacedWord?_eq "as" (s := c :: (r ++ rest)) hgap' hg'
    (.cons (Text.isBlank_of_isIdentChar (hchars c List.mem_cons_self)) _)
  have hblanks : blanks (g ++ ("as" ++ (g' ++ c :: (r ++ rest)))) =
      "as" ++ (g' ++ c :: (r ++ rest)) :=
    blanks_append hg (.cons (show isBlank 'a' = false by decide) _)
  rw [List.cons_append, asName?, hblanks, has]
  simp only [Option.bind_eq_bind, Option.bind_some, hname.1, Bool.not_true, Bool.false_eq_true,
    if_false, Text.dropWhile_run hrun hstop, hfrom, Option.isSome_some, if_true]

/-- What is exported from another module ends before the word `from`. -/
theorem WritesExported.exported?_eq {what : Text} (h : WritesExported what) (s : Text) :
    ∃ g : Text, (∀ c ∈ g, isBlank c = true) ∧
      exported? (what ++ ("from" ++ s)) = some (g ++ ("from" ++ s)) := by
  cases h with
  | @all g hg =>
    have hnone : asName? (g ++ ("from" ++ s)) = none := by
      rw [asName?, blanks_append hg (stopsAt_from s), spacedWord?_eq_none rfl]
      rfl
    refine ⟨g, hg, ?_⟩
    show some ((asName? (g ++ ("from" ++ s))).getD _) = _
    rw [hnone]
    rfl
  | @whole g g' name g'' hg hgap' hg' hname hlines hgap'' hg'' =>
    refine ⟨g'', hg'', ?_⟩
    rw [List.cons_append, List.append_assoc, List.append_assoc, List.append_assoc,
      List.append_assoc]
    show some ((asName? _).getD _) = _
    rw [asName?_eq hg hgap' hg' hname hgap'' hg'']
    rfl
  | @list content g hcontent hg =>
    refine ⟨g, hg, ?_⟩
    rw [List.cons_append, List.append_assoc]
    show (braced? _).map (·.2) = _
    rw [List.cons_append, braced?_eq hcontent.close]
    rfl

/-- An export from another module is found, and its line end with it. -/
theorem reexport?_eq {indent start what b t path : Text} {attributes : Option Text}
    (hindent : ∀ c ∈ indent, isIndent c = true) (hstart : WritesExport start)
    (hwhat : WritesExported what) (hb : ∀ c ∈ b, isBlank c = true)
    (hsource : WritesSource t path attributes) (rest : Text) :
    reexport? (indent ++ (start ++ (what ++ ("from" ++ (b ++ (t ++ '\n' :: rest)))))) =
      some rest := by
  obtain ⟨g, hg, hexported⟩ := hwhat.exported?_eq (b ++ (t ++ '\n' :: rest))
  obtain ⟨c, s, rfl, hc⟩ := hwhat.head
  have htype := hstart.exportType?_eq hindent hc (s ++ ("from" ++ (b ++ (t ++ '\n' :: rest))))
  obtain ⟨u, hpath, -, hsemicolon⟩ := hsource.found ('\n' :: rest)
  have hfrom := after?_from hg (b ++ (t ++ '\n' :: rest))
  have hblanks : blanks (b ++ (t ++ '\n' :: rest)) = t ++ '\n' :: rest := by
    obtain ⟨q, s, rfl, hq⟩ := hsource.head
    exact blanks_append hb (.cons (by rcases hq with rfl | rfl <;> decide) _)
  rw [List.cons_append] at hexported
  rw [reexport?, List.cons_append, htype]
  simp only [Option.bind_eq_bind, Option.bind_some, hexported, hfrom, hblanks, hpath, hsemicolon]
  rfl

/-- An export list is found, and its line end with it. -/
theorem exportList?_eq {indent start content ind : Text}
    (hindent : ∀ c ∈ indent, isIndent c = true) (hstart : WritesExport start)
    (hclose : '\x7d' ∉ content) (hind : ∀ c ∈ ind, isIndent c = true) (rest : Text) :
    exportList?
      (indent ++ (start ++ '\x7b' :: (content ++ '\x7d' :: (ind ++ ';' :: '\n' :: rest)))) =
        some rest := by
  rw [exportList?, hstart.exportType?_eq hindent (.inr rfl)]
  simp only [Option.bind_eq_bind, Option.bind_some, braced?_eq hclose, semicolon_eq hind]
  rfl

/-! ## Exported declarations -/

/-- A declaration is written after `export`: it begins with an identifier, which is neither
`default` nor, before a star or a brace, `type`. -/
structure Declares (d : Text) : Prop where
  start : ∃ c r, d = c :: r ∧ isIdentStart c = true
  notDefault : ∀ r : Text, d = "default" ++ r → ∃ c, r.head? = some c ∧ isBlank c = false
  notTypes : ∀ r : Text, d = "type" ++ r →
    ∃ c, (blanks r).head? = some c ∧ c ≠ '*' ∧ c ≠ '\x7b'

theorem isBlank_of_isIdentStart {c : Char} (h : isIdentStart c = true) : isBlank c = false :=
  Text.isBlank_of_isIdentChar (Text.isIdentChar_of_isIdentStart h)

theorem isBlank_of_beginsDeclaration {c : Char} (h : beginsDeclaration c = true) :
    isBlank c = false := by
  have hothers : ∀ c ∈ "([\x7b\x27\x22\x60!-".toList, isBlank c = false :=
    Text.forall_mem_eq (by decide)
  simp only [beginsDeclaration, Bool.or_eq_true, List.contains_iff_mem] at h
  rcases h with (hstart | hdigit) | hother
  · exact isBlank_of_isIdentStart hstart
  · apply Text.isBlank_of_isIdentChar
    rw [isIdentChar, Char.isAlphanum, hdigit, Bool.or_true, Bool.true_or, Bool.true_or]
  · exact hothers c hother

theorem spacedWord?_some {word s r : Text} (h : spacedWord? word s = some r) :
    ∃ t, after? word s = some t ∧ r = blanks t ∧ ∃ c, t.head? = some c ∧ isBlank c = true := by
  obtain ⟨t, ht, hr⟩ := Option.bind_eq_some_iff.mp h
  cases t with
  | nil => cases hr
  | cons c t =>
    rw [blanks?] at hr
    split at hr
    · next hc =>
      refine ⟨c :: t, ht, ?_, c, rfl, hc⟩
      have hdrop : blanks (c :: t) = blanks t := List.dropWhile_cons_of_pos hc
      rw [hdrop]
      exact (Option.some.inj hr).symm
    · cases hr

/-- Before a declaration only the word `export` goes. -/
theorem Declares.exportKeyword?_eq {indent g d : Text} (h : Declares d)
    (hindent : ∀ c ∈ indent, isIndent c = true) (hgap : g ≠ []) (hg : ∀ c ∈ g, isBlank c = true)
    (rest : Text) : exportKeyword? (indent ++ ("export" ++ (g ++ (d ++ '\n' :: rest)))) =
      some (d ++ '\n' :: rest) := by
  obtain ⟨c, r, rfl, hc⟩ := h.start
  have hdefault : spacedWord? "default" (c :: r ++ '\n' :: rest) = none := by
    rcases hword : spacedWord? "default" (c :: r ++ '\n' :: rest) with _ | u
    · rfl
    · obtain ⟨t, ht, -, e, he, hblank⟩ := spacedWord?_some hword
      obtain ⟨t', hd, rfl⟩ := after?_append (by decide) ht
      obtain ⟨e', he', hblank'⟩ := h.notDefault t' hd
      rw [List.head?_append, he'] at he
      cases he
      rw [hblank] at hblank'
      cases hblank'
  have hbegins : beginsDeclaration c = true := by
    rw [beginsDeclaration, hc, Bool.true_or, Bool.true_or]
  have hstop : StopsAt isBlank (c :: r ++ '\n' :: rest) := .cons (isBlank_of_isIdentStart hc) _
  rw [exportKeyword?, dropIndent_export hindent, spacedWord?_eq _ hgap hg hstop]
  simp only [Option.bind_eq_bind, Option.bind_some, hdefault]
  exact if_pos hbegins

/-- Before a declaration stands no word `type` that goes with a star or a brace. -/
theorem Declares.exportType?_head {indent g d : Text} (h : Declares d)
    (hindent : ∀ c ∈ indent, isIndent c = true) (hgap : g ≠ []) (hg : ∀ c ∈ g, isBlank c = true)
    (rest : Text) : ∃ c s, exportType? (indent ++ ("export" ++ (g ++ (d ++ '\n' :: rest)))) =
      some (c :: s) ∧ c ≠ '*' ∧ c ≠ '\x7b' := by
  obtain ⟨c, r, rfl, hc⟩ := h.start
  have hstop : StopsAt isBlank (c :: r ++ '\n' :: rest) := .cons (isBlank_of_isIdentStart hc) _
  rw [exportType?_export hindent hgap hg hstop]
  rcases hword : spacedWord? "type" (c :: r ++ '\n' :: rest) with _ | u
  · refine ⟨c, r ++ '\n' :: rest, rfl, ?_, ?_⟩
    · rintro rfl
      exact absurd hc (by decide)
    · rintro rfl
      exact absurd hc (by decide)
  · obtain ⟨t, ht, rfl, -⟩ := spacedWord?_some hword
    obtain ⟨t', hd, rfl⟩ := after?_append (by decide) ht
    obtain ⟨e, he, hne⟩ := h.notTypes t' hd
    have hhead := head?_blanks_append he ('\n' :: rest)
    cases hu : blanks (t' ++ '\n' :: rest) with
    | nil => rw [hu] at hhead; cases hhead
    | cons e' s =>
      rw [hu] at hhead
      cases hhead
      exact ⟨e, s, rfl, hne⟩

/-- Before what is exported as the default, `export` and `default` go. -/
theorem exportKeyword?_default {indent g g' s : Text} {c : Char}
    (hindent : ∀ c ∈ indent, isIndent c = true) (hgap : g ≠ []) (hg : ∀ c ∈ g, isBlank c = true)
    (hgap' : g' ≠ []) (hg' : ∀ c ∈ g', isBlank c = true) (hc : beginsDeclaration c = true) :
    exportKeyword? (indent ++ ("export" ++ (g ++ ("default" ++ (g' ++ c :: s))))) =
      some (c :: s) := by
  have hletter : StopsAt isBlank ("default".toList ++ (g' ++ c :: s)) :=
    .cons (show isBlank 'd' = false by decide) _
  have hdefault := spacedWord?_eq "default" (s := c :: s) hgap' hg'
    (.cons (isBlank_of_beginsDeclaration hc) s)
  rw [exportKeyword?, dropIndent_export hindent, spacedWord?_eq _ hgap hg hletter]
  simp only [Option.bind_eq_bind, Option.bind_some, hdefault]
  exact if_pos hc

end ReplDriver.Module
