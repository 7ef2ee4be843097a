import ReplDriver.Module.Script
import ReplDriver.Proofs.Text.Cutting

/-!
# The passes of the transformation, block by block

Each pass goes over the whole text and acts where a line starts. A block of lines that a pass
handles alike whatever follows it can be looked at on its own, and so can the blocks that come out
of it in the passes after.

* `replaceLines_spared`: a text at whose lines a rule recognises nothing stays.
* `Handled.append`, `Handled.transform_eq`: blocks that are handled on their own are handled one
  after another, and the transformation gives what becomes of each.
* `spares_of_plain`: no rule recognises anything in a line that does not begin like a statement.
-/

namespace ReplDriver.Module

open Statement
open Text (isBlank isIndent atWordEnd after?)

/-! ## Lines -/

/-- A line begins inside a text, after one of its line feeds, and goes on to the end of the text;
it may hold more line feeds. -/
def InnerLine (s line : Text) : Prop := ∃ before : Text, s = before ++ '\n' :: line

theorem not_innerLine {s : Text} (h : '\n' ∉ s) (line : Text) : ¬ InnerLine s line := by
  rintro ⟨before, rfl⟩
  exact h (by simp)

/-- A line that begins inside two texts begins inside the first of them, and goes on to the end of
the second, or inside the second. -/
theorem innerLine_append {a b line : Text} (h : InnerLine (a ++ b) line) :
    (∃ l, InnerLine a l ∧ line = l ++ b) ∨ InnerLine b line := by
  obtain ⟨before, h⟩ := h
  rcases List.append_eq_append_iff.mp h with ⟨t, rfl, hb⟩ | ⟨t, rfl, hline⟩
  · exact .inr ⟨t, hb⟩
  · cases t with
    | nil => exact .inr ⟨[], by simpa using hline.symm⟩
    | cons c t =>
      obtain ⟨rfl, rfl⟩ := List.cons.inj hline
      exact .inl ⟨t, ⟨before, rfl⟩, rfl⟩

theorem InnerLine.cons {s line : Text} (h : InnerLine s line) (c : Char) :
    InnerLine (c :: s) line := by
  obtain ⟨before, rfl⟩ := h
  exact ⟨c :: before, rfl⟩

/-- All lines that begin inside a text have a property. -/
def LinesWithin (p : Text → Prop) (s : Text) : Prop := ∀ line, InnerLine s line → p line

section LinesWithin

variable {p : Text → Prop} {s t : Text}

theorem linesWithin_line (h : '\n' ∉ s) : LinesWithin p s :=
  fun line hline => absurd hline (not_innerLine h line)

theorem LinesWithin.append (hs : '\n' ∉ s) (ht : LinesWithin p t) : LinesWithin p (s ++ t) := by
  intro line hline
  rcases innerLine_append hline with ⟨l, hl, -⟩ | hline
  · exact absurd hl (not_innerLine hs l)
  · exact ht line hline

/-- Among blanks all lines have a property if what comes after blanks has it after any blanks. -/
theorem LinesWithin.append_gap (hs : ∀ c ∈ s, isBlank c = true)
    (hgap : ∀ g : Text, (∀ c ∈ g, isBlank c = true) → p (g ++ t)) (ht : LinesWithin p t) :
    LinesWithin p (s ++ t) := by
  intro line hline
  rcases innerLine_append hline with ⟨l, ⟨before, hl⟩, rfl⟩ | hline
  · exact hgap l fun c hc => hs c (by rw [hl]; simp [hc])
  · exact ht line hline

end LinesWithin

/-! ## One pass -/

/-- A rule leaves a line as it is, whatever comes after the line: it recognises nothing, or it
recognises the whole line and puts it back. -/
def Spares (rule : Rule) (line : Text) : Prop :=
  ∀ rest, rule.match? (line ++ '\n' :: rest) = none ∨
    (rule.match? (line ++ '\n' :: rest) = some (line, '\n' :: rest) ∧ line.getLast? ≠ some '\n')

/-- A rule leaves all lines that begin inside a text as they are. -/
abbrev SparesWithin (rule : Rule) (s : Text) : Prop := LinesWithin (Spares rule) s

/-- What has been matched ends a line exactly when its last character is a line feed. -/
theorem endsLine_append (s rest : Text) :
    endsLine (s ++ rest) rest = (s.getLast? == some '\n') := by
  rw [endsLine, List.length_append, Nat.add_sub_cancel, List.take_left]

theorem replaceLines_nil (rule : Rule) (atStart : Bool) : replaceLines rule atStart [] = [] := by
  have hnone : rule.match? [] = none := by
    rcases h : rule.match? [] with _ | ⟨t, rest⟩
    · rfl
    · exact absurd (rule.shorter _ _ _ h) (Nat.not_lt_zero _)
  rw [replaceLines]
  split
  · next h =>
    rw [hnone] at h
    split at h <;> cases h
  · rfl

/-- A text stays if a rule spares it and every line that begins inside it. The first line counts
only if a line starts where the text does. -/
theorem replaceLines_spared {rule : Rule} {atStart : Bool} {s : Text}
    (hstart : atStart = true → Spares rule s) (hinner : SparesWithin rule s)
    (rest : Text) :
    replaceLines rule atStart (s ++ '\n' :: rest) = s ++ '\n' :: replaceLines rule true rest := by
  induction s generalizing atStart with
  | nil =>
    apply replaceLines_skip
    intro hat
    rcases hstart hat rest with h | ⟨h, -⟩
    · exact h
    · exact absurd (rule.shorter _ _ _ h) (Nat.lt_irrefl _)
  | cons c r ih =>
    -- a match can only be one that puts the line back; otherwise the search goes on by a character
    by_cases hmatch : atStart = true ∧ rule.match? (c :: r ++ '\n' :: rest) ≠ none
    · obtain ⟨rfl, hsome⟩ := hmatch
      rcases hstart rfl rest with h | ⟨h, hlast⟩
      · exact absurd h hsome
      · -- the line is matched as a whole, and the search goes on at its line end
        have hends : endsLine (c :: r ++ '\n' :: rest) ('\n' :: rest) = false := by
          rw [endsLine_append]
          simpa using hlast
        rw [replaceLines_match h, hends, replaceLines_skip (by simp)]
        rfl
    · have hskip : atStart = true → rule.match? (c :: (r ++ '\n' :: rest)) = none := by
        intro hat
        rcases hnone : rule.match? (c :: (r ++ '\n' :: rest)) with _ | m
        · rfl
        · exact absurd ⟨hat, fun h => by rw [List.cons_append, hnone] at h; cases h⟩ hmatch
      rw [List.cons_append, replaceLines_skip hskip]
      refine congrArg (List.cons c) (ih ?_ ?_)
      · intro hc
        have hfeed : c = '\n' := by simpa using hc
        exact hinner r ⟨[], by rw [hfeed]; rfl⟩
      · intro line hline
        exact hinner line (hline.cons c)

/-- A pass makes one block of lines into another, whatever comes after it. -/
def Passes (rule : Rule) (block out : Text) : Prop :=
  ∀ rest, replaceLines rule true (block ++ rest) = out ++ replaceLines rule true rest

theorem Passes.nil (rule : Rule) : Passes rule [] [] := fun _ => rfl

theorem Passes.append {rule : Rule} {a a' b b' : Text} (ha : Passes rule a a')
    (hb : Passes rule b b') : Passes rule (a ++ b) (a' ++ b') := by
  intro rest
  rw [List.append_assoc, ha, hb, List.append_assoc]

/-- A block stays if the rule spares all of its lines. -/
theorem passes_spared {rule : Rule} {s : Text} (hstart : Spares rule s)
    (hinner : SparesWithin rule s) :
    Passes rule (s ++ ['\n']) (s ++ ['\n']) := by
  intro rest
  rw [List.append_assoc, List.singleton_append, replaceLines_spared (fun _ => hstart) hinner,
    List.append_assoc]
  rfl

/-- A block that begins with a match is replaced as far as the match goes; the rest of it stays if
the rule spares the lines in it. -/
theorem passes_replaced {rule : Rule} {found s out : Text}
    (hmatch : ∀ rest, rule.match? (found ++ (s ++ '\n' :: rest)) = some (out, s ++ '\n' :: rest))
    (hstart : found.getLast? = some '\n' → Spares rule s)
    (hinner : SparesWithin rule s) :
    Passes rule (found ++ s ++ ['\n']) (out ++ s ++ ['\n']) := by
  intro rest
  have hends : endsLine (found ++ (s ++ '\n' :: rest)) (s ++ '\n' :: rest) = true →
      Spares rule s := by
    intro h
    rw [endsLine_append] at h
    exact hstart (by simpa using h)
  have hblock : found ++ s ++ ['\n'] ++ rest = found ++ (s ++ '\n' :: rest) := by simp
  rw [hblock, replaceLines_match (hmatch rest), replaceLines_spared hends hinner]
  simp

/-- A block that is matched up to its last line feed vanishes. -/
theorem passes_removed {rule : Rule} {s : Text}
    (hmatch : ∀ rest, rule.match? (s ++ '\n' :: rest) = some ([], rest)) :
    Passes rule (s ++ ['\n']) [] := by
  intro rest
  have hends : endsLine (s ++ ['\n'] ++ rest) rest = true := by
    rw [endsLine_append]
    simp
  have hblock : s ++ ['\n'] ++ rest = s ++ '\n' :: rest := by simp
  rw [hblock] at hends ⊢
  rw [replaceLines_match (hmatch rest), hends]

/-! ## What the rules need -/

theorem importRule_mem : importRule ∈ rules := List.mem_cons_self

theorem mem_rules_of_exports {rule : Rule}
    (h : rule ∈ [reexportRule, exportListRule, exportKeywordRule]) : rule ∈ rules :=
  List.mem_cons_of_mem importRule h

theorem reexportRule_mem : reexportRule ∈ rules := mem_rules_of_exports (by simp)

theorem exportListRule_mem : exportListRule ∈ rules := mem_rules_of_exports (by simp)

theorem exportKeywordRule_mem : exportKeywordRule ∈ rules := mem_rules_of_exports (by simp)

theorem import?_eq_none {s : Text} (h : importKeyword? (s.dropWhile isIndent) = none) :
    importRule.match? s = none := by
  simp [importRule, import?, h]

/-- What an import is replaced by, when it is found. -/
theorem importRule_match {s rest : Text} {i : ImportParts}
    (h : import? (s ++ rest) = some (i, rest)) :
    importRule.match? (s ++ rest) = some (replaceImport s i, rest) := by
  have htake : (s ++ rest).take ((s ++ rest).length - rest.length) = s := by
    rw [List.length_append, Nat.add_sub_cancel, List.take_left]
  show (import? _).map _ = _
  rw [h, Option.map_some]
  dsimp only
  rw [htake]

theorem exportType?_eq_none {s : Text} (h : spacedWord? "export" (s.dropWhile isIndent) = none) :
    exportType? s = none := by
  rw [exportType?, h]
  rfl

theorem reexport?_eq_none {s : Text} (h : (exportType? s).bind exported? = none) :
    reexportRule.match? s = none := by
  rw [reexportRule, removal]
  cases ht : exportType? s with
  | none => simp [reexport?, ht]
  | some r =>
    have hr : exported? r = none := by rwa [ht] at h
    simp [reexport?, ht, hr]

theorem exportList?_eq_none {s : Text}
    (h : ∀ r, exportType? s = some r → r.head? ≠ some '\x7b') : exportListRule.match? s = none := by
  rw [exportListRule, removal]
  cases ht : exportType? s with
  | none => simp [exportList?, ht]
  | some r =>
    cases r with
    | nil => simp [exportList?, ht]
    | cons c r =>
      have hc : c ≠ '\x7b' := fun hc => h _ ht (by rw [hc]; rfl)
      simp [exportList?, ht, hc]

theorem exportKeyword?_eq_none {s : Text} (h : spacedWord? "export" (s.dropWhile isIndent) = none) :
    exportKeywordRule.match? s = none := by
  have hnone : exportKeyword? s = none := by
    rw [exportKeyword?, h]
    rfl
  show (exportKeyword? s).map _ = none
  rw [hnone]
  rfl

/-- Without the word `export` and a blank after it, no rule on exports recognises anything. -/
theorem exportRules_eq_none {s : Text} (h : spacedWord? "export" (s.dropWhile isIndent) = none)
    {rule : Rule} (hrule : rule ∈ [reexportRule, exportListRule, exportKeywordRule]) :
    rule.match? s = none := by
  have htype := exportType?_eq_none h
  simp only [List.mem_cons, List.not_mem_nil, or_false] at hrule
  rcases hrule with rfl | rfl | rfl
  · exact reexport?_eq_none (by rw [htype]; rfl)
  · exact exportList?_eq_none (by rw [htype]; nofun)
  · exact exportKeyword?_eq_none h

/-! ## Lines that begin no statement -/

/-- A line begins like an import: with the word `import`, unless it is a call or a member access. -/
def BeginsImport (line : Text) : Prop :=
  ∃ r : Text, line.dropWhile isIndent = "import" ++ r ∧ atWordEnd r = true ∧
    (blanks r).head? ≠ some '(' ∧ (blanks r).head? ≠ some '.'

/-- A line begins like an export: with the word `export` and a blank. -/
def BeginsExport (line : Text) : Prop :=
  ∃ r : Text, line.dropWhile isIndent = "export" ++ r ∧ ∀ c, r.head? = some c → isBlank c = true

/-- A line begins like a statement that is replaced or goes. -/
def BeginsStatement (line : Text) : Prop := BeginsImport line ∨ BeginsExport line

/-- An indentation ends at the first other character. -/
theorem dropIndent_append {c : Char} (hc : isIndent c = false) (line rest : Text) :
    (line ++ c :: rest).dropWhile isIndent = line.dropWhile isIndent ++ c :: rest := by
  induction line with
  | nil => simp [hc]
  | cons d r ih =>
    by_cases hd : isIndent d = true
    · simpa [hd] using ih
    · simp [hd]

/-- A word ends before a character that is not in it. -/
theorem after?_append {word line rest r : Text} {c : Char} (hc : c ∉ word)
    (h : after? word (line ++ c :: rest) = some r) :
    ∃ r', line = word ++ r' ∧ r = r' ++ c :: rest := by
  rcases List.append_eq_append_iff.mp (Text.after?_eq_some.mp h) with ⟨t, hw, ht⟩ | ⟨t, hline, hr⟩
  · cases t with
    | nil => exact ⟨[], by simpa using hw.symm, by simpa using ht.symm⟩
    | cons d t =>
      obtain ⟨rfl, -⟩ := List.cons.inj ht
      exact absurd (by simp [hw]) hc
  · exact ⟨t, hline, hr⟩

/-- What comes first after blanks in a line comes first however the line goes on. -/
theorem head?_blanks_append {s : Text} {c : Char} (h : (blanks s).head? = some c) (t : Text) :
    (blanks (s ++ t)).head? = some c := by
  rw [blanks] at h ⊢
  rw [List.dropWhile_append]
  cases hs : s.dropWhile isBlank with
  | nil => rw [hs] at h; cases h
  | cons d r => rw [hs] at h; exact h

theorem atWordEnd_of_append {s t : Text} (h : atWordEnd (s ++ t) = true) : atWordEnd s = true := by
  cases s with
  | nil => rfl
  | cons c r => exact h

/-- A line that begins like an import does so before any character that is not in the word. -/
theorem BeginsImport.of_append {s rest : Text} {c : Char}
    (hdrop : (s ++ c :: rest).dropWhile isIndent = s.dropWhile isIndent ++ c :: rest)
    (hc : c ∉ "import".toList) (h : BeginsImport (s ++ c :: rest)) : BeginsImport s := by
  obtain ⟨r, hword, hend, hcall, hmember⟩ := h
  rw [hdrop] at hword
  obtain ⟨r', hline, rfl⟩ := after?_append hc (Text.after?_eq_some.mpr hword)
  refine ⟨r', hline, atWordEnd_of_append hend, ?_, ?_⟩
  · exact fun hhead => hcall (head?_blanks_append hhead _)
  · exact fun hhead => hmember (head?_blanks_append hhead _)

theorem spares_import {line : Text} (h : ¬ BeginsImport line) : Spares importRule line := by
  intro rest
  left
  apply import?_eq_none
  rcases hword : importKeyword? ((line ++ '\n' :: rest).dropWhile isIndent) with _ | s
  · rfl
  · obtain ⟨r, hafter, hcond⟩ := Option.bind_eq_some_iff.mp hword
    split at hcond
    · next hends =>
      simp only [Bool.and_eq_true, Bool.not_eq_true', Option.any_eq_false] at hends
      refine absurd (BeginsImport.of_append (dropIndent_append (by decide) line rest) (by decide)
        ⟨r, Text.after?_eq_some.mp hafter, hends.1, ?_, ?_⟩) h
      · intro hhead
        simpa using hends.2 _ hhead
      · intro hhead
        simpa using hends.2 _ hhead
    · cases hcond

/-- A line that begins like an export does so before any character that is not in the word. -/
theorem BeginsExport.of_append {s rest : Text} {c : Char}
    (hdrop : (s ++ c :: rest).dropWhile isIndent = s.dropWhile isIndent ++ c :: rest)
    (hc : c ∉ "export".toList) (h : BeginsExport (s ++ c :: rest)) : BeginsExport s := by
  obtain ⟨r, hword, hblank⟩ := h
  rw [hdrop] at hword
  obtain ⟨r', hline, rfl⟩ := after?_append hc (Text.after?_eq_some.mpr hword)
  refine ⟨r', hline, fun d hd => hblank d ?_⟩
  rw [List.head?_append, hd]
  rfl

theorem spares_exports {line : Text} (h : ¬ BeginsExport line) {rule : Rule}
    (hrule : rule ∈ [reexportRule, exportListRule, exportKeywordRule]) : Spares rule line := by
  intro rest
  left
  refine exportRules_eq_none ?_ hrule
  rcases hword : spacedWord? "export" ((line ++ '\n' :: rest).dropWhile isIndent) with _ | s
  · rfl
  · obtain ⟨r, hafter, hblanks⟩ := Option.bind_eq_some_iff.mp hword
    refine absurd (BeginsExport.of_append (dropIndent_append (by decide) line rest) (by decide)
      ⟨r, Text.after?_eq_some.mp hafter, fun c hc => ?_⟩) h
    cases r with
    | nil => cases hc
    | cons d r =>
      cases hc
      rw [blanks?] at hblanks
      split at hblanks
      · next hblank => exact hblank
      · cases hblanks

/-- No rule recognises anything in a line that does not begin like a statement. -/
theorem spares_of_plain {line : Text} (h : ¬ BeginsStatement line) {rule : Rule}
    (hrule : rule ∈ rules) : Spares rule line := by
  rcases List.mem_cons.mp hrule with rfl | hrule
  · exact spares_import fun himport => h (.inl himport)
  · exact spares_exports (fun hexport => h (.inr hexport)) hrule

/-! ## Blanks before a line -/

theorem dropIndent_gap {g s r : Text} {c : Char} (hg : ∀ d ∈ g, isBlank d = true)
    (hc : isBlank c = false) (h : (g ++ s).dropWhile isIndent = c :: r) :
    s.dropWhile isIndent = c :: r := by
  induction g with
  | nil => exact h
  | cons d g ih =>
    by_cases hd : isIndent d = true
    · rw [List.cons_append, List.dropWhile_cons_of_pos hd] at h
      exact ih (fun e he => hg e (List.mem_cons_of_mem d he)) h
    · rw [List.cons_append, List.dropWhile_cons_of_neg hd] at h
      obtain ⟨rfl, -⟩ := List.cons.inj h
      rw [hg d List.mem_cons_self] at hc
      cases hc

theorem BeginsImport.of_gap {g s : Text} (hg : ∀ c ∈ g, isBlank c = true)
    (h : BeginsImport (g ++ s)) : BeginsImport s := by
  obtain ⟨r, hword, hrest⟩ := h
  exact ⟨r, dropIndent_gap hg (show isBlank 'i' = false by decide) hword, hrest⟩

theorem BeginsExport.of_gap {g s : Text} (hg : ∀ c ∈ g, isBlank c = true)
    (h : BeginsExport (g ++ s)) : BeginsExport s := by
  obtain ⟨r, hword, hrest⟩ := h
  exact ⟨r, dropIndent_gap hg (show isBlank 'e' = false by decide) hword, hrest⟩

theorem BeginsStatement.of_gap {g s : Text} (hg : ∀ c ∈ g, isBlank c = true)
    (h : BeginsStatement (g ++ s)) : BeginsStatement s := by
  rcases h with himport | hexport
  · exact .inl (himport.of_gap hg)
  · exact .inr (hexport.of_gap hg)

/-- A text that begins with another letter begins no statement. -/
theorem not_beginsStatement {c : Char} (hindent : isIndent c = false) (himport : c ≠ 'i')
    (hexport : c ≠ 'e') (s : Text) : ¬ BeginsStatement (c :: s) := by
  have hdrop : (c :: s).dropWhile isIndent = c :: s :=
    List.dropWhile_cons_of_neg (by simp [hindent])
  rintro (⟨r, hword, -⟩ | ⟨r, hword, -⟩)
  · rw [hdrop] at hword
    exact himport (List.cons.inj hword).1
  · rw [hdrop] at hword
    exact hexport (List.cons.inj hword).1

/-- Blanks alone begin no statement. -/
theorem not_beginsStatement_blanks {g : Text} (hg : ∀ c ∈ g, isBlank c = true) :
    ¬ BeginsStatement g := by
  intro h
  have hnil : BeginsStatement [] := BeginsStatement.of_gap hg (by rwa [List.append_nil])
  rcases hnil with ⟨r, hword, -⟩ | ⟨r, hword, -⟩ <;> cases hword

/-- No line that begins inside a text begins a statement. -/
abbrev PlainWithin (s : Text) : Prop := LinesWithin (fun line => ¬ BeginsStatement line) s

theorem plain_gap {s : Text} (h : ¬ BeginsStatement s) (g : Text)
    (hg : ∀ c ∈ g, isBlank c = true) : ¬ BeginsStatement (g ++ s) :=
  fun hbegins => h (hbegins.of_gap hg)

theorem PlainWithin.spares {s : Text} (h : PlainWithin s) {rule : Rule} (hrule : rule ∈ rules) :
    SparesWithin rule s := fun line hline => spares_of_plain (h line hline) hrule

/-- Lines that begin with blanks are spared if what comes after the blanks begins no statement. -/
theorem spares_gap {s : Text} (h : ¬ BeginsStatement s) {rule : Rule} (hrule : rule ∈ rules)
    (g : Text) (hg : ∀ c ∈ g, isBlank c = true) : Spares rule (g ++ s) :=
  spares_of_plain (plain_gap h g hg) hrule

/-! ## All passes -/

/-- All passes together make one block of lines into another, whatever stands around it. -/
def Handled (block out : Text) : Prop :=
  ∃ a b c, Passes importRule block a ∧ Passes reexportRule a b ∧ Passes exportListRule b c ∧
    Passes exportKeywordRule c out

/-- What the first pass makes of a block stays if the other passes leave it. -/
theorem Handled.of_import {block out : Text} (hfirst : Passes importRule block out)
    (hothers : ∀ rule ∈ [reexportRule, exportListRule, exportKeywordRule], Passes rule out out) :
    Handled block out :=
  ⟨out, out, out, hfirst, hothers _ (by simp), hothers _ (by simp), hothers _ (by simp)⟩

theorem Handled.nil : Handled [] [] := ⟨[], [], [], .nil _, .nil _, .nil _, .nil _⟩

theorem Handled.append {s s' out out' : Text} (h : Handled s out) (h' : Handled s' out') :
    Handled (s ++ s') (out ++ out') := by
  obtain ⟨a, b, c, h₁, h₂, h₃, h₄⟩ := h
  obtain ⟨a', b', c', h₁', h₂', h₃', h₄'⟩ := h'
  exact ⟨a ++ a', b ++ b', c ++ c', h₁.append h₁', h₂.append h₂', h₃.append h₃', h₄.append h₄'⟩

/-- The transformation makes a handled text into what becomes of it. -/
theorem Handled.transform_eq {s out : Text} (h : Handled s out) : transform s = out := by
  obtain ⟨a, b, c, h₁, h₂, h₃, h₄⟩ := h
  have hpass : ∀ {rule : Rule} {t t' : Text}, Passes rule t t' → replaceLines rule true t = t' := by
    intro rule t t' hpasses
    have := hpasses []
    rwa [List.append_nil, replaceLines_nil, List.append_nil] at this
  rw [transform, rules, List.foldl, List.foldl, List.foldl, List.foldl, hpass h₁, hpass h₂,
    hpass h₃, hpass h₄]
  rfl

end ReplDriver.Module
