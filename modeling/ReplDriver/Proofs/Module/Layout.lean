import ReplDriver.Module.Statement
import ReplDriver.Proofs.Text.Characters

/-!
# Recognising the source of a module

Where a statement is written with blanks between its words, the recognisers skip them, and what
comes after the statement plays no part. The path of a module stands between quotes, with
attributes after it where there are any, up to the semicolon.

* `WritesSource.found`: a path, perhaps attributes, and the semicolon are found.
-/

namespace ReplDriver.Module

open Statement
open Text (isBlank isIndent after? StopsAt)

/-! ## Blanks and words -/

theorem blanks_append {b s : Text} (hb : ∀ c ∈ b, isBlank c = true) (hs : StopsAt isBlank s) :
    blanks (b ++ s) = s := Text.dropWhile_run hb hs

/-- Blanks before a character that is not blank. -/
theorem blanks_append_cons {c : Char} (hc : isBlank c = false) (v s : Text) :
    blanks (v ++ c :: s) = blanks v ++ c :: s := by
  rw [blanks, blanks, List.dropWhile_append]
  cases v.dropWhile isBlank <;> simp [hc]

theorem spacedWord?_eq (word : Text) {g s : Text} (hgap : g ≠ []) (hg : ∀ c ∈ g, isBlank c = true)
    (hs : StopsAt isBlank s) : spacedWord? word (word ++ (g ++ s)) = some s := by
  obtain ⟨c, r, rfl⟩ := List.exists_cons_of_ne_nil hgap
  have hafter : after? word (word ++ (c :: r ++ s)) = some (c :: r ++ s) :=
    Text.after?_eq_some.mpr rfl
  rw [spacedWord?, hafter, Option.bind_some, List.cons_append, blanks?,
    if_pos (hg c List.mem_cons_self),
    blanks_append (fun d hd => hg d (List.mem_cons_of_mem c hd)) hs]

/-! ## The source of a module -/

theorem isBlank_of_isIndent {c : Char} (h : isIndent c = true) : isBlank c = true := by
  rw [isIndent, Bool.or_eq_true, beq_iff_eq, beq_iff_eq] at h
  rcases h with rfl | rfl <;> decide

theorem isIndent_eq_false {c : Char} (h : isBlank c = false) : isIndent c = false := by
  rcases hindent : isIndent c with _ | _
  · rfl
  · rw [isBlank_of_isIndent hindent] at h
    cases h

/-- An indentation is made of blanks. -/
theorem blank_of_indent {s : Text} (h : ∀ c ∈ s, isIndent c = true) : ∀ c ∈ s, isBlank c = true :=
  fun c hc => isBlank_of_isIndent (h c hc)

/-- The path of a module holds neither quotes nor line feeds. -/
def IsPath (path : Text) : Prop := path ≠ [] ∧ ∀ c ∈ path, isPathChar c = true

/-- How the source of a module is written, up to the semicolon: its path between quotes, and
perhaps attributes on one line, whose braces hold no closing brace. -/
inductive WritesSource : Text → (path : Text) → (attributes : Option Text) → Prop
  | path {q : Char} {path ind : Text} (hq : q = '\x27' ∨ q = '\x22') (hpath : IsPath path)
      (hind : ∀ c ∈ ind, isIndent c = true) :
      WritesSource (q :: (path ++ q :: (ind ++ [';']))) path none
  | attributes {q : Char} {path g word g' content ind : Text} (hq : q = '\x27' ∨ q = '\x22')
      (hpath : IsPath path) (hg : ∀ c ∈ g, isBlank c = true)
      (hword : word = "with".toList ∨ word = "assert".toList) (hg' : ∀ c ∈ g', isBlank c = true)
      (hline : '\n' ∉ content) (hclose : '\x7d' ∉ content) (hind : ∀ c ∈ ind, isIndent c = true) :
      WritesSource
        (q :: (path ++ q :: (g ++ (word ++
          (g' ++ '\x7b' :: (content ++ '\x7d' :: (ind ++ [';'])))))))
        path (some ('\x7b' :: (content ++ ['\x7d'])))

theorem quotedPath?_eq {q : Char} {path : Text} (hq : q = '\x27' ∨ q = '\x22')
    (hpath : IsPath path) (s : Text) : quotedPath? (q :: (path ++ q :: s)) = some (path, s) := by
  have hstop : isPathChar q = false := by rcases hq with rfl | rfl <;> decide
  have htake : (path ++ q :: s).takeWhile isPathChar = path :=
    Text.takeWhile_run hpath.2 (.cons hstop s)
  have hdrop : (path ++ q :: s).dropWhile isPathChar = q :: s :=
    Text.dropWhile_run hpath.2 (.cons hstop s)
  have hne : path.isEmpty = false := List.isEmpty_eq_false_iff.mpr hpath.1
  have hquote : (q == '\x27' || q == '\x22') = true := by rcases hq with rfl | rfl <;> rfl
  rw [quotedPath?]
  simp [htake, hdrop, hne, hquote]

theorem braced?_eq {content : Text} (h : '\x7d' ∉ content) (s : Text) :
    braced? (content ++ '\x7d' :: s) = some (content, s) := by
  have hrun : ∀ c ∈ content, (c != '\x7d') = true :=
    fun c hc => bne_iff_ne.mpr fun hbrace => h (hbrace ▸ hc)
  have hstop : StopsAt (fun c => c != '\x7d') ('\x7d' :: s) := .cons (by decide) s
  rw [braced?, Text.dropWhile_run hrun hstop, Text.takeWhile_run hrun hstop]

theorem semicolon_eq {ind : Text} (h : ∀ c ∈ ind, isIndent c = true) (s : Text) :
    semicolon (ind ++ ';' :: s) = s := by
  rw [semicolon, Text.dropWhile_run h (.cons (by decide) _)]
  rfl

theorem attributes?_eq {g word g' content : Text} (hg : ∀ c ∈ g, isBlank c = true)
    (hword : word = "with".toList ∨ word = "assert".toList) (hg' : ∀ c ∈ g', isBlank c = true)
    (hclose : '\x7d' ∉ content) (s : Text) :
    attributes? (g ++ (word ++ (g' ++ '\x7b' :: (content ++ '\x7d' :: s)))) =
      some ('\x7b' :: (content ++ ['\x7d']), s) := by
  have hblanks' : blanks (g' ++ '\x7b' :: (content ++ '\x7d' :: s)) =
      '\x7b' :: (content ++ '\x7d' :: s) := blanks_append hg' (.cons (by decide) _)
  generalize hrest : g' ++ '\x7b' :: (content ++ '\x7d' :: s) = r at hblanks'
  have hafter : ((after? "with" (word ++ r)).or (after? "assert" (word ++ r))) =
      some r := by
    rcases hword with rfl | rfl <;> rfl
  have hblanks : blanks (g ++ (word ++ r)) = word ++ r := by
    refine blanks_append hg ?_
    rcases hword with rfl | rfl
    · exact .cons (show isBlank 'w' = false by decide) _
    · exact .cons (show isBlank 'a' = false by decide) _
  rw [attributes?, hblanks, hafter, Option.bind_eq_bind, Option.bind_some, hblanks']
  simp only [braced?_eq hclose]
  rfl

theorem attributes?_eq_none {ind : Text} (h : ∀ c ∈ ind, isIndent c = true) (s : Text) :
    attributes? (ind ++ ';' :: s) = none := by
  have hblanks : blanks (ind ++ ';' :: s) = ';' :: s :=
    blanks_append (blank_of_indent h) (.cons (by decide) s)
  rw [attributes?, hblanks]
  rfl

/-- The path and the attributes are found, and the semicolon. -/
theorem WritesSource.found {t path : Text} {attributes : Option Text}
    (h : WritesSource t path attributes) (rest : Text) :
    ∃ r, quotedPath? (t ++ rest) = some (path, r) ∧ (attributes? r).map (·.1) = attributes ∧
      semicolon (((attributes? r).map (·.2)).getD r) = rest := by
  cases h with
  | @path q _ ind hq hpath hind =>
    refine ⟨ind ++ ';' :: rest, ?_, ?_, ?_⟩
    · simpa using quotedPath?_eq hq hpath (ind ++ ';' :: rest)
    · rw [attributes?_eq_none hind]
      rfl
    · rw [attributes?_eq_none hind]
      exact semicolon_eq hind rest
  | @attributes q _ g word g' content ind hq hpath hg hword hg' hline hclose hind =>
    have hattributes := attributes?_eq hg hword hg' hclose (ind ++ ';' :: rest)
    refine ⟨g ++ (word ++ (g' ++ '\x7b' :: (content ++ '\x7d' :: (ind ++ ';' :: rest)))),
      ?_, ?_, ?_⟩
    · simpa using quotedPath?_eq hq hpath
        (g ++ (word ++ (g' ++ '\x7b' :: (content ++ '\x7d' :: (ind ++ ';' :: rest)))))
    · rw [hattributes]
      rfl
    · rw [hattributes]
      exact semicolon_eq hind rest

/-- A source begins with a quote. -/
theorem WritesSource.head {t path : Text} {attributes : Option Text}
    (h : WritesSource t path attributes) : ∃ q s, t = q :: s ∧ (q = '\x27' ∨ q = '\x22') := by
  cases h with
  | path hq => exact ⟨_, _, rfl, hq⟩
  | attributes hq => exact ⟨_, _, rfl, hq⟩

/-- A source ends with a semicolon. -/
theorem WritesSource.last {t path : Text} {attributes : Option Text}
    (h : WritesSource t path attributes) : ∃ s, t = s ++ [';'] := by
  cases h with
  | @path q _ ind =>
    exact ⟨q :: (path ++ q :: ind), by simp⟩
  | @attributes q _ g word g' content ind =>
    exact ⟨q :: (path ++ q :: (g ++ (word ++ (g' ++ '\x7b' :: (content ++ '\x7d' :: ind))))),
      by simp⟩

end ReplDriver.Module
