import ReplDriver.Proofs.Module.Named

/-!
# The clauses of import statements

How the bindings of an import statement are written: a default export by its name, a whole module
as `* as` a name, named exports between braces, with commas between these parts and blanks anywhere
between words. A clause that is written so is read back as exactly the bindings that it writes.

* `WritesClause.ofClause?_eq`: a clause is read back.
* `ofClause?_eq_none`: a clause that closes braces without having opened any is not read.
-/

namespace ReplDriver.Module

open Text (isBlank isIdent isIdentChar isIdentStart words splitOn)

/-! ## Clauses -/

/-- The words that name a whole module: a star, which may stand right before the next word, `as`
and the name. -/
def WholeWords (ws : List Text) (name : Text) : Prop :=
  ws = ["*".toList, "as".toList, name] ∨ ws = ["*as".toList, name]

/-- The parts of a clause beside its braces: a name for the default export and one for the whole
module, in any order; either may be missing, and any part may be blank. -/
inductive WritesParts : List Text → (default whole : Option Text) → Prop
  | nil : WritesParts [] none none
  | blank {part : Text} {parts : List Text} {default whole : Option Text}
      (hblank : ∀ c ∈ part, isBlank c = true) (h : WritesParts parts default whole) :
      WritesParts (part :: parts) default whole
  | default {part name : Text} {parts : List Text} {whole : Option Text}
      (hwords : words part = [name]) (hname : isIdent name = true)
      (h : WritesParts parts none whole) : WritesParts (part :: parts) (some name) whole
  | whole {part name : Text} {parts : List Text} {default : Option Text}
      (hwords : WholeWords (words part) name) (hname : isIdent name = true)
      (h : WritesParts parts default none) : WritesParts (part :: parts) default (some name)

/-- How a clause is written: its parts stand between commas, and named exports, if there are any,
between braces, which are a part of their own. -/
inductive WritesClause : Text → (default whole : Option Text) → List Named → Prop
  | parts {k : Text} {default whole : Option Text}
      (hparts : WritesParts (splitOn ',' k) default whole) : WritesClause k default whole []
  | braces {before content after b a : Text} {parts parts' : List Text}
      {default whole : Option Text} {named : List Named}
      (hbefore : splitOn ',' before = parts ++ [b]) (hb : ∀ c ∈ b, isBlank c = true)
      (hafter : splitOn ',' after = a :: parts') (ha : ∀ c ∈ a, isBlank c = true)
      (hparts : WritesParts (parts ++ parts') default whole)
      (hcontent : WritesNamed content named) :
      WritesClause (before ++ '\x7b' :: (content ++ '\x7d' :: after)) default whole named

/-! ## Reading a clause back -/

/-- The parts beside the braces are read back. -/
theorem WritesParts.foldlM_eq {parts : List Text} {default whole : Option Text}
    (h : WritesParts parts default whole) (path : Text) (named : List Named)
    (default' whole' : Option Text) :
    (parts.map words).foldlM Import.addPart? ⟨path, whole', default', named, false⟩ =
      some ⟨path, whole.or whole', default.or default', named, false⟩ := by
  induction h generalizing default' whole' with
  | nil => rfl
  | blank hblank h ih =>
    rw [List.map_cons, Text.words_blanks hblank, List.foldlM_cons]
    exact ih default' whole'
  | @default part name parts whole hwords hname h ih =>
    have hpart : Import.addPart? ⟨path, whole', default', named, false⟩ (words part) =
        some ⟨path, whole', some name, named, false⟩ := by simp [hwords, Import.addPart?, hname]
    rw [List.map_cons, List.foldlM_cons, hpart]
    exact ih (some name) whole'
  | @whole part name parts default hwords hname h ih =>
    have hpart : Import.addPart? ⟨path, whole', default', named, false⟩ (words part) =
        some ⟨path, some name, default', named, false⟩ := by
      rcases hwords with hwords | hwords <;> simp [hwords, Import.addPart?, hname]
    rw [List.map_cons, List.foldlM_cons, hpart]
    exact ih default' (some name)

/-- A blank part may be added anywhere. -/
theorem WritesParts.insert {parts parts' : List Text} {default whole : Option Text} {b : Text}
    (h : WritesParts (parts ++ parts') default whole) (hb : ∀ c ∈ b, isBlank c = true) :
    WritesParts (parts ++ b :: parts') default whole := by
  induction parts generalizing default whole with
  | nil => exact .blank hb h
  | cons part parts ih =>
    cases h with
    | blank hblank h => exact .blank hblank (ih h)
    | default hwords hname h => exact .default hwords hname (ih h)
    | whole hwords hname h => exact .whole hwords hname (ih h)

/-- The parts before and after the braces are read together. -/
theorem WritesParts.of_braces {before after b a : Text} {parts parts' : List Text}
    {default whole : Option Text} (h : WritesParts (parts ++ parts') default whole)
    (hbefore : splitOn ',' before = parts ++ [b]) (hb : ∀ c ∈ b, isBlank c = true)
    (hafter : splitOn ',' after = a :: parts') (ha : ∀ c ∈ a, isBlank c = true) :
    WritesParts (splitOn ',' (before ++ after)) default whole := by
  have hcomma : ',' ∉ b := fun hmem => absurd (hb _ hmem) (by decide)
  obtain ⟨piece, rest, hpiece, hsplit⟩ := Text.splitOn_append_of_not_mem hcomma after
  obtain ⟨rfl, rfl⟩ := List.cons.inj (hpiece.symm.trans hafter)
  rw [Text.splitOn_append, hbefore, List.dropLast_concat, List.getLastD_concat, hsplit]
  refine h.insert fun c hc => ?_
  rcases List.mem_append.mp hc with hc | hc
  · exact hb c hc
  · exact ha c hc

theorem WholeWords.isPartChar {ws : List Text} {name : Text} (h : WholeWords ws name)
    (hname : isIdent name = true) : ∀ w ∈ ws, ∀ c ∈ w, isPartChar c = true := by
  have hstar : ∀ c ∈ "*".toList, Module.isPartChar c = true := Text.forall_mem_eq (by decide)
  have has : ∀ c ∈ "as".toList, Module.isPartChar c = true := Text.forall_mem_eq (by decide)
  have hboth : ∀ c ∈ "*as".toList, Module.isPartChar c = true := Text.forall_mem_eq (by decide)
  intro w hw
  rcases h with rfl | rfl
  · simp only [List.mem_cons, List.not_mem_nil, or_false] at hw
    rcases hw with rfl | rfl | rfl
    · exact hstar
    · exact has
    · exact isPartChar_of_isIdent hname
  · simp only [List.mem_cons, List.not_mem_nil, or_false] at hw
    rcases hw with rfl | rfl
    · exact hboth
    · exact isPartChar_of_isIdent hname

/-- A part beside the braces is written with names, blanks and perhaps a star. -/
theorem WritesParts.isPartChar {parts : List Text} {default whole : Option Text}
    (h : WritesParts parts default whole) :
    ∀ part ∈ parts, ∀ c ∈ part, isPartChar c = true := by
  induction h with
  | nil => nofun
  | blank hblank h ih =>
    intro part hpart
    rcases List.mem_cons.mp hpart with rfl | hpart
    · exact fun c hc => isPartChar_of_isBlank (hblank c hc)
    · exact ih part hpart
  | default hwords hname h ih =>
    intro part hpart
    rcases List.mem_cons.mp hpart with rfl | hpart
    · apply isPartChar_of_words
      intro w hw
      rw [hwords] at hw
      obtain rfl := List.mem_singleton.mp hw
      exact isPartChar_of_isIdent hname
    · exact ih part hpart
  | whole hwords hname h ih =>
    intro part hpart
    rcases List.mem_cons.mp hpart with rfl | hpart
    · exact isPartChar_of_words (hwords.isPartChar hname)
    · exact ih part hpart

/-- An import of types alone begins with the word `type` and another word. -/
theorem words_of_importsTypes {k : Text} (h : importsTypes k = true) :
    ∃ part rest w ws, splitOn ',' k = part :: rest ∧ words part = "type".toList :: w :: ws := by
  unfold importsTypes at h
  split at h
  · cases h
  · next r hr =>
    rw [Text.after?_eq_some.mp hr]
    have hr := List.takeWhile_append_dropWhile (p := isBlank) (l := r)
    have hg : ∀ c ∈ r.takeWhile isBlank, isBlank c = true :=
      List.all_eq_true.mp List.all_takeWhile
    generalize r.takeWhile isBlank = g at hr hg
    generalize r.dropWhile isBlank = s at h hr
    subst hr
    simp only [Bool.and_eq_true, decide_eq_true_eq, List.length_append] at h
    obtain ⟨⟨hgap, -⟩, hhead⟩ := h
    cases s with
    | nil => simp at hhead
    | cons c t =>
      have hc : isBlank c = false ∧ c ≠ ',' := by
        have hcases : c = '\x7b' ∨ c = '*' ∨ isIdentStart c = true := by
          simpa [or_assoc] using hhead
        rcases hcases with rfl | rfl | hident
        · decide
        · decide
        · have hchar := Text.isIdentChar_of_isIdentStart hident
          exact ⟨Text.isBlank_of_isIdentChar hchar, Text.ne_of_class hchar (by decide)⟩
      -- the word, the blanks and what follows are all in the first part of the clause
      have hcomma : ',' ∉ "type".toList ++ g := by
        intro hmem
        rcases List.mem_append.mp hmem with hmem | hmem
        · exact absurd hmem (by decide)
        · exact absurd (hg _ hmem) (by decide)
      obtain ⟨part, rest, hsplit, hpart⟩ := Text.splitOn_append_of_not_mem hcomma (c :: t)
      obtain ⟨part', rest', -, hpart'⟩ := Text.splitOn_cons_ne hc.2 t
      obtain ⟨rfl, rfl⟩ := List.cons.inj (hsplit.symm.trans hpart')
      obtain ⟨w, ws, hws⟩ := List.exists_cons_of_ne_nil (Text.words_cons_ne_nil hc.1 part')
      have hgap' : g ≠ [] := by
        rintro rfl
        simp at hgap
      refine ⟨_, _, w, ws, by rw [← List.append_assoc]; exact hpart, ?_⟩
      rw [List.append_assoc,
        Text.words_word_append (by decide) (Text.forall_mem_eq (by decide)) hgap' hg, hws]

/-- The first pair of braces is found behind a text that opens none. -/
theorem braces?_append {before content : Text} (hbefore : '\x7b' ∉ before)
    (hopen : '\x7b' ∉ content) (hclose : '\x7d' ∉ content) (after : Text) :
    braces? (before ++ '\x7b' :: (content ++ '\x7d' :: after)) = some (before, content, after) := by
  induction before with
  | nil =>
    have hcontent : (content ++ '\x7d' :: after).takeWhile (fun d => d != '\x7b' && d != '\x7d') =
        content := by
      apply Text.takeWhile_run
      · intro c hc
        have h₁ : c ≠ '\x7b' := fun h => hopen (h ▸ hc)
        have h₂ : c ≠ '\x7d' := fun h => hclose (h ▸ hc)
        simp [h₁, h₂]
      · exact .cons (by decide) _
    rw [List.nil_append, braces?, hcontent]
    simp
  | cons c r ih =>
    have hc : c ≠ '\x7b' := fun hc => hbefore (hc ▸ List.mem_cons_self)
    rw [List.cons_append, braces?, ih fun hr => hbefore (List.mem_cons_of_mem c hr)]
    simp [hc]

theorem braces?_eq_none {s : Text} (h : '\x7b' ∉ s) : braces? s = none := by
  induction s with
  | nil => rfl
  | cons c r ih =>
    have hc : c ≠ '\x7b' := fun hc => h (hc ▸ List.mem_cons_self)
    rw [braces?, ih fun hr => h (List.mem_cons_of_mem c hr)]
    simp [hc]

/-- The first part of a clause is not the word `type` with another word after it. -/
theorem WritesParts.not_types {part w : Text} {parts ws : List Text} {default whole : Option Text}
    (h : WritesParts (part :: parts) default whole) : words part ≠ "type".toList :: w :: ws := by
  intro hwords
  cases h with
  | blank hblank =>
    rw [Text.words_blanks hblank] at hwords
    cases hwords
  | default hwords' =>
    rw [hwords] at hwords'
    cases hwords'
  | whole hwords' =>
    rw [hwords] at hwords'
    rcases hwords' with h | h <;> exact absurd (List.cons.inj h).1 (by decide)

/-- The characters of the parts beside the braces. -/
theorem WritesParts.isPartChar_of_splitOn {s : Text} {default whole : Option Text}
    (h : WritesParts (splitOn ',' s) default whole) : ∀ c ∈ s, Module.isPartChar c = true := by
  intro c hc
  rcases Text.mem_splitOn ',' hc with rfl | ⟨part, hpart, hc⟩
  · decide
  · exact h.isPartChar part hpart c hc

/-- The characters of a clause. -/
theorem WritesClause.isClauseChar {k : Text} {default whole : Option Text} {named : List Named}
    (h : WritesClause k default whole named) : ∀ c ∈ k, Module.isClauseChar c = true := by
  intro c hc
  cases h with
  | parts hparts => exact isClauseChar_of_isPartChar (hparts.isPartChar_of_splitOn c hc)
  | braces hbefore hb hafter ha hparts hcontent =>
    have hbeside := (hparts.of_braces hbefore hb hafter ha).isPartChar_of_splitOn
    simp only [List.mem_append, List.mem_cons] at hc
    rcases hc with hc | rfl | hc | rfl | hc
    · exact isClauseChar_of_isPartChar (hbeside c (List.mem_append_left _ hc))
    · decide
    · exact isClauseChar_of_isPartChar (isPartChar_of_isBindingChar (hcontent.isBindingChar c hc))
    · decide
    · exact isClauseChar_of_isPartChar (hbeside c (List.mem_append_right _ hc))

/-- A clause of names does not count as an import of types. -/
theorem WritesClause.importsTypes_eq {k : Text} {default whole : Option Text} {named : List Named}
    (h : WritesClause k default whole named) (htrim : Text.Trimmed k) : importsTypes k = false := by
  rcases himports : importsTypes k with _ | _
  · rfl
  · exfalso
    obtain ⟨part, rest, w, ws, hsplit, hwords⟩ := words_of_importsTypes himports
    cases h with
    | parts hparts =>
      rw [hsplit] at hparts
      exact hparts.not_types hwords
    | @braces before content after b a parts parts' _ _ _ hbefore hb hafter ha hparts hcontent =>
      -- the first part ends at a comma, or at the braces when no comma stands before them
      cases parts with
      | nil =>
        -- nothing but blanks could stand before the braces, and the clause begins with none
        have hblank : before = b := by
          rw [← Text.join_splitOn ',' before, hbefore]
          simp [Text.join]
        subst hblank
        cases before with
        | nil => exact absurd himports (by simp [importsTypes, Text.after?])
        | cons c r =>
          have hc := htrim.1 c rfl
          rw [hb c List.mem_cons_self] at hc
          cases hc
      | cons part' parts =>
        rw [Text.splitOn_append, hbefore, List.dropLast_concat, List.cons_append] at hsplit
        obtain ⟨rfl, -⟩ := List.cons.inj hsplit
        exact hparts.not_types hwords

/-- A clause is read back as the bindings that it writes. -/
theorem WritesClause.ofClause?_eq {k : Text} {default whole : Option Text} {named : List Named}
    (h : WritesClause k default whole named) (htrim : Text.Trimmed k) (hne : k ≠ []) (path : Text) :
    Import.ofClause? k path = some ⟨path, whole, default, named, false⟩ := by
  have hempty : k.isEmpty = false := List.isEmpty_eq_false_iff.mpr hne
  rw [Import.ofClause?, htrim.trim_eq, hempty, h.importsTypes_eq htrim]
  cases h with
  | parts hparts =>
    have hopen : '\x7b' ∉ k := not_mem_of_chars hparts.isPartChar_of_splitOn (by decide)
    have hfold := hparts.foldlM_eq path [] none none
    rw [Option.or_none, Option.or_none] at hfold
    rw [braces?_eq_none hopen]
    exact hfold
  | @braces before content after b a parts parts' _ _ _ hbefore hb hafter ha hparts hcontent =>
    have hbeside := hparts.of_braces hbefore hb hafter ha
    have hopen : '\x7b' ∉ before := fun hmem =>
      not_mem_of_chars hbeside.isPartChar_of_splitOn (by decide) (List.mem_append_left after hmem)
    have hbraces := braces?_append hopen (not_mem_of_chars hcontent.isBindingChar (by decide))
      (not_mem_of_chars hcontent.isBindingChar (by decide)) after
    have hfold := hbeside.foldlM_eq path named none none
    rw [Option.or_none, Option.or_none] at hfold
    simp only [hbraces, hcontent.namedEntries?_eq, Bool.false_eq_true, if_false]
    exact hfold

/-! ## What is not read -/

/-- Every word of a part that is read is written with the characters of such parts. -/
theorem isPartChar_of_addPart? {i j : Import} {ws : List Text} (h : Import.addPart? i ws = some j) :
    ∀ w ∈ ws, ∀ c ∈ w, isPartChar c = true := by
  unfold Import.addPart? at h
  split at h
  · nofun
  · next a =>
    split at h
    · next ha =>
      intro w hw
      obtain rfl := List.mem_singleton.mp hw
      exact isPartChar_of_isIdent ha
    · cases h
  · next a b =>
    split at h
    · next hab =>
      rw [Bool.and_eq_true, beq_iff_eq] at hab
      exact WholeWords.isPartChar (.inr (by rw [hab.1])) hab.2
    · cases h
  · next a b c =>
    split at h
    · next habc =>
      rw [Bool.and_eq_true, Bool.and_eq_true, beq_iff_eq, beq_iff_eq] at habc
      exact WholeWords.isPartChar (.inl (by rw [habc.1.1, habc.1.2])) habc.2
    · cases h
  · cases h

/-- Parts are read only if each of them is. -/
theorem addPart?_of_foldlM {parts : List (List Text)} {i j : Import}
    (h : parts.foldlM Import.addPart? i = some j) :
    ∀ ws ∈ parts, ∃ i' j', Import.addPart? i' ws = some j' := by
  induction parts generalizing i with
  | nil => nofun
  | cons ws rest ih =>
    rw [List.foldlM_cons] at h
    obtain ⟨i', hfirst, hrest⟩ := Option.bind_eq_some_iff.mp h
    intro ws' hws'
    rcases List.mem_cons.mp hws' with rfl | hws'
    · exact ⟨i, i', hfirst⟩
    · exact ih hrest ws' hws'

/-- A clause that closes braces without having opened any is not read. -/
theorem ofClause?_eq_none {k : Text} (htrim : Text.Trimmed k) (hopen : '\x7b' ∉ k)
    (hclose : '\x7d' ∈ k) (htypes : importsTypes k = false) (path : Text) :
    Import.ofClause? k path = none := by
  have hempty : k.isEmpty = false := by
    rw [List.isEmpty_eq_false_iff]
    rintro rfl
    cases hclose
  have hparts : ((splitOn ',' k).map words).foldlM Import.addPart? (Import.bare path) = none := by
    rcases hfold : ((splitOn ',' k).map words).foldlM Import.addPart? (Import.bare path) with _ | j
    · rfl
    · exfalso
      -- the closing brace would be in a word of one of the parts, and no part with it is read
      rcases Text.mem_splitOn ',' hclose with hcomma | ⟨part, hpart, hmem⟩
      · exact absurd hcomma (by decide)
      · rcases Text.mem_words hmem with hblank | ⟨w, hw, hmem⟩
        · exact absurd hblank (by decide)
        · obtain ⟨i', j', hpart'⟩ := addPart?_of_foldlM hfold _ (List.mem_map_of_mem hpart)
          exact absurd (isPartChar_of_addPart? hpart' w hw _ hmem) (by decide)
  rw [Import.ofClause?, htrim.trim_eq]
  simp only [hempty, htypes, braces?_eq_none hopen, Bool.false_eq_true, if_false]
  exact hparts

end ReplDriver.Module
