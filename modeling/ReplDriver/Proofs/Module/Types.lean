import ReplDriver.Proofs.Module.Clause

/-!
# The clauses of imports of types

An import of types is told by its clause: after the word `type` come braces, a star or a name. The
word `from` is no such name, since `type` is then the name itself; but the check takes any name for
the word that goes on with a dollar sign after it.

* `WritesTypes.importsTypes_eq`: the clauses that count as imports of types.
* `NamesFrom.ofClause?_eq`: the others are not read at all.
-/

namespace ReplDriver.Module

open Text (isBlank isIdent isIdentChar isIdentStart words splitOn)

/-! ## Imports of types -/

/-- How the clause of an import of types is written: the word `type`, and then named exports
between braces, the whole module, or a name other than `from`. -/
inductive WritesTypes : Text → Prop
  | group {g content : Text} {named : List Named} (hgap : g ≠ [])
      (hg : ∀ c ∈ g, isBlank c = true) (hcontent : WritesNamed content named) :
      WritesTypes ("type".toList ++ (g ++ '\x7b' :: (content ++ ['\x7d'])))
  | whole {k name : Text} {ws : List Text} (hwords : words k = "type".toList :: ws)
      (hws : WholeWords ws name) (hname : isIdent name = true) : WritesTypes k
  | name {k name : Text} (hwords : words k = ["type".toList, name]) (hname : isIdent name = true)
      (hfrom : name ≠ "from".toList) : WritesTypes k

/-- The characters of the clause of an import of types. -/
theorem WritesTypes.isClauseChar {k : Text} (h : WritesTypes k) :
    ∀ c ∈ k, Module.isClauseChar c = true := by
  have htype : ∀ c ∈ "type".toList, isPartChar c = true := Text.forall_mem_eq (by decide)
  cases h with
  | group hgap hg hcontent =>
    intro c hc
    simp only [List.mem_append, List.mem_cons, List.not_mem_nil, or_false] at hc
    rcases hc with hc | hc | rfl | hc | rfl
    · exact isClauseChar_of_isPartChar (htype c hc)
    · exact isClauseChar_of_isPartChar (isPartChar_of_isBlank (hg c hc))
    · decide
    · exact isClauseChar_of_isPartChar (isPartChar_of_isBindingChar (hcontent.isBindingChar c hc))
    · decide
  | whole hwords hws hname =>
    intro c hc
    refine isClauseChar_of_isPartChar (isPartChar_of_words (fun w hw => ?_) c hc)
    rw [hwords] at hw
    rcases List.mem_cons.mp hw with rfl | hw
    · exact htype
    · exact hws.isPartChar hname w hw
  | name hwords hname =>
    intro c hc
    refine isClauseChar_of_isPartChar (isPartChar_of_words (fun w hw => ?_) c hc)
    rw [hwords] at hw
    rcases List.mem_cons.mp hw with rfl | hw
    · exact htype
    · obtain rfl := List.mem_singleton.mp hw
      exact isPartChar_of_isIdent hname

/-- The clause of an import of types gives a name that goes on with a dollar sign after `from`. -/
def NamesFrom (k : Text) : Prop :=
  ∃ rest : Text, words k = ["type".toList, "from$".toList ++ rest] ∧
    isIdent ("from$".toList ++ rest) = true

theorem NamesFrom.writesTypes {k : Text} (h : NamesFrom k) : WritesTypes k := by
  obtain ⟨rest, hwords, hname⟩ := h
  exact .name hwords hname (by simp)

/-- The words of a clause after the word `type`. -/
theorem after_type {k w : Text} {ws : List Text} (htrim : Text.Trimmed k)
    (h : words k = "type".toList :: w :: ws) :
    ∃ r u, Text.after? "type" k = some r ∧ r.dropWhile isBlank = w ++ u ∧
      (w ++ u).length < r.length ∧ Text.StopsAt (fun c => !isBlank c) u := by
  obtain ⟨r, hk, hr, hrest, -⟩ := Text.dropBlanks_of_words h
  obtain ⟨u, hdrop, hu, -, -⟩ := Text.dropBlanks_of_words hrest
  rw [Text.dropWhile_stops htrim.1] at hk
  refine ⟨r, u, Text.after?_eq_some.mpr hk, hdrop, ?_, hu⟩
  rw [← hdrop]
  cases r with
  | nil => cases hrest
  | cons c r =>
    have hc : isBlank c = true := by simpa using hr c rfl
    rw [List.dropWhile_cons_of_pos hc]
    exact Nat.lt_succ_of_le (List.dropWhile_sublist _).length_le

/-- A clause counts as an import of types if something that bindings begin with comes after the
word `type`, other than the word `from`. -/
theorem importsTypes_eq_true {k r s : Text} (hafter : Text.after? "type" k = some r)
    (hs : r.dropWhile isBlank = s) (hlt : s.length < r.length)
    (hfrom : ∀ t, Text.after? "from" s = some t → Text.atWordEnd t = false)
    (hhead : ∃ c t, s = c :: t ∧ (c = '\x7b' ∨ c = '*' ∨ isIdentStart c = true)) :
    importsTypes k = true := by
  obtain ⟨c, t, rfl, hc⟩ := hhead
  rw [List.length_cons] at hlt
  unfold importsTypes
  rw [hafter]
  simp only [hs]
  rcases hfrom' : Text.after? "from" (c :: t) with _ | u
  · simp [hlt, or_assoc, hc]
  · simp [hlt, or_assoc, hc, hfrom u hfrom']

/-- The clause of an import of types counts as one, unless it names something that goes on with a
dollar sign after `from`. -/
theorem WritesTypes.importsTypes_eq {k : Text} (h : WritesTypes k) (htrim : Text.Trimmed k)
    (hfrom : ¬ NamesFrom k) : importsTypes k = true := by
  cases h with
  | group hgap hg hcontent =>
    rename_i g content named
    apply importsTypes_eq_true (Text.after?_eq_some.mpr rfl)
      (Text.dropWhile_run hg (.cons (by decide) _))
    · have hpos : 0 < g.length := List.length_pos_iff.mpr hgap
      rw [List.length_append]
      omega
    · intro t ht
      cases Text.after?_eq_some.mp ht
    · exact ⟨_, _, rfl, .inl rfl⟩
  | @whole _ name _ hwords hws' hname =>
    obtain ⟨w, ws, hws⟩ : ∃ w ws, words k = "type".toList :: ('*' :: w) :: ws := by
      rcases hws' with rfl | rfl
      · exact ⟨[], _, hwords⟩
      · exact ⟨"as".toList, _, hwords⟩
    obtain ⟨r, u, hafter, hs, hlt, -⟩ := after_type htrim hws
    apply importsTypes_eq_true hafter hs hlt
    · intro t ht
      cases Text.after?_eq_some.mp ht
    · exact ⟨_, _, rfl, .inr (.inl rfl)⟩
  | name hwords hname hne =>
    rename_i name
    obtain ⟨r, u, hafter, hs, hlt, hu⟩ := after_type htrim hwords
    apply importsTypes_eq_true hafter hs hlt
    · intro t ht
      rcases List.append_eq_append_iff.mp (Text.after?_eq_some.mp ht) with
        ⟨x, hx, rfl⟩ | ⟨x, rfl, rfl⟩
      · cases x with
        | nil => exact absurd (by simpa using hx.symm) hne
        | cons c x =>
          -- the name would be a beginning of `from`, and a blank comes after the name
          have hmem : c ∈ "from".toList := by simp [hx]
          have hblank : isBlank c = true := by simpa using hu c rfl
          exact absurd hmem (Text.not_mem_of_isBlank (Text.forall_mem_eq (by decide)) hblank)
      · cases x with
        | nil => exact absurd (List.append_nil _) hne
        | cons c x =>
          -- the name goes on after `from`, and with no dollar sign
          have hc : isIdentChar c = true := (Text.isIdentChar_of_isIdent hname).2 c (by simp)
          have hdollar : c ≠ '$' := by
            rintro rfl
            exact hfrom ⟨x, hwords, hname⟩
          rw [List.cons_append, Text.atWordEnd_cons, Text.isWord_of_isIdentChar hc hdollar]
          rfl
    · cases name with
      | nil => cases hname
      | cons c name =>
        rw [isIdent, Bool.and_eq_true] at hname
        exact ⟨c, name ++ u, rfl, .inr (.inr hname.1)⟩

theorem ofClause?_types {k : Text} (htrim : Text.Trimmed k) (hne : k ≠ [])
    (h : importsTypes k = true) (path : Text) :
    Import.ofClause? k path = some { Import.bare path with typeOnly := true } := by
  have hempty : k.isEmpty = false := List.isEmpty_eq_false_iff.mpr hne
  rw [Import.ofClause?, htrim.trim_eq]
  simp only [hempty, h, Bool.false_eq_true, if_false, if_true]
  rfl

/-- A clause that names something that goes on with a dollar sign after `from` is not read. -/
theorem NamesFrom.ofClause?_eq {k : Text} (h : NamesFrom k) (htrim : Text.Trimmed k) (path : Text) :
    Import.ofClause? k path = none := by
  obtain ⟨rest, hwords, hname⟩ := h
  obtain ⟨r, u, hafter, hs, -, -⟩ := after_type htrim hwords
  -- a dollar sign ends a word, so the name counts as the word `from`
  have htypes : importsTypes k = false := by
    have hfrom : Text.after? "from" ("from$".toList ++ rest ++ u) = some ('$' :: (rest ++ u)) :=
      Text.after?_eq_some.mpr (by simp)
    have hend : Text.atWordEnd ('$' :: (rest ++ u)) = true := by
      rw [Text.atWordEnd_cons, Text.isWord_dollar_brace.1]
      rfl
    unfold importsTypes
    rw [hafter]
    simp only [hs, hfrom, hend, Bool.not_true, Bool.and_false, Bool.false_and]
  have hchars : ∀ c ∈ k, (isBlank c || isIdentChar c) = true := by
    intro c hc
    rw [Bool.or_eq_true]
    rcases Text.mem_words hc with hblank | ⟨w, hw, hc⟩
    · exact .inl hblank
    · rw [hwords] at hw
      rcases List.mem_cons.mp hw with rfl | hw
      · have htype : ∀ c ∈ "type".toList, isIdentChar c = true := Text.forall_mem_eq (by decide)
        exact .inr (htype c hc)
      · obtain rfl := List.mem_singleton.mp hw
        exact .inr ((Text.isIdentChar_of_isIdent hname).2 c hc)
  have hempty : k.isEmpty = false := by
    cases k with
    | nil => cases hwords
    | cons c k => rfl
  rw [Import.ofClause?, htrim.trim_eq]
  simp only [hempty, htypes, braces?_eq_none (not_mem_of_chars hchars (by decide)),
    Bool.false_eq_true, if_false]
  -- what is left is one part of two words, of which the first is no star
  show ((splitOn ',' k).map words).foldlM Import.addPart? (Import.bare path) = none
  rw [Text.splitOn_of_not_mem (not_mem_of_chars hchars (by decide)), List.map_singleton, hwords]
  rfl

end ReplDriver.Module
