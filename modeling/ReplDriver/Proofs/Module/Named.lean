import ReplDriver.Module.Bindings
import ReplDriver.Proofs.Text.Cutting

/-!
# Named exports between braces

Between the braces of an import or an export stand named exports, each perhaps under another name
and perhaps marked as a type, with commas between them and blanks anywhere between words. What is
written so is read back as exactly the bindings that it writes.

* `WritesNamed.namedEntries?_eq`: the entries are read back.
* `WritesNamed.ne_importType`: no line between the braces reads like the beginning of an import of
  types.
-/

namespace ReplDriver.Module

open Text (isBlank isIdent isIdentChar words splitOn)

/-! ## Characters of clauses -/

/-- Characters with which names, blanks and commas are written. -/
def isBindingChar (c : Char) : Bool := isIdentChar c || isBlank c || c == ','

/-- Characters with which the parts of a clause before its braces are written. -/
def isPartChar (c : Char) : Bool := isBindingChar c || c == '*'

/-- Characters with which clauses are written. -/
def isClauseChar (c : Char) : Bool := isPartChar c || c == '\x7b' || c == '\x7d'

theorem isPartChar_of_isBindingChar {c : Char} (h : isBindingChar c = true) :
    isPartChar c = true := by rw [isPartChar, h, Bool.true_or]

theorem isPartChar_of_isBlank {c : Char} (h : isBlank c = true) : isPartChar c = true := by
  rw [isPartChar, isBindingChar, h, Bool.or_true, Bool.true_or, Bool.true_or]

theorem isPartChar_of_isIdentChar {c : Char} (h : isIdentChar c = true) : isPartChar c = true := by
  rw [isPartChar, isBindingChar, h, Bool.true_or, Bool.true_or, Bool.true_or]

theorem isPartChar_of_isIdent {name : Text} (h : isIdent name = true) :
    ∀ c ∈ name, isPartChar c = true :=
  fun c hc => isPartChar_of_isIdentChar ((Text.isIdentChar_of_isIdent h).2 c hc)

theorem isClauseChar_of_isPartChar {c : Char} (h : isPartChar c = true) :
    isClauseChar c = true := by rw [isClauseChar, h, Bool.true_or, Bool.true_or]

/-- Only the identifier characters among them are word characters. -/
theorem isWord_of_isClauseChar {c : Char} (h : isClauseChar c = true)
    (hident : isIdentChar c = false) : Text.isWord c = false := by
  have hothers : ∀ c ∈ [',', '*', '\x7b', '\x7d'], Text.isWord c = false :=
    Text.forall_mem_eq (by decide +kernel)
  simp only [isClauseChar, isPartChar, isBindingChar, Bool.or_eq_true, beq_iff_eq, hident,
    Bool.false_eq_true, false_or] at h
  rcases h with (((hblank | rfl) | rfl) | rfl) | rfl
  · exact Text.isWord_of_isBlank hblank
  · exact hothers _ (by decide)
  · exact hothers _ (by decide)
  · exact hothers _ (by decide)
  · exact hothers _ (by decide)

/-- A text whose words are written with such characters is written with them. -/
theorem isPartChar_of_words {s : Text} (h : ∀ w ∈ words s, ∀ c ∈ w, isPartChar c = true) :
    ∀ c ∈ s, isPartChar c = true := by
  intro c hc
  rcases Text.mem_words hc with hblank | ⟨w, hw, hc⟩
  · exact isPartChar_of_isBlank hblank
  · exact h w hw c hc

theorem not_mem_of_chars {p : Char → Bool} {s : Text} {d : Char} (h : ∀ c ∈ s, p c = true)
    (hd : p d = false) : d ∉ s := by
  intro hmem
  rw [h d hmem] at hd
  cases hd

/-! ## Entries between braces -/

/-- The words with which a named export is bound. -/
def Named.words (b : Named) : List Text :=
  (if b.typeOnly then ["type".toList] else []) ++
    b.name :: (match b.renamed with
      | none => []
      | some name => ["as".toList, name])

/-- The names of a binding are identifiers. -/
def Named.IsNamed (b : Named) : Prop :=
  isIdent b.name = true ∧ ∀ name, b.renamed = some name → isIdent name = true

/-- What stands between the braces: entries between commas, each with the words of its binding;
entries of blanks alone may stand anywhere, such as after a last comma. -/
def WritesNamed (content : Text) (named : List Named) : Prop :=
  ((splitOn ',' content).map words).filter (· ≠ []) = named.map Named.words ∧
    ∀ b ∈ named, b.IsNamed

/-- An entry is read back. -/
theorem Named.ofWords?_words {b : Named} (h : b.IsNamed) : Named.ofWords? b.words = some b := by
  obtain ⟨name, renamed, typeOnly⟩ := b
  obtain ⟨hname, hrenamed⟩ := h
  have hname' : isIdent name = true := hname
  cases renamed with
  | none => cases typeOnly <;> simp [Named.words, Named.ofWords?, hname']
  | some other =>
    have hother : isIdent other = true := hrenamed other rfl
    cases typeOnly <;> simp [Named.words, Named.ofWords?, hname', hother]

/-- All entries are read back. -/
theorem WritesNamed.namedEntries?_eq {content : Text} {named : List Named}
    (h : WritesNamed content named) : namedEntries? content = some named := by
  obtain ⟨hwords, hnamed⟩ := h
  rw [namedEntries?, hwords]
  clear hwords
  induction named with
  | nil => rfl
  | cons b rest ih =>
    have hb := Named.ofWords?_words (hnamed b List.mem_cons_self)
    have hrest := ih fun b' hb' => hnamed b' (List.mem_cons_of_mem b hb')
    simp [hb, hrest]

/-- An entry has no words, or the words of one of the bindings. -/
theorem WritesNamed.words_entry {content entry : Text} {named : List Named}
    (h : WritesNamed content named) (hentry : entry ∈ splitOn ',' content) :
    words entry = [] ∨ ∃ b ∈ named, words entry = b.words := by
  by_cases hempty : words entry = []
  · exact .inl hempty
  · have hmem : words entry ∈ named.map Named.words := by
      rw [← h.1]
      exact List.mem_filter.mpr ⟨List.mem_map_of_mem hentry, by simpa using hempty⟩
    obtain ⟨b, hb, hwords⟩ := List.mem_map.mp hmem
    exact .inr ⟨b, hb, hwords.symm⟩

/-- Among the words of a binding, `type` does not come right after `import`. -/
theorem Named.words_ne (b : Named) (ws ws' : List Text) :
    b.words ≠ ws ++ "import".toList :: "type".toList :: ws' := by
  obtain ⟨name, renamed, typeOnly⟩ := b
  intro h
  have hle : (Named.words ⟨name, renamed, typeOnly⟩).length ≤ 4 := by
    cases typeOnly <;> cases renamed <;> simp [Named.words]
  rcases ws with _ | ⟨w₁, _ | ⟨w₂, _ | ⟨w₃, ws⟩⟩⟩
  · cases typeOnly <;> cases renamed <;> simp [Named.words] at h
  · cases typeOnly <;> cases renamed <;> simp [Named.words] at h
  · cases typeOnly <;> cases renamed <;> simp [Named.words] at h
  · -- these are five words at least
    rw [h] at hle
    simp only [List.length_append, List.length_cons] at hle
    omega

/-- No line between the braces reads like the beginning of an import of types. -/
theorem WritesNamed.ne_importType {content : Text} {named : List Named}
    (h : WritesNamed content named) {indent g r : Text} {c : Char}
    (hindent : ∀ c ∈ indent, isBlank c = true) (hgap : g ≠ []) (hg : ∀ c ∈ g, isBlank c = true)
    (hc : isBlank c = true) (before : Text) :
    content ≠ before ++ '\n' :: (indent ++ ("import" ++ (g ++ ("type" ++ c :: r)))) := by
  intro hcontent
  -- the two words stand in one entry, since no comma comes between them
  have hcomma : ',' ∉ '\n' :: (indent ++ ("import" ++ (g ++ ("type" ++ [c])))) := by
    have hblank : ∀ {s : Text}, (∀ c ∈ s, isBlank c = true) → ',' ∉ s :=
      fun hs hmem => absurd (hs _ hmem) (by decide)
    have himport : ',' ∉ "import".toList := by decide
    have htype : ',' ∉ "type".toList := by decide
    have hlast : ',' ≠ c := by
      rintro rfl
      exact absurd hc (by decide)
    simp only [List.mem_cons, List.mem_append, List.not_mem_nil, or_false, not_or]
    exact ⟨by decide, hblank hindent, himport, hblank hg, htype, hlast⟩
  obtain ⟨piece, rest, -, hsplit⟩ := Text.splitOn_append_of_not_mem hcomma r
  obtain ⟨b, hentry⟩ := Text.mem_splitOn_append before hsplit
  -- and no binding has them next to each other
  have hwords : words (b ++ ('\n' :: (indent ++ ("import" ++ (g ++ ("type" ++ [c])))) ++ piece)) =
      words b ++ "import".toList :: "type".toList :: words piece := by
    have htype : words ("type" ++ ([c] ++ piece)) = "type".toList :: words piece :=
      Text.words_word_append (by decide) (Text.forall_mem_eq (by decide)) (by simp)
        (by simpa using hc) piece
    have himport : words ("import" ++ (g ++ ("type" ++ ([c] ++ piece)))) =
        "import".toList :: "type".toList :: words piece := by
      rw [Text.words_word_append (by decide) (Text.forall_mem_eq (by decide)) hgap hg, htype]
    simp only [List.cons_append, List.append_assoc]
    rw [Text.words_append_cons (by decide), Text.words_blanks_append hindent]
    exact congrArg (words b ++ ·) himport
  have hline : before ++ ('\n' :: (indent ++ ("import" ++ (g ++ ("type" ++ [c])))) ++ r) =
      content := by
    rw [hcontent]
    simp
  rw [hline] at hentry
  rcases h.words_entry hentry with hempty | ⟨binding, -, hbinding⟩
  · rw [hwords] at hempty
    simp at hempty
  · exact binding.words_ne _ _ (hbinding.symm.trans hwords)

/-- The words of a binding are written with identifier characters. -/
theorem Named.isIdentChar_words {b : Named} (h : b.IsNamed) {w : Text} (hw : w ∈ b.words) :
    ∀ c ∈ w, isIdentChar c = true := by
  obtain ⟨name, renamed, typeOnly⟩ := b
  have hcases : w = "type".toList ∨ w = name ∨ w = "as".toList ∨ renamed = some w := by
    cases typeOnly <;> cases renamed <;> simp [Named.words] at hw ⊢ <;> grind
  rcases hcases with rfl | rfl | rfl | hrenamed
  · exact Text.forall_mem_eq (by decide)
  · exact (Text.isIdentChar_of_isIdent h.1).2
  · exact Text.forall_mem_eq (by decide)
  · exact (Text.isIdentChar_of_isIdent (h.2 w hrenamed)).2

theorem WritesNamed.isBindingChar {content : Text} {named : List Named}
    (h : WritesNamed content named) : ∀ c ∈ content, isBindingChar c = true := by
  intro c hc
  rw [Module.isBindingChar, Bool.or_eq_true, Bool.or_eq_true]
  rcases Text.mem_splitOn ',' hc with rfl | ⟨entry, hentry, hc⟩
  · exact .inr rfl
  · rcases Text.mem_words hc with hblank | ⟨w, hw, hc⟩
    · exact .inl (.inr hblank)
    · rcases h.words_entry hentry with hempty | ⟨b, hb, hwords⟩
      · rw [hempty] at hw
        cases hw
      · rw [hwords] at hw
        exact .inl (.inl (Named.isIdentChar_words (h.2 b hb) hw c hc))

end ReplDriver.Module
