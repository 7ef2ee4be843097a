import ReplDriver.Text.Word

/-!
# Runs of characters

Where a run of characters of a class ends, and which classes exclude each other. Scanners pass over
blanks and over words from either side, so every statement about them comes down to these.

* `isIdentChar_iff`: identifier characters by their code points.
* `dropWhile_run`, `takeWhile_run`: a maximal run is passed over, and read, as a whole.
-/

namespace ReplDriver.Text

/-! ## Classes -/

/-- The identifier characters are the ASCII letters and digits, `_` and `$`. -/
theorem isIdentChar_iff {c : Char} : isIdentChar c = true ↔
    (48 ≤ c.toNat ∧ c.toNat ≤ 57) ∨ (65 ≤ c.toNat ∧ c.toNat ≤ 90) ∨
      (97 ≤ c.toNat ∧ c.toNat ≤ 122) ∨ c.toNat = 95 ∨ c.toNat = 36 := by
  have h95 : c = '_' ↔ c.toNat = 95 := by
    rw [← Char.toNat_inj]; rfl
  have h36 : c = '$' ↔ c.toNat = 36 := by
    rw [← Char.toNat_inj]; rfl
  unfold isIdentChar Char.isAlphanum Char.isAlpha Char.isUpper Char.isLower Char.isDigit
  simp only [Bool.or_eq_true, Bool.and_eq_true, decide_eq_true_eq, beq_iff_eq, h95, h36, ge_iff_le,
    UInt32.le_iff_toNat_le]
  simp
  omega

/-- No identifier character is blank. -/
theorem isBlank_of_isIdentChar {c : Char} (h : isIdentChar c = true) : isBlank c = false := by
  have hn := isIdentChar_iff.1 h
  simp only [isBlank]
  simp
  omega

theorem isIdentChar_of_isIdentStart {c : Char} (h : isIdentStart c = true) :
    isIdentChar c = true := by
  simp only [isIdentStart, isIdentChar, Char.isAlphanum, Bool.or_eq_true] at h ⊢
  rcases h with (h | h) | h
  · exact .inl (.inl (.inl h))
  · exact .inl (.inr h)
  · exact .inr h

/-- An identifier is not empty, and all its characters are identifier characters. -/
theorem isIdentChar_of_isIdent {w : Text} (h : isIdent w = true) :
    w ≠ [] ∧ ∀ c ∈ w, isIdentChar c = true := by
  cases w with
  | nil => cases h
  | cons c r =>
    rw [isIdent, Bool.and_eq_true, List.all_eq_true] at h
    refine ⟨List.cons_ne_nil c r, fun d hd => ?_⟩
    rcases List.mem_cons.mp hd with rfl | hd
    · exact isIdentChar_of_isIdentStart h.1
    · exact h.2 d hd

/-- A blank is no letter of a word. -/
theorem not_mem_of_isBlank {word : Text} {c : Char} (hword : ∀ d ∈ word, isBlank d = false)
    (hc : isBlank c = true) : c ∉ word := by
  intro hmem
  rw [hword c hmem] at hc
  cases hc

/-- A character of a class differs from one outside it. -/
theorem ne_of_class {p : Char → Bool} {c d : Char} (hc : p c = true) (hd : p d = false) :
    c ≠ d := by
  rintro rfl
  rw [hc] at hd
  cases hd

/-- A class has the same value on all characters of a text. -/
theorem forall_mem_eq {p : Char → Bool} {b : Bool} {s : Text}
    (h : (s.all fun c => p c == b) = true) : ∀ c ∈ s, p c = b :=
  fun c hc => eq_of_beq (List.all_eq_true.mp h c hc)

theorem isQuote_of_isIdentChar {c : Char} (h : isIdentChar c = true) : isQuote c = false := by
  have h1 : c ≠ '\x27' := ne_of_class h (by decide)
  have h2 : c ≠ '\x22' := ne_of_class h (by decide)
  have h3 : c ≠ '\x60' := ne_of_class h (by decide)
  simp [isQuote, h1, h2, h3]

theorem isBlankText_iff {w : Text} : isBlankText w = true ↔ ∀ c ∈ w, isBlank c = true := by
  simp [isBlankText]

/-- Identifier characters other than `$` are word characters. -/
theorem isWord_of_isIdentChar {c : Char} (h : isIdentChar c = true) (hne : c ≠ '$') :
    isWord c = true := by
  have h36 : c.toNat ≠ 36 := fun hn => hne (Char.toNat_inj.mp hn)
  rw [isWord, inRanges_iff]
  rcases isIdentChar_iff.mp h with hn | hn | hn | hn | hn
  · exact ⟨(0x30, 0x39), by decide, hn⟩
  · exact ⟨(0x41, 0x5a), by decide, hn⟩
  · exact ⟨(0x61, 0x7a), by decide, hn⟩
  · exact ⟨(0x5f, 0x5f), by decide, by omega, by omega⟩
  · exact absurd hn h36

@[simp] theorem atWordEnd_cons (c : Char) (r : Text) : atWordEnd (c :: r) = !isWord c := rfl

/-- Neither a dollar sign nor a closing brace is a word character. -/
theorem isWord_dollar_brace : isWord '$' = false ∧ isWord '\x7d' = false := by decide +kernel

/-- The ranges of the blanks. -/
def blankRanges : List (Nat × Nat) := [
  (0x09, 0x0d), (0x1c, 0x20), (0x85, 0x85), (0xa0, 0xa0), (0x1680, 0x1680), (0x2000, 0x200a),
  (0x2028, 0x2028), (0x2029, 0x2029), (0x202f, 0x202f), (0x205f, 0x205f), (0x3000, 0x3000)]

theorem inRanges_of_isBlank {c : Char} (h : isBlank c = true) :
    inRanges blankRanges c.toNat = true := by
  simp only [isBlank, Bool.or_eq_true, Bool.and_eq_true, decide_eq_true_eq, beq_iff_eq] at h
  simp only [inRanges, blankRanges, List.any_cons, List.any_nil, Bool.or_eq_true, Bool.and_eq_true,
    decide_eq_true_eq]
  omega

/-- No blank is a word character. -/
theorem isWord_of_isBlank {c : Char} (h : isBlank c = true) : isWord c = false := by
  obtain ⟨b, hb, hbc⟩ := inRanges_iff.mp (inRanges_of_isBlank h)
  have hapart : (blankRanges.all fun b => wordRanges.all fun r =>
      Nat.blt b.2 r.1 || Nat.blt r.2 b.1) = true := by decide +kernel
  rcases hword : isWord c with _ | _
  · rfl
  · obtain ⟨r, hr, hrc⟩ := inRanges_iff.mp hword
    have hbr := List.all_eq_true.mp (List.all_eq_true.mp hapart b hb) r hr
    rw [Bool.or_eq_true, Nat.blt_eq, Nat.blt_eq] at hbr
    omega

/-! ## Runs -/

variable {p : Char → Bool}

/-- The text does not begin with a character of a class. -/
def StopsAt (p : Char → Bool) (s : Text) : Prop := ∀ c, s.head? = some c → p c = false

theorem StopsAt.nil : StopsAt p [] := by
  intro c h
  cases h

theorem StopsAt.cons {c : Char} (h : p c = false) (s : Text) : StopsAt p (c :: s) := by
  intro d hd
  cases hd
  exact h

theorem dropWhile_stops {s : Text} (h : StopsAt p s) : s.dropWhile p = s := by
  cases s with
  | nil => rfl
  | cons c r => simp [h c rfl]

theorem takeWhile_stops {s : Text} (h : StopsAt p s) : s.takeWhile p = [] := by
  cases s with
  | nil => rfl
  | cons c r => simp [h c rfl]

/-- A run of a class is dropped as a whole. -/
theorem dropWhile_run {w s : Text} (hw : ∀ c ∈ w, p c = true) (hs : StopsAt p s) :
    (w ++ s).dropWhile p = s := by
  rw [List.dropWhile_append_of_pos hw, dropWhile_stops hs]

/-- A run of a class is taken as a whole. -/
theorem takeWhile_run {w s : Text} (hw : ∀ c ∈ w, p c = true) (hs : StopsAt p s) :
    (w ++ s).takeWhile p = w := by
  rw [List.takeWhile_append_of_pos hw, takeWhile_stops hs, List.append_nil]

/-- What is left when a run has been dropped does not begin with its class. -/
theorem stopsAt_dropWhile (s : Text) : StopsAt p (s.dropWhile p) := by
  intro c h
  have := List.head?_dropWhile_not p s
  rw [h] at this
  simpa using this

/-- A run at the end consists of characters of the class. -/
theorem mem_takeRightWhile {s : Text} {c : Char} (h : c ∈ takeRightWhile p s) : p c = true :=
  List.all_eq_true.mp List.all_takeWhile c (List.mem_reverse.mp h)

/-- What is left when a run at the end has been dropped does not end with its class. -/
theorem getLast?_dropRightWhile {s : Text} {c : Char} (h : (dropRightWhile p s).getLast? = some c) :
    p c = false := by
  rw [dropRightWhile, List.getLast?_reverse] at h
  exact stopsAt_dropWhile _ _ h

end ReplDriver.Text
