import Mathlib.Data.List.TakeWhile
import ReplDriver.Proofs.Text.Characters

/-!
# Cutting texts at separators and at blanks

How the pieces between separators and the words between blanks come about when a text is put
together from parts.

* `splitOn_append`: the pieces of two texts one after the other.
* `splitOn_join`: the pieces of what was joined from pieces.
* `words_append_cons`: a blank separates the words before it from the words after it.
* `dropBlanks_of_words`: where the first word of a text stands.
-/

namespace ReplDriver.Text

/-! ## Beginnings -/

/-- A text begins with another exactly when that one is a prefix of it. -/
theorem startsWith_iff {s beginning : Text} : s.startsWith beginning = true ↔ beginning <+: s := by
  rw [startsWith, Option.isSome_iff_exists]
  constructor
  · rintro ⟨rest, h⟩
    exact ⟨rest, (after?_eq_some.mp h).symm⟩
  · rintro ⟨rest, h⟩
    exact ⟨rest, after?_eq_some.mpr h.symm⟩

/-! ## Pieces between separators -/

@[simp] theorem splitOn_nil (sep : Char) : splitOn sep [] = [[]] := rfl

/-- A separator closes an empty piece. -/
theorem splitOn_cons_self (sep : Char) (r : Text) :
    splitOn sep (sep :: r) = [] :: splitOn sep r := by
  rw [splitOn]
  split
  · next h => exact absurd h (splitOn_ne_nil sep r)
  · next piece rest h => simp [h]

/-- Any other character joins the first piece. -/
theorem splitOn_cons_ne {sep c : Char} (hc : c ≠ sep) (r : Text) :
    ∃ piece rest, splitOn sep r = piece :: rest ∧ splitOn sep (c :: r) = (c :: piece) :: rest := by
  rw [splitOn]
  split
  · next h => exact absurd h (splitOn_ne_nil sep r)
  · next piece rest h => exact ⟨piece, rest, h, by simp [hc]⟩

/-- The pieces of two texts one after the other: the last piece of the first goes on in the
second. -/
theorem splitOn_append (sep : Char) (s t : Text) :
    splitOn sep (s ++ t) =
      (splitOn sep s).dropLast ++ splitOn sep ((splitOn sep s).getLastD [] ++ t) := by
  induction s with
  | nil => simp
  | cons c r ih =>
    by_cases hc : c = sep
    · subst hc
      obtain ⟨piece, rest, h⟩ := List.exists_cons_of_ne_nil (splitOn_ne_nil c r)
      rw [List.cons_append, splitOn_cons_self, splitOn_cons_self, ih]
      simp [h]
    · obtain ⟨piece, rest, h, hr⟩ := splitOn_cons_ne hc r
      obtain ⟨piece', rest', h', hr'⟩ := splitOn_cons_ne hc (r ++ t)
      rw [List.cons_append, hr', hr]
      rw [h, h'] at ih
      cases rest with
      | nil =>
        -- the character joins the piece that the second text goes on with
        obtain ⟨joined, more, hj, hrj⟩ := splitOn_cons_ne hc (piece ++ t)
        have hpieces : piece' :: rest' = joined :: more := by simpa [hj] using ih
        obtain ⟨rfl, rfl⟩ := List.cons.inj hpieces
        exact hrj.symm
      | cons next more =>
        have hpieces : piece' :: rest' = piece :: ((next :: more).dropLast ++
            splitOn sep ((next :: more).getLastD [] ++ t)) := by simpa using ih
        obtain ⟨rfl, rfl⟩ := List.cons.inj hpieces
        simp

/-- A text without the separator joins the first piece of what comes after it. -/
theorem splitOn_append_of_not_mem {sep : Char} {u : Text} (hu : sep ∉ u) (s : Text) :
    ∃ piece rest, splitOn sep s = piece :: rest ∧ splitOn sep (u ++ s) = (u ++ piece) :: rest := by
  induction u with
  | nil =>
    obtain ⟨piece, rest, h⟩ := List.exists_cons_of_ne_nil (splitOn_ne_nil sep s)
    exact ⟨piece, rest, h, h⟩
  | cons c r ih =>
    have hc : c ≠ sep := fun hc => hu (hc ▸ List.mem_cons_self)
    obtain ⟨piece, rest, h, hr⟩ := ih fun hr => hu (List.mem_cons_of_mem c hr)
    obtain ⟨piece', rest', h', hcr⟩ := splitOn_cons_ne hc (r ++ s)
    obtain ⟨rfl, rfl⟩ := List.cons.inj (hr.symm.trans h')
    exact ⟨piece, rest, h, hcr⟩

/-- A text without the separator is one piece. -/
theorem splitOn_of_not_mem {sep : Char} {s : Text} (h : sep ∉ s) : splitOn sep s = [s] := by
  obtain ⟨piece, rest, hnil, hs⟩ := splitOn_append_of_not_mem h []
  obtain ⟨rfl, rfl⟩ := List.cons.inj hnil
  rwa [List.append_nil] at hs

/-- The characters of a text are the separator and the characters of the pieces. -/
theorem mem_splitOn (sep : Char) {c : Char} {s : Text} (h : c ∈ s) :
    c = sep ∨ ∃ piece ∈ splitOn sep s, c ∈ piece := by
  induction s with
  | nil => cases h
  | cons d r ih =>
    by_cases hd : d = sep
    · subst hd
      rw [splitOn_cons_self]
      rcases List.mem_cons.mp h with rfl | hr
      · exact .inl rfl
      · rcases ih hr with hc | ⟨piece, hpiece, hc⟩
        · exact .inl hc
        · exact .inr ⟨piece, List.mem_cons_of_mem [] hpiece, hc⟩
    · obtain ⟨first, rest, hr, hsplit⟩ := splitOn_cons_ne hd r
      rw [hsplit]
      rcases List.mem_cons.mp h with rfl | hc
      · exact .inr ⟨c :: first, List.mem_cons_self, List.mem_cons_self⟩
      · rcases ih hc with hc | ⟨piece, hpiece, hc⟩
        · exact .inl hc
        · rw [hr] at hpiece
          rcases List.mem_cons.mp hpiece with rfl | hpiece
          · exact .inr ⟨d :: piece, List.mem_cons_self, List.mem_cons_of_mem d hc⟩
          · exact .inr ⟨piece, List.mem_cons_of_mem _ hpiece, hc⟩

/-- No piece holds the separator. -/
theorem not_mem_splitOn (sep : Char) {s piece : Text} (h : piece ∈ splitOn sep s) :
    sep ∉ piece := by
  induction s generalizing piece with
  | nil => simp_all
  | cons c r ih =>
    by_cases hc : c = sep
    · subst hc
      rw [splitOn_cons_self] at h
      rcases List.mem_cons.mp h with rfl | h
      · exact List.not_mem_nil
      · exact ih h
    · obtain ⟨first, rest, hr, hsplit⟩ := splitOn_cons_ne hc r
      rw [hsplit] at h
      rcases List.mem_cons.mp h with rfl | h
      · exact List.not_mem_cons_of_ne_of_not_mem (Ne.symm hc)
          (ih (by rw [hr]; exact List.mem_cons_self))
      · exact ih (by rw [hr]; exact List.mem_cons_of_mem _ h)

/-- The first piece of a text ends a piece of any text that ends with it. -/
theorem mem_splitOn_append {sep : Char} (s : Text) {t piece : Text} {rest : List Text}
    (ht : splitOn sep t = piece :: rest) : ∃ b : Text, b ++ piece ∈ splitOn sep (s ++ t) := by
  induction s with
  | nil => exact ⟨[], by simp [ht]⟩
  | cons c r ih =>
    obtain ⟨b, hb⟩ := ih
    by_cases hc : c = sep
    · subst hc
      refine ⟨b, ?_⟩
      rw [List.cons_append, splitOn_cons_self]
      exact List.mem_cons_of_mem [] hb
    · obtain ⟨first, others, hr, hsplit⟩ := splitOn_cons_ne hc (r ++ t)
      rw [hr] at hb
      rw [List.cons_append, hsplit]
      rcases List.mem_cons.mp hb with hfirst | hother
      · exact ⟨c :: b, by rw [List.cons_append, hfirst]; exact List.mem_cons_self⟩
      · exact ⟨b, List.mem_cons_of_mem _ hother⟩

/-- Lines with their ends are cut at these ends. -/
theorem splitOn_lines_append {sep : Char} {lines : List Text} (h : ∀ line ∈ lines, sep ∉ line)
    (rest : Text) :
    splitOn sep (lines.flatMap (· ++ [sep]) ++ rest) = lines ++ splitOn sep rest := by
  induction lines with
  | nil => rfl
  | cons line lines ih =>
    obtain ⟨piece, more, hsplit, hjoined⟩ := splitOn_append_of_not_mem (h line List.mem_cons_self)
      (sep :: (lines.flatMap (· ++ [sep]) ++ rest))
    rw [splitOn_cons_self, ih fun l hl => h l (List.mem_cons_of_mem line hl)] at hsplit
    obtain ⟨rfl, rfl⟩ := List.cons.inj hsplit
    rw [List.flatMap_cons, List.append_assoc, List.append_assoc, List.singleton_append, hjoined,
      List.append_nil, List.cons_append]

/-- The lines of a text, each with its end, are the text with one more end. -/
theorem flatMap_splitOn (sep : Char) (s : Text) :
    (splitOn sep s).flatMap (· ++ [sep]) = s ++ [sep] := by
  induction s with
  | nil => rfl
  | cons c r ih =>
    by_cases hc : c = sep
    · subst hc
      rw [splitOn_cons_self, List.flatMap_cons, ih]
      rfl
    · obtain ⟨piece, rest, hr, hsplit⟩ := splitOn_cons_ne hc r
      rw [hr] at ih
      rw [hsplit, List.cons_append, ← ih, List.flatMap_cons, List.flatMap_cons]
      rfl

/-- A separator separates the pieces before it from the pieces after it. -/
theorem splitOn_append_cons (sep : Char) (s t : Text) :
    splitOn sep (s ++ sep :: t) = splitOn sep s ++ splitOn sep t := by
  rw [← splitOn_lines_append (fun piece => not_mem_splitOn sep) t, flatMap_splitOn,
    List.append_assoc, List.singleton_append]

/-- Lines that are joined are cut again where they were joined. -/
theorem splitOn_join {sep : Char} {lines : List Text} (hne : lines ≠ [])
    (h : ∀ line ∈ lines, sep ∉ line) : splitOn sep (join [sep] lines) = lines := by
  induction lines with
  | nil => exact absurd rfl hne
  | cons line lines ih =>
    cases lines with
    | nil => simpa [join] using splitOn_of_not_mem (h line List.mem_cons_self)
    | cons next lines =>
      have hlines := ih (by simp) fun l hl => h l (List.mem_cons_of_mem line hl)
      have hjoin : join [sep] (line :: next :: lines) =
          [line].flatMap (· ++ [sep]) ++ join [sep] (next :: lines) := by simp [join]
      rw [hjoin, splitOn_lines_append (by simpa using h line List.mem_cons_self), hlines,
        List.singleton_append]

/-- Each joined piece but the first has a separator before it. -/
theorem join_cons (sep : Char) (first : Text) (rest : List Text) :
    join [sep] (first :: rest) = first ++ rest.flatMap (sep :: ·) := by
  induction rest generalizing first with
  | nil => simp [join]
  | cons next rest ih =>
    have htail := ih next
    rw [join] at htail ⊢
    rw [List.intercalate_cons_cons, htail, List.flatMap_cons]
    simp

/-- Joined pieces end with the last of them. -/
theorem suffix_join_concat (sep : Text) (before : List Text) (last : Text) :
    last <:+ join sep (before ++ [last]) := by
  induction before with
  | nil => simp [join]
  | cons piece before ih =>
    rw [List.cons_append, join, List.intercalate_cons_of_ne_nil (by simp)]
    exact ih.trans (List.suffix_append ..)

/-- Joined pieces begin with the first of them. -/
theorem prefix_join_cons (sep first : Text) (after : List Text) :
    first <+: join sep (first :: after) := by
  cases after <;> simp [join]

/-! ## Words between blanks -/

/-- A run of characters that are not blank goes on the word that is being read. -/
theorem words_go_append {u : Text} (hu : ∀ c ∈ u, isBlank c = false) (word s : Text) :
    words.go word (u ++ s) = words.go (u.reverse ++ word) s := by
  induction u generalizing word with
  | nil => rfl
  | cons c r ih =>
    rw [List.cons_append, words.go, if_neg (by simp [hu c List.mem_cons_self]),
      ih fun d hd => hu d (List.mem_cons_of_mem c hd)]
    simp

/-- A blank separates the words before it from the words after it. -/
theorem words_append_cons {c : Char} (hc : isBlank c = true) (s t : Text) :
    words (s ++ c :: t) = words s ++ words t := by
  -- the word that is being read belongs to the induction
  suffices hgo : ∀ word, words.go word (s ++ c :: t) = words.go word s ++ words t from hgo []
  induction s with
  | nil =>
    intro word
    cases word <;> simp [words.go, hc, words]
  | cons d r ih =>
    intro word
    rw [List.cons_append, words.go, words.go]
    by_cases hd : isBlank d = true
    · rw [if_pos hd, if_pos hd, ih]
      split <;> rfl
    · rw [if_neg hd, if_neg hd, ih]

theorem words_cons_blank {c : Char} (hc : isBlank c = true) (s : Text) :
    words (c :: s) = words s := words_append_cons hc [] s

/-- Blanks before a text belong to no word. -/
theorem words_blanks_append {b : Text} (hb : ∀ c ∈ b, isBlank c = true) (s : Text) :
    words (b ++ s) = words s := by
  induction b with
  | nil => rfl
  | cons c r ih =>
    rw [List.cons_append, words_cons_blank (hb c List.mem_cons_self)]
    exact ih fun d hd => hb d (List.mem_cons_of_mem c hd)

theorem words_blanks {b : Text} (hb : ∀ c ∈ b, isBlank c = true) : words b = [] := by
  have h := words_blanks_append hb []
  rwa [List.append_nil] at h

/-- A text without blanks is one word. -/
theorem words_word {w : Text} (hne : w ≠ []) (hw : ∀ c ∈ w, isBlank c = false) :
    words w = [w] := by
  have h := words_go_append hw [] []
  rw [List.append_nil, List.append_nil] at h
  rw [words, h, words.go, if_neg (by simpa using hne), List.reverse_reverse]

/-- A word goes up to the next blank. -/
theorem words_run {w t : Text} (hne : w ≠ []) (hw : ∀ c ∈ w, isBlank c = false)
    (ht : StopsAt (fun c => !isBlank c) t) : words (w ++ t) = w :: words t := by
  cases t with
  | nil => rw [List.append_nil, words_word hne hw]; rfl
  | cons c t =>
    have hc : isBlank c = true := by simpa using ht c rfl
    rw [words_append_cons hc, words_cons_blank hc, words_word hne hw]
    rfl

/-- A word is separated by blanks from the words after it. -/
theorem words_word_append {w g : Text} (hne : w ≠ []) (hw : ∀ c ∈ w, isBlank c = false)
    (hgap : g ≠ []) (hg : ∀ c ∈ g, isBlank c = true) (s : Text) :
    words (w ++ (g ++ s)) = w :: words s := by
  obtain ⟨c, r, rfl⟩ := List.exists_cons_of_ne_nil hgap
  have hstops : StopsAt (fun c => !isBlank c) (c :: r ++ s) :=
    .cons (by simp [hg c List.mem_cons_self]) _
  rw [words_run hne hw hstops, words_blanks_append hg]

/-- A text goes up to its first blank, and on from there. -/
theorem exists_run (s : Text) : ∃ v t, s = v ++ t ∧ (∀ c ∈ v, isBlank c = false) ∧
    StopsAt (fun c => !isBlank c) t := by
  refine ⟨s.takeWhile fun c => !isBlank c, s.dropWhile fun c => !isBlank c,
    List.takeWhile_append_dropWhile.symm, fun c hc => ?_, stopsAt_dropWhile s⟩
  simpa using List.all_eq_true.mp List.all_takeWhile c hc

/-- Directly before a character that is not blank, a run of such characters makes no new word. -/
theorem length_words_append_cons {w : Text} {c : Char} (hw : ∀ d ∈ w, isBlank d = false)
    (hc : isBlank c = false) (s : Text) :
    (words (w ++ c :: s)).length = (words (c :: s)).length := by
  obtain ⟨v, t, rfl, hv, ht⟩ := exists_run s
  have hrun : ∀ d ∈ c :: v, isBlank d = false := by simpa [hc] using hv
  have hjoined : ∀ d ∈ w ++ c :: v, isBlank d = false := fun d hd =>
    (List.mem_append.mp hd).elim (hw d) (hrun d)
  have hwords := words_run (List.cons_ne_nil c v) hrun ht
  have hwords' := words_run (by simp) hjoined ht
  rw [List.append_assoc, List.cons_append] at hwords'
  rw [hwords', ← List.cons_append, hwords]
  rfl

/-- A run of characters that are not blank makes at most one new word. -/
theorem length_words_append_le {w : Text} (hne : w ≠ []) (hw : ∀ c ∈ w, isBlank c = false)
    (s : Text) : (words (w ++ s)).length ≤ (words s).length + 1 := by
  cases s with
  | nil => rw [List.append_nil, words_word hne hw]; rfl
  | cons c s =>
    cases hc : isBlank c with
    | true => rw [words_run hne hw (.cons (by simp [hc]) s), List.length_cons]
    | false =>
      rw [length_words_append_cons hw hc]
      exact Nat.le_succ _

/-- The first word of a text stands where its first blanks end, and the other words come after
it. -/
theorem dropBlanks_of_words {s w : Text} {ws : List Text} (h : words s = w :: ws) :
    ∃ t, s.dropWhile isBlank = w ++ t ∧ StopsAt (fun c => !isBlank c) t ∧ words t = ws ∧
      w ≠ [] := by
  have hs : s.takeWhile isBlank ++ s.dropWhile isBlank = s := List.takeWhile_append_dropWhile
  have hblanks : ∀ c ∈ s.takeWhile isBlank, isBlank c = true :=
    List.all_eq_true.mp List.all_takeWhile
  have hstops : StopsAt isBlank (s.dropWhile isBlank) := stopsAt_dropWhile s
  rw [← hs, words_blanks_append hblanks] at h
  generalize s.dropWhile isBlank = u at h hstops ⊢
  -- after the blanks the text goes on with the word, up to the next blank
  obtain ⟨v, t, rfl, hv, ht⟩ := exists_run u
  have hne : v ≠ [] := by
    rintro rfl
    cases t with
    | nil => cases h
    | cons c t => simpa [hstops c rfl] using ht c rfl
  obtain ⟨rfl, rfl⟩ := List.cons.inj ((words_run hne hv ht).symm.trans h)
  exact ⟨t, rfl, ht, rfl, hne⟩

/-- The characters of a text are blanks and the characters of its words. -/
theorem mem_words {c : Char} {s : Text} (h : c ∈ s) :
    isBlank c = true ∨ ∃ w ∈ words s, c ∈ w := by
  -- a character that was read before is in the word that is being read
  suffices hgo : ∀ word, c ∈ s ∨ c ∈ word → isBlank c = true ∨ ∃ w ∈ words.go word s, c ∈ w from
    hgo [] (.inl h)
  clear h
  induction s with
  | nil =>
    intro word hc
    have hword : c ∈ word := by simpa using hc
    cases word with
    | nil => cases hword
    | cons d r => exact .inr ⟨(d :: r).reverse, by simp [words.go], List.mem_reverse.mpr hword⟩
  | cons d r ih =>
    intro word hc
    rw [words.go]
    by_cases hd : isBlank d = true
    · rw [if_pos hd]
      have hrest : c ∈ r → isBlank c = true ∨ ∃ w ∈ words.go [] r, c ∈ w :=
        fun hc => ih [] (.inl hc)
      cases word with
      | nil =>
        rcases hc with hc | hc
        · rcases List.mem_cons.mp hc with rfl | hc
          · exact .inl hd
          · exact hrest hc
        · cases hc
      | cons e word =>
        rcases hc with hc | hc
        · rcases List.mem_cons.mp hc with rfl | hc
          · exact .inl hd
          · rcases hrest hc with hc | ⟨w, hw, hc⟩
            · exact .inl hc
            · exact .inr ⟨w, List.mem_cons_of_mem _ hw, hc⟩
        · exact .inr ⟨(e :: word).reverse, List.mem_cons_self, List.mem_reverse.mpr hc⟩
    · rw [if_neg hd]
      apply ih
      rcases hc with hc | hc
      · rcases List.mem_cons.mp hc with rfl | hc
        · exact .inr List.mem_cons_self
        · exact .inl hc
      · exact .inr (List.mem_cons_of_mem d hc)

/-- A text that begins with a character that is not blank has a first word. -/
theorem words_cons_ne_nil {c : Char} (hc : isBlank c = false) (s : Text) : words (c :: s) ≠ [] := by
  intro h
  rcases mem_words (List.mem_cons_self (a := c) (l := s)) with hblank | ⟨w, hw, -⟩
  · rw [hc] at hblank
    cases hblank
  · rw [h] at hw
    cases hw

/-! ## Blanks at the ends -/

/-- A text neither begins nor ends with a blank. -/
def Trimmed (s : Text) : Prop := StopsAt isBlank s ∧ StopsAt isBlank s.reverse

/-- A text that neither begins nor ends with characters of a class keeps its ends. -/
theorem trimWhile_eq_self {p : Char → Bool} {s : Text} (hstart : StopsAt p s)
    (hstop : StopsAt p s.reverse) : trimWhile p s = s := by
  rw [trimWhile, dropRightWhile, dropWhile_stops hstart, dropWhile_stops hstop,
    List.reverse_reverse]

theorem Trimmed.trim_eq {s : Text} (h : Trimmed s) : trim s = s := trimWhile_eq_self h.1 h.2

/-- A text that does not end with characters of a class keeps its end. -/
theorem dropRightWhile_append {p : Char → Bool} {u : Text} (hu : StopsAt p u.reverse) (s : Text) :
    dropRightWhile p (u ++ s) = u ++ dropRightWhile p s := by
  rw [dropRightWhile, dropRightWhile, List.reverse_append, List.dropWhile_append]
  split
  · next hempty =>
    rw [List.isEmpty_iff] at hempty
    rw [hempty, dropWhile_stops hu]
    simp
  · simp

/-- What is left after trimming neither begins nor ends with a blank. -/
theorem trimmed_trim (s : Text) : Trimmed (trim s) := by
  constructor
  · intro c hc
    have hprefix : trim s ++ takeRightWhile isBlank (trimLeft s) = trimLeft s :=
      dropRightWhile_append_takeRightWhile isBlank (trimLeft s)
    apply stopsAt_dropWhile s c
    rw [← trimLeft, ← hprefix, List.head?_append, hc]
    rfl
  · rw [trim, trimRight, dropRightWhile, List.reverse_reverse]
    exact stopsAt_dropWhile _

theorem mem_of_mem_trimWhile {p : Char → Bool} {s : Text} {c : Char}
    (h : c ∈ trimWhile p s) : c ∈ s :=
  (List.dropWhile_sublist p).mem
    (List.mem_reverse.1 ((List.dropWhile_sublist p).mem (List.mem_reverse.1 h)))

theorem trimLeft_append {s : Text} (h : isBlankText s = false) (t : Text) :
    trimLeft (s ++ t) = trimLeft s ++ t := by
  have hne : s.dropWhile isBlank ≠ [] := by
    rw [Ne, List.dropWhile_eq_nil_iff, ← isBlankText_iff, h]
    exact Bool.false_ne_true
  rw [trimLeft, List.dropWhile_append, if_neg (by simpa using hne), trimLeft]

theorem trimRight_append (s : Text) {t : Text} (h : isBlankText t = false) :
    trimRight (s ++ t) = s ++ trimRight t := by
  have hreverse : isBlankText t.reverse = false := by simpa [isBlankText] using h
  have hdrop := trimLeft_append hreverse s.reverse
  rw [trimLeft, trimLeft] at hdrop
  simp only [trimRight, dropRightWhile, List.reverse_append, hdrop, List.reverse_reverse]

/-- Nothing between texts that are not blank is trimmed. -/
theorem mem_trim {s t : Text} (hs : isBlankText s = false) (c : Char)
    (ht : isBlankText t = false) : c ∈ trim (s ++ c :: t) := by
  rw [trim, trimLeft_append hs, ← List.singleton_append, ← List.append_assoc,
    trimRight_append _ ht]
  simp

/-- Separators before a text add only empty pieces. -/
theorem splitOn_subset_append_left {sep : Char} {u : Text} (hu : ∀ c ∈ u, c = sep) (s : Text) :
    splitOn sep s ⊆ splitOn sep (u ++ s) := by
  induction u with
  | nil => exact List.Subset.refl _
  | cons c u ih =>
    obtain rfl := hu c List.mem_cons_self
    rw [List.cons_append, splitOn_cons_self]
    exact List.Subset.trans (ih fun d hd => hu d (List.mem_cons_of_mem c hd))
      (List.subset_cons_self ..)

/-- Separators after a text add only empty pieces. -/
theorem splitOn_subset_append_right {sep : Char} {u : Text} (hu : ∀ c ∈ u, c = sep) (s : Text) :
    splitOn sep s ⊆ splitOn sep (s ++ u) := by
  cases u with
  | nil =>
    rw [List.append_nil]
    exact List.Subset.refl _
  | cons c u =>
    obtain rfl := hu c List.mem_cons_self
    rw [splitOn_append_cons]
    exact List.subset_append_left ..

/-- Taking separators away from the ends of a text makes no new piece. -/
theorem splitOn_trimWhile_subset (sep : Char) (s : Text) :
    splitOn sep (trimWhile (· == sep) s) ⊆ splitOn sep s := by
  have hbefore : ∀ c ∈ s.takeWhile (· == sep), c = sep := fun c hc =>
    eq_of_beq (List.all_eq_true.mp List.all_takeWhile c hc)
  have hafter : ∀ c ∈ takeRightWhile (· == sep) (s.dropWhile (· == sep)), c = sep :=
    fun c hc => by simpa using mem_takeRightWhile hc
  have hleft := splitOn_subset_append_left hbefore (s.dropWhile (· == sep))
  have hright := splitOn_subset_append_right hafter (trimWhile (· == sep) s)
  rw [List.takeWhile_append_dropWhile] at hleft
  rw [trimWhile, dropRightWhile_append_takeRightWhile, ← trimWhile] at hright
  exact List.Subset.trans hright hleft

/-! ## Characters left out -/

theorem without_eq_self {c : Char} {s : Text} (h : c ∉ s) : without c s = s :=
  List.filter_eq_self.2 fun d hd => by simpa using fun hdc : d = c => h (hdc ▸ hd)

theorem forall_mem_without {c : Char} {s : Text} {p : Char → Prop} (h : ∀ d ∈ s, p d) :
    ∀ d ∈ without c s, p d := fun d hd => h d ((List.mem_filter.mp hd).1)

theorem without_append (c : Char) (s t : Text) :
    without c (s ++ t) = without c s ++ without c t := List.filter_append ..

end ReplDriver.Text
