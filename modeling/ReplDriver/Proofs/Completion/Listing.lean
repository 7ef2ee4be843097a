import Mathlib.Algebra.Order.BigOperators.Group.List
import Mathlib.Algebra.Order.Group.Nat
import ReplDriver.Proofs.Completion.Previews

/-!
# Reading a listing back

The REPL lists candidates on lines of their own, with blanks between those of a line. Before them
stands the line that was typed and after them the redrawn prompt, and under any of the lines there
may be previews. What is read back are the candidates in their order, unless some of them were held
apart by carriage returns only: these are dropped before anything is read.

* `listed_join`: the candidates of some lines are the words of those between the first and the last.
* `words_shownCells`, `length_words_shownCells_lt`: what is read of one line.
* `Listing`: a listing as the REPL draws it.
* `Listing.shownText_reply`: what of it is shown.
* `candidates_listing`: a listing is read back exactly when its candidates are held apart.
-/

namespace ReplDriver.Completion

open Text (words isBlankText)

/-! ## Blank lines -/

section

variable {row s : Text}

@[simp] theorem collapseBlankLines_nil : collapseBlankLines [] = [] := by rw [collapseBlankLines]

theorem collapseBlankLines_cons {c : Char} (h : c ≠ '\n') (s : Text) :
    collapseBlankLines (c :: s) = c :: collapseBlankLines s := by
  rw [collapseBlankLines, if_neg (by simp [h])]

theorem collapseBlankLines_append (h : '\n' ∉ row) (s : Text) :
    collapseBlankLines (row ++ s) = row ++ collapseBlankLines s := by
  induction row with
  | nil => rfl
  | cons c r ih =>
    rw [List.cons_append, collapseBlankLines_cons (Ne.symm (List.ne_of_not_mem_cons h)),
      ih (List.not_mem_of_not_mem_cons h), List.cons_append]

/-- A blank line is dropped together with the line feed before it. -/
theorem collapseBlankLines_blank (hfeed : '\n' ∉ row) (hblank : isBlankText row = true) (s : Text) :
    collapseBlankLines ('\n' :: (row ++ '\n' :: s)) = collapseBlankLines ('\n' :: s) := by
  have hinline : ∀ c ∈ row, isInlineBlank c = true := by
    intro c hc
    have hne : c ≠ '\n' := fun heq => hfeed (heq ▸ hc)
    simp [isInlineBlank, Text.isBlankText_iff.mp hblank c hc, hne]
  have hdrop := Text.dropWhile_run hinline (.cons (c := '\n') (by decide) s)
  rw [collapseBlankLines, hdrop]
  exact if_pos (by simp)

/-- A line that is not blank keeps the line feed before it. -/
theorem collapseBlankLines_row (hfeed : '\n' ∉ row) (hshown : isBlankText row = false) (s : Text) :
    collapseBlankLines ('\n' :: (row ++ s)) = '\n' :: (row ++ collapseBlankLines s) := by
  obtain ⟨c, hc, hblank⟩ := List.all_eq_false.mp hshown
  have hne : row.dropWhile isInlineBlank ≠ [] := by
    rw [Ne, List.dropWhile_eq_nil_iff]
    intro hall
    have hinline := hall c hc
    simp [isInlineBlank, hblank] at hinline
  have hhead : ((row ++ s).dropWhile isInlineBlank).head? ≠ some '\n' := by
    rw [List.dropWhile_append, if_neg (by simpa using hne), List.head?_append_of_ne_nil _ hne]
    exact fun h => hfeed ((List.dropWhile_sublist _).mem (List.mem_of_mem_head? h))
  rw [collapseBlankLines, if_neg (by simpa using hhead), collapseBlankLines_append hfeed]

/-- Of lines before one that is not blank those stay that are not blank either. -/
theorem collapseBlankLines_rows {rows : List Text} {last : Text} (hrows : ∀ row ∈ rows, '\n' ∉ row)
    (hfeed : '\n' ∉ last) (hshown : isBlankText last = false) :
    collapseBlankLines ((rows ++ [last]).flatMap ('\n' :: ·)) =
      (rows.filter (!isBlankText ·) ++ [last]).flatMap ('\n' :: ·) := by
  induction rows with
  | nil => simpa using collapseBlankLines_row hfeed hshown []
  | cons row rows ih =>
    have hrow := hrows row List.mem_cons_self
    have ih := ih fun r hr => hrows r (List.mem_cons_of_mem row hr)
    obtain ⟨s, hs⟩ : ∃ s, (rows ++ [last]).flatMap ('\n' :: ·) = '\n' :: s := by
      cases rows <;> exact ⟨_, rfl⟩
    rw [List.cons_append, List.flatMap_cons, List.cons_append]
    cases hblank : isBlankText row with
    | true =>
      rw [List.filter_cons_of_neg (by simp [hblank]), ← ih, hs]
      exact collapseBlankLines_blank hrow hblank s
    | false =>
      rw [List.filter_cons_of_pos (by simp [hblank]), collapseBlankLines_row hrow hblank, ih,
        List.cons_append, List.flatMap_cons, List.cons_append]

/-- Blank lines hold no words. -/
theorem flatMap_words_filter (rows : List Text) :
    (rows.filter (!isBlankText ·)).flatMap words = rows.flatMap words := by
  induction rows with
  | nil => rfl
  | cons row rows ih =>
    rw [List.flatMap_cons, ← ih]
    cases hblank : isBlankText row with
    | true =>
      rw [List.filter_cons_of_neg (by simp [hblank]),
        Text.words_blanks (Text.isBlankText_iff.mp hblank), List.nil_append]
    | false => rw [List.filter_cons_of_pos (by simp [hblank]), List.flatMap_cons]

/-- The candidates of some lines are the words of those between the first and the last, if the last
is not blank. -/
theorem listed_join {first last : Text} {rows : List Text} (hfirst : '\n' ∉ first)
    (hrows : ∀ row ∈ rows, '\n' ∉ row) (hfeed : '\n' ∉ last) (hshown : isBlankText last = false) :
    listed (Text.join ['\n'] (first :: (rows ++ [last]))) = rows.flatMap words := by
  have hlast : '\n' ∉ Text.trimRight last := by
    rw [Text.trimRight, Text.dropRightWhile, List.mem_reverse]
    exact fun h => hfeed (List.mem_reverse.mp ((List.dropWhile_sublist _).mem h))
  generalize hkept : rows.filter (!isBlankText ·) = kept
  have htext : Text.trimRight (collapseBlankLines (Text.join ['\n'] (first :: (rows ++ [last])))) =
      Text.join ['\n'] (first :: (kept ++ [Text.trimRight last])) := by
    rw [Text.join_cons, Text.join_cons, collapseBlankLines_append hfirst,
      collapseBlankLines_rows hrows hfeed hshown, hkept]
    -- what is trimmed is the end of the last line
    have htrim := Text.trimRight_append (first ++ kept.flatMap ('\n' :: ·) ++ ['\n']) hshown
    simpa using htrim
  have hlines : ∀ line ∈ first :: (kept ++ [Text.trimRight last]), '\n' ∉ line := by
    intro line hline
    rcases List.mem_cons.mp hline with rfl | hline
    · exact hfirst
    · rcases List.mem_append.mp hline with hline | hline
      · rw [← hkept] at hline
        exact hrows line (List.mem_of_mem_filter hline)
      · rwa [List.mem_singleton.mp hline]
  rw [listed, htext, Text.splitOn_join (List.cons_ne_nil _ _) hlines, ← flatMap_words_filter rows,
    hkept]
  simp

end

/-! ## A line of a listing -/

/-- A candidate as it is listed, with the blanks after it. -/
structure Cell where
  candidate : Text
  gap : Text
  candidate_ne_nil : candidate ≠ []
  candidate_plain : ∀ c ∈ candidate, Text.isBlank c = false ∧ c ≠ '\x1b'
  gap_blank : ∀ c ∈ gap, isInlineBlank c = true

/-- A line of a listing. Between two candidates there is always a blank; a line without candidates
is blank. -/
structure ListingLine where
  indent : Text
  cells : List Cell
  indent_blank : ∀ c ∈ indent, isInlineBlank c = true
  gaps : ∀ cell ∈ cells.dropLast, cell.gap ≠ []

/-- Between any two candidates there is a blank that is not a carriage return. -/
def HeldApart (cells : List Cell) : Prop := ∀ cell ∈ cells.dropLast, ∃ c ∈ cell.gap, c ≠ '\r'

/-- A candidate as it is shown: no carriage return is left after it. -/
def Cell.shown (cell : Cell) : Text := cell.candidate ++ Text.without '\r' cell.gap

namespace ListingLine

/-- A line as it is written. -/
def text (line : ListingLine) : Text :=
  line.indent ++ line.cells.flatMap fun cell => cell.candidate ++ cell.gap

/-- The candidates of a line, from left to right. -/
def candidates (line : ListingLine) : List Text := line.cells.map Cell.candidate

/-- A line holds neither line feeds nor escape characters. -/
theorem plain_text (line : ListingLine) : ∀ c ∈ line.text, c ≠ '\n' ∧ c ≠ '\x1b' := by
  have hblank {c : Char} (h : isInlineBlank c = true) : c ≠ '\n' ∧ c ≠ '\x1b' := by
    constructor <;> rintro rfl <;> exact absurd h (by decide)
  intro c hc
  rcases List.mem_append.mp hc with hc | hc
  · exact hblank (line.indent_blank c hc)
  · obtain ⟨cell, -, hc⟩ := List.mem_flatMap.mp hc
    rcases List.mem_append.mp hc with hc | hc
    · obtain ⟨hword, hescape⟩ := cell.candidate_plain c hc
      refine ⟨?_, hescape⟩
      rintro rfl
      cases hword
    · exact hblank (cell.gap_blank c hc)

theorem feed_not_mem (line : ListingLine) : '\n' ∉ line.text :=
  fun h => (line.plain_text _ h).1 rfl

theorem escape_not_mem (line : ListingLine) : '\x1b' ∉ line.text :=
  fun h => (line.plain_text _ h).2 rfl

end ListingLine

theorem isBlank_of_isInlineBlank {c : Char} (h : isInlineBlank c = true) :
    Text.isBlank c = true := (Bool.and_eq_true_iff.mp h).1

theorem Cell.without_text (cell : Cell) :
    Text.without '\r' (cell.candidate ++ cell.gap) = cell.shown := by
  have hcandidate : '\r' ∉ cell.candidate := fun h =>
    absurd (cell.candidate_plain _ h).1 (by decide)
  rw [Text.without_append, Text.without_eq_self hcandidate, Cell.shown]

/-- The words that a line shows are those of its candidates, where what held them apart is shown. -/
theorem words_shownLine (line : ListingLine) :
    words (shownLine line.text) = words (line.cells.flatMap Cell.shown) := by
  have hindent : ∀ c ∈ Text.without '\r' line.indent, Text.isBlank c = true :=
    Text.forall_mem_without fun c hc => isBlank_of_isInlineBlank (line.indent_blank c hc)
  have hcells : Text.without '\r' (line.cells.flatMap fun cell => cell.candidate ++ cell.gap) =
      line.cells.flatMap Cell.shown := by
    rw [Text.without, List.filter_flatMap]
    exact List.flatMap_congr fun cell _ => cell.without_text
  rw [shownLine, Terminal.stripControl_eq_self line.escape_not_mem, ListingLine.text,
    Text.without_append, Text.words_blanks_append hindent, hcells]

/-! ### The words of a line -/

section

variable {cell next : Cell} {cells : List Cell}

theorem heldApart_cons_cons : HeldApart (cell :: next :: cells) ↔
    (∃ c ∈ cell.gap, c ≠ '\r') ∧ HeldApart (next :: cells) := by
  rw [HeldApart, List.dropLast_cons_cons, List.forall_mem_cons, HeldApart]

theorem Cell.candidate_word (cell : Cell) : ∀ c ∈ cell.candidate, Text.isBlank c = false :=
  fun c hc => (cell.candidate_plain c hc).1

theorem Cell.shown_gap_blank (cell : Cell) :
    ∀ c ∈ Text.without '\r' cell.gap, Text.isBlank c = true :=
  Text.forall_mem_without fun c hc => isBlank_of_isInlineBlank (cell.gap_blank c hc)

theorem Cell.words_shown (cell : Cell) : words cell.shown = [cell.candidate] := by
  have hstops : Text.StopsAt (fun c => !Text.isBlank c) (Text.without '\r' cell.gap) := by
    intro c hc
    simp [cell.shown_gap_blank c (List.mem_of_mem_head? hc)]
  rw [Cell.shown, Text.words_run cell.candidate_ne_nil cell.candidate_word hstops,
    Text.words_blanks cell.shown_gap_blank]

/-- A candidate is a word where it is held apart from what comes after it. -/
theorem Cell.words_shown_append (h : ∃ c ∈ cell.gap, c ≠ '\r') (s : Text) :
    words (cell.shown ++ s) = cell.candidate :: words s := by
  have hgap : Text.without '\r' cell.gap ≠ [] := by
    simpa [Text.without, List.filter_eq_nil_iff] using h
  rw [Cell.shown, List.append_assoc,
    Text.words_word_append cell.candidate_ne_nil cell.candidate_word hgap cell.shown_gap_blank]

/-- A candidate goes on in the next one where only carriage returns stand between them. -/
theorem Cell.length_words_shown_append (h : ¬ ∃ c ∈ cell.gap, c ≠ '\r') (next : Cell) (s : Text) :
    (words (cell.shown ++ (next.shown ++ s))).length = (words (next.shown ++ s)).length := by
  have hgap : Text.without '\r' cell.gap = [] := without_returns (by simpa using h)
  obtain ⟨c, r, hnext⟩ := List.exists_cons_of_ne_nil next.candidate_ne_nil
  have hc := next.candidate_word c (hnext ▸ List.mem_cons_self)
  rw [Cell.shown, hgap, List.append_nil, Cell.shown, hnext]
  exact Text.length_words_append_cons cell.candidate_word hc _

/-- Candidates that are held apart are the words of what is shown of them. -/
theorem words_shownCells (h : HeldApart cells) :
    words (cells.flatMap Cell.shown) = cells.map Cell.candidate := by
  induction cells with
  | nil => rfl
  | cons cell cells ih =>
    cases cells with
    | nil => rw [List.flatMap_singleton, cell.words_shown]; rfl
    | cons next cells =>
      obtain ⟨hcell, hcells⟩ := heldApart_cons_cons.mp h
      rw [List.flatMap_cons, Cell.words_shown_append hcell, ih hcells]
      rfl

/-- There are no more words than candidates. -/
theorem length_words_shownCells_le (cells : List Cell) :
    (words (cells.flatMap Cell.shown)).length ≤ cells.length := by
  induction cells with
  | nil => exact Nat.zero_le _
  | cons cell cells ih =>
    have hcell := Text.length_words_append_le cell.candidate_ne_nil cell.candidate_word
      (Text.without '\r' cell.gap ++ cells.flatMap Cell.shown)
    rw [Text.words_blanks_append cell.shown_gap_blank, ← List.append_assoc] at hcell
    rw [List.flatMap_cons, List.length_cons]
    exact hcell.trans (Nat.succ_le_succ ih)

/-- There are fewer words than candidates where some of them are not held apart. -/
theorem length_words_shownCells_lt (h : ¬ HeldApart cells) :
    (words (cells.flatMap Cell.shown)).length < cells.length := by
  induction cells with
  | nil => exact absurd (by simp [HeldApart]) h
  | cons cell cells ih =>
    cases cells with
    | nil => exact absurd (by simp [HeldApart]) h
    | cons next cells =>
      by_cases hcell : ∃ c ∈ cell.gap, c ≠ '\r'
      · have hcells := ih fun hcells => h (heldApart_cons_cons.mpr ⟨hcell, hcells⟩)
        rw [List.flatMap_cons, Cell.words_shown_append hcell, List.length_cons, List.length_cons]
        exact Nat.succ_lt_succ hcells
      · have hle := length_words_shownCells_le (next :: cells)
        rw [List.flatMap_cons] at hle
        rw [List.flatMap_cons, List.flatMap_cons, Cell.length_words_shown_append hcell]
        exact Nat.lt_succ_of_le hle

end

/-! ## A listing -/

/-- A listing as the REPL draws it: the line that was typed, lines with candidates and blank lines,
and the prompt. -/
structure Listing where
  echo : Text
  echoEnd : Ending
  lines : List (ListingLine × Ending)
  prompt : Text
  promptPreviews : List Preview
  echo_line : '\n' ∉ echo
  prompt_line : '\n' ∉ prompt
  prompt_shown : isBlankText (Terminal.stripControl prompt) = false
  /-- The prompt is not taken for the beginning of a preview. -/
  prompt_dimmed : ¬ Dimmed prompt
  lists : ∃ line ∈ lines, line.1.cells ≠ []

namespace Listing

/-- The prompt as it is drawn, perhaps with previews under it. -/
def drawnPrompt (listing : Listing) : Text :=
  listing.prompt ++ listing.promptPreviews.flatMap Preview.text

/-- A listing as it is written. -/
def reply (listing : Listing) : Text :=
  listing.echo ++ (listing.echoEnd.text ++
    (listing.lines.flatMap (fun line => line.1.text ++ line.2.text) ++ listing.drawnPrompt))

/-- All the candidates, in reading order. -/
def candidates (listing : Listing) : List Text :=
  listing.lines.flatMap fun line => line.1.candidates

end Listing

/-! ### What a listing shows -/

theorem feed_not_mem_shownLine {line : Text} (h : '\n' ∉ line) : '\n' ∉ shownLine line :=
  fun hshown => h (Terminal.stripControl_subset line (List.mem_of_mem_filter hshown))

/-- A line that is not blank without control sequences shows something. -/
theorem isBlankText_shownLine {line : Text} (h : isBlankText (Terminal.stripControl line) = false) :
    isBlankText (shownLine line) = false := by
  obtain ⟨c, hc, hblank⟩ := List.all_eq_false.mp h
  refine List.all_eq_false.mpr ⟨c, List.mem_filter.mpr ⟨hc, ?_⟩, hblank⟩
  have hne : c ≠ '\r' := by
    rintro rfl
    exact hblank (by decide)
  simpa using hne

/-- A line with a candidate shows something. -/
theorem isBlankText_listingLine {line : ListingLine} (h : line.cells ≠ []) :
    isBlankText (shownLine line.text) = false := by
  obtain ⟨cell, cells, hcells⟩ := List.exists_cons_of_ne_nil h
  obtain ⟨c, r, hcandidate⟩ := List.exists_cons_of_ne_nil cell.candidate_ne_nil
  have hc := cell.candidate_word c (hcandidate ▸ List.mem_cons_self)
  apply isBlankText_shownLine
  rw [Terminal.stripControl_eq_self line.escape_not_mem]
  refine List.all_eq_false.mpr ⟨c, ?_, by simp [hc]⟩
  simp [ListingLine.text, hcells, hcandidate]

section

variable {s : Text}

/-- A listing is not taken for the rest of a preview. -/
theorem not_dimmed_lines (lines : List (ListingLine × Ending)) (hs : ¬ Dimmed s) :
    ¬ Dimmed (lines.flatMap (fun line => line.1.text ++ line.2.text) ++ s) := by
  cases lines with
  | nil => exact hs
  | cons line lines =>
    rw [List.flatMap_cons, List.append_assoc, List.append_assoc]
    exact not_dimmed_append_end (not_dimmed_of_escape_not_mem line.1.escape_not_mem)
      (line.2.endsLine _)

/-- The lines of a listing are shown one after another, each behind a line feed. -/
theorem shownText_lines (lines : List (ListingLine × Ending)) (hs : ¬ Dimmed s) :
    '\n' :: shownText (lines.flatMap (fun line => line.1.text ++ line.2.text) ++ s) =
      (lines.map fun line => shownLine line.1.text).flatMap ('\n' :: ·) ++ '\n' :: shownText s := by
  induction lines with
  | nil => rfl
  | cons line lines ih =>
    have hline := shownText_line line.1.feed_not_mem line.2 (not_dimmed_lines lines hs)
    rw [List.flatMap_cons, List.append_assoc, List.append_assoc, hline, ih, List.map_cons,
      List.flatMap_cons]
    simp only [List.cons_append, List.append_assoc]

end

namespace Listing

variable (listing : Listing)

theorem not_dimmed_drawnPrompt : ¬ Dimmed listing.drawnPrompt := by
  have hends := endsLine_previews listing.promptPreviews .nil
  rw [List.append_nil] at hends
  exact not_dimmed_append_end listing.prompt_dimmed hends

theorem shownText_drawnPrompt : shownText listing.drawnPrompt = shownLine listing.prompt := by
  have hprompt := shownText_previews listing.prompt_line listing.promptPreviews noPreview_nil
    .nil
  rwa [List.append_nil, shownText_nil, List.append_nil] at hprompt

/-- What is shown of the lines with candidates. -/
def rows : List Text := listing.lines.map fun line => shownLine line.1.text

/-- A listing shows its lines, without previews, control sequences and carriage returns. -/
theorem shownText_reply : shownText listing.reply =
    Text.join ['\n'] (shownLine listing.echo :: (listing.rows ++ [shownLine listing.prompt])) := by
  have hecho := shownText_line listing.echo_line listing.echoEnd
    (not_dimmed_lines listing.lines listing.not_dimmed_drawnPrompt)
  rw [reply, hecho, shownText_lines listing.lines listing.not_dimmed_drawnPrompt,
    shownText_drawnPrompt, Text.join_cons, List.flatMap_append, rows]
  simp

theorem feed_not_mem_rows : ∀ row ∈ listing.rows, '\n' ∉ row := by
  intro row hrow
  obtain ⟨line, -, rfl⟩ := List.mem_map.mp hrow
  exact feed_not_mem_shownLine line.1.feed_not_mem

/-- Between the candidates of a listing and its prompt there is a line feed. -/
theorem feed_mem_trim : '\n' ∈ Text.trim (shownText listing.reply) := by
  have hprompt := isBlankText_shownLine listing.prompt_shown
  have hrows :
      isBlankText (shownLine listing.echo ++ listing.rows.flatMap ('\n' :: ·)) = false := by
    obtain ⟨line, hline, hcells⟩ := listing.lists
    obtain ⟨c, hc, hblank⟩ := List.all_eq_false.mp (isBlankText_listingLine hcells)
    refine List.all_eq_false.mpr ⟨c, List.mem_append_right _ (List.mem_flatMap.mpr ?_), hblank⟩
    exact ⟨_, List.mem_map_of_mem hline, List.mem_cons_of_mem _ hc⟩
  have htrim := Text.mem_trim hrows '\n' hprompt
  rw [shownText_reply, Text.join_cons, List.flatMap_append]
  simpa using htrim

/-- Of a listing the words of its lines are read. -/
theorem candidates_reply (token : Text) : Completion.candidates listing.reply token =
    listing.lines.flatMap fun line => words (line.1.cells.flatMap Cell.shown) := by
  rw [Completion.candidates, if_pos (List.elem_eq_true_of_mem listing.feed_mem_trim),
    shownText_reply, listed_join (feed_not_mem_shownLine listing.echo_line)
      listing.feed_not_mem_rows (feed_not_mem_shownLine listing.prompt_line)
      (isBlankText_shownLine listing.prompt_shown), rows, List.flatMap_map]
  exact List.flatMap_congr fun line _ => words_shownLine line.1

end Listing

/-! ## Reading a listing back -/

/-- A listing is read back exactly, whatever was typed, if any two candidates of a line are held
apart by a blank that is not a carriage return, and otherwise it is not. -/
theorem candidates_listing (listing : Listing) (token : Text) :
    candidates listing.reply token = listing.candidates ↔
      ∀ line ∈ listing.lines, HeldApart line.1.cells := by
  rw [listing.candidates_reply, Listing.candidates]
  constructor
  · intro h line hline
    by_contra hjoined
    -- a line whose candidates are not held apart lacks a word, and no other line makes up for it
    have hshort : (listing.lines.map fun line =>
          (words (line.1.cells.flatMap Cell.shown)).length).sum <
        (listing.lines.map fun line => line.1.candidates.length).sum := by
      refine List.sum_lt_sum _ _ (fun other _ => ?_) ⟨line, hline, ?_⟩
      · simpa [ListingLine.candidates] using length_words_shownCells_le other.1.cells
      · simpa [ListingLine.candidates] using length_words_shownCells_lt hjoined
    have hlength := congrArg List.length h
    rw [List.length_flatMap, List.length_flatMap] at hlength
    exact Nat.ne_of_lt hshort hlength
  · intro h
    exact List.flatMap_congr fun line hline => words_shownCells (h line hline)

/-- A listing of `foo` and `bar` with only a carriage return between them. -/
def returnListing : Listing where
  echo := "e"
  echoEnd := ⟨[], [], by simp⟩
  lines := [(⟨[], [
    ⟨"foo", "\r", by simp, by simp [Text.isBlank], by simp [isInlineBlank, Text.isBlank]⟩,
    ⟨"bar", [], by simp, by simp [Text.isBlank], by simp⟩], by simp, by simp⟩, ⟨[], [], by simp⟩)]
  prompt := "> "
  promptPreviews := []
  echo_line := by simp
  prompt_line := by simp
  prompt_shown := by simp [isBlankText, Text.isBlank]
  prompt_dimmed := not_dimmed_of_escape_not_mem (by simp)
  lists := by simp

/-- The two candidates are read as one. -/
theorem candidates_returnListing : returnListing.reply = "e\nfoo\rbar\n> ".toList ∧
    returnListing.candidates = ["foo".toList, "bar".toList] ∧
    candidates returnListing.reply "e" = ["foobar".toList] := by
  decide +kernel

end ReplDriver.Completion
