import ReplDriver.Proofs.Text.Cutting
import ReplDriver.Terminal.Capture
import ReplDriver.Terminal.Prompt

/-!
# The last terminal line, over whole texts

A capture keeps its last line chunk by chunk. Here the last line is defined on a whole text: cut
the text at its line ends, look at each line as the terminal shows it, and take the last that
shows something. However a text is cut into chunks, the two agree.

* `Capture.Tracks.lastLine`: the last line of a capture is the last line of the captured text.
* `hasPrompt_iff`: a line holds a drawn prompt exactly when the prompt is written in it, with its
  lead before it and a move of the cursor to a column after it.
-/

namespace ReplDriver

namespace Terminal

/-! ## The last line of a text -/

/-- The lines of a text. A line ends at a line feed, or at a carriage return and a line feed. -/
def lines : Text → List Text
  | [] => [[]]
  | '\r' :: '\n' :: r => [] :: lines r
  | '\n' :: r => [] :: lines r
  | c :: r =>
    match lines r with
    | [] => [[c]]
    | line :: rest => (c :: line) :: rest

/-- The last line of a text that shows something, empty if no line does. -/
def lastLineOf (s : Text) : Text :=
  (((lines s).map shownLine).filter fun line => !line.isEmpty).getLastD []

theorem lines_ne_nil (s : Text) : lines s ≠ [] := by
  unfold lines
  split
  · simp
  · simp
  · simp
  · split <;> simp

/-- A character before a line is lost with the carriage returns at the line's end only if it is one
of them. -/
theorem dropReturns_cons (c : Char) (line : Text) :
    Text.dropRightWhile (· == '\r') (c :: line) =
      if (Text.dropRightWhile (· == '\r') line).isEmpty && c == '\r' then []
      else c :: Text.dropRightWhile (· == '\r') line := by
  rw [Text.dropRightWhile, Text.dropRightWhile, List.reverse_cons, List.dropWhile_append]
  generalize line.reverse.dropWhile (· == '\r') = kept
  cases kept with
  | nil => by_cases hc : c = '\r' <;> simp [hc]
  | cons d r => simp

/-- Cutting at line feeds alone leaves the lines as they are, but for carriage returns at their
ends. -/
theorem dropReturns_lines (s : Text) :
    (lines s).map (Text.dropRightWhile (· == '\r')) =
      (Text.splitOn '\n' s).map (Text.dropRightWhile (· == '\r')) := by
  induction s using lines.induct with
  | case1 => rfl
  | case2 r ih =>
    -- the carriage return of a line end stays with the piece, and is dropped at its end
    obtain ⟨piece, rest, h, hr⟩ := Text.splitOn_cons_ne (show '\r' ≠ '\n' by decide)
      ('\n' :: r)
    rw [Text.splitOn_cons_self] at h
    obtain ⟨rfl, rfl⟩ := List.cons.inj h
    rw [hr, lines, List.map_cons, List.map_cons, ih, dropReturns_cons]
    rfl
  | case3 r ih =>
    rw [Text.splitOn_cons_self, lines, List.map_cons, List.map_cons, ih]
  | case4 c r hreturn hfeed h ih => exact absurd h (lines_ne_nil r)
  | case5 c r hreturn hfeed line rest h ih =>
    obtain ⟨piece, more, hp, hr⟩ := Text.splitOn_cons_ne (fun hc => hfeed hc) r
    have hlines : lines (c :: r) = (c :: line) :: rest := by
      unfold lines
      split <;> simp_all
    rw [h, hp, List.map_cons, List.map_cons] at ih
    obtain ⟨hline, hrest⟩ := List.cons.inj ih
    rw [hlines, hr, List.map_cons, List.map_cons, dropReturns_cons, dropReturns_cons, hline, hrest]

/-- The last line that shows something may as well be looked for among the pieces between line
feeds. -/
theorem lastLineOf_eq (s : Text) :
    lastLineOf s =
      (((Text.splitOn '\n' s).map shownLine).filter fun line => !line.isEmpty).getLastD [] := by
  have hshown : shownLine =
      (fun line => if endsWithCursorUp line then [] else line) ∘
        Text.dropRightWhile (· == '\r') := rfl
  rw [lastLineOf, hshown, ← List.map_map, ← List.map_map, dropReturns_lines]

/-- Taking the later line that shows something, line by line, ends with the last that does. -/
theorem foldl_laterLine (earlier : Text) (pieces : List Text) :
    pieces.foldl laterLine earlier =
      ((pieces.map shownLine).filter fun line => !line.isEmpty).getLastD earlier := by
  induction pieces generalizing earlier with
  | nil => rfl
  | cons line rest ih =>
    rw [List.foldl_cons, ih, laterLine]
    -- a line that shows nothing leaves the earlier one in place
    by_cases h : (shownLine line).isEmpty = true
    · simp [h]
    · rw [if_neg h, List.map_cons, List.filter_cons_of_pos (by simpa using h), List.getLastD_cons]

/-! ## What ends a line and what a line holds -/

/-- A line is left by the cursor exactly when it ends in a move of the cursor upwards. -/
theorem endsWithCursorUp_iff {line : Text} :
    endsWithCursorUp line = true ↔
      ∃ before digits : Text, (∀ c ∈ digits, Text.isDecimal c = true) ∧
        line = before ++ '\x1b' :: '[' :: (digits ++ ['A']) := by
  constructor
  · intro h
    unfold endsWithCursorUp at h
    split at h
    · next r hr =>
      split at h
      · next before hb =>
        have hline : line = ('A' :: r).reverse := by rw [← hr, List.reverse_reverse]
        refine ⟨before.reverse, (r.takeWhile Text.isDecimal).reverse, ?_, ?_⟩
        · intro c hc
          exact List.all_eq_true.mp List.all_takeWhile c (List.mem_reverse.mp hc)
        · have hr := List.takeWhile_append_dropWhile (p := Text.isDecimal) (l := r)
          rw [hb] at hr
          rw [hline, List.reverse_cons, ← congrArg List.reverse hr]
          simp only [List.reverse_append, List.reverse_cons, List.append_assoc, List.cons_append,
            List.nil_append]
      · cases h
    · cases h
  · rintro ⟨before, digits, hdigits, rfl⟩
    have hrun : (digits.reverse ++ '[' :: '\x1b' :: before.reverse).dropWhile Text.isDecimal =
        '[' :: '\x1b' :: before.reverse :=
      Text.dropWhile_run (fun c hc => hdigits c (List.mem_reverse.mp hc)) (.cons (by decide) _)
    have hreverse : (before ++ '\x1b' :: '[' :: (digits ++ ['A'])).reverse =
        'A' :: (digits.reverse ++ '[' :: '\x1b' :: before.reverse) := by simp
    unfold endsWithCursorUp
    rw [hreverse]
    simp only [hrun]

/-- A text begins with a move of the cursor to a column. -/
def ColumnMove (s rest : Text) : Prop :=
  ∃ digits : Text, digits ≠ [] ∧ (∀ c ∈ digits, Text.isDecimal c = true) ∧
    s = '\x1b' :: '[' :: (digits ++ 'G' :: rest)

theorem columnMove?_eq_some {s rest : Text} : columnMove? s = some rest ↔ ColumnMove s rest := by
  constructor
  · intro h
    unfold columnMove? at h
    split at h
    · next c r =>
      split at h
      · next hc =>
        split at h
        · next after hr =>
          cases h
          refine ⟨c :: r.takeWhile Text.isDecimal, by simp, ?_, ?_⟩
          · intro d hd
            rcases List.mem_cons.mp hd with rfl | hd
            · exact hc
            · exact List.all_eq_true.mp List.all_takeWhile d hd
          · rw [List.cons_append, ← hr, List.takeWhile_append_dropWhile]
        · cases h
      · cases h
    · cases h
  · rintro ⟨digits, hne, hdigits, rfl⟩
    obtain ⟨c, r, rfl⟩ := List.exists_cons_of_ne_nil hne
    have hrun : (r ++ 'G' :: rest).dropWhile Text.isDecimal = 'G' :: rest :=
      Text.dropWhile_run (fun d hd => hdigits d (List.mem_cons_of_mem c hd)) (.cons (by decide) _)
    simp [columnMove?, hdigits c List.mem_cons_self, hrun]

/-- The last line of a text is one line. -/
theorem not_mem_lastLineOf (s : Text) : '\n' ∉ lastLineOf s := by
  rw [lastLineOf_eq, List.getLastD_eq_getLast?]
  generalize hlast : (((Text.splitOn '\n' s).map shownLine).filter
    fun line => !line.isEmpty).getLast? = last
  cases last with
  | none => exact List.not_mem_nil
  | some line =>
    obtain ⟨piece, hpiece, rfl⟩ :=
      List.mem_map.mp (List.mem_filter.mp (List.mem_of_getLast? hlast)).1
    have hfeed := Text.not_mem_splitOn '\n' hpiece
    -- what a line shows is the beginning of the line, or nothing
    have hkept : '\n' ∉ Text.dropRightWhile (· == '\r') piece := fun h =>
      hfeed (List.mem_reverse.mp ((List.dropWhile_sublist _).mem (List.mem_reverse.mp h)))
    rw [Option.getD_some, shownLine]
    split
    · exact List.not_mem_nil
    · exact hkept

/-- A line that ends in a move of the cursor to a column is shown as it is. -/
theorem shownLine_move (line : Text) : shownLine (line ++ ['G']) = line ++ ['G'] := by
  have hkept : Text.dropRightWhile (· == '\r') (line ++ ['G']) = line ++ ['G'] := by
    simp [Text.dropRightWhile]
  have hup : endsWithCursorUp (line ++ ['G']) = false := by simp [endsWithCursorUp]
  rw [shownLine, hkept, hup]
  rfl

/-- A text that ends in a move of the cursor to a column has what stands before the move at the end
of its last line. -/
theorem lastLineOf_move (before : Text) {line : Text} (h : '\n' ∉ line) :
    ∃ start, lastLineOf (before ++ (line ++ ['G'])) = start ++ (line ++ ['G']) := by
  have hpiece : '\n' ∉ (Text.splitOn '\n' before).getLastD [] ++ (line ++ ['G']) := by
    have hne := Text.splitOn_ne_nil '\n' before
    have hlast := Text.not_mem_splitOn '\n' (List.getLast_mem hne)
    rw [List.getLastD_eq_getLast?, List.getLast?_eq_some_getLast hne]
    simp [h, hlast]
  refine ⟨(Text.splitOn '\n' before).getLastD [], ?_⟩
  rw [lastLineOf_eq, Text.splitOn_append, Text.splitOn_of_not_mem hpiece, List.map_append,
    List.filter_append, List.map_singleton, ← List.append_assoc, shownLine_move,
    List.filter_cons_of_pos (by simp), List.filter_nil, List.getLastD_concat]

/-- A move to a column comes on the line exactly when one is written before the line ends. -/
theorem afterColumnMove?_isSome {s : Text} :
    (afterColumnMove? s).isSome = true ↔
      ∃ input rest after : Text, '\n' ∉ input ∧ s = input ++ rest ∧ ColumnMove rest after := by
  constructor
  · intro h
    induction s with
    | nil => cases h
    | cons c r ih =>
      rw [afterColumnMove?] at h
      split at h
      · next after hmove =>
        exact ⟨[], c :: r, after, by simp, rfl, columnMove?_eq_some.mp hmove⟩
      · split at h
        · cases h
        · next hc =>
          obtain ⟨input, rest, after, hinput, rfl, hmove⟩ := ih h
          have hne : '\n' ≠ c := fun h => hc (h ▸ rfl)
          exact ⟨c :: input, rest, after, List.not_mem_cons_of_ne_of_not_mem hne hinput, rfl, hmove⟩
  · rintro ⟨input, rest, after, hinput, rfl, hmove⟩
    induction input with
    | nil =>
      rw [List.nil_append, afterColumnMove?.eq_def, columnMove?_eq_some.mpr hmove]
      rfl
    | cons c input ih =>
      have hne : c ≠ '\n' := fun h => hinput (h ▸ List.mem_cons_self)
      rw [List.cons_append, afterColumnMove?]
      split
      · rfl
      · rw [if_neg (by simpa using hne)]
        exact ih (fun h => hinput (List.mem_cons_of_mem c h))

/-- A drawn prompt begins a text: after its lead stand the prompt, whatever is on the input line,
and a move of the cursor to a column. -/
def BeginsWithPrompt (prompt s : Text) : Prop :=
  ∃ input rest after : Text, s = promptLead ++ prompt ++ (input ++ rest) ∧
    '\n' ∉ input ∧ ColumnMove rest after

/-- A prompt is drawn somewhere in a text. -/
def DrawsPrompt (prompt s : Text) : Prop :=
  ∃ before rest : Text, s = before ++ rest ∧ BeginsWithPrompt prompt rest

theorem drawnPrompt?_isSome {prompt s : Text} :
    (drawnPrompt? prompt s).isSome = true ↔ BeginsWithPrompt prompt s := by
  rw [drawnPrompt?, Option.isSome_bind, Option.any_eq_true]
  constructor
  · rintro ⟨t, ht, hmove⟩
    obtain ⟨input, rest, after, hinput, rfl, hcolumn⟩ := afterColumnMove?_isSome.mp hmove
    exact ⟨input, rest, after, Text.after?_eq_some.mp ht, hinput, hcolumn⟩
  · rintro ⟨input, rest, after, hs, hinput, hmove⟩
    refine ⟨input ++ rest, Text.after?_eq_some.mpr hs, ?_⟩
    exact afterColumnMove?_isSome.mpr ⟨input, rest, after, hinput, rfl, hmove⟩

theorem hasPrompt_nil (prompt : Text) :
    hasPrompt prompt [] = (drawnPrompt? prompt []).isSome := by
  rw [hasPrompt, findPrompt?.eq_def]
  split
  · next h => rw [h]; rfl
  · next h => rw [h]; rfl

/-- A prompt is looked for at the beginning of a text first, and then after its first
character. -/
theorem hasPrompt_cons (prompt : Text) (c : Char) (r : Text) :
    hasPrompt prompt (c :: r) = ((drawnPrompt? prompt (c :: r)).isSome || hasPrompt prompt r) := by
  rw [hasPrompt, findPrompt?]
  split
  · next h => rw [h]; rfl
  · next h => rw [h, hasPrompt, Option.isSome_map]; rfl

/-- A prompt is found in a text exactly when it is drawn there. -/
theorem hasPrompt_iff {prompt s : Text} : hasPrompt prompt s = true ↔ DrawsPrompt prompt s := by
  constructor
  · intro h
    induction s with
    | nil =>
      rw [hasPrompt_nil] at h
      exact ⟨[], [], rfl, drawnPrompt?_isSome.mp h⟩
    | cons c r ih =>
      rw [hasPrompt_cons, Bool.or_eq_true] at h
      rcases h with h | h
      · exact ⟨[], c :: r, rfl, drawnPrompt?_isSome.mp h⟩
      · obtain ⟨before, rest, rfl, hrest⟩ := ih h
        exact ⟨c :: before, rest, rfl, hrest⟩
  · rintro ⟨before, rest, rfl, hrest⟩
    induction before with
    | nil =>
      have hdrawn := drawnPrompt?_isSome.mpr hrest
      cases rest with
      | nil => rwa [List.append_nil, hasPrompt_nil]
      | cons c r => rw [List.nil_append, hasPrompt_cons, hdrawn, Bool.true_or]
    | cons c before ih => rw [List.cons_append, hasPrompt_cons, ih, Bool.or_true]

/-- A prompt that is drawn at the end of a text is drawn on its last line, if the prompt is one
line. -/
theorem drawsPrompt_lastLineOf {prompt move : Text} (hprompt : '\n' ∉ prompt) (before : Text)
    (hmove : ColumnMove move []) :
    DrawsPrompt prompt (lastLineOf (before ++ (promptLead ++ prompt ++ move))) := by
  obtain ⟨digits, hne, hdigits, rfl⟩ := hmove
  have hdecimal : Text.isDecimal '\n' = false := by decide +kernel
  have hfeed : '\n' ∉ digits := fun h => Bool.false_ne_true (hdecimal.symm.trans (hdigits _ h))
  have hlead : '\n' ∉ promptLead := by decide +kernel
  have hline : '\n' ∉ promptLead ++ prompt ++ '\x1b' :: '[' :: digits := by
    simp only [List.mem_append, List.mem_cons, hlead, hprompt, hfeed, or_false, false_or]
    decide
  obtain ⟨start, hlast⟩ := lastLineOf_move before hline
  have hdrawn : promptLead ++ prompt ++ '\x1b' :: '[' :: digits ++ ['G'] =
      promptLead ++ prompt ++ ([] ++ '\x1b' :: '[' :: (digits ++ ['G'])) := by simp
  rw [hdrawn] at hlast
  exact ⟨start, _, hlast, [], _, [], rfl, List.not_mem_nil, digits, hne, hdigits, rfl⟩

/-- No prompt is drawn on an empty line. -/
theorem not_drawsPrompt_nil {prompt : Text} : ¬ DrawsPrompt prompt [] := by
  rintro ⟨before, rest, hs, input, move, after, hrest, -⟩
  have hlead : promptLead ≠ [] := by decide +kernel
  rw [hrest] at hs
  simp [hlead] at hs

/-- A prompt of more than one line is drawn on no line. -/
theorem not_drawsPrompt {prompt line : Text} (hprompt : '\n' ∈ prompt) (hline : '\n' ∉ line) :
    ¬ DrawsPrompt prompt line := by
  rintro ⟨before, rest, rfl, input, move, after, rfl, -⟩
  exact hline (by simp [hprompt])

end Terminal

/-! ## Captures -/

namespace Capture

open Terminal

/-- The capture has recorded a text: its chunks make up the text, and what it remembers of the
lines is what the lines of the text are. -/
structure Tracks (c : Capture) (s : Text) : Prop where
  output : c.output = s
  unfinished : c.unfinished = (Text.splitOn '\n' s).getLastD []
  complete : c.complete = (Text.splitOn '\n' s).dropLast.foldl laterLine []

/-- Nothing has been recorded at first. -/
theorem tracks_empty : Tracks .empty [] := ⟨rfl, rfl, rfl⟩

/-- A chunk is recorded wherever it cuts the text. -/
theorem Tracks.feed {c : Capture} {s : Text} (h : Tracks c s) (chunk : Text) :
    Tracks (c.feed chunk) (s ++ chunk) := by
  have hpieces := Text.splitOn_append '\n' s chunk
  rw [← h.unfinished] at hpieces
  have hne := Text.splitOn_ne_nil '\n' (c.unfinished ++ chunk)
  refine ⟨by rw [output_feed, h.output], ?_, ?_⟩
  · show (Text.splitOn '\n' (c.unfinished ++ chunk)).getLastD [] = _
    rw [hpieces, List.getLastD_eq_getLast?, List.getLastD_eq_getLast?, List.getLast?_append,
      List.getLast?_eq_some_getLast hne, Option.some_or]
  -- all pieces that the chunk completes are taken after those that were complete before
  · rw [hpieces, List.dropLast_append_of_ne_nil hne, List.foldl_append, ← h.complete]
    rfl

/-- Waiting for the next arrival forgets nothing. -/
theorem Tracks.quiet {c : Capture} {s : Text} (h : Tracks c s) : Tracks c.quiet s :=
  ⟨h.output, h.unfinished, h.complete⟩

/-- The last line of a capture is the last line of the captured text. -/
theorem Tracks.lastLine {c : Capture} {s : Text} (h : Tracks c s) : c.lastLine = lastLineOf s := by
  have hne := Text.splitOn_ne_nil '\n' s
  rw [lastLineOf_eq, ← foldl_laterLine, Capture.lastLine, h.unfinished, h.complete]
  generalize Text.splitOn '\n' s = pieces at hne ⊢
  rw [← List.dropLast_concat_getLast hne, List.foldl_append, List.getLastD_concat,
    List.dropLast_concat]
  rfl

end Capture

end ReplDriver
