import Mathlib.Data.List.Induction
import ReplDriver.Proofs.Terminal.LastLine

/-!
# Captured output, however it is cut

Output arrives in chunks that end anywhere: between a carriage return and its line feed, in the
middle of a control sequence, or with nothing in them at all. What a capture makes of the output
does not depend on that.

* `LastShown`: the last line of a text that shows something, by rules about its lines alone.
* `Capture.feed_chunks`: after each chunk a capture holds the output so far and its last line; two
  captures of one text are alike, and stay so whatever comes after it.
-/

namespace ReplDriver

namespace Terminal

/-! ## What a line shows -/

/-- The text ends by moving the cursor up. -/
def MovesUp (s : Text) : Prop :=
  ∃ before digits : Text, (∀ c ∈ digits, Text.isDecimal c = true) ∧
    s = before ++ '\x1b' :: '[' :: (digits ++ ['A'])

/-- What a line shows: all of it but the carriage returns at its end, and nothing if the cursor has
left the line. -/
inductive Shows : Text → Text → Prop where
  | kept {line returns : Text} : (∀ c ∈ returns, c = '\r') → line.getLast? ≠ some '\r' →
      ¬ MovesUp line → Shows (line ++ returns) line
  | left {line returns : Text} : (∀ c ∈ returns, c = '\r') → MovesUp line →
      Shows (line ++ returns) []

/-- The last of some lines that shows something, empty if no line does. -/
inductive LastShown : List Text → Text → Prop where
  | none : LastShown [] []
  | last {lines : List Text} {line shown : Text} : Shows line shown → shown ≠ [] →
      LastShown (lines ++ [line]) shown
  | earlier {lines : List Text} {line shown : Text} : LastShown lines shown → Shows line [] →
      LastShown (lines ++ [line]) shown

theorem MovesUp.getLast? {s : Text} (h : MovesUp s) : s.getLast? ≠ some '\r' := by
  obtain ⟨before, digits, -, rfl⟩ := h
  rw [← List.cons_append, ← List.cons_append, ← List.append_assoc, List.getLast?_concat]
  decide

/-- Carriage returns at the end of a line are dropped, and no more than these. -/
theorem dropReturns_append {line returns : Text} (hreturns : ∀ c ∈ returns, c = '\r')
    (hline : line.getLast? ≠ some '\r') :
    Text.dropRightWhile (· == '\r') (line ++ returns) = line := by
  have hall : ∀ c ∈ returns.reverse, (c == '\r') = true := by
    intro c hc
    simp [hreturns c (List.mem_reverse.1 hc)]
  have hstop : Text.StopsAt (· == '\r') line.reverse := by
    intro c hc
    rw [List.head?_reverse] at hc
    simpa [hc] using hline
  rw [Text.dropRightWhile, List.reverse_append, Text.dropWhile_run hall hstop, List.reverse_reverse]

/-- Every line shows one text. -/
theorem shows_iff {line shown : Text} : Shows line shown ↔ shown = shownLine line := by
  constructor
  · intro h
    cases h with
    | kept hreturns hkept hstays =>
      rw [shownLine, dropReturns_append hreturns hkept, if_neg (mt endsWithCursorUp_iff.1 hstays)]
    | left hreturns hmoves =>
      rw [shownLine, dropReturns_append hreturns hmoves.getLast?,
        if_pos (endsWithCursorUp_iff.2 hmoves)]
  · rintro rfl
    have hline := Text.dropRightWhile_append_takeRightWhile (· == '\r') line
    have hreturns : ∀ c ∈ Text.takeRightWhile (· == '\r') line, c = '\r' :=
      fun c hc => by simpa using Text.mem_takeRightWhile hc
    have hkept : (Text.dropRightWhile (· == '\r') line).getLast? ≠ some '\r' :=
      fun hlast => absurd (Text.getLast?_dropRightWhile hlast) (by decide)
    rw [shownLine]
    generalize Text.dropRightWhile (· == '\r') line = kept at hline hkept ⊢
    rw [← hline]
    split
    · next hup => exact .left hreturns (endsWithCursorUp_iff.1 hup)
    · next hup => exact .kept hreturns hkept (mt endsWithCursorUp_iff.2 hup)

/-- The last line that shows something, among lines and one after them. -/
theorem lastShown_concat {lines : List Text} {line shown : Text} :
    LastShown (lines ++ [line]) shown ↔
      (shownLine line ≠ [] ∧ shown = shownLine line) ∨
        (shownLine line = [] ∧ LastShown lines shown) := by
  constructor
  · intro h
    generalize hall : lines ++ [line] = all at h
    cases h with
    | none => simp at hall
    | last hshows hne =>
      obtain ⟨-, hline⟩ := List.append_inj' hall rfl
      cases hline
      obtain rfl := shows_iff.1 hshows
      exact .inl ⟨hne, rfl⟩
    | earlier hlast hshows =>
      obtain ⟨rfl, hline⟩ := List.append_inj' hall rfl
      cases hline
      exact .inr ⟨(shows_iff.1 hshows).symm, hlast⟩
  · rintro (⟨hne, rfl⟩ | ⟨hnil, hlast⟩)
    · exact .last (shows_iff.2 rfl) hne
    · exact .earlier hlast (shows_iff.2 hnil.symm)

/-- The last line of a text is the last of its lines that shows something. -/
theorem lastShown_iff {s shown : Text} : LastShown (lines s) shown ↔ shown = lastLineOf s := by
  rw [lastLineOf]
  induction lines s using List.reverseRecOn with
  | nil =>
    constructor
    · intro h
      generalize hnone : ([] : List Text) = none at h
      cases h with
      | none => rfl
      | last _ _ | earlier _ _ => simp at hnone
    · rintro rfl
      exact .none
  | append_singleton before line ih =>
    rw [lastShown_concat, ih, List.map_append, List.filter_append, List.map_singleton]
    by_cases hline : shownLine line = [] <;> simp [hline]

end Terminal

namespace Capture

open Terminal

/-- Two captures that tell the same of the output, however it came. -/
structure Alike (a b : Capture) : Prop where
  output : a.output = b.output
  lastLine : a.lastLine = b.lastLine
  unfinished : a.unfinished = b.unfinished
  complete : a.complete = b.complete

/-- A capture keeps track of a text through any chunks. -/
theorem tracks_chunks (chunks : List Text) : Tracks (chunks.foldl feed empty) chunks.flatten := by
  induction chunks using List.reverseRecOn with
  | nil => exact tracks_empty
  | append_singleton chunks chunk ih =>
    rw [List.foldl_append, List.flatten_append]
    simpa using ih.feed chunk

/-- Captures of one text are alike. -/
theorem Tracks.alike {a b : Capture} {s : Text} (ha : Tracks a s) (hb : Tracks b s) : Alike a b :=
  ⟨ha.output.trans hb.output.symm, ha.lastLine.trans hb.lastLine.symm,
    ha.unfinished.trans hb.unfinished.symm, ha.complete.trans hb.complete.symm⟩

theorem live_chunks {chunks : List Text} (h : chunks ≠ []) :
    (chunks.foldl feed empty).live = true := by
  obtain ⟨before, chunk, rfl⟩ := (List.eq_nil_or_concat chunks).resolve_left h
  rw [List.concat_eq_append, List.foldl_append]
  rfl

/-- A capture does not depend on how its output is cut into chunks. After each chunk it holds what
has come so far, and the last line of that; and two captures of one text, cut in two ways, are alike
then and after any chunks that both of them are given. -/
theorem feed_chunks (chunks : List Text) :
    (∀ n, ((chunks.take n).foldl feed empty).output = (chunks.take n).flatten ∧
      ∀ line, ((chunks.take n).foldl feed empty).lastLine = line ↔
        LastShown (lines (chunks.take n).flatten) line) ∧
    ∀ others : List Text, others.flatten = chunks.flatten → ∀ more : List Text,
      Alike (more.foldl feed (chunks.foldl feed empty))
        (more.foldl feed (others.foldl feed empty)) ∧
      (more ≠ [] → (more.foldl feed (chunks.foldl feed empty)).live =
        (more.foldl feed (others.foldl feed empty)).live) := by
  constructor
  · intro n
    have htracks := tracks_chunks (chunks.take n)
    refine ⟨htracks.output, fun line => ?_⟩
    rw [lastShown_iff, htracks.lastLine]
    exact eq_comm
  · intro others hothers more
    rw [← List.foldl_append, ← List.foldl_append]
    have htext : (others ++ more).flatten = (chunks ++ more).flatten := by
      rw [List.flatten_append, List.flatten_append, hothers]
    refine ⟨(tracks_chunks _).alike (htext ▸ tracks_chunks _), fun hmore => ?_⟩
    rw [live_chunks (by simp [hmore]), live_chunks (by simp [hmore])]

/-- A line end and a cursor move that are cut in two: the preview line is left again, and counts
no more than it does in one chunk. -/
theorem feed_chunks_preview :
    (["on\r\npreview\x1b[1A"] : List Text).flatten =
        (["on\r", "\nprev", "iew\x1b[1A"] : List Text).flatten ∧
      ((["on\r", "\nprev", "iew\x1b[1A"] : List Text).foldl feed empty).lastLine = "on".toList ∧
      ((["on\r\npreview\x1b[1A"] : List Text).foldl feed empty).lastLine = "on".toList := by
  have hflat : (["on\r\npreview\x1b[1A"] : List Text).flatten =
      (["on\r", "\nprev", "iew\x1b[1A"] : List Text).flatten := by decide +kernel
  obtain ⟨hshown, hsame⟩ := feed_chunks ["on\r", "\nprev", "iew\x1b[1A"]
  have hcut := ((hshown 3).2 "on").2 (lastShown_iff.2 (by decide +kernel))
  exact ⟨hflat, hcut, ((hsame _ hflat []).1.lastLine).symm.trans hcut⟩

end Capture

end ReplDriver
