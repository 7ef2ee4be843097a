import Mathlib.Data.List.DropRight
import Mathlib.Data.List.Induction
import ReplDriver.Proofs.Text.Cutting
import ReplDriver.Terminal.Reply

/-!
# What cleaning keeps of a reply

The echo is looked for line by line: lines are dropped as long as each shows the next of what is
awaited, where a prompt before a line and lines that show nothing do not count.

* `seen`: what of some lines counts.
* `dropEcho_seen`, `dropEcho_stops`: lines that show a beginning of what is awaited are dropped, and
  everything is kept from the first line on that breaks it.
* `keptLines`: the lines that cleaning keeps of a reply.
* `cleanOutput_eq_iff`: a reply is cleaned to a text exactly when its kept lines are the lines of
  the text.
-/

namespace ReplDriver.Terminal

open Text (trim)

/-! ## What of a line counts -/

/-- Whether a line shows anything besides the command that begins editor mode. -/
def isVisible (line : Text) : Bool := !(line.isEmpty || line == editorCommand)

/-- A line that shows nothing but the prompt, if anything. -/
def IsBare (barePrompt line : Text) : Prop := trim line = [] ∨ trim line = barePrompt

instance (barePrompt line : Text) : Decidable (IsBare barePrompt line) :=
  inferInstanceAs (Decidable (_ ∨ _))

/-- What of some lines is seen besides prompts before them. -/
def seen (barePrompt : Text) (lines : List Text) : List Text :=
  (lines.map (afterPrompt barePrompt)).filter isVisible

section Seen

variable {barePrompt line : Text} {lines others : List Text}

theorem seen_cons_hidden (h : isVisible (afterPrompt barePrompt line) = false) :
    seen barePrompt (line :: lines) = seen barePrompt lines := by
  simp [seen, h]

theorem seen_cons_visible (h : isVisible (afterPrompt barePrompt line) = true) :
    seen barePrompt (line :: lines) = afterPrompt barePrompt line :: seen barePrompt lines := by
  simp [seen, h]

theorem seen_append (barePrompt : Text) (lines others : List Text) :
    seen barePrompt (lines ++ others) = seen barePrompt lines ++ seen barePrompt others := by
  simp [seen]

theorem seen_mono (h : lines <+: others) : seen barePrompt lines <+: seen barePrompt others := by
  obtain ⟨rest, rfl⟩ := h
  rw [seen_append]
  exact List.prefix_append ..

/-- A blank line shows nothing, and neither does a bare prompt. -/
theorem IsBare.afterPrompt_eq (h : IsBare barePrompt line) : afterPrompt barePrompt line = [] := by
  rw [afterPrompt]
  split
  · next rest hrest =>
    -- the prompt is all of the line, or both are empty
    rw [Text.after?_eq_some] at hrest
    obtain rfl : rest = [] := by
      rcases h with h | h <;> simp_all
    rfl
  · next hnone =>
    rcases h with h | h
    · exact h
    · have hself := Text.after?_eq_some.2 (List.append_nil barePrompt).symm
      rw [h, hself] at hnone
      cases hnone

theorem not_isBare_of_isVisible (h : isVisible (afterPrompt barePrompt line) = true) :
    ¬ IsBare barePrompt line := by
  intro hbare
  rw [hbare.afterPrompt_eq] at h
  cases h

theorem ne_nil_of_not_isBare (h : ¬ IsBare barePrompt line) : line ≠ [] := by
  rintro rfl
  exact h (.inl rfl)

end Seen

/-! ## The echo -/

/-- The lines of a text that are awaited as its echo: those that show anything besides the command
that begins editor mode, without the blanks around them. -/
def awaitedLines (s : Text) : List Text := ((Text.splitOn '\n' s).map trim).filter isVisible

/-- The key that commits a submission is not awaited. -/
theorem echoLines_eq (sent : Text) :
    echoLines sent = awaitedLines (Text.without endOfTransmission sent) := by
  have hvisible : (fun line : Text => !line.isEmpty && line != editorCommand) = isVisible := by
    funext line
    rw [isVisible, Bool.not_or]
    rfl
  rw [echoLines, awaitedLines, hvisible]

section DropEcho

variable {barePrompt line : Text} {awaited : List Text}

@[simp] theorem dropEcho_nil (barePrompt : Text) (awaited : List Text) :
    dropEcho barePrompt awaited [] = [] := by
  rw [dropEcho.eq_def]

/-- A line that shows nothing goes with the echo. -/
theorem dropEcho_hidden (h : isVisible (afterPrompt barePrompt line) = false) (rest : List Text) :
    dropEcho barePrompt awaited (line :: rest) = dropEcho barePrompt awaited rest := by
  rw [dropEcho.eq_def]
  exact if_pos (by simpa [isVisible, Classical.or_iff_not_imp_left] using h)

/-- A line that shows what is awaited next goes with the echo. -/
theorem dropEcho_awaited (h : isVisible (afterPrompt barePrompt line) = true) (rest : List Text) :
    dropEcho barePrompt (afterPrompt barePrompt line :: awaited) (line :: rest) =
      dropEcho barePrompt awaited rest := by
  rw [dropEcho.eq_def]
  exact (if_neg (by simpa [isVisible] using h)).trans (if_pos (beq_self_eq_true _))

/-- Any other line ends the echo. -/
theorem dropEcho_other (h : isVisible (afterPrompt barePrompt line) = true)
    (hnext : ¬ [afterPrompt barePrompt line] <+: awaited) (rest : List Text) :
    dropEcho barePrompt awaited (line :: rest) = line :: rest := by
  rw [dropEcho.eq_def]
  refine (if_neg (by simpa [isVisible] using h)).trans ?_
  cases awaited with
  | nil => rfl
  | cons next more =>
    have hne : afterPrompt barePrompt line ≠ next := by
      rintro rfl
      exact hnext (by simp)
    exact if_neg (by simpa using hne)

/-- Lines that show just the next of what is awaited are taken for its echo. -/
theorem dropEcho_seen (lines rest : List Text) :
    dropEcho barePrompt (seen barePrompt lines ++ awaited) (lines ++ rest) =
      dropEcho barePrompt awaited rest := by
  induction lines with
  | nil => rfl
  | cons line lines ih =>
    cases hline : isVisible (afterPrompt barePrompt line) with
    | false => rw [seen_cons_hidden hline, List.cons_append, dropEcho_hidden hline, ih]
    | true =>
      rw [seen_cons_visible hline, List.cons_append, List.cons_append, dropEcho_awaited hline, ih]

/-- Nothing is kept of lines that show only what is awaited. -/
theorem dropEcho_eq_nil {lines : List Text} (h : seen barePrompt lines <+: awaited) :
    dropEcho barePrompt awaited lines = [] := by
  obtain ⟨awaited, rfl⟩ := h
  have hkept := @dropEcho_seen barePrompt awaited lines []
  rwa [List.append_nil, dropEcho_nil] at hkept

/-- The first line that does not show the next of what is awaited ends the echo. -/
theorem dropEcho_stops {before : List Text} (hbefore : seen barePrompt before <+: awaited)
    (hline : ¬ seen barePrompt (before ++ [line]) <+: awaited) (rest : List Text) :
    dropEcho barePrompt awaited (before ++ line :: rest) = line :: rest := by
  obtain ⟨awaited, rfl⟩ := hbefore
  rw [seen_append, List.prefix_append_right_inj] at hline
  cases hvisible : isVisible (afterPrompt barePrompt line) with
  | false =>
    rw [seen_cons_hidden hvisible] at hline
    exact absurd List.nil_prefix hline
  | true =>
    rw [seen_cons_visible hvisible] at hline
    rw [dropEcho_seen, dropEcho_other hvisible hline]

/-- Among lines that do not show a beginning of what is awaited, one is the first to break it. -/
theorem exists_not_awaited {lines : List Text} (h : ¬ seen barePrompt lines <+: awaited) :
    ∃ before line after, lines = before ++ line :: after ∧ seen barePrompt before <+: awaited ∧
      ¬ seen barePrompt (before ++ [line]) <+: awaited := by
  induction lines using List.reverseRecOn with
  | nil => exact absurd (List.nil_prefix) h
  | append_singleton lines last ih =>
    by_cases hlines : seen barePrompt lines <+: awaited
    · exact ⟨lines, last, [], rfl, hlines, h⟩
    · obtain ⟨before, line, after, rfl, hbefore, hline⟩ := ih hlines
      exact ⟨before, line, after ++ [last], by simp, hbefore, hline⟩

/-- What is kept is the end of the lines. -/
theorem dropEcho_suffix (barePrompt : Text) (awaited lines : List Text) :
    dropEcho barePrompt awaited lines <:+ lines := by
  fun_induction dropEcho barePrompt awaited lines with
  | case1 => exact List.suffix_refl _
  | case2 _ line rest _ _ ih => exact ih.trans (List.suffix_cons line rest)
  | case3 line rest _ _ _ _ _ ih => exact ih.trans (List.suffix_cons line rest)
  | case4 | case5 => exact List.suffix_refl _

/-- What is kept begins with a line that counts. -/
theorem dropEcho_head? (lines : List Text) :
    ∀ line ∈ (dropEcho barePrompt awaited lines).head?,
      isVisible (afterPrompt barePrompt line) = true := by
  fun_induction dropEcho barePrompt awaited lines with
  | case1 => simp
  | case2 _ _ _ _ _ ih | case3 _ _ _ _ _ _ _ ih => exact ih
  | case4 _ _ _ hcounts | case5 _ _ _ hcounts => simpa [isVisible] using hcounts

end DropEcho

/-! ## The prompt at the end -/

section DropPrompt

variable {barePrompt line : Text}

theorem dropPrompt_eq (barePrompt : Text) (lines : List Text) :
    dropPrompt barePrompt lines =
      lines.rdropWhile fun line => (trim line).isEmpty || trim line == barePrompt := rfl

theorem isBare_iff :
    IsBare barePrompt line ↔ ((trim line).isEmpty || trim line == barePrompt) = true := by
  simp [IsBare]

theorem dropPrompt_begins (barePrompt : Text) (lines : List Text) :
    dropPrompt barePrompt lines <+: lines := by
  rw [dropPrompt_eq]
  exact List.rdropWhile_prefix _ _

theorem dropPrompt_concat (h : IsBare barePrompt line) (lines : List Text) :
    dropPrompt barePrompt (lines ++ [line]) = dropPrompt barePrompt lines :=
  List.rdropWhile_concat_pos _ _ _ (isBare_iff.1 h)

theorem dropPrompt_concat_eq_self (h : ¬ IsBare barePrompt line) (lines : List Text) :
    dropPrompt barePrompt (lines ++ [line]) = lines ++ [line] :=
  List.rdropWhile_concat_neg _ _ _ (mt isBare_iff.2 h)

/-- A line that shows something besides the prompt stays, and so does everything before it. -/
theorem dropPrompt_append_cons (h : ¬ IsBare barePrompt line) (before after : List Text) :
    dropPrompt barePrompt (before ++ line :: after) =
      before ++ line :: dropPrompt barePrompt after := by
  induction after using List.reverseRecOn with
  | nil => exact dropPrompt_concat_eq_self h before
  | append_singleton after last ih =>
    rw [← List.cons_append, ← List.append_assoc]
    by_cases hlast : IsBare barePrompt last
    · rw [dropPrompt_concat hlast, dropPrompt_concat hlast, ih]
    · rw [dropPrompt_concat_eq_self hlast, dropPrompt_concat_eq_self hlast]
      simp

/-- What is left ends with a line that shows something besides the prompt. -/
theorem getLast?_dropPrompt (barePrompt : Text) (lines : List Text) :
    ∀ line ∈ (dropPrompt barePrompt lines).getLast?, ¬ IsBare barePrompt line := by
  induction lines using List.reverseRecOn with
  | nil => simp [dropPrompt]
  | append_singleton lines last ih =>
    by_cases hlast : IsBare barePrompt last
    · rwa [dropPrompt_concat hlast]
    · rw [dropPrompt_concat_eq_self hlast]
      simpa using hlast

end DropPrompt

/-! ## What is kept of a reply -/

/-- The lines that cleaning keeps of a reply. -/
def keptLines (raw sent prompt : Text) : List Text :=
  dropEcho (trim prompt) (echoLines sent) (dropPrompt (trim prompt) (replyLines raw))

/-- The lines of a text, none if it is empty. -/
def contentLines (s : Text) : List Text := if s = [] then [] else Text.splitOn '\n' s

theorem mem_splitOn_of_mem_contentLines {s line : Text} (h : line ∈ contentLines s) :
    line ∈ Text.splitOn '\n' s := by
  rw [contentLines] at h
  split at h
  · cases h
  · exact h

/-- What the kept lines are: each is a line, the first shows something besides the prompt, and so
does the last. -/
structure Kept (prompt : Text) (lines : List Text) : Prop where
  noFeed : ∀ line ∈ lines, '\n' ∉ line
  first : ∀ line ∈ lines.head?, ¬ IsBare (trim prompt) line
  last : ∀ line ∈ lines.getLast?, ¬ IsBare (trim prompt) line

theorem noFeed_replyLines {raw line : Text} (h : line ∈ replyLines raw) : '\n' ∉ line := by
  obtain ⟨piece, hpiece, rfl⟩ := List.mem_map.1 h
  rw [withoutNotice]
  split
  · exact List.not_mem_nil
  · exact Text.not_mem_splitOn '\n' hpiece

theorem kept_keptLines (raw sent prompt : Text) : Kept prompt (keptLines raw sent prompt) := by
  have hprompt := dropPrompt_begins (trim prompt) (replyLines raw)
  have hlast := getLast?_dropPrompt (trim prompt) (replyLines raw)
  obtain ⟨dropped, hsuffix⟩ := dropEcho_suffix (trim prompt) (echoLines sent)
    (dropPrompt (trim prompt) (replyLines raw))
  rw [← keptLines] at hsuffix
  rw [← hsuffix] at hprompt hlast
  refine ⟨fun line hline => ?_, fun line hline => ?_, fun line hline => hlast line ?_⟩
  · exact noFeed_replyLines (hprompt.subset (List.mem_append_right dropped hline))
  · exact not_isBare_of_isVisible (dropEcho_head? _ line hline)
  · rw [Option.mem_def] at hline ⊢
    rw [List.getLast?_append, hline, Option.some_or]

/-- A text that begins with something on its first line does not begin with a line feed. -/
theorem stopsAt_feed_append {line : Text} (hne : line ≠ []) (hfeed : '\n' ∉ line) (rest : Text) :
    Text.StopsAt (· == '\n') (line ++ rest) := by
  intro c hc
  rw [List.head?_append_of_ne_nil _ hne] at hc
  have hmem : c ∈ line := List.mem_of_mem_head? hc
  exact beq_eq_false_iff_ne.2 fun hc => hfeed (hc ▸ hmem)

/-- Nothing is taken from the ends of the kept lines' text. -/
theorem Kept.trimWhile_join {prompt : Text} {lines : List Text} (h : Kept prompt lines) :
    Text.trimWhile (· == '\n') (Text.join "\n" lines) = Text.join "\n" lines := by
  apply Text.trimWhile_eq_self
  · cases lines with
    | nil => exact .nil
    | cons first after =>
      obtain ⟨more, hjoin⟩ := Text.prefix_join_cons "\n" first after
      rw [← hjoin]
      exact stopsAt_feed_append (ne_nil_of_not_isBare (h.first first rfl))
        (h.noFeed first List.mem_cons_self) more
  · cases lines using List.reverseRecOn with
    | nil => exact .nil
    | append_singleton before last =>
      obtain ⟨more, hjoin⟩ := Text.suffix_join_concat "\n" before last
      have hlast := ne_nil_of_not_isBare (h.last last (by simp))
      rw [← hjoin, List.reverse_append]
      exact stopsAt_feed_append (by simpa using hlast)
        (by simpa using h.noFeed last (by simp)) more.reverse

theorem cleanOutput_eq (raw sent prompt : Text) :
    cleanOutput raw sent prompt = Text.join "\n" (keptLines raw sent prompt) :=
  (kept_keptLines raw sent prompt).trimWhile_join

theorem join_contentLines (s : Text) : Text.join "\n" (contentLines s) = s := by
  rw [contentLines]
  split
  · next h => rw [h]; rfl
  · exact Text.join_splitOn '\n' s

/-- A reply is cleaned to a text exactly when its kept lines are the lines of the text. -/
theorem cleanOutput_eq_iff {raw sent prompt printed : Text} :
    cleanOutput raw sent prompt = printed ↔ keptLines raw sent prompt = contentLines printed := by
  have hkept := kept_keptLines raw sent prompt
  rw [cleanOutput_eq]
  generalize keptLines raw sent prompt = lines at hkept ⊢
  constructor
  · rintro rfl
    cases lines with
    | nil => rfl
    | cons first after =>
      have hne : Text.join "\n" (first :: after) ≠ [] := fun hnil =>
        ne_nil_of_not_isBare (hkept.first first rfl)
          (List.prefix_nil.1 (hnil ▸ Text.prefix_join_cons "\n" first after))
      rw [contentLines, if_neg hne]
      exact (Text.splitOn_join (by simp) hkept.noFeed).symm
  · rintro rfl
    exact join_contentLines printed

end ReplDriver.Terminal
