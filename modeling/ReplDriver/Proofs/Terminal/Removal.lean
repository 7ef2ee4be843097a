import ReplDriver.Proofs.Terminal.Cleaning

/-!
# What cleaning takes away from a reply

Whatever a reply, the text it answers and the prompt are, cleaning leaves one block of the lines of
the reply as it stands. Before the block only an echo is taken away, and after it only blank lines
and bare prompts.

* `Echoes`: the lines that may be taken for an echo, told one line at a time.
* `Uncovers`: a text is what is left of some lines when nothing else is taken away.
* `cleanOutput_uncovers`: cleaning uncovers a block of the reply. The key that commits a submission
  is never echoed, so it is left out of what is awaited, wherever it stands.
* `not_uncovers_committed`: a line with that key in it is awaited without the key.
-/

namespace ReplDriver.Terminal

open Text (trim)

/-! ## Echoes -/

/-- Lines that may be taken for the echo of what is awaited. Each of them shows nothing or the
command that begins editor mode, besides a prompt before it, or else it shows the next of what is
awaited. -/
inductive Echoes (barePrompt : Text) : List Text → List Text → Prop
  | nil {awaited : List Text} : Echoes barePrompt awaited []
  | hidden {awaited lines : List Text} {line : Text}
      (h : afterPrompt barePrompt line = [] ∨ afterPrompt barePrompt line = editorCommand)
      (hlines : Echoes barePrompt awaited lines) : Echoes barePrompt awaited (line :: lines)
  | next {awaited lines : List Text} {line : Text} (hlines : Echoes barePrompt awaited lines) :
      Echoes barePrompt (afterPrompt barePrompt line :: awaited) (line :: lines)

/-- A text is what is left of some lines when nothing is taken away but an echo before it, and blank
lines and bare prompts after it. If anything is left, it neither begins nor ends with a blank
line. -/
structure Uncovers (prompt : Text) (awaited lines : List Text) (left : Text) : Prop where
  block : ∃ echo kept rest, lines = echo ++ kept ++ rest ∧ left = Text.join "\n" kept ∧
    Echoes (trim prompt) awaited echo ∧ ∀ line ∈ rest, IsBare (trim prompt) line
  shows : left ≠ [] → (∀ line ∈ (Text.splitOn '\n' left).head?, trim line ≠ []) ∧
    ∀ line ∈ (Text.splitOn '\n' left).getLast?, trim line ≠ []

/-- What is dropped as an echo may be taken for one. -/
theorem exists_echo (barePrompt : Text) (awaited lines : List Text) :
    ∃ echo, lines = echo ++ dropEcho barePrompt awaited lines ∧
      Echoes barePrompt awaited echo := by
  fun_induction dropEcho barePrompt awaited lines with
  | case1 => exact ⟨[], rfl, .nil⟩
  | case2 awaited line rest shown hshown ih =>
    obtain ⟨echo, hlines, hecho⟩ := ih
    have hhidden : shown = [] ∨ shown = editorCommand := by simpa using hshown
    exact ⟨line :: echo, congrArg (line :: ·) hlines, .hidden hhidden hecho⟩
  | case3 line rest shown hshown next more hnext ih =>
    obtain ⟨echo, hlines, hecho⟩ := ih
    obtain rfl : shown = next := eq_of_beq hnext
    exact ⟨line :: echo, congrArg (line :: ·) hlines, .next hecho⟩
  | case4 | case5 => exact ⟨[], rfl, .nil⟩

/-- The first line of an echo shows nothing, the command that begins editor mode, or what is awaited
first. -/
theorem Echoes.first {barePrompt line : Text} {awaited lines : List Text}
    (h : Echoes barePrompt awaited (line :: lines)) :
    (afterPrompt barePrompt line = [] ∨ afterPrompt barePrompt line = editorCommand) ∨
      awaited.head? = some (afterPrompt barePrompt line) := by
  cases h with
  | hidden h _ => exact .inl h
  | next _ => exact .inr rfl

/-! ## What is left -/

/-- What is dropped as the prompt is bare. -/
theorem exists_bare (barePrompt : Text) (lines : List Text) :
    ∃ rest, lines = dropPrompt barePrompt lines ++ rest ∧
      ∀ line ∈ rest, IsBare barePrompt line := by
  rw [dropPrompt_eq]
  refine ⟨lines.rtakeWhile _, List.rdropWhile_append_rtakeWhile.symm, fun line hline => ?_⟩
  have hdropped := List.mem_rtakeWhile_imp hline
  exact isBare_iff.2 hdropped

/-- Kept lines that make up a text that is not empty are the lines of that text. -/
theorem Kept.splitOn_join {prompt : Text} {lines : List Text} (h : Kept prompt lines)
    (hne : Text.join "\n" lines ≠ []) : Text.splitOn '\n' (Text.join "\n" lines) = lines :=
  Text.splitOn_join (fun hnil => hne (hnil ▸ rfl)) h.noFeed

/-- Cleaning takes nothing away from a reply but an echo before what is left, and blank lines and
bare prompts after it. -/
theorem cleanOutput_uncovers (raw sent prompt : Text) :
    Uncovers prompt (awaitedLines (Text.without endOfTransmission sent)) (replyLines raw)
      (cleanOutput raw sent prompt) := by
  have hkept := kept_keptLines raw sent prompt
  obtain ⟨rest, hrest, hbare⟩ := exists_bare (trim prompt) (replyLines raw)
  obtain ⟨echo, hecho, hechoes⟩ := exists_echo (trim prompt) (echoLines sent)
    (dropPrompt (trim prompt) (replyLines raw))
  rw [← keptLines] at hecho
  rw [hecho] at hrest
  rw [echoLines_eq] at hechoes
  rw [cleanOutput_eq]
  refine ⟨⟨echo, _, rest, hrest, rfl, hechoes, hbare⟩, fun hne => ?_⟩
  rw [hkept.splitOn_join hne]
  exact ⟨fun line hline hblank => hkept.first line hline (.inl hblank),
    fun line hline hblank => hkept.last line hline (.inl hblank)⟩

/-- If the key that commits a submission stands within a line, the line without the key is awaited,
and a printed line that is equal to it is taken away as its echo. -/
theorem not_uncovers_committed :
    ¬ Uncovers "> " (awaitedLines "a\x04b") (replyLines "ab") (cleanOutput "ab" "a\x04b" "> ") := by
  have hline : replyLines "ab" = ["ab".toList] := by decide +kernel
  have hcleaned : cleanOutput "ab" "a\x04b" "> " = [] := by decide +kernel
  rw [hline, hcleaned]
  rintro ⟨⟨echo, kept, rest, hlines, hleft, hecho, hbare⟩, -⟩
  -- the only line would have to be in the echo, in what is left, or in what comes after it
  cases echo with
  | nil =>
    cases kept with
    | nil =>
      obtain rfl : ["ab".toList] = rest := hlines
      exact absurd (hbare _ List.mem_cons_self) (by decide +kernel)
    | cons first more =>
      obtain ⟨rfl, -⟩ := List.cons.inj hlines
      have hbegins := Text.prefix_join_cons "\n" "ab".toList more
      rw [← hleft] at hbegins
      exact absurd hbegins (by decide)
  | cons first more =>
    obtain ⟨rfl, -⟩ := List.cons.inj hlines
    exact absurd hecho.first (by decide +kernel)

end ReplDriver.Terminal
