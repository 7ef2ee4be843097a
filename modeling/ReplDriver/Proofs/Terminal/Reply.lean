import ReplDriver.Proofs.Terminal.Cleaning
import ReplDriver.Proofs.Terminal.Sequences
import ReplDriver.Session.Scripted
import ReplDriver.Terminal.Prompt

/-!
# What a reply to a submission is cleaned to

A terminal echoes what is typed to submit code, the evaluation prints, and the prompt is drawn. Of
that only what was printed should be left.

Lines are looked at without a prompt before them, but the lines awaited as the echo are the lines of
the code as they are. A line of the code that itself begins with the prompt is therefore not known
again when it is echoed.

* `typedLines`, `reply`: the lines typed to submit code, and the reply as the process writes it.
* `replyLines_reply`: the lines of such a reply are those typed, those printed and the prompt.
* `PlainReply.keptLines_eq_iff`: just what was printed is kept exactly when the echo is told from
  it.
* `cleanOutput_reply`: what a reply is cleaned to, whether its echo is told from what was printed
  or not.
-/

namespace ReplDriver.Terminal

open Text (trim without_append without_eq_self mem_of_mem_trimWhile)

/-! ## The reply to a submission -/

/-- The lines that are typed to submit code. -/
def typedLines (code : Text) : List Text :=
  let body := Text.trimWhile (· == '\n') code
  (if body.contains '\n' then [editorCommand] else []) ++ Text.splitOn '\n' body

/-- The reply to a submission: what was typed is echoed, then stands what was printed, and at the
end the prompt is drawn. -/
def reply (prompt code printed : Text) (column : Nat) : Text :=
  Behaviour.echo (frameSubmission code) ++ (if printed = [] then [] else printed ++ ['\r', '\n']) ++
    (promptLead ++ prompt ++ '\x1b' :: '[' :: (Text.ofNat column ++ ['G']))

/-- The prompt is one line, and no control character stands in it, in the code or in what was
printed; no line of the code or of what was printed begins like the notice of editor mode; and what
was printed begins and ends with a line that shows something besides the prompt. -/
structure PlainReply (prompt code printed : Text) : Prop where
  prompt_line : '\n' ∉ prompt
  plain : ∀ s ∈ [prompt, code, printed], escape ∉ s ∧ '\r' ∉ s
  noEnd : endOfTransmission ∉ code
  noNotice : ∀ line ∈ Text.splitOn '\n' code ++ Text.splitOn '\n' printed,
    line.startsWith editorNotice = false
  first : ∀ line ∈ (contentLines printed).head?, isVisible (afterPrompt (trim prompt) line) = true
  last : ∀ line ∈ (contentLines printed).getLast?, ¬ IsBare (trim prompt) line

/-- The lines typed are the text of the submission, up to the key that commits it. -/
theorem without_end_frameSubmission {code : Text} (h : endOfTransmission ∉ code) :
    Text.without endOfTransmission (frameSubmission code) =
      (typedLines code).flatMap (· ++ ['\n']) := by
  have hbody : Text.without endOfTransmission (Text.trimWhile (· == '\n') code) =
      Text.trimWhile (· == '\n') code := without_eq_self (mt mem_of_mem_trimWhile h)
  rw [frameSubmission, typedLines, List.flatMap_append, Text.flatMap_splitOn]
  split
  · rw [without_append, without_append, without_append, hbody]
    simp only [List.append_assoc]
    rfl
  · rw [without_append, hbody]
    rfl

theorem noFeed_typedLines {code line : Text} (h : line ∈ typedLines code) : '\n' ∉ line := by
  rw [typedLines, List.mem_append] at h
  rcases h with h | h
  · split at h
    · rw [List.mem_singleton.1 h]
      decide +kernel
    · cases h
  · exact Text.not_mem_splitOn '\n' h

theorem withoutNotice_eq_self {line : Text} (h : line.startsWith editorNotice = false) :
    withoutNotice line = line := by
  rw [withoutNotice, h]
  rfl

theorem withoutNotice_typedLines {code line : Text}
    (h : ∀ line ∈ Text.splitOn '\n' code, line.startsWith editorNotice = false)
    (hline : line ∈ typedLines code) : withoutNotice line = line := by
  rw [typedLines, List.mem_append] at hline
  rcases hline with hline | hline
  · split at hline
    · rw [List.mem_singleton.1 hline]
      decide +kernel
    · cases hline
  · exact withoutNotice_eq_self (h line (Text.splitOn_trimWhile_subset '\n' code hline))

/-- The lines awaited as the echo are the lines typed. -/
theorem echoLines_frameSubmission {code : Text} (h : endOfTransmission ∉ code) :
    echoLines (frameSubmission code) = ((typedLines code).map trim).filter isVisible := by
  have hsplit := Text.splitOn_lines_append (fun line => @noFeed_typedLines code line) []
  rw [List.append_nil] at hsplit
  rw [echoLines_eq, awaitedLines, without_end_frameSubmission h, hsplit, List.map_append,
    List.filter_append]
  exact List.append_nil _

/-- What a terminal echoes of a text without carriage returns is the text, but for these. -/
theorem without_return_echo {s : Text} (h : '\r' ∉ s) :
    Text.without '\r' (Behaviour.echo s) = Text.without endOfTransmission s := by
  rw [Behaviour.echo]
  have hkept : '\r' ∉ Text.without endOfTransmission s := fun hmem =>
    h (List.mem_of_mem_filter hmem)
  generalize Text.without endOfTransmission s = t at hkept ⊢
  induction t with
  | nil => rfl
  | cons c t ih =>
    rw [List.flatMap_cons, without_append, ih (List.not_mem_of_not_mem_cons hkept)]
    split
    · next hfeed => rw [eq_of_beq hfeed]; rfl
    · rw [without_eq_self (by simpa using List.ne_of_not_mem_cons hkept), List.singleton_append]

theorem not_mem_frameSubmission {c : Char} {code : Text} (h : c ∉ code)
    (hframe : c ∉ editorCommand ++ ['\n', endOfTransmission]) : c ∉ frameSubmission code := by
  have hbody := mt (mem_of_mem_trimWhile (p := (· == '\n'))) h
  rw [frameSubmission]
  split <;> simp_all

theorem not_mem_echo {c : Char} {s : Text} (h : c ∉ s) (hfeed : c ∉ ['\r', '\n']) :
    c ∉ Behaviour.echo s := by
  intro hc
  obtain ⟨d, hd, hcd⟩ := List.mem_flatMap.1 hc
  split at hcd
  · exact hfeed hcd
  · exact h (List.mem_singleton.1 hcd ▸ List.mem_of_mem_filter hd)

/-- The lines of a reply: those typed, those printed, and the prompt. -/
theorem replyLines_reply {prompt code printed : Text} (h : PlainReply prompt code printed)
    (column : Nat) :
    replyLines (reply prompt code printed column) =
      typedLines code ++ contentLines printed ++ [withoutNotice prompt] := by
  obtain ⟨hpromptEscape, hpromptReturn⟩ := h.plain prompt (by simp)
  obtain ⟨hcodeEscape, hcodeReturn⟩ := h.plain code (by simp)
  obtain ⟨hprintedEscape, hprintedReturn⟩ := h.plain printed (by simp)
  have hecho : escape ∉ Behaviour.echo (frameSubmission code) :=
    not_mem_echo (not_mem_frameSubmission hcodeEscape (by decide +kernel)) (by decide)
  have hbody : escape ∉ if printed = [] then [] else printed ++ ['\r', '\n'] := by
    split
    · exact List.not_mem_nil
    · simpa [hprintedEscape] using by decide
  have hcontent : Text.without '\r' (if printed = [] then [] else printed ++ ['\r', '\n']) =
      (contentLines printed).flatMap (· ++ ['\n']) := by
    rw [contentLines]
    split
    · rfl
    · rw [without_append, without_eq_self hprintedReturn, Text.flatMap_splitOn]
      rfl
  have hlines : ∀ line ∈ typedLines code ++ contentLines printed, '\n' ∉ line ∧
      withoutNotice line = line := by
    intro line hline
    rcases List.mem_append.1 hline with hline | hline
    · exact ⟨noFeed_typedLines hline, withoutNotice_typedLines
        (fun l hl => h.noNotice l (List.mem_append_left _ hl)) hline⟩
    · have hpiece := mem_splitOn_of_mem_contentLines hline
      exact ⟨Text.not_mem_splitOn '\n' hpiece, withoutNotice_eq_self
        (h.noNotice line (List.mem_append_right _ hpiece))⟩
  have htext : Text.without '\r' (stripControl (reply prompt code printed column)) =
      (typedLines code ++ contentLines printed).flatMap (· ++ ['\n']) ++ prompt := by
    rw [reply, List.append_assoc, stripControl_append hecho, stripControl_append hbody,
      stripControl_prompt hpromptEscape, without_append, without_append,
      without_return_echo (not_mem_frameSubmission hcodeReturn (by decide +kernel)),
      without_end_frameSubmission h.noEnd, hcontent, without_eq_self hpromptReturn,
      List.flatMap_append, List.append_assoc]
  rw [replyLines, htext, Text.splitOn_lines_append fun line hline => (hlines line hline).1,
    Text.splitOn_of_not_mem h.prompt_line, List.map_append, List.map_singleton,
    List.map_congr_left fun line hline => (hlines line hline).2, List.map_id']

/-! ## Telling the echo from what was printed -/

/-- The echo is told from what was printed: the lines typed show, prompts before them left out, a
beginning of what is awaited, and the first line printed does not show the next of it. -/
def TellsEcho (prompt code printed : Text) : Prop :=
  seen (trim prompt) (typedLines code) <+: echoLines (frameSubmission code) ∧
    ∀ line ∈ (contentLines printed).head?,
      ¬ seen (trim prompt) (typedLines code ++ [line]) <+: echoLines (frameSubmission code)

namespace PlainReply

variable {prompt code printed : Text}

/-- If something was printed, nothing is taken from the end of what was typed and printed. -/
theorem dropPrompt_append (h : PlainReply prompt code printed) (hne : contentLines printed ≠ [])
    (lines : List Text) :
    dropPrompt (trim prompt) (lines ++ contentLines printed) = lines ++ contentLines printed := by
  obtain ⟨before, last, hcontent⟩ := (List.eq_nil_or_concat (contentLines printed)).resolve_left hne
  rw [List.concat_eq_append] at hcontent
  have hlast : ¬ IsBare (trim prompt) last := h.last last (by simp [hcontent])
  rw [hcontent, ← List.append_assoc, dropPrompt_concat_eq_self hlast]

/-- The lines of a reply that the echo is looked for in. -/
theorem keptLines_reply (h : PlainReply prompt code printed) (column : Nat) :
    keptLines (reply prompt code printed column) (frameSubmission code) prompt =
      dropEcho (trim prompt) (echoLines (frameSubmission code))
        (dropPrompt (trim prompt) (typedLines code ++ contentLines printed)) := by
  have hprompt : IsBare (trim prompt) (withoutNotice prompt) := by
    rw [withoutNotice]
    split
    · exact .inl rfl
    · exact .inr rfl
  rw [keptLines, replyLines_reply h, dropPrompt_concat hprompt]

/-- From the first line typed that does not show what is awaited, everything is kept. -/
theorem keptLines_of_not_awaited (h : PlainReply prompt code printed) (column : Nat)
    {before after : List Text} {line : Text} (htyped : typedLines code = before ++ line :: after)
    (hbefore : seen (trim prompt) before <+: echoLines (frameSubmission code))
    (hline : ¬ seen (trim prompt) (before ++ [line]) <+: echoLines (frameSubmission code)) :
    keptLines (reply prompt code printed column) (frameSubmission code) prompt =
      line :: dropPrompt (trim prompt) (after ++ contentLines printed) := by
  -- a bare line shows nothing, so that it would not break what is awaited
  have hshows : ¬ IsBare (trim prompt) line := by
    intro hbare
    have hhidden : isVisible (afterPrompt (trim prompt) line) = false := by
      rw [hbare.afterPrompt_eq]
      rfl
    rw [seen_append, seen_cons_hidden hhidden] at hline
    exact hline (by simpa [seen] using hbefore)
  rw [h.keptLines_reply, htyped, List.append_assoc, List.cons_append,
    dropPrompt_append_cons hshows, dropEcho_stops hbefore hline]

/-- Just what was printed is kept exactly when the echo is told from it. -/
theorem keptLines_eq_iff (h : PlainReply prompt code printed) (column : Nat) :
    keptLines (reply prompt code printed column) (frameSubmission code) prompt =
      contentLines printed ↔ TellsEcho prompt code printed := by
  constructor
  · intro hkept
    have htyped : seen (trim prompt) (typedLines code) <+: echoLines (frameSubmission code) := by
      by_contra hunseen
      obtain ⟨before, line, after, htyped, hbefore, hline⟩ := exists_not_awaited hunseen
      rw [h.keptLines_of_not_awaited column htyped hbefore hline] at hkept
      have hne : contentLines printed ≠ [] := hkept ▸ List.cons_ne_nil _ _
      rw [h.dropPrompt_append hne] at hkept
      have hlength := congrArg List.length hkept
      simp only [List.length_cons, List.length_append] at hlength
      omega
    refine ⟨htyped, fun line hline hseen => ?_⟩
    obtain ⟨awaited, hawaited⟩ := hseen
    obtain ⟨rest, hcontent⟩ := List.head?_eq_some_iff.1 hline
    have hne : contentLines printed ≠ [] := hcontent ▸ List.cons_ne_nil _ _
    rw [h.keptLines_reply, h.dropPrompt_append hne, hcontent, ← List.singleton_append,
      ← List.append_assoc, ← hawaited, dropEcho_seen] at hkept
    have hlength := (dropEcho_suffix (trim prompt) awaited rest).length_le
    rw [hkept, List.length_append, List.length_singleton] at hlength
    omega
  · rintro ⟨htyped, hfirst⟩
    rw [h.keptLines_reply]
    cases hcontent : contentLines printed with
    | nil =>
      rw [List.append_nil]
      exact dropEcho_eq_nil ((seen_mono (dropPrompt_begins ..)).trans htyped)
    | cons first rest =>
      have hne : contentLines printed ≠ [] := hcontent ▸ List.cons_ne_nil _ _
      rw [← hcontent, h.dropPrompt_append hne, hcontent]
      exact dropEcho_stops htyped (hfirst first (by rw [hcontent]; rfl)) rest

/-- If no line typed begins with the bare prompt, the echo is told from what was printed. -/
theorem tellsEcho (h : PlainReply prompt code printed)
    (htyped : ∀ line ∈ typedLines code, ¬ trim prompt <+: trim line) :
    TellsEcho prompt code printed := by
  have hshown : ∀ line ∈ typedLines code, afterPrompt (trim prompt) line = trim line := by
    intro line hline
    rw [afterPrompt]
    split
    · next rest hrest => exact absurd ⟨rest, (Text.after?_eq_some.1 hrest).symm⟩ (htyped line hline)
    · rfl
  have hseen : seen (trim prompt) (typedLines code) = echoLines (frameSubmission code) := by
    rw [seen, List.map_congr_left hshown, echoLines_frameSubmission h.noEnd]
  refine ⟨hseen ▸ List.prefix_refl _, fun line hline hprefix => ?_⟩
  have hlength := hprefix.length_le
  rw [seen_append, hseen, List.length_append] at hlength
  simp only [seen, h.first line hline, List.map_singleton, List.filter_cons_of_pos,
    List.length_cons] at hlength
  omega

end PlainReply

/-- A reply is cleaned to what was printed exactly when its echo is told from that, which is so
when no line typed begins with the prompt. Otherwise the first line typed that does not show what
is awaited is left in the result, and so is everything after it but for the prompt at the end. -/
theorem cleanOutput_reply {prompt code printed : Text} (h : PlainReply prompt code printed)
    (column : Nat) :
    let cleaned := cleanOutput (reply prompt code printed column) (frameSubmission code) prompt
    let awaited := echoLines (frameSubmission code)
    (cleaned = printed ↔ TellsEcho prompt code printed) ∧
      ((∀ line ∈ typedLines code, ¬ trim prompt <+: trim line) → cleaned = printed) ∧
      ∀ before line after, typedLines code = before ++ line :: after →
        seen (trim prompt) before <+: awaited →
        ¬ seen (trim prompt) (before ++ [line]) <+: awaited →
        cleaned = Text.join "\n"
          (line :: dropPrompt (trim prompt) (after ++ contentLines printed)) := by
  have hiff := cleanOutput_eq_iff.trans (h.keptLines_eq_iff column)
  refine ⟨hiff, fun htyped => hiff.2 (h.tellsEcho htyped), ?_⟩
  intro before line after htyped hbefore hline
  rw [cleanOutput_eq, h.keptLines_of_not_awaited column htyped hbefore hline]

/-- The echo of two lines of code is told from what they print; that of two lines of which the
second begins with the prompt is not, and the second line is left in the result. -/
theorem cleanOutput_reply_lines :
    PlainReply "> " "let a = 1;\na + 1" "2" ∧ PlainReply "> " "a\n> b" "1" ∧
      cleanOutput (reply "> " "let a = 1;\na + 1" "2" 3)
        (frameSubmission "let a = 1;\na + 1") "> " = "2".toList ∧
      cleanOutput (reply "> " "a\n> b" "1" 3) (frameSubmission "a\n> b") "> " =
        "> b\n1".toList := by
  have htold : PlainReply "> " "let a = 1;\na + 1" "2" :=
    ⟨by decide, by decide, by decide, by decide +kernel, by decide +kernel, by decide +kernel⟩
  have hleft : PlainReply "> " "a\n> b" "1" :=
    ⟨by decide, by decide, by decide, by decide +kernel, by decide +kernel, by decide +kernel⟩
  refine ⟨htold, hleft, (cleanOutput_reply htold 3).2.1 (by decide +kernel), ?_⟩
  refine ((cleanOutput_reply hleft 3).2.2 [".editor", "a"] "> b" [] ?_ ?_ ?_).trans ?_ <;>
    decide +kernel

end ReplDriver.Terminal
