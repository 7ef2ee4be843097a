import ReplDriver.Terminal.Control

/-!
# Candidates

The REPL answers a probe either by completing the input line in place or by a listing, which is
followed by the redrawn prompt. `candidates` reads both forms. Previews of results that the REPL
draws under the input line belong to neither and are taken out first.
-/

namespace ReplDriver.Completion

open Terminal

/-! ## Previews -/

/-- The text after the end of a preview: back to the normal colour, perhaps to a column, and up. -/
def previewEnd? (s : Text) : Option Text := do
  let r ← Text.after? "\x1b[39m" s
  cursorUp? ((columnMove? r).getD r)

/-- The text after a preview whose content begins here. -/
def afterPreview? (s : Text) : Option Text :=
  match previewEnd? s with
  | some rest => some rest
  | none =>
    match s with
    | [] => none
    | c :: r => if c == '\n' then none else afterPreview? r

/-- The text after a preview: a line end, and a dimmed line from which the cursor goes up again. -/
def preview? (s : Text) : Option Text :=
  (Text.after? "\n\x1b[90m" (s.dropWhile (· == '\r'))).bind afterPreview?

theorem afterPreview?_length {s r : Text} (h : afterPreview? s = some r) :
    r.length ≤ s.length := by
  have ending {s r : Text} (h : previewEnd? s = some r) : r.length ≤ s.length := by
    obtain ⟨t, ht, hr⟩ := Option.bind_eq_some_iff.1 h
    have h1 := cursorUp?_length hr
    have h2 : t.length ≤ s.length := by
      rw [Text.after?_eq_some.1 ht, List.length_append]
      omega
    cases hc : columnMove? t with
    | none => rw [hc] at h1; simp at h1; omega
    | some u => rw [hc] at h1; have := columnMove?_length hc; simp at h1; omega
  induction s with
  | nil =>
    unfold afterPreview? at h
    split at h
    · next he => cases h; exact ending he
    · cases h
  | cons c t ih =>
    unfold afterPreview? at h
    split at h
    · next he => cases h; exact ending he
    · simp only at h
      split at h
      · cases h
      · exact Nat.le_succ_of_le (ih h)

theorem preview?_length {s r : Text} (h : preview? s = some r) : r.length < s.length := by
  obtain ⟨t, ht, hr⟩ := Option.bind_eq_some_iff.1 h
  have h1 := afterPreview?_length hr
  have h2 : (s.dropWhile (· == '\r')).length ≤ s.length := (List.dropWhile_sublist _).length_le
  have h3 := congrArg List.length (Text.after?_eq_some.1 ht)
  simp at h3
  omega

/-- The text without previews. -/
def removePreviews (s : Text) : Text :=
  match _h : preview? s with
  | some rest => removePreviews rest
  | none =>
    match s with
    | [] => []
    | c :: r => c :: removePreviews r
termination_by s.length
decreasing_by
  · exact preview?_length _h
  · simp

/-! ## Listings -/

/-- Blanks that do not end a line. -/
def isInlineBlank (c : Char) : Bool := Text.isBlank c && c != '\n'

/-- The text without blank lines: of line ends with only blanks between them the last one stays. -/
def collapseBlankLines (s : Text) : Text :=
  match s with
  | [] => []
  | c :: r =>
    if c == '\n' && (r.dropWhile isInlineBlank).head? == some '\n' then
      collapseBlankLines (r.dropWhile isInlineBlank)
    else c :: collapseBlankLines r
termination_by s.length
decreasing_by
  · exact Nat.lt_succ_of_le (List.dropWhile_sublist _).length_le
  · simp

/-- The candidates of a listing: the words of all its lines but the first, which echoes the input,
and the last, which is the prompt. -/
def listed (text : Text) : List Text :=
  let lines := Text.splitOn '\n' (Text.trimRight (collapseBlankLines text))
  (lines.drop 1).dropLast.flatMap Text.words

/-- Characters of a candidate that is completed in place. -/
def isCandidateChar (c : Char) : Bool :=
  Text.isIdentChar c || ".@/\x27\x22(-".toList.contains c

/-- The candidate that the input line was completed to, unless it is what was typed. -/
def inlineCandidate (text token : Text) : List Text :=
  let found := Text.takeRightWhile isCandidateChar (Text.trimRight text)
  if found.isEmpty || found == token then [] else [found]

/-- What a reply shows: without previews, control sequences and carriage returns. -/
def shownText (reply : Text) : Text := Text.without '\r' (stripControl (removePreviews reply))

/-- The candidates that the reply to a probe shows. -/
def candidates (reply token : Text) : List Text :=
  let text := shownText reply
  if (Text.trim text).contains '\n' then listed text else inlineCandidate text token

/-! ## Module paths -/

/-- What is typed before a module path to have it completed. -/
def moduleLead : Text := "require('"

/-- The text that is probed for a token. -/
def probeText (token : Text) (inModulePath : Bool) : Text :=
  if inModulePath then moduleLead ++ token else token

/-- A candidate for a module path without what was typed before the path. -/
def withoutLead (candidate : Text) : Text := (Text.after? moduleLead candidate).getD candidate

end ReplDriver.Completion
