import ReplDriver.Terminal.Submission

/-!
# Replies

A reply as the process writes it holds more than what the evaluation printed: control sequences,
the echo of what was submitted, the notice of editor mode and the prompt at the end.
`cleanOutput` reduces a reply to what was printed.
-/

namespace ReplDriver.Terminal

open Text (trim isBlankText)

/-- How the notice of editor mode begins. -/
def editorNotice : Text := "// Entering editor mode"

/-- A line of a reply, empty if it is the notice of editor mode. -/
def withoutNotice (line : Text) : Text := if line.startsWith editorNotice then [] else line

/-- The lines of a reply, without control sequences and carriage returns. -/
def replyLines (raw : Text) : List Text :=
  (Text.splitOn '\n' (Text.without '\r' (stripControl raw))).map withoutNotice

/-- The lines that the echo of a submission consists of. -/
def echoLines (sent : Text) : List Text :=
  ((Text.splitOn '\n' (Text.without endOfTransmission sent)).map trim).filter fun line =>
    !line.isEmpty && line != editorCommand

/-- What a line shows besides a prompt before it. -/
def afterPrompt (barePrompt line : Text) : Text :=
  match Text.after? barePrompt (trim line) with
  | some r => trim r
  | none => trim line

/-- The lines without the echo they begin with, and without blank lines and bare prompts before
and within it. -/
def dropEcho (barePrompt : Text) : (echo lines : List Text) → List Text
  | _, [] => []
  | echo, line :: rest =>
    let shown := afterPrompt barePrompt line
    if shown.isEmpty || shown == editorCommand then dropEcho barePrompt echo rest
    else
      match echo with
      | e :: more => if shown == e then dropEcho barePrompt more rest else line :: rest
      | [] => line :: rest

/-- The lines without the blank lines and bare prompts they end with. -/
def dropPrompt (barePrompt : Text) (lines : List Text) : List Text :=
  (lines.reverse.dropWhile fun line => (trim line).isEmpty || trim line == barePrompt).reverse

/-- What the evaluation printed. -/
def cleanOutput (raw sent prompt : Text) : Text :=
  let barePrompt := trim prompt
  let lines := dropEcho barePrompt (echoLines sent) (dropPrompt barePrompt (replyLines raw))
  Text.trimWhile (· == '\n') (Text.join "\n" lines)

end ReplDriver.Terminal
