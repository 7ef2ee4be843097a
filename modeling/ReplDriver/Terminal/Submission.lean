import ReplDriver.Terminal.Control

/-!
# Submissions

How code is typed so that it is one evaluation. A single line is typed with a line end. Several
lines go through editor mode, which takes them as they are until it is committed.
-/

namespace ReplDriver.Terminal

/-- The command that begins editor mode. -/
def editorCommand : Text := ".editor"

/-- The text that is typed to submit code. -/
def frameSubmission (code : Text) : Text :=
  let body := Text.trimWhile (· == '\n') code
  if body.contains '\n' then editorCommand ++ "\n" ++ body ++ "\n" ++ [endOfTransmission]
  else body ++ "\n"

end ReplDriver.Terminal
