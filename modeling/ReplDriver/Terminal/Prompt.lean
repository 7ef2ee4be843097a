import ReplDriver.Terminal.Control

/-!
# The drawn prompt

The REPL draws its prompt as: cursor to column one, erase to the end of the screen, the prompt,
whatever is on the input line, and cursor to the input column. Nothing says what comes after it.
-/

namespace ReplDriver.Terminal

/-- What is written before the prompt when it is drawn. -/
def promptLead : Text := "\x1b[1G\x1b[0J"

/-- The text after the first move to a column on the line. -/
def afterColumnMove? (s : Text) : Option Text :=
  match columnMove? s with
  | some rest => some rest
  | none =>
    match s with
    | [] => none
    | c :: r => if c == '\n' then none else afterColumnMove? r

/-- The text after a drawn prompt that the text begins with. -/
def drawnPrompt? (prompt s : Text) : Option Text :=
  (Text.after? (promptLead ++ prompt) s).bind afterColumnMove?

/-- The first drawn prompt of a text: what stands before it, and the text after it. -/
def findPrompt? (prompt s : Text) : Option (Text × Text) :=
  match drawnPrompt? prompt s with
  | some rest => some ([], rest)
  | none =>
    match s with
    | [] => none
    | c :: r => (findPrompt? prompt r).map fun (before, rest) => (c :: before, rest)

/-- Whether a prompt is drawn somewhere in the text. -/
def hasPrompt (prompt s : Text) : Bool := (findPrompt? prompt s).isSome

/-- The prompt as it is drawn on an empty input line. -/
def drawPrompt (prompt : Text) : Text :=
  promptLead ++ prompt ++ "\x1b[" ++ Text.ofNat (prompt.length + 1) ++ "G"

end ReplDriver.Terminal
