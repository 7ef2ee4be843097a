import ReplDriver.Workspace.Basic

/-!
# Frontends

A frontend reads lines from the console, sends them, and prints what the evaluation printed. An
interrupt while a reply is awaited interrupts the evaluation and not the frontend. The loop goes
over the lines of the input, so that it ends when the input does.
-/

namespace ReplDriver.Frontend

/-- Prints a text. -/
def print (s : Text) : Op Seat Unit := Seat.onWorld (World.print s)

/-- Prints a line. -/
def printLine (s : Text) : Op Seat Unit := Seat.onWorld (World.printLine s)

/-- Shows a prompt; what is typed to it has been read when the rest of the input is left. -/
def ask (prompt : Text) (rest : List InputLine) : Op Seat Unit := do
  print prompt
  modify fun s => { s with world := { s.world with console := s.world.console.consume rest } }

/-- Sends a line. An interrupt while the reply is awaited interrupts the evaluation, and there is
no result. -/
def send (line : Text) : Op Seat (Option Evaluation) :=
  Op.answering (some <$> Seat.sendCode line) fun f =>
    match f with
    | .interrupted => some do
      printLine []
      let _ ← Seat.interrupt true
      return none
    | _ => none

/-- Prints what an evaluation printed, if anything. -/
def printResult (e : Evaluation) : Op Seat Unit :=
  if e.output.isEmpty then pure () else printLine e.output

/-! ## The simple frontend -/

/-- The prompt of a frontend. -/
def defaultPrompt : Text := "js> "

/-- Sends every line that is not blank, up to the end of the input. -/
def simpleLoop (prompt : Text) : List InputLine → Op Seat Unit
  | [] => do
    ask prompt []
    printLine []
  | .interrupt :: rest => do
    ask prompt rest
    throw .interrupted
  | .undecodable fault :: rest => do
    ask prompt rest
    throw (.encoding fault)
  | .text [] :: rest => do
    ask prompt rest
    printLine []
  | .text typed :: rest => do
    ask prompt rest
    let line := Console.typed typed
    if !Text.isBlankText line then
      match ← send line with
      | some e => printResult e
      | none => pure ()
    simpleLoop prompt rest

/-- The frontend without line editing. -/
def runSimple (prompt : Text) : Op Seat Unit := do
  simpleLoop prompt (← get).world.console.input
  Seat.close

/-! ## The terminal frontend -/

/-- What ends a token when the line editor completes: member chains and names with a dollar sign
are completed as one token. -/
def delimiters : Text := " \t\n\x60~!@#%^&*()-=+[\x7b]\x7d\\|;:'\x22,<>/?"

/-- Where the history of the terminal frontend is kept. -/
def defaultHistory : Text := ".jsrepl_history"

/-- Sets up line editing, if the console has it: completion, and a history that is written when
the program ends. -/
def setUpEditor (history : Text) : Op Seat Unit := do
  if (← get).world.console.hasEditor then
    let calls := [.useCompleter, .setDelimiters delimiters, .bind "tab: complete",
      .readHistory history]
    modify fun s =>
      let console := { calls.foldl Console.callEditor s.world.console with
        historyFile := some history }
      { s with world := { s.world with console } }

/-- The candidate of a number, a negative one counting from the end. -/
def candidate? (candidates : List Text) (number : Int) : Option Text :=
  let index := if number < 0 then number + candidates.length else number
  if index < 0 then none else candidates[index.toNat]?

/-- Answers the line editor, which asks for one candidate after another. The candidates are looked
up when the first is asked for; a failure to do so counts as none. -/
def completeLine (text : Text) (number : Int) (known : List Text) :
    Op Seat (Option Text × List Text) := do
  let candidates ←
    if number = 0 then
      Op.answering (Seat.complete text false) fun f =>
        if f.family == .signal then none
        else some do
          Seat.onWorld (World.note (.completionFailed f))
          return []
    else pure known
  return (candidate? candidates number, candidates)

/-- The help of the terminal frontend. -/
def help : Text :=
  Text.join "\n" [
    "",
    "jsrepl Commands:",
    "  .help            - Show this help message",
    "  .load FILE       - Send a JavaScript file (import/export rewritten)",
    "  .reset           - Restart the JavaScript process",
    "  .exit            - Exit",
    "  Ctrl-C           - Interrupt a running evaluation",
    "  Ctrl-D           - Exit",
    "",
    "Static imports are rewritten to dynamic ones, so this works:",
    "  import \x7b readFile \x7d from \x22node:fs/promises\x22;",
    "  await readFile(\x22package.json\x22, \x22utf8\x22)",
    ""]

/-- What a typed line asks for. -/
inductive Command where
  | exit
  | help
  | reset
  | load (path : Text)
  | nothing
  | code
deriving DecidableEq, Repr

/-- The command that a typed line writes. -/
def Command.ofLine (line : Text) : Command :=
  let command := Text.trim line
  if command == ".exit" then .exit
  else if command == ".help" then .help
  else if command == ".reset" then .reset
  else match Text.after? ".load " command with
    | some path => .load (Text.trim path)
    | none => if command.isEmpty then .nothing else .code

/-- Sends a file; one that cannot be opened is reported. -/
def load (path : Text) : Op Seat Unit := do
  let result ← Op.answering (some <$> Seat.loadFile path) fun f =>
    if f.family == .system then
      some do
        Seat.onWorld (World.printError ("Error: " ++ f.message))
        return none
    else none
  match result with
  | some e => printResult e
  | none => pure ()

/-- Carries out what every line asks for, up to `.exit` or the end of the input. -/
def terminalLoop (prompt : Text) : List InputLine → Op Seat Unit
  | [] => do
    ask prompt []
    printLine []
  | .interrupt :: rest => do
    ask prompt rest
    printLine []
    terminalLoop prompt rest
  | .undecodable fault :: rest => do
    ask prompt rest
    throw (.encoding fault)
  | .text [] :: rest => do
    ask prompt rest
    printLine []
  | .text typed :: rest => do
    ask prompt rest
    let line := Console.typed typed
    match Command.ofLine line with
    | .exit => pure ()
    | .help => do
      printLine help
      terminalLoop prompt rest
    | .reset => do
      let _ ← Seat.reset
      printLine "Session restarted."
      terminalLoop prompt rest
    | .load path => do
      load path
      terminalLoop prompt rest
    | .nothing => terminalLoop prompt rest
    | .code => do
      match ← send line with
      | some e => printResult e
      | none => pure ()
      terminalLoop prompt rest

/-- The frontend with line editing. -/
def runTerminal (prompt : Text) : Op Seat Unit := do
  printLine "jsrepl - JavaScript REPL driver"
  printLine "Type .help for help, Ctrl-D or .exit to quit."
  printLine []
  terminalLoop prompt (← get).world.console.input
  Seat.close

/-! ## Choosing a frontend -/

/-- The kinds of frontend. -/
inductive Mode where
  | terminal
  | simple
deriving DecidableEq, Repr

/-- The kind of frontend that a word names. -/
def Mode.ofText (word : Text) : Except Failure Mode :=
  if word == "terminal" then .ok .terminal
  else if word == "simple" then .ok .simple
  else .error (.unknownMode word)

/-- What can be chosen for a frontend, by name. -/
def Mode.options : Mode → List Text
  | .terminal => ["prompt".toList, "history_file".toList]
  | .simple => ["prompt".toList]

/-- Sets up a frontend: the one without line editing needs nothing. -/
def setUp (mode : Mode) (history : Text) : Op Seat Unit :=
  match mode with
  | .terminal => setUpEditor history
  | .simple => pure ()

/-- Answers the line editor for a frontend; one without line editing has no candidates to give. -/
def candidates (mode : Mode) (text : Text) (number : Int) (known : List Text) :
    Op Seat (Option Text × List Text) :=
  match mode with
  | .terminal => completeLine text number known
  | .simple => throw (.noSuchMember "SimpleRepl" "complete")

/-- Sets up and runs a frontend. -/
def run (mode : Mode) : Op Seat Unit := do
  setUp mode defaultHistory
  match mode with
  | .terminal => runTerminal defaultPrompt
  | .simple => runSimple defaultPrompt

end ReplDriver.Frontend
