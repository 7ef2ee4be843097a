import ReplDriver.Launch.Command
import ReplDriver.Launch.NodeVersion
import ReplDriver.Session.Exchange

/-!
# The world of the driver

Everything an operation may touch: the machine, the console, diagnostics, the clock, and every
session that was ever started. Sessions are known by the order in which their processes were
started.
-/

namespace ReplDriver

/-! ## The console -/

/-- Something that is asked of the line editor. -/
inductive EditorCall where
  | useCompleter
  | setDelimiters (delimiters : Text)
  | bind (binding : Text)
  | readHistory (path : Text)
  | writeHistory (path : Text)
deriving DecidableEq, Repr

/-- What comes of one read of the input: a line that brings its line end along, or is empty where
the input ends; an interrupt; or bytes that hold no text. -/
inductive InputLine where
  | text (s : Text)
  | interrupt
  | undecodable (fault : Utf8.Failure)

/-- The text of a line, if it can be read. -/
def InputLine.read : InputLine → Except Failure Text
  | .text s => .ok s
  | .interrupt => .error .interrupted
  | .undecodable fault => .error (.encoding fault)

/-- What is printed and typed. -/
structure Console where
  output : Text
  errors : Text
  input : List InputLine
  isTerminal : Bool
  hasEditor : Bool
  editorCalls : List EditorCall
  /-- The history file that is written when the program ends. -/
  historyFile : Option Text

namespace Console

/-- A console with some input and nothing printed. -/
def withInput (input : List InputLine) (isTerminal hasEditor : Bool) : Console :=
  ⟨[], [], input, isTerminal, hasEditor, [], none⟩

/-- Prints a text. -/
def print (c : Console) (s : Text) : Console := { c with output := c.output ++ s }

/-- Prints a line. -/
def printLine (c : Console) (s : Text) : Console := c.print (s ++ "\n")

/-- Prints a line to the error output. -/
def printError (c : Console) (s : Text) : Console := { c with errors := c.errors ++ s ++ "\n" }

/-- Takes away what has been typed up to and with a line; `rest` is what follows. -/
def consume (c : Console) (rest : List InputLine) : Console := { c with input := rest }

/-- A typed line without its line end. -/
def typed (line : Text) : Text := if line.getLast? == some '\n' then line.dropLast else line

/-- Asks something of the line editor. -/
def callEditor (c : Console) (call : EditorCall) : Console :=
  { c with editorCalls := c.editorCalls ++ [call] }

end Console

/-! ## Diagnostics -/

/-- Whether diagnostics are on, and the place of the file that they also go to. -/
structure Journal where
  enabled : Bool
  file : Option (List Text)
deriving DecidableEq, Repr

/-! ## The world -/

/-- What comes of starting a process. -/
inductive Launch.Result where
  | runs (b : Behaviour)
  | refused (why : Text)

/-- The world of the driver. How a process behaves depends on the name of the session that it is
started for and on how many were asked for under that name before. -/
structure World where
  machine : Machine
  console : Console
  journal : Journal
  clock : Clock
  launch : Text → Nat → Launch.Result
  requested : List Text
  /-- Every session that was started, by the order of its process. -/
  sessions : List Session
  /-- The sessions that can be found by name. -/
  registered : List (Text × Nat)

namespace World

/-- A world in which nothing has happened yet. -/
def initial (machine : Machine) (console : Console) (launch : Text → Nat → Launch.Result)
    (rounding : Double.Rounding) : World where
  machine := machine
  console := console
  journal := ⟨false, none⟩
  clock := .zero rounding
  launch := launch
  requested := []
  sessions := []
  registered := []

/-! ### Output -/

/-- Prints a text. -/
def print (s : Text) : Op World Unit := modify fun w => { w with console := w.console.print s }

/-- Prints a line. -/
def printLine (s : Text) : Op World Unit :=
  modify fun w => { w with console := w.console.printLine s }

/-- Prints a line to the error output. -/
def printError (s : Text) : Op World Unit :=
  modify fun w => { w with console := w.console.printError s }

/-- An operation on the machine. -/
def onMachine {α : Type} (act : Op Machine α) : Op World α :=
  Op.zoom World.machine (fun machine w => { w with machine }) act

/-- Writes a note down where diagnostics are on: to the file, if there is one, and to the error
output. -/
def record (w : World) (n : Note) : World :=
  if w.journal.enabled then
    let files := match w.journal.file with
      | some place => w.machine.files.appendAt place (Utf8.encode (n.text ++ "\n"))
      | none => w.machine.files
    { w with
      machine := { w.machine with files }
      console := { w.console with errors := w.console.errors ++ n.line } }
  else w

/-- Takes a note. -/
def note (n : Note) : Op World Unit := modify fun w => w.record n

/-- Turns diagnostics on; a path names a file that they also go to from now on. -/
def enableDiagnostics (path : Option Text) : Op World Unit := do
  modify fun w => { w with journal := { w.journal with enabled := true } }
  match path.filter fun p => !p.isEmpty with
  | none => return
  | some p => do
    let w ← get
    let (place, content) ←
      Op.ofExcept (Machine.opened p (w.machine.files.openForWriting w.machine.cwd.parts p))
    set { w with
      machine := { w.machine with files := w.machine.files.writeAt place content }
      journal := { w.journal with file := some place } }

/-- Turns diagnostics off. -/
def disableDiagnostics : Op World Unit := modify fun w => { w with journal := ⟨false, none⟩ }

/-! ### Sessions -/

/-- The session of a number; there is one for every number that was ever given out. -/
def session? (w : World) (handle : Nat) : Option Session := w.sessions[handle]?

/-- The desk of a session. -/
def desk (w : World) (s : Session) : Desk := ⟨s, w.clock, []⟩

/-- The world after work at the desk of a session. -/
def leaveDesk (w : World) (handle : Nat) (d : Desk) : World :=
  d.notes.reverse.foldl record
    { w with sessions := w.sessions.set handle d.session, clock := d.clock }

/-- An operation on one session. -/
def atDesk {α : Type} (handle : Nat) (act : Op Desk α) : Op World α := fun w =>
  match w.session? handle with
  | none => (.error (.stopped "no such session"), w)
  | some s =>
    let (outcome, d) := act (w.desk s)
    (outcome, w.leaveDesk handle d)

/-- Lets a new round of waiting begin on every process. -/
def settle (w : World) : World :=
  { w with sessions := w.sessions.map fun s => { s with process := s.process.settle } }

/-- Starts a session: finds the program, starts the process, and waits for the first prompt unless
told not to. -/
def startSession (name : Text) (settings : Settings) (wait : Bool) : Op World Nat := do
  let executable ← onMachine (Launch.resolve settings.executable)
  let w ← get
  let arguments := Launch.arguments executable settings
  let environment :=
    Launch.environment (settings.absoluteModulePaths w.machine.cwd) w.machine.environment
  note (.starting name executable)
  let attempt := w.requested.count name
  modify fun w => { w with requested := name :: w.requested }
  match w.launch name attempt with
  | .refused why => throw (.executable why)
  | .runs behaviour => do
    let launched : Launched :=
      ⟨arguments, environment.value? "NODE_PATH", settings.projectRoot⟩
    let handle := (← get).sessions.length
    modify fun w => { w with
      sessions := w.sessions ++ [Session.start name executable (Process.start launched behaviour)] }
    if wait then
      let _ ← atDesk handle (Desk.awaitPrompt ⟨settings.prompt, settings.pollInterval⟩ true)
    return handle

end World

end ReplDriver
