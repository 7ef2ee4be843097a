import ReplDriver.Command.Parse
import ReplDriver.Frontend.Basic
import ReplDriver.Server.Client
import ReplDriver.Server.Run
import ReplDriver.Settings.Search

/-!
# Running a command

Every command ends with a status: 0 if it did its work, 1 if a failure was reported, 2 if the
command line is wrong. A failure that a command does not report ends the program.

A command that sends code ends the session that it started, whatever happens.
-/

namespace ReplDriver.Command

/-! ## Where commands run -/

/-- The network around the program: who connects to a server, what comes then, what a server sends
to a client, and what was sent and asked for so far. -/
structure Network where
  peer : Text
  clients : List Connection
  ending : Server.Ending
  identifier : Nat → Text
  /-- Why connecting is refused, if it is. -/
  refusal : Option Text
  packets : Packets
  sent : List Text
  calls : List NetworkCall

/-- The world and the network. -/
structure Site where
  world : World
  network : Network

namespace Site

/-- An operation on the world. -/
def onWorld {α : Type} (act : Op World α) : Op Site α :=
  Op.zoom Site.world (fun world s => { s with world }) act

/-- An operation in a new workspace. -/
def inWorkspace {α : Type} (settings : Settings) (act : Op Seat α) : Op Site α := fun s =>
  let (outcome, seat) := act ⟨Workspace.new settings none, s.world⟩
  (outcome, { s with world := seat.world })

end Site

/-! ## Reporting -/

/-- What is reported of a failure of the driver. -/
def driverReport (f : Failure) : Option Text :=
  if f.family == .driver then some ("Error: " ++ f.message) else none

/-- What is reported of a failure while a file is sent. -/
def fileReport (path : Text) (f : Failure) : Option Text :=
  if f.family == .system then some ("Error reading " ++ path ++ ": " ++ f.message)
  else driverReport f

/-- The value of an operation, or nothing where its failure was reported. -/
def reporting {α : Type} (report : Failure → Option Text) (act : Op World α) :
    Op World (Option α) :=
  Op.answering (some <$> act) fun f =>
    (report f).map fun line => do
      World.printError line
      return none

/-- The value of an operation in a workspace, or nothing where its failure was reported. -/
def reportingAt {α : Type} (report : Failure → Option Text) (act : Op Seat α) :
    Op Seat (Option α) :=
  Op.answering (some <$> act) fun f =>
    (report f).map fun line => do
      Seat.onWorld (World.printError line)
      return none

/-- What an operation gives, before the session of its workspace is ended. -/
def once {α : Type} (settings : Settings) (report : Failure → Option Text) (act : Op Seat α) :
    Op Site (Option α) :=
  Site.inWorkspace settings (Op.ensuring (reportingAt report act) Seat.close)

/-- The status of a command whose outcome is shown, or was reported. -/
def showing {α : Type} (outcome : Option α) (display : α → Op World Unit) : Op Site Nat := do
  match outcome with
  | none => return 1
  | some a => do
    Site.onWorld (display a)
    return 0

/-- Prints what an evaluation printed, if anything. -/
def printOutput (e : Evaluation) : Op World Unit :=
  if e.output.isEmpty then pure () else World.printLine e.output

/-! ## Sources and settings -/

/-- The rest of the input. A line of it that cannot be read keeps all of it from being read. -/
def readInput : Op World Text := do
  let input := (← get).console.input
  modify fun w => { w with console := w.console.consume [] }
  let lines ← Op.ofExcept (input.mapM InputLine.read)
  return lines.flatten

/-- The text at a path; no path and a dash stand for the input. -/
def readSource (path : Option Text) : Op World Text := do
  match path.filter (· != "-".toList) with
  | none => readInput
  | some p => Op.ofExcept ((← get).machine.readText p)

/-- The settings with what the command line says. -/
def override (s : Settings) (a : Arguments) : Settings :=
  let given (x : Option Text) : Option Text := x.filter fun t => !t.isEmpty
  let s := { s with
    program := (given a.program).getD s.program
    nodeVersion := (given a.nodeVersion).or s.nodeVersion
    mode := if a.strict then "strict".toList else s.mode
    transformModules := s.transformModules && !a.noTransform }
  a.modulePaths.foldl Settings.addModulePath s

/-- The settings of a command, or nothing where they were found wrong and that was reported. -/
def loadSettings (a : Arguments) : Op World (Option Settings) := do
  let machine := (← get).machine
  let report (f : Failure) : Option Text :=
    if f.family == .value then some ("Error in configuration: " ++ f.message) else none
  match ← reporting report (Op.ofExcept (Settings.loadOrDefault machine a.config)) with
  | none => return none
  | some s => do
    let s := override s a
    if s.debug then World.enableDiagnostics none
    return some s

/-- A command that needs settings. -/
def withSettings (a : Arguments) (act : Settings → Op Site Nat) : Op Site Nat := do
  match ← Site.onWorld (loadSettings a) with
  | none => return 1
  | some s => act s

/-! ## The commands -/

/-- Starts an interactive frontend. -/
def interact (a : Arguments) (settings : Settings) : Op Site Nat :=
  Site.inWorkspace settings do
    match ← reportingAt driverReport Seat.session with
    | none => return 1
    | some _ => do
      let console := (← get).world.console
      Frontend.run (if a.simple || !console.isTerminal then .simple else .terminal)
      return 0

/-- Evaluates code, which may be the input. -/
def evaluate (code : Text) (settings : Settings) : Op Site Nat := do
  let code ← if code == "-".toList then Site.onWorld readInput else pure code
  showing (← once settings driverReport (Seat.sendCode code)) printOutput

/-- Sends a file. -/
def sendFile (path : Text) (settings : Settings) : Op Site Nat := do
  showing (← once settings (fileReport path) (Seat.loadFile path)) printOutput

/-- The offset that is asked for, the end of the text if none is. -/
def pointIn (text : Text) (point : Option Int) : Int := point.getD text.length

/-- Prints one candidate a line. -/
def printCandidates (text : Text) (point : Option Int) (settings : Settings) : Op Site Nat := do
  let outcome ← once settings driverReport (Seat.completeAt text (pointIn text point))
  showing outcome fun (_, candidates) => candidates.forM World.printLine

/-- Prints where the expression before an offset begins, and the expression. -/
def printBoundary (a : Arguments) : Op Site Nat := do
  let text ← match a.operand with
    | some text => pure text
    | none => Site.onWorld (readSource a.file)
  let report (f : Failure) : Option Text :=
    if f.family == .driver || f.family == .value then some ("Error: " ++ f.message) else none
  let outcome ← Site.onWorld
    (reporting report (Op.ofExcept (Expression.last text (pointIn text a.point))))
  showing outcome fun (start, expression) => do
    World.printLine (Text.ofNat start)
    World.printLine expression

/-- Prints a file as a script. -/
def printTransformed (path : Option Text) : Op Site Nat := do
  let report (f : Failure) : Option Text :=
    if f.family == .system then
      some ("Error reading " ++ path.getD [] ++ ": " ++ f.message)
    else none
  showing (← Site.onWorld (reporting report (readSource path))) fun source =>
    World.print (Module.transform source)

/-- Runs the server. -/
def serve (a : Arguments) (settings : Settings) : Op Site Nat := do
  Site.onWorld (World.printLine (match settings.projectRoot.filter fun r => !r.isEmpty with
    | some root => "Starting nREPL server for project: " ++ root
    | none => "Starting nREPL server (no project context)"))
  fun s =>
    let n := s.network
    let server :=
      Server.new a.host a.portNumber (some Server.defaultPortFile) settings n.identifier s.world
    let (outcome, clients, server) := Server.start n.peer n.clients n.ending server
    (outcome.map fun _ => 0, ⟨server.world, { n with clients, calls := n.calls ++ server.calls }⟩)

/-! ## The client -/

/-- Whether a response holds a word: as the name of a member, as an item, or anywhere in it. -/
def mentions (response : Json) (word : Text) : Except Failure Bool :=
  match response with
  | .object members => .ok (members.lookup word).isSome
  | .list items => .ok (items.any fun v => match v with | .text s => s == word | _ => false)
  | .text s => .ok (Text.includes word s)
  | v => .error (.wrongType (.noMembers v.kindName))

/-- The line that shows a response: its failure, or what was printed. -/
def responseLine (response : Json) : Except Failure (Option Text) := do
  -- what is no object holds the word as an item or a part, and has no member of that name
  let member (name : Text) : Except Failure Json :=
    match response.member? name with
    | some v => .ok v
    | none =>
      .error (.wrongType (match response with
        | .list _ => .listIndex "str"
        | _ => .textIndex "str"))
  if ← mentions response "error" then return some ("Error: " ++ (← member "error").plain)
  else if ← mentions response "out" then return some (← member "out").plain
  else return none

/-- Sends code to the server and shows the response. -/
def ask (code : Text) : Op Client Unit := do
  match ← Op.ofExcept (responseLine (← Client.eval code)) with
  | some line => Client.onWorld (World.printLine line)
  | none => return

/-- Shows the prompt; what is typed to it has been read when the rest of the input is left. -/
def promptClient (rest : List InputLine) : Op Client Unit := do
  Client.onWorld (World.print "client> ")
  Client.onWorld (modify fun w => { w with console := w.console.consume rest })

/-- Sends every line that is not blank, up to `:quit` or the end of the input. An interrupt gives
up a line and not the conversation. -/
def converse : List InputLine → Op Client Unit
  | [] => promptClient []
  | .interrupt :: rest => do
    promptClient rest
    Client.onWorld (World.printLine [])
    converse rest
  | .undecodable fault :: rest => do
    promptClient rest
    throw (.encoding fault)
  | .text [] :: rest => promptClient rest
  | .text typed :: rest => do
    promptClient rest
    let code := Console.typed typed
    if Text.trim code == ":quit" then return
    if !Text.isBlankText code then
      Op.answering (ask code) fun f =>
        match f with
        | .interrupted => some (Client.onWorld (World.printLine []))
        | _ => none
    converse rest

/-- Connects to a server and talks to it. A failure of the connection is reported. -/
def talk : Op Client Nat :=
  Op.answering
    (do
      Client.connect
      Client.onWorld (World.printLine "\nSimple nREPL Client")
      Client.onWorld (World.printLine "Type code to evaluate, or :quit to exit\n")
      converse (← get).world.console.input
      return 0)
    fun f =>
      if f.family == .system then
        some do
          Client.onWorld (World.printError ("Error: " ++ f.message))
          return 1
      else none

/-- Runs the test client. -/
def runClient (a : Arguments) : Op Site Nat := fun s =>
  let n := s.network
  let (outcome, c) :=
    (Op.ensuring talk Client.close) (Client.new a.host a.portNumber n.refusal n.packets s.world)
  (outcome, ⟨c.world,
    { n with packets := c.incoming, sent := n.sent ++ c.sent, calls := n.calls ++ c.calls }⟩)

/-! ## Running -/

/-- Whether a command reads the input. -/
def readsInput (name : Name) (a : Arguments) : Bool :=
  let isInput (path : Option Text) : Bool := path.all (· == "-".toList)
  match name with
  | .repl | .client => true
  | .eval => isInput a.operand
  | .boundary => a.operand.isNone && isInput a.file
  | .transform => isInput a.operand
  | .load | .complete | .server => false

/-- Carries out a command. -/
def perform (name : Name) (a : Arguments) : Op Site Nat :=
  let operand := a.operand.getD []
  match name with
  | .repl => withSettings a (interact a)
  | .eval => withSettings a (evaluate operand)
  | .load => withSettings a (sendFile operand)
  | .complete => withSettings a (printCandidates operand a.point)
  | .boundary => printBoundary a
  | .transform => printTransformed a.operand
  | .server => withSettings a (serve a)
  | .client => runClient a

/-- Tells why no command is run; the answer is the status. -/
def explain : Halt → Op World Nat
  | .help g => do
    World.printLine g.usage
    return 0
  | .misuse g message => do
    World.printError g.usage
    World.printError (g.program ++ ": error: " ++ message)
    return 2

/-- Reads a command line and carries it out. The answer is the status that the program ends with.
-/
def run (line : List Text) : Op Site Nat := do
  match parse line with
  | .error halt => Site.onWorld (explain halt)
  | .ok (name, a) => do
    if a.debug || a.log.any fun p => !p.isEmpty then
      Site.onWorld (World.enableDiagnostics a.log)
    perform name a

end ReplDriver.Command
