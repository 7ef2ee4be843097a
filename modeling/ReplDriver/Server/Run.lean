import ReplDriver.Server.Connection

/-!
# Running the server

The server listens, serves one client after another, and stops when it is interrupted. However it
stops, it ends every session it started.
-/

namespace ReplDriver.Server

/-! ## Listening -/

/-- The number of the socket that is given where any will do. -/
def freePort : Int := 45678

/-- How many clients may wait to be accepted. -/
def backlog : Nat := 5

/-- Takes a call to the network down. -/
def call (c : NetworkCall) : Op Server Unit := modify fun s => { s with calls := s.calls ++ [c] }

/-- Opens the listening socket; the answer is the number that it got. -/
def bind : Op Server Int := do
  let s ← get
  call (.bind s.host s.portNumber)
  call (.listen backlog)
  let portNumber := if s.portNumber == 0 then freePort else s.portNumber
  modify fun s => { s with portNumber, listening := true, running := true }
  return portNumber

/-- Stops listening and ends every session. -/
def stop : Op Server Unit := do
  let s ← get
  modify fun s => { s with running := false, listening := false }
  if s.listening then
    call .shutdown
    call .close
  (s.workspaces.map (·.1)).forM endSession
  onWorld (World.printLine "Server stopped.")

/-! ## Accepting clients -/

/-- What comes when no client is left. -/
inductive Ending where
  | interrupted
  | failed (why : Text)
  /-- The server was stopped from elsewhere, which makes waiting for clients fail. -/
  | stopped (why : Text)

/-- Serves client after client while the server runs; the clients are returned in order. -/
def accept (peer : Text) (ending : Ending) :
    List Connection → Server → Except Failure Unit × List Connection × Server
  | clients, s =>
    if !s.running then (.ok (), clients, s)
    else
      match clients with
      | [] =>
        match ending with
        | .interrupted => (.error .interrupted, [], s)
        | .failed why => (.error (.device why), [], s)
        | .stopped why => (.error (.device why), [], { s with running := false })
      | c :: rest =>
        match handleClient peer c s with
        | (.error f, c, s) => (.error f, c :: rest, s)
        | (.ok (), c, s) =>
          let (outcome, rest, s) := accept peer ending rest s
          (outcome, c :: rest, s)

/-- What is left of the outcome of accepting: an interrupt is a wish to stop, and a failure of the
system after the server was stopped means nothing. -/
def settleAccept (outcome : Except Failure Unit) : Op Server (Except Failure Unit) := do
  match outcome with
  | .error .interrupted => do
    onWorld (World.printLine "\nShutting down...")
    return .ok ()
  | .error f => return if f.family == .system && !(← get).running then .ok () else .error f
  | .ok () => return .ok ()

/-- Opens the socket unless it is open, and tells where the server is found. -/
def announce : Op Server Unit := do
  if !(← get).listening then
    let _ ← bind
  let s ← get
  let number := Text.ofInt s.portNumber
  onWorld (World.printLine ("jsrepl nREPL server started on " ++ s.host ++ ":" ++ number))
  match s.portFile.filter fun p => !p.isEmpty with
  | none => return
  | some path => do
    let machine ← Op.ofExcept (s.world.machine.writeText path number)
    onWorld (modify fun w => { w with machine })

/-- Runs the server until it stops. -/
def start (peer : Text) (clients : List Connection) (ending : Ending) (s : Server) :
    Except Failure Unit × List Connection × Server :=
  match announce s with
  | (.error f, s) => (.error f, clients, s)
  | (.ok (), s) =>
    let (outcome, clients, s) := accept peer ending clients s
    match (settleAccept outcome) s with
    | (.error f, s) => (.error f, clients, s)
    | (.ok outcome, s) =>
      match stop s with
      | (.error f, s) => (.error f, clients, s)
      | (.ok (), s) => (outcome, clients, s)

end ReplDriver.Server
