import ReplDriver.Server.Request

/-!
# The server

Editors that cannot drive a terminal send their requests to a server. Every session of the server
has a workspace, and through it a REPL session, of its own. A request that names no open session is
carried out in a new one.

A failure of the driver, or one that a value in the request causes, is answered. Any other failure
ends the connection.
-/

namespace ReplDriver

/-- Something that is asked of the network. -/
inductive NetworkCall where
  | bind (host : Text) (portNumber : Int)
  | listen (backlog : Nat)
  | shutdown
  | close
  | connect (host : Text) (portNumber : Int)
deriving DecidableEq, Repr

/-- The server: where it listens, the settings that every session begins with, the workspaces of
the open sessions, and how many sessions have been made so far. -/
structure Server where
  host : Text
  portNumber : Int
  portFile : Option Text
  settings : Settings
  workspaces : List (Text × Workspace)
  issued : Nat
  /-- The name of each session, by how many were made before. -/
  identifier : Nat → Text
  listening : Bool
  running : Bool
  calls : List NetworkCall
  world : World

namespace Server

open Protocol (Response members status)

/-- The version of the driver. -/
def version : Text := "0.1.0"

/-- The number of the socket that is listened on unless another is asked for. -/
def defaultPort : Int := 7888

/-- The address that is listened on unless another is asked for. -/
def defaultHost : Text := "127.0.0.1"

/-- The file that the number of the socket is written to for editors. -/
def defaultPortFile : Text := ".nrepl-port"

/-- A server that does not listen yet and has no sessions. -/
def new (host : Text) (portNumber : Int) (portFile : Option Text) (settings : Settings)
    (identifier : Nat → Text) (world : World) : Server where
  host := host
  portNumber := portNumber
  portFile := portFile
  settings := settings
  workspaces := []
  issued := 0
  identifier := identifier
  listening := false
  running := false
  calls := []
  world := world

/-- An operation on the world. -/
def onWorld {α : Type} (act : Op World α) : Op Server α :=
  Op.zoom Server.world (fun world s => { s with world }) act

/-- Takes a note. -/
def note (n : Note) : Op Server Unit := onWorld (World.note n)

/-! ## Sessions -/

/-- The workspace of an open session. -/
def workspace? (s : Server) (id : Text) : Option Workspace := s.workspaces.lookup id

/-- The open sessions with another workspace for one of them. -/
def replaceWorkspace (workspaces : List (Text × Workspace)) (id : Text) (w : Workspace) :
    List (Text × Workspace) :=
  workspaces.map fun (k, v) => (k, if k = id then w else v)

/-- An operation on the workspace of an open session. -/
def atWorkspace {α : Type} (id : Text) (act : Op Seat α) : Op Server α := fun s =>
  match s.workspace? id with
  | none => (.error (.stopped "no such session"), s)
  | some workspace =>
    let (outcome, seat) := act ⟨workspace, s.world⟩
    (outcome, { s with
      workspaces := replaceWorkspace s.workspaces id seat.workspace
      world := seat.world })

/-- The settings of a new session: the name of its REPL session is its own. -/
def settingsFor (s : Server) (id : Text) : Settings :=
  { s.settings with sessionName := s.settings.sessionName ++ "-" ++ id }

/-- Makes a session. Its process is started when a request first needs it. -/
def createSession : Op Server Text := fun s =>
  let id := s.identifier s.issued
  (.ok id, { s with
    issued := s.issued + 1
    workspaces := s.workspaces ++ [(id, Workspace.new (s.settingsFor id) none)] })

/-- Whether a value can be the name of a session at all. -/
def isName : Json → Bool
  | .list _ | .object _ => false
  | _ => true

/-- The open session that a value names, or a new one. -/
def getOrCreateSession (session : Json) : Op Server Text := do
  if session.isTruthy && !isName session then
    throw (.wrongType (.noKey session.kindName))
  match session with
  | .text id => if ((← get).workspace? id).isSome then return id else createSession
  | _ => createSession

/-- Ends an open session. -/
def endSession (id : Text) : Op Server Unit := do
  match (← get).workspace? id with
  | none => return
  | some workspace => do
    modify fun s => { s with workspaces := s.workspaces.filter fun (k, _) => k != id }
    onWorld (Registry.remove workspace.settings.sessionName)

/-- Ends the session that a value names. A value that cannot be a name is found wrong only where
there are names to compare it with. -/
def closeSession (session : Json) : Op Server Unit := do
  if session.isTruthy && !isName session && !(← get).workspaces.isEmpty then
    throw (.wrongType (.noKey session.kindName))
  match session with
  | .text id => endSession id
  | _ => return

/-! ## Requests -/

/-- Whether a failure is answered and the connection goes on. -/
def isAnswered (f : Failure) : Bool :=
  match f.family with
  | .driver | .key | .type | .value => true
  | _ => false

/-- Answers those failures that are answered, after what has been written of the response. -/
def answering (op : Json) (begun : Response) (act : Op Server Response) : Op Server Response :=
  Op.answering act fun f =>
    if isAnswered f then
      some do
        note (.requestFailed op f)
        return begun ++ Protocol.ofFailure f
    else none

/-- What the server can do. -/
def description : Response :=
  members [
    ("versions", .object [("jsrepl".toList, .object [("version-string".toList, .text version)])]),
    ("ops", .object (Request.operationNames.map fun name => (name.toList, .object []))),
    Protocol.done]

/-- Carries out a request on a session. -/
def serveSession (begun : Response) (op session request : Json)
    (act : Json → Op Seat Response) : Op Server Response :=
  answering op begun do
    let id ← getOrCreateSession session
    let begun := begun ++ members [("session", .text id)]
    answering op begun do
      return begun ++ (← atWorkspace id (act request))

/-- Carries out a request. -/
def serve (begun : Response) (op session request : Json) : Op Server Response :=
  match op with
  | .text word =>
    if word == "clone" then do
      let id ← createSession
      note (.sessionCreated id)
      return begun ++ members [("new-session", .text id), Protocol.done]
    else if word == "close" then do
      note (.sessionClosing session)
      answering op begun do
        closeSession session
        return begun ++ members [("status", status ["done", "session-closed"])]
    else if word == "describe" then return begun ++ description
    else other
  | _ => other
where
  /-- An operation on a session, or one that is not known. -/
  other : Op Server Response :=
    match Request.operation? op with
    | some act => serveSession begun op session request act
    | none =>
      return begun ++ members [("status", status ["error", "unknown-op"]),
        ("error", .text ("Unknown operation: " ++ op.plain))]

/-- Answers a request. The response begins with the `id` of the request. -/
def handleMessage (request : Json) : Op Server Response := do
  let op := Request.fieldOr request "op" .null
  let id := Request.fieldOr request "id" .null
  let session := Request.fieldOr request "session" .null
  note (.message op session id)
  let response ← serve (members [("id", id)]) op session request
  note (.response (.object response))
  return response

end Server

end ReplDriver
