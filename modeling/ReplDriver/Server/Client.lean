import ReplDriver.Server.Connection

/-!
# The test client

A client of the server for tests and scripts. Every request gets a number as its id, and names the
session that was made when the client connected. The next line that the server sends is taken for
the response.

* `takeLine?_append`: what is taken from the buffer and what is left make up the buffer.
-/

namespace ReplDriver

/-- The client: its connection, its session, the number of requests so far, and what has arrived
but was not asked for yet. -/
structure Client where
  host : Text
  portNumber : Int
  /-- Why connecting is refused, if it is. -/
  refusal : Option Text
  connected : Bool
  session : Json
  counter : Nat
  buffer : List UInt8
  incoming : Packets
  sent : List Text
  calls : List NetworkCall
  world : World

namespace Client

/-- A client that is not connected. -/
def new (host : Text) (portNumber : Int) (refusal : Option Text) (incoming : Packets)
    (world : World) : Client where
  host := host
  portNumber := portNumber
  refusal := refusal
  connected := false
  session := .null
  counter := 0
  buffer := []
  incoming := incoming
  sent := []
  calls := []
  world := world

/-- An operation on the world. -/
def onWorld {α : Type} (act : Op World α) : Op Client α :=
  Op.zoom Client.world (fun world c => { c with world }) act

/-! ## Lines from the server -/

/-- The first complete line of a run of bytes, and what follows it. -/
def takeLine? (bytes : List UInt8) : Option (List UInt8 × List UInt8) :=
  match bytes.dropWhile (· != Connection.lineFeed) with
  | _ :: rest => some (bytes.takeWhile (· != Connection.lineFeed), rest)
  | [] => none

/-- Waits for a complete line. -/
def awaitLine (buffer : List UInt8) : Packets → Except Failure (List UInt8) × List UInt8 × Packets
  | [] =>
    match takeLine? buffer with
    | some (line, rest) => (.ok line, rest, [])
    | none => (.error (.stopped "Connection closed"), buffer, [])
  | packet :: more =>
    match takeLine? buffer with
    | some (line, rest) => (.ok line, rest, packet :: more)
    | none =>
      match packet with
      | .error f => (.error f, buffer, more)
      | .ok bytes =>
        if bytes.isEmpty then (.error (.stopped "Connection closed"), buffer, more)
        else awaitLine (buffer ++ bytes) more

/-- The next line from the server. -/
def nextLine : Op Client (List UInt8) := fun c =>
  let (outcome, buffer, incoming) := awaitLine c.buffer c.incoming
  (outcome, { c with buffer, incoming })

/-! ## Requests -/

/-- Sends a request and returns the response. -/
def send (request : List (Text × Json)) : Op Client Json := do
  if !(← get).connected then throw (.stopped "Not connected")
  modify fun c => { c with counter := c.counter + 1 }
  let c ← get
  let request := Json.setMember request "id" (.text (Text.ofNat c.counter))
  let named := c.session.isTruthy && (request.lookup "session".toList).isNone
  let request := if named then Json.setMember request "session" c.session else request
  modify fun c => { c with sent := c.sent ++ [Json.render (.object request) ++ "\n"] }
  let line ← nextLine
  match Utf8.decode line with
  | .error fault => throw (.encoding fault)
  | .ok text =>
    match Json.read text with
    | .ok v => return v
    | .error (.tooLong digits) => throw (.integerTooLong digits)
    | .error (.tooDeep innermost) => throw (.nestedTooDeep innermost)
    | .error fault => throw (.json fault)

/-- A member of a response, which has to be an object. -/
def member (response : Json) (name : Text) (missing : Json) : Except Failure Json :=
  match response with
  | .object _ => .ok ((response.member? name).getD missing)
  | v => .error (.noSuchMember v.kindName "get")

/-- Connects and makes a session. -/
def connect : Op Client Unit := do
  let c ← get
  modify fun c => { c with calls := c.calls ++ [.connect c.host c.portNumber] }
  match c.refusal with
  | some why => throw (.device why)
  | none => do
    modify fun c => { c with connected := true }
    let response ← send [("op".toList, .text "clone")]
    let session ← Op.ofExcept (member response "new-session" .null)
    modify fun c => { c with session }
    onWorld (World.printLine ("Connected to " ++ c.host ++ ":" ++ Text.ofInt c.portNumber))
    onWorld (World.printLine ("Session: " ++ session.plain))

/-- Evaluates code on the server. -/
def eval (code : Text) : Op Client Json :=
  send [("op".toList, .text "eval"), ("code".toList, .text code)]

/-- Asks the server for completions. -/
def complete (token : Text) : Op Client Json := do
  let response ← send [("op".toList, .text "complete"), ("prefix".toList, .text token)]
  Op.ofExcept (member response "completions" (.list []))

/-- Whether a failure to end the session is only noted. -/
def isNoted (f : Failure) : Bool := f.family == .system || f.family == .stopped

/-- Ends the session and the connection, if there is one. -/
def close : Op Client Unit := do
  if (← get).connected then
    Op.answering (do let _ ← send [("op".toList, .text "close")]) fun f =>
      if isNoted f then some (onWorld (World.note (.closeFailed f))) else none
    modify fun c => { c with connected := false }
    onWorld (World.printLine "Disconnected.")

theorem takeLine?_append {bytes line rest : List UInt8} (h : takeLine? bytes = some (line, rest)) :
    bytes = line ++ Connection.lineFeed :: rest := by
  unfold takeLine? at h
  split at h
  · next b r hd =>
    cases h
    have hb : (b != Connection.lineFeed) = false := by
      have := List.head?_dropWhile_not (· != Connection.lineFeed) bytes
      rw [hd] at this
      simpa using this
    have hb : b = Connection.lineFeed := by simpa using hb
    subst hb
    conv =>
      lhs
      rw [← List.takeWhile_append_dropWhile (p := (· != Connection.lineFeed)) (l := bytes)]
    rw [hd]
  · cases h

end Client

end ReplDriver
