import ReplDriver.Server.Basic

/-!
# Connections to the server

A client sends its requests as lines of JSON, cut into packets anywhere. Every complete line that is
not blank is answered by one line. A line that cannot be read is answered too.

* `splitLines_append`: cutting the bytes of a stream elsewhere does not change its lines.
-/

namespace ReplDriver

/-- What a client sends, packet by packet, the end of the list being the end of the stream; a
packet may also fail to arrive. -/
abbrev Packets := List (Except Failure (List UInt8))

/-- A client of the server: what it sends, what it was sent, and whether it was disconnected. -/
structure Connection where
  incoming : Packets
  sent : List Text
  closed : Bool

namespace Connection

/-- The byte that ends a line. -/
def lineFeed : UInt8 := 10

/-- The complete lines of a run of bytes, and what follows the last of them. `line` holds the bytes
of the line so far, the latest first. -/
def splitLinesFrom (line : List UInt8) : List UInt8 → List (List UInt8) × List UInt8
  | [] => ([], line.reverse)
  | b :: rest =>
    if b = lineFeed then
      let (lines, left) := splitLinesFrom [] rest
      (line.reverse :: lines, left)
    else splitLinesFrom (b :: line) rest

/-- The complete lines of a run of bytes, and what follows the last of them. -/
def splitLines (bytes : List UInt8) : List (List UInt8) × List UInt8 := splitLinesFrom [] bytes

theorem splitLinesFrom_append (line a b : List UInt8) :
    splitLinesFrom line (a ++ b) =
      let (lines, left) := splitLinesFrom line a
      let (more, left') := splitLinesFrom left.reverse b
      (lines ++ more, left') := by
  induction a generalizing line with
  | nil => simp [splitLinesFrom]
  | cons c a ih =>
    by_cases h : c = lineFeed
    · simp [splitLinesFrom, h, ih]
    · simp [splitLinesFrom, h, ih]

theorem splitLinesFrom_of_no_lineFeed {line a : List UInt8} (h : lineFeed ∉ a) :
    splitLinesFrom line a = ([], line.reverse ++ a) := by
  induction a generalizing line with
  | nil => simp [splitLinesFrom]
  | cons c a ih =>
    simp only [List.mem_cons, not_or] at h
    rw [splitLinesFrom, if_neg (Ne.symm h.1), ih h.2]
    simp

theorem lineFeed_not_mem_left {line a : List UInt8} (h : lineFeed ∉ line) :
    lineFeed ∉ (splitLinesFrom line a).2 := by
  induction a generalizing line with
  | nil => simpa [splitLinesFrom] using h
  | cons c a ih =>
    by_cases hc : c = lineFeed
    · simpa [splitLinesFrom, hc] using @ih [] (by simp)
    · simpa [splitLinesFrom, hc] using @ih (c :: line) (by simp [h, Ne.symm hc])

/-- The lines of a stream may be taken piece by piece, if what is left over is put before the next
piece. -/
theorem splitLines_append (a b : List UInt8) :
    splitLines (a ++ b) =
      let (lines, left) := splitLines a
      let (more, left') := splitLines (left ++ b)
      (lines ++ more, left') := by
  have h : lineFeed ∉ (splitLinesFrom [] a).2 := lineFeed_not_mem_left (by simp)
  unfold splitLines
  simp only [splitLinesFrom_append, splitLinesFrom_of_no_lineFeed h]
  simp

/-- Bytes that are blank. -/
def isBlankByte (b : UInt8) : Bool := b == 32 || (9 ≤ b && b ≤ 13)

end Connection

namespace Server

open Protocol (Response members status)

/-- The response to a line that is not a request. -/
def refusal (why : Text) : Response := members [("status", status ["error"]), ("error", .text why)]

/-- Answers a line. An integer with too many digits and values nested too deep are not answered. -/
def answerLine (line : List UInt8) : Op Server Response :=
  match Utf8.decode line with
  | .error fault => return refusal ("Invalid JSON: " ++ fault.message)
  | .ok text =>
    match Json.read text with
    | .error (.tooLong digits) => throw (.integerTooLong digits)
    | .error (.tooDeep innermost) => throw (.nestedTooDeep innermost)
    | .error fault => return refusal ("Invalid JSON: " ++ fault.message)
    | .ok (.object ms) => handleMessage (.object ms)
    | .ok _ => return refusal "Message must be a JSON object"

/-- The server and one of its clients. -/
structure Exchange where
  server : Server
  sent : List Text

/-- Answers a line to a client, unless it is blank. -/
def serveLine (line : List UInt8) : Op Exchange Unit := do
  if line.all Connection.isBlankByte then return
  let response ← Op.zoom Exchange.server (fun server x => { x with server }) (answerLine line)
  modify fun x => { x with sent := x.sent ++ [Json.render (.object response) ++ "\n"] }

/-- Answers the lines of packet after packet; `left` is what no line has ended yet. -/
def serveStream (left : List UInt8) : Packets → Op Exchange Unit
  | [] => return
  | packet :: rest => do
    if !(← get).server.running then return
    let bytes ← Op.ofExcept packet
    if bytes.isEmpty then return
    let (lines, left) := Connection.splitLines (left ++ bytes)
    lines.forM serveLine
    serveStream left rest

/-- Serves a client until it ends its stream, and disconnects it. A failure of the system ends the
connection but not the server. -/
def handleClient (peer : Text) (c : Connection) (s : Server) :
    Except Failure Unit × Connection × Server :=
  let noted (n : Note) (s : Server) : Server := { s with world := s.world.record n }
  let (outcome, x) := serveStream [] c.incoming ⟨noted (.clientConnected peer) s, c.sent⟩
  let closed : Connection := { c with sent := x.sent, closed := true }
  match outcome with
  | .ok () => (.ok (), closed, noted (.clientGone peer) x.server)
  | .error f =>
    if f.family == .system then
      (.ok (), closed, noted (.clientGone peer) (noted (.clientFailed peer f) x.server))
    else (.error f, closed, noted (.clientGone peer) x.server)

end Server

end ReplDriver
