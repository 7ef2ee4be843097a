import ReplDriver.Completion.Cache
import ReplDriver.Process.Basic
import ReplDriver.Terminal.Capture

/-!
# Sessions

A session is a REPL process and everything tied to it: the transcript of delivered output, where
output goes at the moment, and the completion cache. Output that arrives outside an exchange is
delivered to the transcript; during an exchange it goes to a capture.

* `Session.output_deliver`: the transcript grows by what is delivered.
-/

namespace ReplDriver

/-- Where arriving output goes. -/
inductive Sink where
  | transcript
  | capture (c : Capture)
deriving DecidableEq, Repr

/-- A named REPL session. The marker counts the characters that have been delivered since the
transcript was last cleared. -/
structure Session where
  name : Text
  executable : Text
  process : Process
  transcript : List Text
  marker : Int
  sink : Sink
  cache : CompletionCache
  exchangeOpen : Bool
  closed : Bool

namespace Session

/-- A session whose process has just been started. -/
def start (name executable : Text) (process : Process) : Session where
  name := name
  executable := executable
  process := process
  transcript := []
  marker := 0
  sink := .transcript
  cache := .empty
  exchangeOpen := false
  closed := false

/-- How a session shows in answers. -/
def display (s : Session) : Text :=
  "Session(" ++ s.name.quoted ++ ", " ++ (if s.closed then "closed" else "open") ++ ")"

/-- Everything delivered so far. -/
def output (s : Session) : Text := s.transcript.flatten

/-- Adds output to the transcript. Whatever was evaluated may have changed what completes, so the
cached candidates are dropped. -/
def deliver (s : Session) (text : Text) : Session :=
  if text.isEmpty then { s with cache := .empty }
  else
    { s with
      transcript := s.transcript ++ [text]
      marker := s.marker + text.length
      cache := .empty }

/-- Forgets the transcript. -/
def clear (s : Session) : Session := { s with transcript := [], marker := 0 }

/-- Takes arriving output to where it goes at the moment. -/
def accept (s : Session) (text : Text) : Session :=
  match s.sink with
  | .transcript => s.deliver text
  | .capture c => { s with sink := .capture (c.feed text) }

/-- What has been captured, if output is being captured. -/
def captured (s : Session) : Capture :=
  match s.sink with
  | .transcript => .empty
  | .capture c => c

/-- The session when the next arrival of output will show. -/
def quiet (s : Session) : Session :=
  match s.sink with
  | .transcript => s
  | .capture c => { s with sink := .capture c.quiet }

/-- Whether the process is there to talk to. -/
def isAlive (s : Session) : Bool := !s.closed && s.process.alive

/-- Ends the session and its process. -/
def close (s : Session) : Session :=
  { s with process := s.process.close, closed := true, cache := .empty }

@[simp] theorem output_deliver (s : Session) (text : Text) :
    (s.deliver text).output = s.output ++ text := by
  unfold deliver
  split
  · next h => simp_all [output]
  · simp [output]

@[simp] theorem transcript_accept_capture {s : Session} {c : Capture} (h : s.sink = .capture c)
    (text : Text) : (s.accept text).transcript = s.transcript := by
  simp [accept, h]

end Session

end ReplDriver
