import ReplDriver.Files.Machine
import ReplDriver.Terminal.Control

/-!
# Channels

A channel is a process at its terminal, seen as characters that are written and characters that
arrive. It knows nothing of prompts and replies.

* `Channel.read_ended`: after the end nothing is read any more.
-/

namespace ReplDriver

/-- What a read of the terminal meets. -/
inductive Arrival where
  | text (s : Text)
  | nothing
  | ended
deriving DecidableEq, Repr

/-- What is done to the process. -/
inductive Deed where
  | wrote (s : Text)
  | closed (force : Bool)
deriving DecidableEq, Repr

/-- Where and how a process is started. A wide terminal keeps long listings from wrapping. -/
structure Channel.Options where
  environment : Option Environment
  directory : Option Text
  rows : Int
  columns : Int

/-- A process at its terminal: what is still to arrive, and what was done to it. -/
structure Channel where
  arrivals : List Arrival
  deeds : List Deed
  ended : Bool
  running : Bool
  released : Bool
deriving DecidableEq, Repr

namespace Channel

/-- A terminal of the usual size, in the environment and directory of the driver. -/
def Options.usual : Options := ⟨none, none, 24, 1000⟩

/-- The most characters of one read. -/
def readLimit : Nat := 4096

/-- Starts a process, unless there is none to start or the system refuses. -/
def start (arguments : List Text) (refusal : Option Text) (arrivals : List Arrival) :
    Except Failure Channel :=
  match arguments, refusal with
  | [], _ => .error .noProgram
  | program :: _, some why =>
    .error (.executable ("Cannot start " ++ program.quoted ++ ": " ++ why))
  | _ :: _, none => .ok ⟨arrivals, [], false, true, false⟩

/-- Writes characters as they are. -/
def write (c : Channel) (s : Text) : Channel :=
  if s.isEmpty then c else { c with deeds := c.deeds ++ [.wrote s] }

/-- Aborts the evaluation in flight. -/
def interrupt (c : Channel) : Channel := c.write [Terminal.interruptKey]

/-- The text that has arrived, empty if there is none, nothing once the end was met. -/
def read (c : Channel) : Option Text × Channel :=
  if c.ended then (none, c)
  else
    match c.arrivals with
    | [] => (some [], c)
    | .nothing :: rest => (some [], { c with arrivals := rest })
    | .ended :: rest => (none, { c with arrivals := rest, ended := true })
    | .text s :: rest =>
      if readLimit < s.length then
        (some (s.take readLimit), { c with arrivals := .text (s.drop readLimit) :: rest })
      else (some s, { c with arrivals := rest })

/-- The process has gone without its end having been met. -/
def die (c : Channel) : Channel := { c with running := false }

/-- Whether there is a process to talk to. -/
def isAlive (c : Channel) : Bool := !c.ended && c.running

/-- Ends the process and releases its terminal, once. -/
def close (c : Channel) (force : Bool) : Channel :=
  if c.released then { c with ended := true }
  else { c with deeds := c.deeds ++ [.closed force], released := true, ended := true }

@[simp] theorem read_ended {c : Channel} (h : c.ended = true) : c.read = (none, c) := by
  simp [read, h]

end Channel

end ReplDriver
