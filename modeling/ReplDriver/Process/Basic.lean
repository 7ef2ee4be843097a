import ReplDriver.Failure
import ReplDriver.Process.Clock

/-!
# The REPL process

A process is known by what it does at its terminal: the events that are still to come, and how it
answers what is written to it. Reading takes events one at a time. Output may keep one waiting, the
process may exit, and a read may fail.

* `Process.read_chunk_lt`: reading output takes an event away.
-/

namespace ReplDriver

/-- Something that happens at the terminal of a process. -/
inductive Event where
  /-- Output that is there at once. -/
  | output (s : Text)
  /-- Nothing, for one read. -/
  | pause
  /-- Output that is there after some time. -/
  | delayed (after : Double) (s : Text)
  | exit
  /-- A read that fails. -/
  | failing (f : Failure)

/-- What a process does: what it prints when it starts, how it answers what is written given all
that was written before, and how it answers an interrupt. Writing may fail, and so may
interrupting. -/
structure Behaviour where
  banner : List Event
  respond : (before : List Text) → (written : Text) → Except Failure (List Event)
  onInterrupt : Except Failure (List Event)

/-- The command line, module path and directory that a process was started with. -/
structure Launched where
  arguments : List Text
  modulePath : Option Text
  directory : Option Text

/-- A process. `silences` counts the reads that found nothing since it last gave or was given
something. -/
structure Process where
  launched : Launched
  behaviour : Behaviour
  queue : List Event
  alive : Bool
  closed : Bool
  interrupts : Nat
  written : List Text
  silences : Nat

/-- What a read finds. -/
inductive Reading where
  | chunk (s : Text)
  | idle
  | ended
deriving DecidableEq, Repr

namespace Process

/-- A process that has just been started. -/
def start (launched : Launched) (b : Behaviour) : Process where
  launched := launched
  behaviour := b
  queue := b.banner
  alive := true
  closed := false
  interrupts := 0
  written := []
  silences := 0

/-! ## Writing -/

/-- More events to come. -/
def enqueue (p : Process) (events : List Event) : Process := { p with queue := p.queue ++ events }

/-- Writes text. What is written counts as written even if writing fails. -/
def write (p : Process) (s : Text) : Except Failure Unit × Process :=
  let p' := { p with written := p.written ++ [s], silences := 0 }
  match p.behaviour.respond p.written s with
  | .ok events => (.ok (), p'.enqueue events)
  | .error f => (.error f, p')

/-- Interrupts the evaluation in flight. An interrupt counts even if it cannot be sent. -/
def interrupt (p : Process) : Except Failure Unit × Process :=
  let p' := { p with interrupts := p.interrupts + 1, silences := 0 }
  match p.behaviour.onInterrupt with
  | .ok events => (.ok (), p'.enqueue events)
  | .error f => (.error f, p')

/-- Ends the process from outside. -/
def kill (p : Process) : Process := { p with alive := false }

/-- Ends the process and gives its terminal back. -/
def close (p : Process) : Process := { p with alive := false, closed := true }

/-- Lets a new round of waiting begin. -/
def settle (p : Process) : Process := { p with silences := 0 }

/-! ## Reading -/

/-- The number of empty reads after which no reply will ever come. -/
def patience : Nat := 3

/-- Waits at most `timeout` seconds for output. -/
def read (p : Process) (clock : Clock) (timeout : Double) :
    Except Failure Reading × Process × Clock :=
  match p.queue with
  | [] =>
    if !p.alive then (.ok .ended, p, clock)
    else if patience ≤ p.silences + 1 then
      (.error .blocked, { p with silences := p.silences + 1 }, clock)
    else (.ok .idle, { p with silences := p.silences + 1 }, clock.idle timeout)
  | e :: rest =>
    let p := { p with silences := 0 }
    let taken := { p with queue := rest }
    match e with
    | .output s => (.ok (.chunk s), taken, clock)
    | .pause => (.ok .idle, taken, clock.idle timeout)
    | .delayed t s =>
      if timeout.lt t then
        let left := t.sub clock.rounding timeout
        (.ok .idle, { p with queue := .delayed left s :: rest }, clock.idle timeout)
      else (.ok (.chunk s), taken, clock.pass t)
    | .exit => (.ok .ended, { taken with alive := false }, clock)
    | .failing f => (.error f, taken, clock)

theorem read_chunk_lt {p p' : Process} {clock clock' : Clock} {timeout : Double} {s : Text}
    (h : p.read clock timeout = (.ok (.chunk s), p', clock')) :
    p'.queue.length < p.queue.length := by
  unfold read at h
  split at h
  · split at h
    · cases h
    · split at h <;> cases h
  · next e rest hq =>
    rw [hq]
    cases e with
    | output t => cases h; simp
    | pause => cases h
    | delayed t u =>
      simp only at h
      split at h
      · cases h
      · cases h; simp
    | exit => cases h
    | failing f => cases h

/-! ## How much can still happen -/

/-- How many reads an event can stand for, in quarters. -/
def Event.work : Event → Nat
  | .delayed t _ => 4 * t.units + 4
  | _ => 4

/-- A bound on the reads before the process has to be given up. -/
def work (p : Process) : Nat :=
  p.queue.foldr (fun e n => Event.work e + n) (patience - p.silences)

end Process

end ReplDriver
