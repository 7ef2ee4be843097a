import ReplDriver.Completion.Engine
import ReplDriver.Expression.Boundary
import ReplDriver.Module.Script
import ReplDriver.Session.Registry
import ReplDriver.Terminal.Reply

/-!
# Workspaces

A workspace is what an editor works in: the settings of one REPL session and the history of what
was sent to it. The session is started when it is first needed, and again when its process has
exited.
-/

namespace ReplDriver

/-- The result of sending code. Blank code is not sent. What the code itself throws is part of the
output. -/
inductive Evaluation where
  | empty (code : Text)
  | value (code output raw : Text)
deriving DecidableEq, Repr

namespace Evaluation

/-- The code that was submitted. -/
def code : Evaluation → Text
  | empty c => c
  | value c _ _ => c

/-- What the evaluation printed. -/
def output : Evaluation → Text
  | empty _ => []
  | value _ o _ => o

/-- The reply as the process wrote it. -/
def raw : Evaluation → Text
  | empty _ => []
  | value _ _ r => r

/-- Whether nothing was sent. -/
def isEmpty : Evaluation → Bool
  | empty _ => true
  | value _ _ _ => false

end Evaluation

/-- The settings, a polling interval that goes before that of the settings, and the history of
sends. The counter counts the sends that were evaluated. -/
structure Workspace where
  settings : Settings
  interval : Option Double
  history : List (Text × Evaluation)
  counter : Nat

namespace Workspace

/-- A workspace in which nothing has been sent. -/
def new (settings : Settings) (interval : Option Double) : Workspace := ⟨settings, interval, [], 0⟩

/-- How replies are told complete. An interval of zero stands for none. -/
def rules (w : Workspace) : ReplyRules where
  prompt := w.settings.prompt
  interval := (w.interval.filter fun i => !i.isZero).getD w.settings.pollInterval

/-- Adds a send to the history. -/
def remember (w : Workspace) (code : Text) (e : Evaluation) : Workspace :=
  { w with
    history := w.history ++ [(code, e)]
    counter := if e.isEmpty then w.counter else w.counter + 1 }

/-- Forgets the history. -/
def forget (w : Workspace) : Workspace := { w with history := [], counter := 0 }

/-- The text that is submitted for code. -/
def prepare (w : Workspace) (code : Text) : Text :=
  if w.settings.transformModules then Module.transform code else code

end Workspace

/-- A workspace in the world. -/
structure Seat where
  workspace : Workspace
  world : World

namespace Seat

/-- An operation on the world. -/
def onWorld {α : Type} (act : Op World α) : Op Seat α :=
  Op.zoom Seat.world (fun world s => { s with world }) act

/-- Changes the workspace. -/
def onWorkspace (f : Workspace → Workspace) : Op Seat Unit :=
  modify fun s => { s with workspace := f s.workspace }

/-- The live session, started on demand. -/
def session : Op Seat Nat := do
  let settings := (← get).workspace.settings
  onWorld (Registry.getOrStart settings.sessionName settings)

/-- The live session, if there is one. -/
def session? : Op Seat (Option Nat) := do
  onWorld (Registry.get? (← get).workspace.settings.sessionName)

/-- An operation on the live session, started on demand. -/
def atSession {α : Type} (act : ReplyRules → Op Desk α) : Op Seat α := do
  let handle ← session
  let rules := (← get).workspace.rules
  onWorld (World.atDesk handle (act rules))

/-- Changes a session. -/
def onSession (handle : Nat) (f : Session → Session) : Op Seat Unit :=
  onWorld (World.atDesk handle (Desk.onSession f))

/-- Holds the session during an operation, which may begin no exchange on it. -/
def exclusive {α : Type} (act : Op Seat α) : Op Seat α := do
  let handle ← session
  let world := (← get).world
  match (world.session? handle).filter Session.exchangeOpen with
  | some s => throw (.exchangeOpen s.name)
  | none => do
    onSession handle fun s => { s with exchangeOpen := true }
    Op.ensuring act (onSession handle fun s => { s with exchangeOpen := false })

/-- Captures the output of the session during an operation, with a marker of its own. The operation
is told which session that is. -/
def redirect {α : Type} (marker : Int) (act : Nat → Op Seat α) : Op Seat (α × Capture) := do
  let handle ← session
  match (← get).world.session? handle with
  | none => throw (.stopped "no such session")
  | some before => do
    onSession handle fun s => { s with sink := .capture .empty, marker }
    let outcome ← Op.attempt (act handle)
    let capture := (((← get).world.session? handle).map Session.captured).getD .empty
    onSession handle fun s => { s with sink := before.sink, marker := before.marker }
    return (← Op.ofExcept outcome, capture)

/-! ## Sending code -/

/-- Submits code as one evaluation and waits for the reply. -/
def sendCode (code : Text) : Op Seat Evaluation := do
  let workspace := (← get).workspace
  let prepared := workspace.prepare code
  let result ←
    if Text.isBlankText prepared then pure (Evaluation.empty prepared)
    else do
      let raw ← atSession fun rules => Desk.submit rules prepared
      let output := Terminal.cleanOutput raw (Terminal.frameSubmission prepared)
        workspace.settings.prompt
      pure (Evaluation.value prepared output raw)
  onWorkspace fun w => w.remember code result
  return result

/-- Sends the text between two offsets, given in either order. -/
def sendRegion (text : Text) (start stop : Int) : Op Seat Evaluation :=
  sendCode (text.slice (min start stop) (max start stop))

/-- The offset at which the expression before the cursor begins. -/
def boundary (text : Text) (point : Int) : Op Seat Nat :=
  Op.ofExcept (Expression.boundary text point)

/-- Sends the expression before the cursor. -/
def sendLast (text : Text) (point : Int) : Op Seat Evaluation := do
  let start ← boundary text point
  sendCode (text.slice start point)

/-- Reads a file and sends it. -/
def loadFile (path : Text) : Op Seat Evaluation := do
  let machine := (← get).world.machine
  let path := (machine.absolute path).text
  let content ← Op.ofExcept (machine.readText path)
  onWorld (World.note (.loading path))
  sendCode content

/-! ## Completion -/

/-- The candidates for a token. -/
def complete (token : Text) (inModulePath : Bool) : Op Seat (List Text) :=
  atSession fun rules => Completion.complete rules token inModulePath

/-- The context at the cursor and the candidates for its token. -/
def completeAt (text : Text) (point : Int) : Op Seat (Completion.Context × List Text) :=
  atSession fun rules => Completion.completeAt rules text point

/-! ## Control -/

/-- Interrupts the evaluation in flight. Waiting for the new prompt gives what is printed. Where no
session is live there is nothing to interrupt. -/
def interrupt (wait : Bool) : Op Seat Text := do
  match ← session? with
  | none => return []
  | some handle => do
    onWorld (World.atDesk handle Desk.interrupt)
    if wait then
      let rules := (← get).workspace.rules
      onWorld (World.atDesk handle (Desk.awaitPrompt rules true))
    else return []

/-- Forgets the transcript of the live session. -/
def clear : Op Seat Unit := do
  match ← session? with
  | none => return
  | some handle => onWorld (World.atDesk handle (Desk.onSession Session.clear))

/-- Everything delivered to the transcript of the live session. -/
def transcript : Op Seat Text := do
  match ← session? with
  | none => return []
  | some handle => return (((← get).world.session? handle).map Session.output).getD []

/-- Ends the session. -/
def close : Op Seat Unit := do
  onWorld (Registry.remove (← get).workspace.settings.sessionName)

/-- Ends the session, forgets the history, and starts a new session. -/
def reset : Op Seat Nat := do
  close
  onWorkspace Workspace.forget
  session

/-- Adds a module path for sessions that are started from now on. -/
def addModulePath (path : Text) : Op Seat Unit :=
  onWorkspace fun w => { w with settings := w.settings.addModulePath path }

/-- Takes a module path away for sessions that are started from now on. -/
def removeModulePath (path : Text) : Op Seat Unit :=
  onWorkspace fun w => { w with settings := w.settings.removeModulePath path }

end Seat

end ReplDriver
