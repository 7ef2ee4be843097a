import ReplDriver.Diagnostics.Note
import ReplDriver.Session.Basic
import ReplDriver.Terminal.Prompt
import ReplDriver.Terminal.Submission

/-!
# Exchanges

An exchange writes text to a session and collects the reply. The reply is complete when a whole
polling interval has passed without output and the last line shows that the REPL waits for input:
the prompt is drawn, or no more than the echo of what was written has come. Nothing else ends the
wait except the end of the process; an interrupt makes the REPL draw a new prompt.

Only one exchange may be open on a session, and on every way out of an exchange output goes again
to where it went before.
-/

namespace ReplDriver

open Terminal

/-- A session, the clock, and the notes taken so far, the latest first. -/
structure Desk where
  session : Session
  clock : Clock
  notes : List Note

/-- How replies are told complete: the prompt of the REPL, and the seconds of silence. -/
structure ReplyRules where
  prompt : Text
  interval : Double

namespace Desk

/-- Takes a note. -/
def note (n : Note) : Op Desk Unit := modify fun d => { d with notes := n :: d.notes }

/-- Changes the session. -/
def onSession (f : Session → Session) : Op Desk Unit :=
  modify fun d => { d with session := f d.session }

/-- Writes to the process. -/
def write (text : Text) : Op Desk Unit := fun d =>
  let (outcome, process) := d.session.process.write text
  (outcome, { d with session := { d.session with process } })

/-- Sends the interrupt to the process. -/
def sendInterrupt : Op Desk Unit := fun d =>
  let (outcome, process) := d.session.process.interrupt
  (outcome, { d with session := { d.session with process } })

/-- Interrupts the process. -/
def interrupt : Op Desk Unit := do
  note (.interrupting (← get).session.name)
  sendInterrupt

/-- Ends the session. -/
def close : Op Desk Unit := do
  onSession Session.close
  note (.closed (← get).session.name)

/-! ## Reading -/

/-- Reads from the process. -/
def read (timeout : Double) (d : Desk) : Except Failure Reading × Desk :=
  let (outcome, process, clock) := d.session.process.read d.clock timeout
  (outcome, { d with session := { d.session with process }, clock })

theorem read_chunk_lt {d d' : Desk} {timeout : Double} {s : Text}
    (h : d.read timeout = (.ok (.chunk s), d')) :
    d'.session.process.queue.length < d.session.process.queue.length := by
  unfold read at h
  rcases hr : d.session.process.read d.clock timeout with ⟨outcome, process, clock⟩
  rw [hr] at h
  simp only [Prod.mk.injEq] at h
  obtain ⟨rfl, rfl⟩ := h
  exact Process.read_chunk_lt hr

/-- The end of the process has been seen. -/
def sawEnd (d : Desk) : Desk :=
  if d.session.closed then d
  else
    { d with
      session := { d.session with closed := true }
      notes := .exited d.session.name :: d.notes }

/-- Takes in output until a time, as long as `left` seconds are left. The answer is false once the
process has exited. -/
def pumpUntil (deadline left : Double) (d : Desk) : Except Failure Bool × Desk :=
  if left.isPositive then
    match _h : d.read left with
    | (.error f, d') => (.error f, d')
    | (.ok .ended, d') => (.ok false, d'.sawEnd)
    | (.ok .idle, d') => (.ok true, d')
    | (.ok (.chunk s), d') =>
      let d'' := if s.isEmpty then d' else { d' with session := d'.session.accept s }
      pumpUntil deadline (d''.clock.remaining deadline) d''
  else (.ok true, d)
termination_by d.session.process.queue.length
decreasing_by
  have := read_chunk_lt _h
  split
  · exact this
  · unfold Session.accept Session.deliver
    split
    · split <;> exact this
    · exact this

/-- Takes in the output that arrives within some seconds. -/
def pump (timeout : Double) : Op Desk Bool := fun d =>
  pumpUntil (d.clock.after timeout) timeout d

/-! ## Brackets -/

/-- Captures output during an operation, with a marker of its own. -/
def redirect {α : Type} (marker : Int) (act : Op Desk α) : Op Desk (α × Capture) := fun d =>
  let (outcome, d') := act { d with session := { d.session with sink := .capture .empty, marker } }
  let restored := { d' with
    session := { d'.session with sink := d.session.sink, marker := d.session.marker } }
  (outcome.map fun a => (a, d'.session.captured), restored)

/-- Holds the session for one operation. -/
def exclusive {α : Type} (act : Op Desk α) : Op Desk α := fun d =>
  if d.session.exchangeOpen then (.error (.exchangeOpen d.session.name), d)
  else
    let (outcome, d') := act { d with session := { d.session with exchangeOpen := true } }
    (outcome, { d' with session := { d'.session with exchangeOpen := false } })

/-! ## Waiting for a reply -/

/-- Waits for silence on a line that satisfies a condition, or for the end of the process. A round
that leaves everything as it was will be repeated for ever, so it is the last. -/
def awaitReply (interval : Double) (complete : Text → Bool) (d : Desk) :
    Except Failure Unit × Desk :=
  match pump interval { d with session := d.session.quiet } with
  | (.error f, d') => (.error f, d')
  | (.ok false, d') => (.ok (), d')
  | (.ok true, d') =>
    if !d'.session.captured.live && complete d'.session.captured.lastLine then (.ok (), d')
    else if d'.session.process.work < d.session.process.work then
      awaitReply interval complete d'
    else (.error .blocked, d')
termination_by d.session.process.work

/-- Writes text, if there is any, and captures the reply up to its end. -/
def run (rules : ReplyRules) (text : Text) (complete : Text → Bool) (delivered : Bool) :
    Op Desk Text := do
  let (_, capture) ← exclusive (redirect 0 (do
    if !text.isEmpty then
      note (.sent text)
      write text
    awaitReply rules.interval complete))
  note (.received capture.output)
  if delivered then onSession fun s => s.deliver capture.output
  return capture.output

/-- Whether a line ends a reply to a text: the prompt is drawn, or the line is no more than the
beginning of what was written. -/
def endsExchange (prompt text line : Text) : Bool :=
  hasPrompt prompt line || (Text.trim text).startsWith line

/-- Whether a line ends a reply to a probe: the line may also be what the probe was completed to,
written over it without a prompt. -/
def endsProbe (prompt text line : Text) : Bool :=
  endsExchange prompt text line ||
    (!(Text.trim text).isEmpty && line.startsWith (Text.trim text))

/-- Writes text and returns everything printed until the reply ends. -/
def exchange (rules : ReplyRules) (text : Text) (delivered : Bool) : Op Desk Text :=
  run rules text (endsExchange rules.prompt text) delivered

/-- Writes a completion probe and returns the reply, which is not delivered. -/
def probe (rules : ReplyRules) (text : Text) : Op Desk Text :=
  run rules text (endsProbe rules.prompt text) false

/-- Writes nothing and waits for the prompt. -/
def awaitPrompt (rules : ReplyRules) (delivered : Bool) : Op Desk Text :=
  run rules [] (hasPrompt rules.prompt) delivered

/-- Submits code as one evaluation and returns the reply. -/
def submit (rules : ReplyRules) (code : Text) : Op Desk Text :=
  exchange rules (frameSubmission code) true

end Desk

end ReplDriver
