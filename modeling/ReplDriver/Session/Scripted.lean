import ReplDriver.Process.Basic
import ReplDriver.Terminal.Prompt
import ReplDriver.Terminal.Submission

/-!
# A scripted REPL

A REPL that has its answers to certain texts laid down. To a line that it has no answer for it
echoes the line and draws its prompt, and a cleared input line it draws anew.
-/

namespace ReplDriver.Behaviour

open Terminal

/-- The text of a submission as a terminal echoes it. -/
def echo (written : Text) : Text :=
  (Text.without endOfTransmission written).flatMap fun c => if c == '\n' then ['\r', '\n'] else [c]

/-- What a REPL without a laid-down answer does. -/
def plainAnswer (prompt written : Text) : List Event :=
  if written.getLast? == some '\n' || written.getLast? == some endOfTransmission then
    [.output (echo written ++ drawPrompt prompt)]
  else if written == lineClear then [.output (drawPrompt prompt)]
  else []

/-- A plain answer is output and nothing else. -/
theorem mem_plainAnswer {prompt written : Text} {e : Event} (he : e ∈ plainAnswer prompt written) :
    ∃ s, e = .output s := by
  unfold plainAnswer at he
  split at he
  · exact ⟨_, List.mem_singleton.mp he⟩
  · split at he
    · exact ⟨_, List.mem_singleton.mp he⟩
    · exact absurd he List.not_mem_nil

/-- What an interrupted REPL prints. -/
def interruptNotice : Text := "\r\nUncaught Error: Script execution was interrupted\r\n"

/-- A REPL with a prompt that answers as laid down. -/
def scripted (prompt : Text) (banner onInterrupt : List Event)
    (answers : List (Text × Except Failure (List Event))) : Behaviour where
  banner := banner
  respond _ written := (answers.lookup written).getD (.ok (plainAnswer prompt written))
  onInterrupt := .ok onInterrupt

/-- A behaviour with one more answer laid down. -/
def answering (b : Behaviour) (text : Text) (answer : Except Failure (List Event)) : Behaviour :=
  { b with respond := fun before written =>
      if written = text then answer else b.respond before written }

end ReplDriver.Behaviour
