import ReplDriver.Workspace.Basic

/-!
# Responses

Every operation of a workspace has a response for editors: the members of an object, in the order
in which they are written. A failure that concerns the request alone is a response as well, of
status `error`.
-/

namespace ReplDriver.Protocol

/-- The members of a response. -/
abbrev Response := List (Text × Json)

/-- A response from its members. -/
def members (ms : List (String × Json)) : Response := ms.map fun (k, v) => (k.toList, v)

/-- A status. -/
def status (words : List String) : Json := .list (words.map fun w => .text w.toList)

/-- The status of an operation that is done. -/
def done : String × Json := ("status", status ["done"])

/-- The output member, left out where there is no output. -/
def out (output : Text) : List (String × Json) :=
  if output.isEmpty then [] else [("out", .text output)]

/-- The response to a failure. -/
def ofFailure (f : Failure) : Response :=
  members [("status", status ["error"]), ("error", .text f.message), ("error-type", .text f.kind)]

/-- The response to a send. -/
def ofEvaluation (e : Evaluation) : Response :=
  if e.isEmpty then members [("status", status ["done", "empty"])]
  else members (done :: out e.output)

/-- Answers failures of some kinds by their response. -/
def reporting (p : Failure → Bool) (act : Op Seat Response) : Op Seat Response :=
  Op.answering act fun f => if p f then some (pure (ofFailure f)) else none

/-- Whether a failure is about the expression before the cursor or about a value. -/
def isExpressionFailure : Failure → Bool
  | .noExpression _ => true
  | f => f.family == .value

/-- Evaluates code. -/
def eval (code : Text) : Op Seat Response := ofEvaluation <$> Seat.sendCode code

/-- Evaluates the text between two offsets. -/
def evalRegion (text : Text) (start stop : Int) : Op Seat Response :=
  ofEvaluation <$> Seat.sendRegion text start stop

/-- Evaluates the expression before the cursor. -/
def evalLast (text : Text) (point : Int) : Op Seat Response :=
  reporting isExpressionFailure (ofEvaluation <$> Seat.sendLast text point)

/-- Evaluates a file. -/
def loadFile (path : Text) : Op Seat Response :=
  reporting (fun f => f.family == .system) (ofEvaluation <$> Seat.loadFile path)

/-- The candidates for a token. -/
def complete (token : Text) (inModulePath : Bool) : Op Seat Response := do
  let found ← Seat.complete token inModulePath
  return members [("completions", .texts found), done]

/-- The candidates at the cursor. -/
def completeAt (text : Text) (point : Int) : Op Seat Response := do
  let (context, found) ← Seat.completeAt text point
  return members [("completions", .texts found), ("token", .text context.token),
    ("start", .int context.start), ("end", .int context.stop), done]

/-- The expression before the cursor. -/
def boundary (text : Text) (point : Int) : Op Seat Response :=
  reporting isExpressionFailure do
    let start ← Seat.boundary text point
    return members [("start", .int start), ("expression", .text (text.slice start point)), done]

/-- The code as a script. -/
def transform (code : Text) : Op Seat Response :=
  return members [("code", .text (Module.transform code)), done]

/-- Interrupts the evaluation in flight. -/
def interrupt : Op Seat Response := do
  let output ← Seat.interrupt true
  return members (("status", status ["done", "interrupted"]) :: out output)

/-- Forgets the transcript. -/
def clear : Op Seat Response := do
  Seat.clear
  return members [done]

/-- Starts the session anew. -/
def reset : Op Seat Response := do
  let _ ← Seat.reset
  return members [done]

end ReplDriver.Protocol
