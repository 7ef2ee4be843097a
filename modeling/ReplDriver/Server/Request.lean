import ReplDriver.Expression.Pieces
import ReplDriver.Server.Protocol

/-!
# Requests

The fields of a request may hold any value. An operation that needs a text, an offset or a length
fails with the kind of failure that says what is wrong with the value it got.
-/

namespace ReplDriver.Request

open Protocol (Response)

/-! ## Fields -/

/-- A field that has to be there. -/
def field (request : Json) (name : Text) : Except Failure Json :=
  match request.member? name with
  | some v => .ok v
  | none => .error (.missingKey (.text name))

/-- A field, or a value for it where it is missing. -/
def fieldOr (request : Json) (name : Text) (missing : Json) : Json :=
  (request.member? name).getD missing

/-- A text where nothing else will do; `fault` says what was to be done with it. -/
def text (fault : Text → TypeFault) : Json → Except Failure Text
  | .text s => .ok s
  | v => .error (.wrongType (fault v.kindName))

/-- The most characters of a text that are shown where it should have been an integer. -/
def shownLimit : Nat := 200

/-- The integer that a value stands for: numbers lose their fraction, and texts are read. -/
def integer : Json → Except Failure Int
  | .int n => .ok n
  | .bool b => .ok (if b then 1 else 0)
  | .double x =>
    match x.truncate?, x with
    | some n, _ => .ok n
    | none, .nan => .error .nanToInteger
    | none, _ => .error .infinityToInteger
  | .text s =>
    match Text.toInteger s with
    | .ok n => .ok n
    | .error .malformed => .error (.notInteger (s.quoted.take shownLimit))
    | .error (.tooLong digits) => .error (.integerTooLong digits)
  | v => .error (.wrongType (.notInteger v.kindName))

/-- The length of a value that has one. -/
def length : Json → Except Failure Nat
  | .text s => .ok s.length
  | .list items => .ok items.length
  | .object members => .ok members.length
  | v => .error (.wrongType (.noLength v.kindName))

/-- The cursor offset of a request on a text, the end of the text where none is given. The text has
to have a length even where the offset is given. -/
def point (request text : Json) : Except Failure Int := do
  let n ← length text
  integer (fieldOr request "point" (.int n))

/-! ## Values in place of texts -/

/-- What becomes of evaluating a value that is no text, of the given kind: turning it into a script
needs a text, and so does the check for blank code. -/
def notCode {α : Type} (kind : Text) (transforms : Bool) : Except Failure α :=
  .error (if transforms then .wrongType (.notText kind) else .noSuchMember kind "strip")

/-- The place at which the expression before the cursor begins in a value that is no text: a list is
scanned value by value, and members cannot be found by place. -/
def boundaryIn (v : Json) (point : Int) : Except Failure Nat :=
  match v with
  | .list pieces => Expression.Pieces.boundary pieces point
  | .object members =>
    .error <|
      if point < 0 || members.length < point then .pointOutside point members.length
      else if point == 0 then .noExpression point
      else .missingKey (.int (point - 1))
  | v => .error (.wrongType (.noLength v.kindName))

/-- What is wrong with taking a region of a value that is neither text nor list: members cannot be
found by a range of places. -/
def noRegion : Json → TypeFault
  | .object _ => .noKey "slice"
  | v => .noParts v.kindName

/-- What is wrong with looking for a token in a value that is no text: a list can be cut at the
cursor, but not be searched. -/
def noToken : Json → TypeFault
  | .list _ => .notText "list"
  | v => noRegion v

/-- What becomes of completing a value that is no text. A module path is written after its opening,
other values are compared with the cached token, if there is one, or are written before the key that
asks for candidates. -/
def noCompletion (v : Json) (inModulePath cached : Bool) : Failure :=
  if inModulePath then .wrongType (.notAppended "str" v.kindName)
  else if cached then .noSuchMember v.kindName "startswith"
  else
    match v with
    | .list _ => .wrongType (.notAppended "list" "str")
    | v => .wrongType (.notAdded v.kindName "str")

/-- The part of a value between two places. -/
def between (v : Json) (start : Nat) (stop : Int) : Json :=
  match v with
  | .list pieces => .list (Expression.Pieces.between pieces start stop.toNat)
  | other => other

/-! ## Operations -/

/-- Evaluates the code of a request. -/
def eval (request : Json) : Op Seat Response := do
  match fieldOr request "code" (.text []) with
  | .text code => Protocol.eval code
  | v => Op.ofExcept (notCode v.kindName (← get).workspace.settings.transformModules)

/-- Evaluates a region of the text of a request. -/
def evalRegion (request : Json) : Op Seat Response := do
  let v ← Op.ofExcept (field request "text")
  let start ← Op.ofExcept (field request "start" >>= integer)
  let stop ← Op.ofExcept (field request "end" >>= integer)
  match v with
  | .text s => Protocol.evalRegion s start stop
  | .list _ => Op.ofExcept (notCode v.kindName (← get).workspace.settings.transformModules)
  | _ => throw (.wrongType (noRegion v))

/-- Evaluates the expression before the cursor of a request. -/
def evalLast (request : Json) : Op Seat Response := do
  let v ← Op.ofExcept (field request "text")
  let at_ ← Op.ofExcept (point request v)
  match v with
  | .text s => Protocol.evalLast s at_
  | _ => Protocol.reporting Protocol.isExpressionFailure do
    let _ ← Op.ofExcept (boundaryIn v at_)
    Op.ofExcept (notCode v.kindName (← get).workspace.settings.transformModules)

/-- Evaluates the file that a request names. -/
def loadFile (request : Json) : Op Seat Response := do
  let path ← Op.ofExcept (field request "file-path" >>= text .notPath)
  Protocol.loadFile path

/-- Completes at the cursor of a request. -/
def completeAt (request v : Json) : Op Seat Response := do
  let at_ ← Op.ofExcept (point request v)
  match v with
  | .text s => Protocol.completeAt s at_
  | _ => do
    let _ ← Seat.session
    throw (.wrongType (noToken v))

/-- Completes the token of a request. One that is no text fails only once the session runs, and in
another way where there are candidates to compare it with. -/
def complete (request : Json) : Op Seat Response := do
  let inModulePath := (fieldOr request "module-path" (.bool false)).isTruthy
  match fieldOr request "prefix" (.text []) with
  | .text token => Protocol.complete token inModulePath
  | v => do
    let handle ← Seat.session
    let cached := ((← get).world.session? handle).any fun s => s.cache.entry.isSome
    throw (noCompletion v inModulePath cached)

/-- Finds the expression before the cursor of a request. -/
def boundary (request : Json) : Op Seat Response := do
  let v ← Op.ofExcept (field request "text")
  let at_ ← Op.ofExcept (point request v)
  match v with
  | .text s => Protocol.boundary s at_
  | _ => Protocol.reporting Protocol.isExpressionFailure do
    let start ← Op.ofExcept (boundaryIn v at_)
    return Protocol.members
      [("start", .int start), ("expression", between v start at_), Protocol.done]

/-- Turns the code of a request into script code. -/
def transform (request : Json) : Op Seat Response := do
  let code ← Op.ofExcept (text .notText (fieldOr request "code" (.text [])))
  Protocol.transform code

/-! ## Choosing the operation -/

/-- The operations on a session, by the word that asks for each. -/
def operations : List (String × (Json → Op Seat Response)) :=
  [("eval", eval), ("eval-region", evalRegion), ("eval-last", evalLast), ("load-file", loadFile),
   ("complete", fun request =>
      match request.member? "text" with
      | some v => completeAt request v
      | none => complete request),
   ("boundary", boundary), ("transform", transform), ("interrupt", fun _ => Protocol.interrupt),
   ("clear", fun _ => Protocol.clear), ("reset", fun _ => Protocol.reset)]

/-- The words for all operations of the server. -/
def operationNames : List String :=
  ["clone", "close"] ++ operations.map (·.1) ++ ["describe"]

/-- The operation that a value asks for. -/
def operation? (op : Json) : Option (Json → Op Seat Response) :=
  match op with
  | .text word => operations.lookup (String.ofList word)
  | _ => none

end ReplDriver.Request
