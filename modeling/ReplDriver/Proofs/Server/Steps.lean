import Mathlib.Logic.Relation
import ReplDriver.Proofs.Server.Confined

/-!
# The steps of a request

Whatever a request holds, the server carries it out in steps of four kinds: it takes a note, makes
a session, works at the workspace of an open session, or ends a session. What each of these steps
keeps is therefore kept by every request, however it ends.

* `Server.steps_handleMessage`: a request is carried out in steps.
* `Server.Steps.fixed`: no request changes where the server listens, whether it runs, or the
  settings and the names of its sessions.
-/

namespace ReplDriver.Server

open World
open Protocol (Response members status)

/-- A step of the server. -/
inductive Step (s : Server) : Server → Prop
  | noted (n : Note) : Step s { s with world := s.world.record n }
  | created : Step s (createSession s).2
  | ended (id : Text) : Step s (endSession id s).2
  /-- A request is carried out on an open session. -/
  | worked {id : Text} {w : Workspace} {op : Json} {act : Json → Op Seat Response}
      (hopen : s.workspace? id = some w) (hact : Request.operation? op = some act)
      (request : Json) : Step s (s.leave id (act request ⟨w, s.world⟩).2)

/-- One step after another. -/
abbrev Steps : Server → Server → Prop := Relation.ReflTransGen Step

/-! ## Operations that go in steps -/

/-- However the operation ends, the server has gone to where it is in steps. -/
def Stepwise {α : Type} (act : Op Server α) : Prop := ∀ s, Steps s (act s).2

section
variable {α β : Type} {act : Op Server α}

theorem stepwise_ofExcept (outcome : Except Failure α) : Stepwise (Op.ofExcept outcome) :=
  fun _ => .refl

theorem Stepwise.bind {k : α → Op Server β} (h : Stepwise act) (hk : ∀ a, Stepwise (k a)) :
    Stepwise (act >>= k) := by
  intro s
  have hfirst := h s
  rcases hact : act s with ⟨f | a, s'⟩ <;> rw [hact] at hfirst
  · rw [Op.bind_error hact]
    exact hfirst
  · rw [Op.bind_ok hact]
    exact hfirst.trans (hk a s')

theorem stepwise_note (n : Note) : Stepwise (note n) := fun _ => .single (.noted n)

theorem Stepwise.answering {op : Json} {begun : Response} {act : Op Server Response}
    (h : Stepwise act) : Stepwise (Server.answering op begun act) := by
  intro s
  have hfirst := h s
  obtain heq | ⟨f, s', hact, heq⟩ := answering_cases op begun act s <;> rw [heq]
  · exact hfirst
  · rw [hact] at hfirst
    exact hfirst.trans (stepwise_note _ s')

end

theorem stepwise_getOrCreateSession (session : Json) : Stepwise (getOrCreateSession session) := by
  unfold getOrCreateSession
  simp only
  split
  · exact stepwise_ofExcept (.error _)
  · split
    · intro s
      rw [Op.get_bind]
      split
      · exact .refl
      · exact .single .created
    · exact fun _ => .single .created

theorem stepwise_closeSession (session : Json) : Stepwise (closeSession session) := by
  cases session with
  | text id =>
    rw [closeSession_text]
    exact fun _ => .single (.ended id)
  | _ =>
    intro s
    unfold closeSession
    rw [Op.get_bind]
    simp only
    split <;> exact .refl

theorem stepwise_atWorkspace {op : Json} {act : Json → Op Seat Response}
    (hact : Request.operation? op = some act) (id : Text) (request : Json) :
    Stepwise (atWorkspace id (act request)) := by
  intro s
  rcases hopen : s.workspace? id with _ | w
  · rw [atWorkspace_none hopen]
  · rw [atWorkspace_some hopen]
    exact .single (.worked hopen hact request)

theorem stepwise_serve (begun : Response) (op session request : Json) :
    Stepwise (serve begun op session request) := by
  have hother : Stepwise (serve.other begun op session request) := by
    unfold serve.other
    rcases hact : Request.operation? op with _ | act
    · exact stepwise_ofExcept (.ok _)
    · exact .answering (.bind (stepwise_getOrCreateSession session) fun id =>
        .answering (.bind (stepwise_atWorkspace hact id request) fun _ =>
          stepwise_ofExcept (.ok _)))
  cases op with
  | text word =>
    unfold serve
    simp only
    split
    · exact .bind (fun _ => .single .created) fun _ => .bind (stepwise_note _) fun _ =>
        stepwise_ofExcept (.ok _)
    · split
      · exact .bind (stepwise_note _) fun _ =>
          .answering (.bind (stepwise_closeSession session) fun _ => stepwise_ofExcept (.ok _))
      · split
        · exact stepwise_ofExcept (.ok _)
        · exact hother
  | _ => exact hother

/-- A request is carried out in steps. -/
theorem steps_handleMessage (request : Json) (s : Server) : Steps s (handleMessage request s).2 :=
  Stepwise.bind (stepwise_note _) (fun _ => .bind (stepwise_serve _ _ _ _) fun _ =>
    .bind (stepwise_note _) fun _ => stepwise_ofExcept (.ok _)) s

/-! ## What no step changes -/

/-- What is laid down when the server is made or begins to listen. -/
structure Fixed (s s' : Server) : Prop where
  running : s'.running = s.running
  settings : s'.settings = s.settings
  identifier : s'.identifier = s.identifier

theorem Step.fixed {s s' : Server} (h : Step s s') : Fixed s s' := by
  cases h with
  | noted n => exact ⟨rfl, rfl, rfl⟩
  | created => exact ⟨rfl, rfl, rfl⟩
  | ended id =>
    rcases hopen : s.workspace? id with _ | w
    · rw [endSession_none hopen]
      exact ⟨rfl, rfl, rfl⟩
    · rw [endSession_some hopen]
      exact ⟨rfl, rfl, rfl⟩
  | worked hopen hact request => exact ⟨rfl, rfl, rfl⟩

theorem Steps.fixed {s s' : Server} (h : Steps s s') : Fixed s s' := by
  induction h with
  | refl => exact ⟨rfl, rfl, rfl⟩
  | tail _ hstep ih =>
    exact ⟨hstep.fixed.running.trans ih.running, hstep.fixed.settings.trans ih.settings,
      hstep.fixed.identifier.trans ih.identifier⟩

end ReplDriver.Server
