import ReplDriver.Proofs.Workspace.Private
import ReplDriver.Server.Request

/-!
# Requests are the workspace's own affair

Every operation that a request can ask for is private to the workspace it is carried out on,
whatever the fields of the request hold.

* `Request.private_operation`: so is every entry in the table of operations.
-/

namespace ReplDriver

open Seat

namespace Protocol

/-- Failures that are reported are answered by a response. -/
theorem private_reporting {p : Failure → Bool} {act : Op Seat Response} (h : Private act) :
    Private (reporting p act) := by
  refine h.answering fun f other hother => ?_
  split at hother
  · cases hother
    exact .pure _
  · cases hother

theorem private_interrupt : Private interrupt :=
  .bind (Seat.private_interrupt true) fun _ => .pure _

theorem private_clear : Private clear := .bind Seat.private_clear fun _ => .pure _

theorem private_reset : Private reset := by
  have hreset : reset = (Seat.reset >>= fun _ => pure ()) >>= fun _ => pure (members [done]) := by
    rw [bind_assoc]
    rfl
  rw [hreset]
  exact .bind Seat.private_reset fun _ => .pure _

end Protocol

namespace Request

/-- What becomes of a value in place of code depends on the settings alone. -/
theorem private_notCode {α : Type} (kind : Text) :
    Private (get >>= fun s : Seat =>
      Op.ofExcept (notCode (α := α) kind s.workspace.settings.transformModules)) :=
  .look (fun _ => .ofExcept _) fun h => by rw [h.workspace]

theorem private_eval (request : Json) : Private (eval request) := by
  unfold eval
  split
  · exact .map _ (private_sendCode _)
  · exact private_notCode _

theorem private_evalRegion (request : Json) : Private (evalRegion request) := by
  refine .bind (.ofExcept _) fun v => .bind (.ofExcept _) fun first => ?_
  refine .bind (.ofExcept _) fun last => ?_
  split
  · exact .map _ (private_sendCode _)
  · exact private_notCode _
  · exact .throw _

theorem private_evalLast (request : Json) : Private (evalLast request) := by
  refine .bind (.ofExcept _) fun v => .bind (.ofExcept _) fun point => ?_
  split
  · exact Protocol.private_reporting (.map _ (private_sendLast _ _))
  · exact Protocol.private_reporting (.bind (.ofExcept _) fun _ => private_notCode _)

theorem private_loadFile (request : Json) : Private (loadFile request) :=
  .bind (.ofExcept _) fun path => Protocol.private_reporting (.map _ (Seat.private_loadFile path))

theorem private_completeAt (request v : Json) : Private (completeAt request v) := by
  refine .bind (.ofExcept _) fun point => ?_
  split
  · exact .bind (Seat.private_completeAt _ _) fun _ => .pure _
  · exact private_session_then (.throw _)

theorem private_complete (request : Json) : Private (complete request) := by
  unfold complete
  simp only
  split
  · exact .bind (Seat.private_complete _ _) fun _ => .pure _
  · refine private_withSession (fun _ _ => ?_) (fun {s} _ _ => .refl s)
      fun {s t handle handle'} h hfound => ?_
    · exact .look (.fails recording rfl)
    · -- the number of the session may differ, but the session is the same
      obtain ⟨session, hs, hs', -⟩ := h.world.registered hfound.1 hfound.2
      rw [Op.get_bind, Op.get_bind, hs, hs']
      exact .error h _

theorem private_boundary (request : Json) : Private (boundary request) := by
  refine .bind (.ofExcept _) fun v => .bind (.ofExcept _) fun point => ?_
  split
  · exact Protocol.private_reporting (.bind (.ofExcept _) fun _ => .pure _)
  · exact Protocol.private_reporting (.bind (.ofExcept _) fun _ => .pure _)

theorem private_transform (request : Json) : Private (transform request) :=
  .bind (.ofExcept _) fun _ => .pure _

/-- The operation that is asked for is in the table. -/
theorem operation?_mem {op : Json} {act : Json → Op Seat Protocol.Response}
    (h : operation? op = some act) :
    ∃ word, op = .text word ∧ (String.ofList word, act) ∈ operations := by
  cases op with
  | text word =>
    obtain ⟨before, after, htable, -⟩ := List.lookup_eq_some_iff.mp h
    refine ⟨word, rfl, ?_⟩
    rw [htable]
    exact List.mem_append_right _ List.mem_cons_self
  | _ => cases h

/-- Every operation that a request can ask for is private. -/
theorem private_operation {op : Json} {act : Json → Op Seat Protocol.Response}
    (h : operation? op = some act) (request : Json) : Private (act request) := by
  have hall : ∀ entry ∈ operations, Private (entry.2 request) := by
    simp only [operations, List.forall_mem_cons]
    refine ⟨private_eval request, private_evalRegion request, private_evalLast request,
      private_loadFile request, ?_, private_boundary request, private_transform request,
      Protocol.private_interrupt, Protocol.private_clear, Protocol.private_reset, nofun⟩
    split
    · exact private_completeAt request _
    · exact private_complete request
  obtain ⟨word, -, hmem⟩ := operation?_mem h
  exact hall _ hmem

end Request

end ReplDriver
