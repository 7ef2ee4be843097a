import ReplDriver.Proofs.Workspace.Failing
import ReplDriver.Proofs.World.Answering

/-!
# Operations of a workspace whose session answers

In a world that answers, the only thing that makes a send, an interrupt or a reset fail is an
interruption of its wait. A file that is loaded may not be readable as well. Closing never fails.
After each of these operations the world still answers.

* `Seat.withstands_sendCode`, `Seat.withstands_interrupt`, `Seat.withstands_reset`: how the
  operations end.
* `Seat.loadFile_cases`: how loading a file ends.
* `Seat.Answering.close`: what closing leaves.
-/

namespace ReplDriver

open World Registry

namespace Seat

/-- The session of the workspace answers, and its replies can be told complete. The settings are
known. -/
structure Answering (settings : Settings) (rounding : Double.Rounding) (s : Seat) : Prop where
  same : s.workspace.settings = settings
  world : s.world.Answering settings rounding
  rules : s.workspace.rules.Tells
  startRules : (startRules settings).Tells

/-- From every world that answers, an operation leads to such a world, and it fails only when it is
interrupted. -/
abbrev Withstands {α : Type} (settings : Settings) (rounding : Double.Rounding)
    (act : Op Seat α) : Prop :=
  Op.Meets (Answering settings rounding) (· = .interrupted) (fun _ => True) act

section
variable {α β : Type} {settings : Settings} {rounding : Double.Rounding} {s : Seat} {handle : Nat}
  {t : Session}

/-- Changing the world to one that answers. -/
theorem Answering.inWorld (h : s.Answering settings rounding) {w : World}
    (hw : w.Answering settings rounding) : Answering settings rounding { s with world := w } :=
  ⟨h.same, hw, h.rules, h.startRules⟩

theorem Answering.beside (h : s.Answering settings rounding) {w : World}
    (hbeside : Beside s.world w) : Answering settings rounding { s with world := w } :=
  h.inWorld (h.world.beside hbeside)

/-- What ends in this way has returned, or has been interrupted. -/
theorem ends_cases {r : Except Failure α × Seat}
    (h : Op.Ends (Answering settings rounding) (· = .interrupted) (fun _ => True) r) :
    (∃ a s, r = (.ok a, s) ∧ s.Answering settings rounding) ∨
      ∃ s, r = (.error .interrupted, s) ∧ s.Answering settings rounding := by
  cases h with
  | ok hs _ => exact .inl ⟨_, _, rfl, hs⟩
  | error hs hf =>
    cases hf
    exact .inr ⟨_, rfl, hs⟩

/-! ## At the live session -/

/-- A call at the registered session that has an answer to wait for. -/
theorem Answering.call {call : Call} (h : s.Answering settings rounding)
    (hfound : find? s.world settings.sessionName = some handle)
    (hs : s.world.session? handle = some t)
    (hexpects : (s.world.desk t).Expects settings.prompt rounding call) :
    Op.Ends (Answering settings rounding) (· = .interrupted) (fun _ => True)
      (onWorld (atDesk handle (call.run s.workspace.rules)) s) := by
  obtain rfl := h.same
  obtain ⟨t', ht', hresponsive⟩ := h.world.registered handle hfound
  cases hs.symm.trans ht'
  obtain ⟨hresponsive', hends⟩ := hresponsive.call h.rules hexpects
  obtain ⟨hanswering, -⟩ := h.world.leaveDesk hfound hs hresponsive'
  rw [onWorld_atDesk hs]
  rcases hcall : (call.run s.workspace.rules (s.world.desk t)).1 with f | reply
  · rw [hcall] at hends
    obtain hf | ⟨reply, hreply⟩ := hends
    · cases hf
      exact .error (h.inWorld hanswering) rfl
    · cases hreply
  · exact .ok (h.inWorld hanswering) trivial

/-- What is done with the live session begins with finding or starting it. -/
theorem withstands_session_then {k : Nat → Op Seat β}
    (hk : ∀ handle (s : Seat), s.Answering settings rounding →
      find? s.world settings.sessionName = some handle →
        Op.Ends (Answering settings rounding) (· = .interrupted) (fun _ => True) (k handle s)) :
    Withstands settings rounding (session >>= k) where
  ends {s} h := by
    obtain rfl := h.same
    obtain ⟨outcome, w', hget, hanswering, hends⟩ := h.world.getOrStart h.startRules
    have hsession := session_apply hget
    obtain rfl | ⟨handle, rfl, hfound⟩ := hends
    · rw [Op.bind_error hsession]
      exact .error (h.inWorld hanswering) rfl
    · rw [Op.bind_ok hsession]
      exact hk handle _ (h.inWorld hanswering) hfound

/-! ## The operations -/

theorem withstands_onWorkspace {f : Workspace → Workspace}
    (hsettings : ∀ w, (f w).settings = w.settings) (hinterval : ∀ w, (f w).interval = w.interval) :
    Withstands settings rounding (onWorkspace f) where
  ends {s} h := by
    have hkept : Answering settings rounding { s with workspace := f s.workspace } := by
      refine ⟨(hsettings _).trans h.same, h.world, ?_, h.startRules⟩
      rw [Workspace.rules, hsettings, hinterval]
      exact h.rules
    exact .ok hkept trivial

theorem withstands_note (n : Note) : Withstands settings rounding (onWorld (note n)) where
  ends {s} h := .ok (h.beside (beside_record s.world n)) trivial

theorem withstands_sendCode (code : Text) : Withstands settings rounding (sendCode code) := by
  have hremember (e : Evaluation) :
      Withstands settings rounding (onWorkspace (fun w => w.remember code e) >>= fun _ => pure e) :=
    .bind (withstands_onWorkspace (fun _ => rfl) fun _ => rfl) fun _ _ => .pure trivial
  refine .look fun s _ => ?_
  simp only
  split
  · exact hremember _
  · refine .bind (withstands_session_then fun handle s h hfound => ?_) fun _ _ => hremember _
    obtain ⟨t, hs, -⟩ := h.world.registered handle hfound
    exact h.call hfound hs (.submit _)

/-- An interrupt that is waited for. Where no session is live there is nothing to wait for. -/
theorem withstands_interrupt : Withstands settings rounding (interrupt true) where
  ends {s} h := by
    obtain rfl := h.same
    obtain ⟨found, w', hget, hanswering, hfound⟩ := h.world.get?
    have h₁ : Answering s.workspace.settings rounding { s with world := w' } := h.inWorld hanswering
    unfold Seat.interrupt
    rw [Op.bind_ok (session?_apply hget)]
    cases found with
    | none => exact .ok h₁ trivial
    | some handle =>
      -- the interrupt asks for an answer, and the wait is for that one
      obtain ⟨t, hs, hresponsive⟩ := hanswering.registered handle hfound
      obtain ⟨d, hinterrupt, hasked⟩ := hresponsive.interrupt
      have hdesk := onWorld_atDesk (s := { s with world := w' }) hs Desk.interrupt
      rw [hinterrupt] at hdesk
      obtain ⟨hanswering₂, hfound₂, hs₂, hclock⟩ := hanswering.leaveDesk hfound hs hasked.responsive
      simp only
      rw [Op.bind_ok hdesk]
      exact (h₁.inWorld hanswering₂).call hfound₂ hs₂
        (.awaitPrompt (asked_desk _ hasked hclock) true)

/-- Closing succeeds. The session is registered no longer, and it has been ended. -/
theorem Answering.close (h : s.Answering settings rounding) :
    ∃ w', Seat.close s = (.ok (), { s with world := w' }) ∧
      Answering settings rounding { s with world := w' } ∧ find? w' settings.sessionName = none ∧
      ∀ handle t, find? s.world settings.sessionName = some handle →
        s.world.session? handle = some t → w'.session? handle = some t.close := by
  obtain rfl := h.same
  obtain ⟨w', hremove, hanswering, hgone, hclosed⟩ := h.world.remove
  exact ⟨w', close_apply hremove, h.inWorld hanswering, hgone, hclosed⟩

theorem withstands_reset : Withstands settings rounding reset := by
  have hclose : Withstands settings rounding Seat.close := by
    refine ⟨fun {s} h => ?_⟩
    obtain ⟨w', hclose, hanswering, -⟩ := h.close
    rw [hclose]
    exact .ok hanswering trivial
  have hreset : reset = Seat.close >>= fun _ => onWorkspace Workspace.forget >>= fun _ =>
      session >>= pure := by
    simp only [bind_pure]
    rfl
  rw [hreset]
  exact .bind hclose fun _ _ => .bind (withstands_onWorkspace (fun _ => rfl) fun _ => rfl)
    fun _ _ => withstands_session_then fun _ _ h _ => .ok h trivial

/-! ## Loading a file -/

/-- What keeps a text from being read: the file cannot be opened, the path is none, or the file
holds no text. -/
theorem readText_error {m : Machine} {path : Text} {f : Failure} (h : m.readText path = .error f) :
    (∃ fault, f = .file fault path) ∨ f = .nullInPath ∨ ∃ fault, f = .encoding fault := by
  unfold Machine.readText at h
  rcases hopened : Machine.opened path (m.files.read m.cwd.parts path) with g | bytes
  · rw [hopened] at h
    cases h
    unfold Machine.opened at hopened
    split at hopened
    · cases hopened
      exact .inr (.inl rfl)
    · split at hopened
      · cases hopened
      · cases hopened
        exact .inl ⟨_, rfl⟩
  · rcases hdecode : Utf8.decode bytes with fault | text <;>
      simp only [hopened, bind, Except.bind, hdecode] at h <;> cases h
    exact .inr (.inr ⟨fault, rfl⟩)

/-- Loading a file fails at once if it cannot be read, and is a send otherwise. -/
theorem loadFile_cases (h : s.Answering settings rounding) (path : Text) :
    (∃ f, s.world.machine.readText (s.world.machine.absolute path).text = .error f ∧
        loadFile path s = (.error f, s)) ∨
      ∃ code, s.world.machine.readText (s.world.machine.absolute path).text = .ok code ∧
        Op.Ends (Answering settings rounding) (· = .interrupted) (fun _ => True)
          (loadFile path s) := by
  unfold loadFile
  rw [Op.get_bind]
  rcases hread : s.world.machine.readText (s.world.machine.absolute path).text with f | code
  · exact .inl ⟨f, rfl, Op.bind_error rfl⟩
  · have hsend : Withstands settings rounding
        (onWorld (note (.loading (s.world.machine.absolute path).text)) >>= fun _ =>
          sendCode code) := .bind (withstands_note _) fun _ _ => withstands_sendCode code
    refine .inr ⟨code, rfl, ?_⟩
    rw [Op.bind_ok (show Op.ofExcept (.ok code) s = (.ok code, s) from rfl)]
    exact hsend.ends h

end

end Seat

end ReplDriver
