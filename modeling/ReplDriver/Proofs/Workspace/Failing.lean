import ReplDriver.Proofs.Session.Failing
import ReplDriver.Proofs.Workspace.Actions

/-!
# How operations of a workspace fail

Where the processes of a world work, the operations of a workspace leave such a world, and they fail
in few ways: the program cannot be started, an exchange is open, a wait never ends, the file is not
there or holds no text, or no expression ends at the cursor.

* `World.Moves.works`: moves lead from worlds whose processes work to such worlds.
* `Seat.meets_sendCode`, `Seat.meets_complete`, `Seat.meets_interrupt`: the ways in which operations
  of a workspace fail.
-/

namespace ReplDriver

open World Registry

namespace World

/-- A sound world in which every process that is started works. -/
structure Works (w : World) : Prop where
  sound : w.Sound
  launch : ∀ name n b, w.launch name n = .runs b → b.Works
  processes : ∀ s ∈ w.sessions, s.process.Works

variable {name : Text} {w w' : World}

theorem Works.beside (h : w.Works) (hbeside : Beside w w') : w'.Works where
  sound := h.sound.beside hbeside
  launch := by rw [hbeside.launch]; exact h.launch
  processes := by rw [hbeside.sessions]; exact h.processes

/-- Changing a session whose process goes on working. -/
theorem Works.processes_set (h : w.Works) {handle : Nat} {t : Session} (ht : t.process.Works) :
    ∀ s ∈ w.sessions.set handle t, s.process.Works := by
  intro s hs
  obtain hold | rfl := List.mem_or_eq_of_mem_set hs
  · exact h.processes s hold
  · exact ht

theorem Works.processes_append (h : w.Works) {t : Session} (ht : t.process.Works) :
    ∀ s ∈ w.sessions ++ [t], s.process.Works := by
  intro s hs
  obtain hold | hnew := List.mem_append.mp hs
  · exact h.processes s hold
  · rw [List.mem_singleton.mp hnew]
    exact ht

/-- A process that has just been started works. -/
theorem Works.newcomer (h : w.Works) {n : Nat} {b : Behaviour} (hlaunch : w.launch name n = .runs b)
    (executable : Text) (launched : Launched) :
    (w.desk (World.newcomer name executable launched b)).Works :=
  Process.works_start launched (h.launch _ _ _ hlaunch)

theorem Move.works {es : List Entry} (h : Move name w es w') (hw : w.Works) : w'.Works := by
  have hsound := h.sound hw.sound
  cases h with
  | aside hbeside => exact hw.beside hbeside
  | asked => exact ⟨hsound, hw.launch, hw.processes⟩
  | visited hfound hs hdoes =>
    have hdesk : (w.desk _).Works := hw.processes _ (List.mem_of_getElem? hs)
    exact ⟨hsound, hw.launch, hw.processes_set (hdesk.does hdoes)⟩
  | started hfree hlaunch hdoes =>
    exact ⟨hsound, hw.launch, hw.processes_append ((hw.newcomer hlaunch _ _).does hdoes)⟩
  | givenUp hfree hlaunch hwait hdoes =>
    exact ⟨hsound, hw.launch, hw.processes_append ((hw.newcomer hlaunch _ _).does hdoes)⟩
  | removed hfound hs =>
    have hprocess := hw.processes _ (List.mem_of_getElem? hs)
    exact ⟨hsound, hw.launch, hw.processes_set (hprocess.life (.close .nil))⟩

theorem Moves.works {es : List Entry} (h : Moves name w es w') (hw : w.Works) : w'.Works := by
  induction h with
  | nil => exact hw
  | cons hmove _ ih => exact ih (hmove.works hw)

end World

/-! ## The registry -/

/-- Starting a session fails only if the program cannot be started or the wait for its first prompt
fails. -/
theorem World.startSession_fails {name : Text} {settings : Settings} {w w' : World} {f : Failure}
    (hw : w.Works) (h : startSession name settings true w = (.error f, w')) :
    f.Among [.driver] := by
  have hexecutable (why : Text) : (Failure.executable why).Among [.driver] :=
    .inr (List.mem_singleton.mpr rfl)
  have hstarts := startSession_starts name settings w
  rw [h] at hstarts
  generalize hfailed : (Except.error f : Except Failure Nat) = outcome at hstarts
  cases hstarts with
  | unresolved hbeside =>
    cases hfailed
    exact hexecutable _
  | refused hbeside =>
    cases hfailed
    exact hexecutable _
  | waited hbeside hlaunch hwait =>
    rename_i w'' n b executable outcome d
    cases outcome with
    | ok reply => cases hfailed
    | error g =>
      cases hfailed
      have hcall : ((Call.awaitPrompt true).run (startRules settings)
          (w''.desk (newcomer name executable (launched settings executable w.machine) b))).1 =
            .error f := congrArg Prod.fst hwait
      exact ((hw.beside hbeside).newcomer hlaunch executable _).call_error hcall

/-- So does asking for the live session. -/
theorem Registry.getOrStart_fails {name : Text} {settings : Settings} {w : World} {f : Failure}
    (hw : w.Works) (h : (getOrStart name settings w).1 = .error f) : f.Among [.driver] := by
  obtain ⟨found, w₁, hget⟩ := get?_ok hw.sound name
  rw [getOrStart, Op.bind_ok hget] at h
  cases found with
  | some handle => cases h
  | none =>
    simp only at h
    obtain ⟨es, hmoves, -⟩ := traced_get? hw.sound name
    rw [hget] at hmoves
    rcases hstart : World.startSession name settings true w₁ with ⟨g | handle, w₂⟩
    · rw [Op.bind_error hstart] at h
      cases h
      exact World.startSession_fails (hmoves.works hw) hstart
    · rw [Op.bind_ok hstart] at h
      cases h

namespace Seat

/-! ## Work at the live session -/

/-- The workspace is in a world whose processes work. -/
def Works (s : Seat) : Prop := s.world.Works

/-- In such a world, a session is registered for the workspace. -/
structure Serves (handle : Nat) (s : Seat) : Prop where
  works : s.Works
  found : find? s.world s.name = some handle

section
variable {α β : Type} {s s' : Seat} {fails : Failure → Prop} {wanted : β → Prop}

theorem Works.does {es : List Entry} (h : s.Works) (hdoes : Does s es s') : s'.Works :=
  hdoes.moves.works h

/-- Work at the desk of the registered session fails as it fails at the desk. -/
theorem meets_atDesk {act : Op Desk α} {handle : Nat}
    (hact : Op.Meets Desk.Works fails (fun _ => True) act)
    (hdoes : ∀ d, Op.Traced Desk.Does d act fun _ _ _ => True) :
    Op.Meets (Serves handle) fails (fun _ => True) (onWorld (atDesk handle act)) where
  ends {s} h := by
    obtain ⟨session, hs, -⟩ := h.works.sound s.name handle h.found
    have hdesk : (s.world.desk session).Works := h.works.processes _ (List.mem_of_getElem? hs)
    have hends := hact.ends hdesk
    obtain ⟨es, hmoves, hreturned⟩ := traced_atDesk h.works.sound h.found hdoes
    have hbeside := beside_leaveDesk s.world handle (act (s.world.desk session)).2
    rw [atDesk_eq hs] at hmoves
    have hserves : Serves handle { s with
        world := s.world.leaveDesk handle (act (s.world.desk session)).2 } := by
      refine ⟨hmoves.works h.works, ?_⟩
      rw [find?, hbeside.registered]
      exact h.found
    -- the session is where it was, so its name still finds it
    rw [onWorld_atDesk hs]
    rcases hcall : act (s.world.desk session) with ⟨f | a, d⟩
    · rw [hcall] at hserves hends
      cases hends with
      | error _ hf => exact .error hserves hf
    · rw [hcall] at hserves
      exact .ok hserves trivial

/-- What is done with the live session begins with finding or starting it. -/
theorem meets_session_then {k : Nat → Op Seat β} (hfails : ∀ f, f.Among [.driver] → fails f)
    (hk : ∀ handle, Op.Meets (Serves handle) fails wanted (k handle)) :
    Op.Meets Works fails wanted (session >>= k) where
  ends {s} h := by
    obtain ⟨es, hdoes, hreturned⟩ := traced_session h.sound
    rcases hsession : session s with ⟨f | handle, s'⟩
    · rw [hsession] at hdoes
      have herror : (getOrStart s.name s.workspace.settings s.world).1 = .error f :=
        congrArg Prod.fst hsession
      rw [Op.bind_error hsession]
      exact .error (h.does hdoes) (hfails f (getOrStart_fails h herror))
    · rw [hsession] at hdoes hreturned
      obtain ⟨⟨hfound, -⟩, hworkspace⟩ := hreturned handle rfl
      rw [← hdoes.name_eq] at hfound
      rw [Op.bind_ok hsession]
      exact ((hk handle).ends ⟨h.does hdoes, hfound⟩).weaken fun _ => Serves.works

/-- Work at the live session fails as it fails at the desk, or as starting the session does. -/
theorem meets_atSession {act : ReplyRules → Op Desk α} (hfails : ∀ f, f.Among [.driver] → fails f)
    (hact : ∀ rules, Op.Meets Desk.Works fails (fun _ => True) (act rules))
    (hdoes : ∀ rules d, Op.Traced Desk.Does d (act rules) fun _ _ _ => True) :
    Op.Meets Works fails (fun _ => True) (atSession act) :=
  meets_session_then hfails fun _ => .look fun s _ =>
    meets_atDesk (hact s.workspace.rules) (hdoes s.workspace.rules)

theorem meets_onWorkspace (f : Workspace → Workspace) :
    Op.Meets Works fails (fun _ => True) (onWorkspace f) :=
  ⟨fun h => .ok h trivial⟩

theorem meets_note (n : Note) : Op.Meets Works fails (fun _ => True) (onWorld (note n)) where
  ends {s} h := by
    have hkept : Works { s with world := s.world.record n } :=
      World.Works.beside h (beside_record _ n)
    exact .ok hkept trivial

/-! ## The operations of a workspace -/

theorem does_call (rules : ReplyRules) (call : Call) (d : Desk) :
    Op.Traced Desk.Does d (call.run rules) fun _ _ _ => True :=
  (Desk.traced_call rules call d).mono fun _ _ _ _ => trivial

theorem meets_sendCode (code : Text) :
    Op.Meets Works (Failure.Among [.driver]) (fun _ => True) (sendCode code) := by
  have hremember (e : Evaluation) : Op.Meets Works (Failure.Among [.driver]) (fun _ => True)
      (onWorkspace (fun w => w.remember code e) >>= fun _ => pure e) :=
    .bind (meets_onWorkspace _) fun _ _ => .pure trivial
  refine .look fun s _ => ?_
  simp only
  split
  · exact hremember _
  · exact .bind (meets_atSession (fun _ => id)
      (fun rules => Desk.meets_call rules (.submit (s.workspace.prepare code)))
      (fun rules => does_call rules (.submit _))) fun _ _ => hremember _

/-- A file may be missing, and it may hold no text. -/
theorem readText_failsAs (m : Machine) (path : Text) :
    Op.FailsAs (Failure.Among [.system, .value]) (m.readText path) := by
  refine .bind ?_ fun bytes _ => ?_
  · unfold Machine.opened
    split
    · exact .error (.inr (by simp [Failure.family]))
    · split
      · exact .ok _
      · exact .error (.inr (by simp [Failure.family]))
  · split
    · exact .ok _
    · exact .error (.inr (by simp [Failure.family]))

theorem meets_loadFile (path : Text) :
    Op.Meets Works (Failure.Among [.driver, .system, .value]) (fun _ => True) (loadFile path) := by
  refine .look fun s _ => ?_
  simp only
  have hread : Op.Meets Works (Failure.Among [.driver, .system, .value]) (fun _ => True)
      (Op.ofExcept (s.world.machine.readText (s.world.machine.absolute path).text)) :=
    .ofExcept ((readText_failsAs _ _).mono fun _ h => h.mono (by decide)) fun _ _ => trivial
  -- once the file is read, loading it is a send
  refine .bind hread fun code _ => ?_
  exact .bind (meets_note _) fun _ _ => (meets_sendCode code).mono
    (fun _ h => h.mono (by decide)) fun _ h => h

end

end Seat

end ReplDriver
