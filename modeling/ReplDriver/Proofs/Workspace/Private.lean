import ReplDriver.Proofs.Workspace.Actions
import ReplDriver.Proofs.World.Alike
import ReplDriver.Proofs.World.Launches

/-!
# Operations that are the workspace's own affair

An operation on a workspace is private if it makes moves for the session of the workspace only,
launches that session by the settings of the workspace, and depends on nothing but the workspace,
that session, and the machine: done with the same workspace in two worlds that are alike for the
session, it ends alike. Whatever an editor can do with a workspace is private, and so is what is put
together from private operations.

* `Seat.Private.bind`: sequences of private operations are private.
* `Seat.private_sendCode`, `Seat.private_interrupt`, `Seat.private_reset`: so are the operations of
  a workspace.
-/

namespace ReplDriver

open World Registry

/-- The times that a workspace asks for are numbers. -/
structure Workspace.Timely (w : Workspace) : Prop where
  poll : ∃ τ, w.settings.pollInterval = .finite τ
  interval : ∃ τ, w.rules.interval = .finite τ

namespace Seat

/-- The same workspace in two worlds that are alike for its session. -/
structure Alike (s t : Seat) : Prop where
  workspace : t.workspace = s.workspace
  timely : s.workspace.Timely
  world : World.Alike s.name s.world t.world

/-- The settings of the workspace stay, and every session that is started is launched by them. -/
structure Launching (s s' : Seat) : Prop where
  settings : s'.workspace.settings = s.workspace.settings
  launches : Launches s.workspace.settings s.world s'.world

theorem Launching.refl (s : Seat) : Launching s s := ⟨rfl, .refl _⟩

theorem Launching.trans {s s' s'' : Seat} (h : Launching s s') (h' : Launching s' s'') :
    Launching s s'' where
  settings := h'.settings.trans h.settings
  launches := by
    have hrest := h'.launches
    rw [h.settings] at hrest
    exact h.launches.trans hrest

theorem Launching.bind {α β : Type} {act : Op Seat α} {k : α → Op Seat β} {s : Seat}
    (h : Launching s (act s).2)
    (hk : ∀ a s', act s = (.ok a, s') → Launching s' (k a s').2) :
    Launching s ((act >>= k) s).2 := by
  rcases hact : act s with ⟨f | a, s'⟩ <;> rw [hact] at h
  · rw [Op.bind_error hact]
    exact h
  · rw [Op.bind_ok hact]
    exact h.trans (hk a s' hact)

theorem launching_session {s : Seat} (hsound : s.world.Sound) : Launching s (session s).2 :=
  ⟨rfl, launches_getOrStart hsound⟩

theorem launching_session? {s : Seat} (hsound : s.world.Sound) : Launching s (session? s).2 :=
  ⟨rfl, launches_get? hsound _⟩

theorem launching_atDesk {α : Type} {act : Op Desk α} (s : Seat) (handle : Nat)
    (hact : ∀ d, Op.Traced Desk.Does d act fun _ _ _ => True) :
    Launching s (onWorld (atDesk handle act) s).2 :=
  ⟨rfl, launches_atDesk s.world handle hact⟩

/-- The operation makes moves for the session of the workspace only, which it launches by the
settings of the workspace, and ends alike in worlds that are alike. -/
structure Private {α : Type} (act : Op Seat α) : Prop where
  traced : ∀ {s : Seat}, s.world.Sound → Op.Traced Does s act fun _ _ _ => True
  launching : ∀ {s : Seat}, s.world.Sound → Launching s (act s).2
  paired : ∀ {s t : Seat}, Alike s t →
    Op.Paired Alike (fun a b _ _ => a = b) (act s) (act t)

section
variable {α β : Type} {act : Op Seat α} {s t : Seat}

/-! ## Putting operations together -/

theorem Private.ofExcept (outcome : Except Failure α) : Private (Op.ofExcept outcome) where
  traced _ := .ofExcept recording fun _ _ => trivial
  launching _ := .refl _
  paired h := by
    cases outcome with
    | ok a => exact .ok h rfl
    | error f => exact .error h f

theorem Private.pure (a : α) : Private (Pure.pure a : Op Seat α) := .ofExcept (.ok a)

theorem Private.throw (f : Failure) : Private (throw f : Op Seat α) := .ofExcept (.error f)

/-- A sequence of private operations is private. -/
theorem Private.bind {k : α → Op Seat β} (h : Private act) (hk : ∀ a, Private (k a)) :
    Private (act >>= k) where
  traced hsound := .bind recording (h.traced hsound) fun a _ _ hdoes _ =>
    ((hk a).traced (hdoes.sound hsound)).mono fun _ _ _ _ => trivial
  launching hsound := (h.launching hsound).bind fun a s' hact => by
    obtain ⟨es, hdoes, -⟩ := h.traced hsound
    rw [hact] at hdoes
    exact (hk a).launching (hdoes.sound hsound)
  paired hst := .bind (h.paired hst) fun a b _ _ hst' hab => by
    cases hab
    exact (hk a).paired hst'

theorem Private.map (g : α → β) (h : Private act) : Private (g <$> act) := by
  have hmap : g <$> act = act >>= fun a => Pure.pure (g a) := rfl
  rw [hmap]
  exact h.bind fun a => .pure (g a)

/-- An operation that begins by looking at what is the same in worlds that are alike. -/
theorem Private.look {k : Seat → Op Seat α} (hk : ∀ s, Private (k s))
    (hsame : ∀ {s t}, Alike s t → k t = k s) : Private (get >>= k) where
  traced {s} hsound := .look ((hk s).traced hsound)
  launching {s} hsound := (hk s).launching hsound
  paired {s t} h := by
    rw [Op.get_bind, Op.get_bind, hsame h]
    exact (hk s).paired h

/-- Failures may be answered. -/
theorem Private.answering {answer : Failure → Option (Op Seat α)} (h : Private act)
    (hanswer : ∀ f other, answer f = some other → Private other) :
    Private (Op.answering act answer) where
  traced {s} hsound := by
    obtain ⟨es, hdoes, -⟩ := h.traced hsound
    obtain heq | ⟨f, other, s', hact, hother, heq⟩ := Op.answering_cases act answer s
    · rw [← heq] at hdoes
      exact ⟨es, hdoes, fun _ _ => trivial⟩
    · rw [hact] at hdoes
      obtain ⟨more, hmore, -⟩ := (hanswer f other hother).traced (hdoes.sound hsound)
      rw [← heq] at hmore
      exact ⟨es ++ more, recording.append hdoes hmore, fun _ _ => trivial⟩
  launching {s} hsound := by
    obtain ⟨es, hdoes, -⟩ := h.traced hsound
    have hfirst := h.launching hsound
    obtain heq | ⟨f, other, s', hact, hother, heq⟩ := Op.answering_cases act answer s <;> rw [heq]
    · exact hfirst
    · rw [hact] at hdoes hfirst
      exact hfirst.trans ((hanswer f other hother).launching (hdoes.sound hsound))
  paired hst := (h.paired hst).answering fun f other _ _ hother hR =>
    (hanswer f other hother).paired hR

/-! ## Work at the session -/

/-- An operation on the world that ends alike leaves the workspace alone. -/
theorem paired_onWorld {act' : Op World β} {act : Op World α} {Q : α → β → World → World → Prop}
    (h : Alike s t) (hact : Op.Paired (World.Alike s.name) Q (act s.world) (act' t.world)) :
    Op.Paired Alike (fun a b s' t' => Q a b s'.world t'.world ∧ s'.workspace = s.workspace)
      (onWorld act s) (onWorld act' t) := by
  have hseat {w w' : World} (hw : World.Alike s.name w w') :
      Alike { s with world := w } { t with world := w' } :=
    ⟨h.workspace, h.timely, hw⟩
  exact hact.zoom hseat fun hQ => ⟨hQ, rfl⟩

/-- The numbers of the registered sessions. -/
def Found (name : Text) (handle handle' : Nat) (s t : Seat) : Prop :=
  find? s.world name = some handle ∧ find? t.world name = some handle'

/-- The live session is found or started alike. -/
theorem paired_session (h : Alike s t) :
    Op.Paired Alike
      (fun handle handle' s' t' => Found s.name handle handle' s' t' ∧ s'.workspace = s.workspace)
      (session s) (session t) := by
  obtain ⟨τ, hτ⟩ := h.timely.poll
  have hstart := paired_onWorld h (paired_getOrStart h.world hτ)
  unfold session
  rw [Op.get_bind, Op.get_bind, h.workspace]
  exact hstart

theorem paired_session? (h : Alike s t) :
    Op.Paired Alike
      (fun found found' s' t' => Registered s.name found found' s'.world t'.world ∧
        s'.workspace = s.workspace)
      (session? s) (session? t) := by
  have hget := paired_onWorld h (paired_get? h.world)
  unfold session?
  rw [Op.get_bind, Op.get_bind, h.workspace]
  exact hget

/-- What does the same at a desk at any time, and keeps the name of the session. -/
structure Steady (act : Op Desk α) : Prop where
  timeless : ∀ s : Session, s.process.Timely → Desk.Timeless act s
  does : ∀ d, Op.Traced Desk.Does d act fun _ _ _ => True

theorem Steady.name {act : Op Desk α} (h : Steady act) (d : Desk) :
    (act d).2.session.name = d.session.name := by
  obtain ⟨es, hdoes, -⟩ := h.does d
  exact hdoes.name

/-- Work at the desk of the registered session ends alike. -/
theorem paired_atDesk {act : Op Desk α} {handle handle' : Nat} (h : Alike s t)
    (hfound : Found s.name handle handle' s t) (hact : Steady act) :
    Op.Paired Alike
      (fun a b s' t' => (a = b ∧ Found s.name handle handle' s' t') ∧ s'.workspace = s.workspace)
      (onWorld (atDesk handle act) s) (onWorld (atDesk handle' act) t) :=
  paired_onWorld h (h.world.atDesk hfound.1 hfound.2 hact.timeless hact.name)

/-- Work at the live session, which is started on demand, is private. -/
theorem private_atSession {act : ReplyRules → Op Desk α}
    (hact : ∀ rules τ, rules.interval = .finite τ → Steady (act rules))
    (hdoes : ∀ rules d, Op.Traced Desk.Does d (act rules) fun _ _ _ => True) :
    Private (atSession act) where
  traced hsound := (traced_atSession hsound hdoes).mono fun _ _ _ _ => trivial
  launching hsound := (launching_session hsound).bind fun handle s' _ =>
    launching_atDesk s' handle (hdoes s'.workspace.rules)
  paired {s t} h := by
    -- the numbers of the session may differ, as other names have sessions too
    refine .bind (paired_session h) ?_
    rintro handle handle' s' t' h' ⟨hfound, hworkspace⟩
    obtain ⟨τ, hτ⟩ := h'.timely.interval
    have hname := name_eq_of_workspace hworkspace
    rw [← hname] at hfound
    rw [Op.get_bind, Op.get_bind, h'.workspace]
    exact (paired_atDesk h' hfound (hact _ τ hτ)).mono fun _ _ _ _ _ hQ => hQ.1.1

/-- Changing the workspace but not its settings is private. -/
theorem private_onWorkspace {f : Workspace → Workspace}
    (hsettings : ∀ w, (f w).settings = w.settings) (hinterval : ∀ w, (f w).interval = w.interval) :
    Private (onWorkspace f) where
  traced {s} _ := ⟨[], ⟨.nil _, hsettings _⟩, fun _ _ => trivial⟩
  launching _ := ⟨hsettings _, .refl _⟩
  paired {s t} h := by
    have hrules (w : Workspace) : (f w).rules = w.rules := by
      rw [Workspace.rules, Workspace.rules, hsettings, hinterval]
    refine .ok ⟨?_, ⟨?_, ?_⟩, ?_⟩ rfl
    · show f t.workspace = f s.workspace
      rw [h.workspace]
    · show ∃ τ, (f s.workspace).settings.pollInterval = .finite τ
      rw [hsettings]
      exact h.timely.poll
    · show ∃ τ, (f s.workspace).rules.interval = .finite τ
      rw [hrules]
      exact h.timely.interval
    · show World.Alike (f s.workspace).settings.sessionName s.world t.world
      rw [hsettings]
      exact h.world

theorem private_note (n : Note) : Private (onWorld (World.note n)) where
  traced _ := (traced_note n).mono fun _ _ _ _ => trivial
  launching {s} _ := ⟨rfl, (beside_record s.world n).launches⟩
  paired h := (paired_onWorld h (h.world.note n n)).mono fun _ _ _ _ _ _ => rfl

/-! ## The operations of a workspace -/

/-- Calls are steady. -/
theorem steady_call {rules : ReplyRules} {τ : Rat} (hrules : rules.interval = .finite τ)
    (call : Call) : Steady (call.run rules) where
  timeless s hs := by
    rw [Call.run_eq]
    exact Desk.timeless_run hrules hs _ _ _
  does d := (Desk.traced_call rules call d).mono fun _ _ _ _ => trivial

theorem private_sendCode (code : Text) : Private (sendCode code) := by
  have hremember (e : Evaluation) :
      Private (onWorkspace (fun w => w.remember code e) >>= fun _ => Pure.pure e) := by
    refine .bind (private_onWorkspace ?_ ?_) fun _ => .pure e
    · exact fun _ => rfl
    · exact fun _ => rfl
  refine .look (fun s => ?_) fun h => by rw [h.workspace]
  simp only
  split
  · exact hremember _
  · refine .bind (private_atSession
      (fun rules τ hτ => steady_call hτ (.submit (s.workspace.prepare code))) fun rules d => ?_)
      fun raw => hremember _
    exact (Desk.traced_call rules (.submit _) d).mono fun _ _ _ _ => trivial

theorem private_sendLast (text : Text) (point : Int) : Private (sendLast text point) :=
  .bind (.ofExcept _) fun _ => private_sendCode _

/-- What a file holds is the same in worlds that are alike. -/
theorem Alike.readText (h : Alike s t) (path : Text) :
    t.world.machine.readText path = s.world.machine.readText path := by
  unfold Machine.readText
  rw [h.world.files, h.world.cwd]

theorem private_loadFile (path : Text) : Private (loadFile path) := by
  refine .look (fun s => ?_) fun h => ?_
  · exact .bind (.ofExcept _) fun code => .bind (private_note _) fun _ => private_sendCode code
  · have habsolute := congrArg (fun cwd => (Path.absolute (Path.text cwd) path).text) h.world.cwd
    simp only [Machine.absolute, h.readText, habsolute]

theorem private_complete (token : Text) (inModulePath : Bool) :
    Private (complete token inModulePath) := by
  have hdoes (rules : ReplyRules) (d : Desk) :
      Op.Traced Desk.Does d (Completion.complete rules token inModulePath) fun _ _ _ => True :=
    (Completion.does_complete rules token inModulePath d).mono fun _ _ _ _ => trivial
  exact private_atSession (fun rules τ hτ =>
    ⟨fun s hs => Completion.timeless_complete hτ hs token inModulePath, hdoes rules⟩) hdoes

theorem private_completeAt (text : Text) (point : Int) : Private (completeAt text point) := by
  have hdoes (rules : ReplyRules) (d : Desk) :
      Op.Traced Desk.Does d (Completion.completeAt rules text point) fun _ _ _ => True :=
    (Completion.does_completeAt rules text point d).mono fun _ _ _ _ => trivial
  exact private_atSession (fun rules τ hτ =>
    ⟨fun s hs => Completion.timeless_completeAt hτ hs text point, hdoes rules⟩) hdoes

/-- Work at the live session that begins nothing where there is none is private. -/
theorem private_atLive {k : Nat → Op Seat α} {a : α}
    (htraced : ∀ {s : Seat}, s.world.Sound → Op.Traced Does s (session? >>= fun found =>
      match found with
      | none => Pure.pure a
      | some handle => k handle) fun _ _ _ => True)
    (hlaunching : ∀ (s : Seat) (handle : Nat), Launching s (k handle s).2)
    (hk : ∀ {s t : Seat} {handle handle' : Nat}, Alike s t → Found s.name handle handle' s t →
      Op.Paired Alike (fun a b _ _ => a = b) (k handle s) (k handle' t)) :
    Private (session? >>= fun found =>
      match found with
      | none => Pure.pure a
      | some handle => k handle) where
  traced := htraced
  launching hsound := (launching_session? hsound).bind fun found s' _ => by
    cases found with
    | none => exact .refl s'
    | some handle => exact hlaunching s' handle
  paired {s t} h := by
    refine .bind (paired_session? h) ?_
    rintro found found' s' t' h' ⟨⟨hfound, hfound', hsame⟩, hworkspace⟩
    have hname := name_eq_of_workspace hworkspace
    -- a session is live in both or in neither
    cases found with
    | none =>
      cases hsame.mp rfl
      exact .ok h' rfl
    | some handle =>
      cases found' with
      | none => cases hsame.mpr rfl
      | some handle' =>
        refine hk h' ?_
        rw [hname]
        exact ⟨hfound, hfound'⟩

theorem steady_interrupt : Steady Desk.interrupt where
  timeless _ hs := Desk.timeless_interrupt hs
  does d := ⟨_, Desk.does_interrupt d, fun _ _ => trivial⟩

theorem private_interrupt (wait : Bool) : Private (interrupt wait) := by
  refine private_atLive (fun {s} hsound =>
    (traced_interrupt hsound s.world.machine wait).mono fun _ _ _ _ => trivial) ?_ ?_
  · refine fun s handle => (launching_atDesk s handle steady_interrupt.does).bind ?_
    rintro _ s' -
    have hwait (d : Desk) : Op.Traced Desk.Does d (Desk.awaitPrompt s'.workspace.rules true)
        fun _ _ _ => True :=
      (Desk.traced_call _ (.awaitPrompt true) d).mono fun _ _ _ _ => trivial
    cases wait with
    | false => exact .refl s'
    | true => exact launching_atDesk s' handle hwait
  intro s t handle handle' h hfound
  refine .bind (paired_atDesk h hfound steady_interrupt) ?_
  rintro _ _ s' t' h' ⟨⟨-, hfound'⟩, hworkspace⟩
  -- the session is registered still, and may be waited for
  cases wait with
  | false => exact .ok h' rfl
  | true =>
    obtain ⟨τ, hτ⟩ := h'.timely.interval
    have hname := name_eq_of_workspace hworkspace
    rw [← hname] at hfound'
    simp only [if_true]
    rw [Op.get_bind, Op.get_bind, h'.workspace]
    exact (paired_atDesk h' hfound' (steady_call hτ (.awaitPrompt true))).mono
      fun _ _ _ _ _ hQ => hQ.1.1

theorem private_clear : Private clear := by
  have hclear : Steady (Desk.onSession Session.clear) :=
    ⟨fun _ hs => Desk.timeless_onSession _ hs, fun d => ⟨_, Desk.does_clear d, fun _ _ => trivial⟩⟩
  refine private_atLive (fun {s} hsound =>
    (traced_clear hsound s.world.machine).mono fun _ _ _ _ => trivial)
    (fun s handle => launching_atDesk s handle hclear.does) ?_
  intro s t handle handle' h hfound
  exact (paired_atDesk h hfound hclear).mono fun _ _ _ _ _ hQ => hQ.1.1

theorem private_close : Private close where
  traced hsound := (traced_close hsound).mono fun _ _ _ _ => trivial
  launching hsound := ⟨rfl, launches_remove hsound _⟩
  paired {s t} h := by
    have hremove := paired_onWorld h (paired_remove h.world)
    unfold close
    rw [Op.get_bind, Op.get_bind, h.workspace]
    exact hremove.mono fun _ _ _ _ _ _ => rfl

/-- Starting the session, and then going on with what ends alike for the same session, is
private. -/
theorem private_withSession {k : Nat → Op Seat α}
    (htraced : ∀ {s : Seat} (handle : Nat), s.world.Sound →
      Op.Traced Does s (k handle) fun _ _ _ => True)
    (hlaunching : ∀ {s : Seat} (handle : Nat), s.world.Sound → Launching s (k handle s).2)
    (hk : ∀ {s t : Seat} {handle handle' : Nat}, Alike s t → Found s.name handle handle' s t →
      Op.Paired Alike (fun a b _ _ => a = b) (k handle s) (k handle' t)) :
    Private (session >>= k) where
  traced hsound := .bind recording (traced_session hsound) fun handle _ _ hdoes _ =>
    (htraced handle (hdoes.sound hsound)).mono fun _ _ _ _ => trivial
  launching hsound := (launching_session hsound).bind fun handle s' hact => by
    obtain ⟨es, hdoes, -⟩ := traced_session hsound
    rw [hact] at hdoes
    exact hlaunching handle (hdoes.sound hsound)
  paired {s t} h := by
    refine .bind (paired_session h) ?_
    rintro handle handle' s' t' h' ⟨hfound, hworkspace⟩
    have hname := name_eq_of_workspace hworkspace
    rw [← hname] at hfound
    exact hk h' hfound

/-- Starting the session, and then going on without its number, is private. -/
theorem private_session_then (h : Private act) : Private (session >>= fun _ => act) :=
  private_withSession (fun _ => h.traced) (fun _ => h.launching) fun hst _ => h.paired hst

/-- Resetting, without the number of the new session, is private. -/
theorem private_reset : Private (reset >>= fun _ => Pure.pure ()) := by
  have hreset : (reset >>= fun _ => Pure.pure () : Op Seat Unit) = close >>= fun _ =>
      onWorkspace Workspace.forget >>= fun _ => session >>= fun _ => Pure.pure () := by
    unfold reset
    simp only [bind_assoc]
  rw [hreset]
  -- the number of the new session is the one thing that may differ
  refine .bind private_close fun _ => .bind (private_onWorkspace ?_ ?_) fun _ =>
    private_session_then (.pure ())
  · exact fun _ => rfl
  · exact fun _ => rfl

end

end Seat

end ReplDriver
