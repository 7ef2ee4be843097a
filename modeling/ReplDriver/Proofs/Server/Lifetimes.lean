import ReplDriver.Proofs.Server.Separation
import ReplDriver.Proofs.Server.Steps
import ReplDriver.Proofs.World.Registered
import ReplDriver.Server.Run

/-!
# The lifetimes of sessions

A session of the server owns the REPL session of its name, which is started when a request first
needs it and may be replaced when its process has exited. Whatever requests are handled, whatever
they come to, and whenever processes exit, the registered REPL sessions are those of open sessions,
launched by their settings. With its session a REPL session ends. A request that names no open
session is carried out on a new one, and when the server stops, everything it has started has ended.

* `Server.Owned`: what holds of the open sessions and of the registry between requests.
* `Server.Owned.after`: work for one session keeps it so.
* `Server.handleMessage_close`, `Server.handleMessage_unknown`, `Server.stop_ends`: closing,
  requests to no open session, and stopping.
* `Server.sessions_owned`: the lifetimes of sessions over every run.
-/

namespace ReplDriver.Server

open World
open Registry (find?)
open Protocol (Response members status)

/-! ## Runs -/

/-- What may happen at the server: a request is handled, whatever comes of it, or a process exits
or is waited for anew. -/
inductive Turn (s : Server) : Server → Prop
  | handled (request : Json) : Turn s (handleMessage request s).2
  | idled {w : World} (h : Meanwhile s.world w) : Turn s { s with world := w }

/-- One turn after another. -/
abbrev Run : Server → Server → Prop := Relation.ReflTransGen Turn

/-! ## Ownership -/

/-- A registered REPL session is that of an open session: it has its name, and was launched by its
settings. -/
structure Belongs (s : Server) (name : Text) (handle : Nat) (id : Text) (w : Workspace)
    (session : Session) : Prop where
  isOpen : s.workspace? id = some w
  settings : w.settings = s.settingsFor id
  name : name = w.settings.sessionName
  there : s.world.session? handle = some session
  launched : session.LaunchedBy w.settings s.world.machine

/-- What holds between requests: the open sessions are among those that were made, and have the
settings that they were made with; and every registered REPL session belongs to one of them. -/
structure Owned (s : Server) : Prop where
  sound : s.world.Sound
  made : ∀ id w, s.workspace? id = some w → ∃ n < s.issued, id = s.identifier n
  settings : ∀ id w, s.workspace? id = some w → w.settings = s.settingsFor id
  registered : ∀ name handle, find? s.world name = some handle →
    ∃ id w session, s.Belongs name handle id w session

variable {s s' : Server} {id : Text}

theorem settingsFor_eq (h : s'.settings = s.settings) (id : Text) :
    s'.settingsFor id = s.settingsFor id := by
  rw [settingsFor, settingsFor, h]

/-- What is registered under the name of a session is there only while the session is open. -/
theorem Owned.free (h : s.Owned) (hclosed : s.workspace? id = none) :
    find? s.world (s.sessionName id) = none := by
  rcases hfound : find? s.world (s.sessionName id) with _ | handle
  · rfl
  · obtain ⟨other, w, session, hbelongs⟩ := h.registered _ _ hfound
    have hname : s.sessionName id = s.sessionName other := by
      rw [hbelongs.name, hbelongs.settings]
      rfl
    by_cases hother : other = id
    · have hopen := hbelongs.isOpen
      rw [hother, hclosed] at hopen
      cases hopen
    · exact absurd hname.symm (sessionName_ne hother)

/-- Work for one session keeps the ownership: what it registers is launched by the settings of the
session, and if the session is open no more, nothing is left under its name. -/
theorem Owned.after {es : List Entry} (h : s.Owned) (hfixed : Fixed s s')
    (hissued : s'.issued = s.issued) (hmade : ∃ n < s.issued, id = s.identifier n)
    (hmoves : Moves (s.sessionName id) s.world es s'.world)
    (hlaunches : Launches (s.settingsFor id) s.world s'.world)
    (hothers : ∀ other, other ≠ id → s'.workspace? other = s.workspace? other)
    (hown : ∀ w, s'.workspace? id = some w → w.settings = s.settingsFor id)
    (hleft : s'.workspace? id = none → find? s'.world (s.sessionName id) = none) : s'.Owned where
  sound := hmoves.sound h.sound
  made other w hw := by
    rw [hissued, hfixed.identifier]
    by_cases hother : other = id
    · rw [hother]
      exact hmade
    · rw [hothers other hother] at hw
      exact h.made other w hw
  settings other w hw := by
    rw [settingsFor_eq hfixed.settings]
    by_cases hother : other = id
    · subst hother
      exact hown w hw
    · rw [hothers other hother] at hw
      exact h.settings other w hw
  registered name handle hfound := by
    have hopen (hname : name = s.sessionName id) : ∃ w, s'.workspace? id = some w := by
      rcases hw : s'.workspace? id with _ | w
      · rw [hname, hleft hw] at hfound
        cases hfound
      · exact ⟨w, rfl⟩
    obtain ⟨session, hsession, ⟨hname, hlaunched⟩ | ⟨hfound', before, hbefore, hsame⟩⟩ :=
      hmoves.launched h.sound hlaunches hfound
    · -- the session was started meanwhile
      obtain ⟨w, hw⟩ := hopen hname
      have hsettings := hown w hw
      refine ⟨id, w, session, hw, ?_, ?_, hsession, ?_⟩
      · rw [settingsFor_eq hfixed.settings, hsettings]
      · rw [hsettings]
        exact hname
      · rw [hsettings]
        exact hlaunched
    · -- the session was registered before
      obtain ⟨other, w, _, hbelongs⟩ := h.registered name handle hfound'
      obtain rfl := Option.some.inj (hbefore.symm.trans hbelongs.there)
      have hlaunched := hbelongs.launched.same hsame hlaunches.cwd hlaunches.environment
      by_cases hother : other = id
      · subst hother
        obtain ⟨w', hw'⟩ := hopen (by rw [hbelongs.name, hbelongs.settings]; rfl)
        have hsettings : w'.settings = w.settings := (hown w' hw').trans hbelongs.settings.symm
        refine ⟨other, w', session, hw', ?_, ?_, hsession, ?_⟩
        · rw [settingsFor_eq hfixed.settings, hown w' hw']
        · rw [hsettings]
          exact hbelongs.name
        · rw [hsettings]
          exact hlaunched
      · refine ⟨other, w, session, (hothers other hother).trans hbelongs.isOpen, ?_,
          hbelongs.name, hsession, hlaunched⟩
        rw [settingsFor_eq hfixed.settings, hbelongs.settings]

/-- Notes change nothing that matters here. -/
theorem Owned.beside (h : s.Owned) {w : World} (hbeside : Beside s.world w) :
    Owned { s with world := w } where
  sound := h.sound.beside hbeside
  made := h.made
  settings := h.settings
  registered name handle hfound := by
    have hregistered : find? w name = some handle := hfound
    rw [find?, hbeside.registered] at hregistered
    obtain ⟨id, v, session, hbelongs⟩ := h.registered name handle hregistered
    refine ⟨id, v, session, hbelongs.isOpen, hbelongs.settings, hbelongs.name, ?_,
      hbelongs.launched.same ⟨rfl, rfl⟩ hbeside.cwd hbeside.environment⟩
    exact (congrArg (fun sessions => sessions[handle]?) hbeside.sessions).trans hbelongs.there

/-! ### Steps -/

theorem created_owned (h : s.Owned) : (createSession s).2.Owned where
  sound := h.sound
  made id w hw := by
    rw [workspace?_createSession] at hw
    rcases hold : s.workspace? id with _ | v
    · rw [hold, Option.none_or] at hw
      split at hw
      · next hid => exact ⟨s.issued, Nat.lt_succ_self _, hid⟩
      · cases hw
    · obtain ⟨n, hn, hid⟩ := h.made id v hold
      exact ⟨n, Nat.lt_succ_of_lt hn, hid⟩
  settings id w hw := by
    rw [workspace?_createSession] at hw
    rcases hold : s.workspace? id with _ | v
    · rw [hold, Option.none_or] at hw
      split at hw <;> cases hw
      rfl
    · rw [hold, Option.some_or] at hw
      cases hw
      exact h.settings id _ hold
  registered name handle hfound := by
    obtain ⟨id, w, session, hbelongs⟩ := h.registered name handle hfound
    refine ⟨id, w, session, ?_, hbelongs.settings, hbelongs.name, hbelongs.there,
      hbelongs.launched⟩
    rw [workspace?_createSession, hbelongs.isOpen]
    rfl

/-- The server after an open session has been ended. -/
theorem endSession_snd {w : Workspace} (h : s.Owned) (hw : s.workspace? id = some w) :
    (endSession id s).2 =
      { s.without id with world := (Registry.remove (s.sessionName id) s.world).2 } := by
  rw [endSession_some hw, h.settings id w hw]
  rfl

theorem ended_owned (h : s.Owned) (id : Text) : (endSession id s).2.Owned := by
  rcases hw : s.workspace? id with _ | w
  · rw [endSession_none hw]
    exact h
  · obtain ⟨es, hmoves, hreturned⟩ := Registry.traced_remove h.sound (s.sessionName id)
    obtain ⟨w', hremove⟩ := Registry.remove_ok h.sound (s.sessionName id)
    rw [endSession_snd h hw]
    refine h.after ⟨rfl, rfl, rfl⟩ rfl (h.made id w hw) hmoves
      (Registry.launches_remove h.sound _) (fun other hne => ?_) (fun v hv => ?_)
      (fun _ => (hreturned () (by rw [hremove])).1)
    · exact (workspace?_without s id other).trans (if_neg hne)
    · have hgone : (s.without id).workspace? id = none :=
        (workspace?_without s id id).trans (if_pos rfl)
      cases hgone.symm.trans hv

theorem worked_owned (h : s.Owned) {w : Workspace} {op : Json} {act : Json → Op Seat Response}
    (hw : s.workspace? id = some w) (hact : Request.operation? op = some act) (request : Json) :
    (s.leave id (act request ⟨w, s.world⟩).2).Owned := by
  have hprivate := Request.private_operation hact request
  have hsettings := h.settings id w hw
  obtain ⟨es, hdoes, -⟩ := hprivate.traced (s := ⟨w, s.world⟩) h.sound
  have hlaunching := hprivate.launching (s := ⟨w, s.world⟩) h.sound
  have hmoves := hdoes.moves
  have hlaunches := hlaunching.launches
  rw [Seat.name, hsettings] at hmoves
  rw [hsettings] at hlaunches
  refine h.after ⟨rfl, rfl, rfl⟩ rfl (h.made id w hw) hmoves hlaunches
    (fun other hne => workspace?_leave_of_ne hne _) (fun v hv => ?_) (fun hnone => ?_)
  · rw [workspace?_leave hw] at hv
    cases hv
    exact hlaunching.settings.trans hsettings
  · rw [workspace?_leave hw] at hnone
    cases hnone

theorem Step.owned (hstep : Step s s') (h : s.Owned) : s'.Owned := by
  cases hstep with
  | noted n => exact h.beside (beside_record s.world n)
  | created => exact created_owned h
  | ended id => exact ended_owned h id
  | worked hopen hact request => exact worked_owned h hopen hact request

theorem Steps.owned (hsteps : Steps s s') (h : s.Owned) : s'.Owned := by
  induction hsteps with
  | refl => exact h
  | tail _ hstep ih => exact hstep.owned ih

theorem Turn.owned (hturn : Turn s s') (h : s.Owned) : s'.Owned := by
  cases hturn with
  | handled request => exact (steps_handleMessage request s).owned h
  | idled hw =>
    refine ⟨hw.sound h.sound, h.made, h.settings, fun name handle hfound => ?_⟩
    obtain ⟨session, hsession, -⟩ := hw.sound h.sound name handle hfound
    obtain ⟨before, hbefore, hsame⟩ := hw.sameLaunch hsession
    obtain ⟨id, v, _, hbelongs⟩ := h.registered name handle ((hw.find? name).symm.trans hfound)
    obtain rfl := Option.some.inj (hbefore.symm.trans hbelongs.there)
    exact ⟨id, v, session, hbelongs.isOpen, hbelongs.settings, hbelongs.name, hsession,
      hbelongs.launched.same hsame (by rw [hw.machine]) (by rw [hw.machine])⟩

theorem Run.owned (hrun : Run s s') (h : s.Owned) : s'.Owned := by
  induction hrun with
  | refl => exact h
  | tail _ hturn ih => exact hturn.owned ih

/-! ## What has ended -/

/-- A step of the server makes moves for the session of one name at most. -/
theorem Step.moves (hstep : Step s s') (h : s.Owned) :
    ∃ name es, Moves name s.world es s'.world := by
  cases hstep with
  | noted n => exact ⟨[], [], (Move.aside (beside_record s.world n)).moves⟩
  | created => exact ⟨[], [], .nil _⟩
  | ended id =>
    rcases hw : s.workspace? id with _ | w
    · rw [endSession_none hw]
      exact ⟨[], [], .nil _⟩
    · obtain ⟨es, hmoves, -⟩ := Registry.traced_remove h.sound (s.sessionName id)
      rw [endSession_snd h hw]
      exact ⟨_, es, hmoves⟩
  | worked hopen hact request =>
    rename_i id w op act
    obtain ⟨es, hdoes, -⟩ :=
      (Request.private_operation hact request).traced (s := ⟨w, s.world⟩) h.sound
    exact ⟨_, es, hdoes.moves⟩

/-- A REPL session is registered under a name, or has been taken out of the registry and ended. -/
def Kept (name : Text) (handle : Nat) (s : Server) : Prop :=
  find? s.world name = some handle ∨ s.world.Retired handle

variable {name : Text} {handle : Nat}

theorem Step.kept (hstep : Step s s') (h : s.Owned) (hkept : s.Kept name handle) :
    s'.Kept name handle := by
  obtain ⟨other, es, hmoves⟩ := hstep.moves h
  rcases hkept with hfound | hretired
  · exact hmoves.registered_or_retired h.sound hfound
  · exact .inr (hmoves.retired hretired)

theorem Steps.kept (hsteps : Steps s s') (h : s.Owned) (hkept : s.Kept name handle) :
    s'.Kept name handle := by
  induction hsteps with
  | refl => exact hkept
  | tail hbefore hstep ih => exact hstep.kept (Steps.owned hbefore h) ih

theorem Turn.kept (hturn : Turn s s') (h : s.Owned) (hkept : s.Kept name handle) :
    s'.Kept name handle := by
  cases hturn with
  | handled request => exact (steps_handleMessage request s).kept h hkept
  | idled hw =>
    rcases hkept with hfound | hretired
    · exact .inl ((hw.find? name).trans hfound)
    · exact .inr (hw.retired hretired)

theorem Run.kept (hrun : Run s s') (h : s.Owned) (hkept : s.Kept name handle) :
    s'.Kept name handle := by
  induction hrun with
  | refl => exact hkept
  | tail hbefore hturn ih => exact hturn.kept (Run.owned hbefore h) ih

/-! ### Names that are used up -/

/-- A session of the name has been made, and is open no more. -/
structure Spent (s : Server) (id : Text) : Prop where
  made : ∃ n < s.issued, id = s.identifier n
  closed : s.workspace? id = none

theorem Step.issued_le (hstep : Step s s') : s.issued ≤ s'.issued := by
  cases hstep with
  | noted n => exact Nat.le_refl _
  | created => exact Nat.le_succ _
  | ended id =>
    rcases hw : s.workspace? id with _ | w
    · exact Nat.le_of_eq (by rw [endSession_none hw])
    · rw [endSession_some hw]
      exact Nat.le_refl _
  | worked hopen hact request => exact Nat.le_refl _

theorem Steps.issued_le (hsteps : Steps s s') : s.issued ≤ s'.issued := by
  induction hsteps with
  | refl => exact Nat.le_refl _
  | tail _ hstep ih => exact Nat.le_trans ih hstep.issued_le

/-- A session that is open no more after some steps has a name that is used up. -/
theorem Owned.spent (h : s.Owned) (hsteps : Steps s s') {w : Workspace}
    (hopen : s.workspace? id = some w) (hclosed : s'.workspace? id = none) : s'.Spent id := by
  obtain ⟨n, hn, hid⟩ := h.made id w hopen
  refine ⟨⟨n, Nat.lt_of_lt_of_le hn hsteps.issued_le, ?_⟩, hclosed⟩
  rw [hsteps.fixed.identifier]
  exact hid

/-- The next session has a name that no open session has. -/
theorem Owned.workspace?_next (h : s.Owned) (hdistinct : Function.Injective s.identifier) :
    s.workspace? (s.identifier s.issued) = none := by
  rcases hw : s.workspace? (s.identifier s.issued) with _ | w
  · rfl
  · obtain ⟨n, hn, hsame⟩ := h.made _ w hw
    rw [hdistinct hsame] at hn
    exact absurd hn (Nat.lt_irrefl n)

theorem Step.spent (hstep : Step s s') (hdistinct : Function.Injective s.identifier)
    (h : s.Spent id) : s'.Spent id := by
  cases hstep with
  | noted n => exact ⟨h.made, h.closed⟩
  | created =>
    obtain ⟨n, hn, rfl⟩ := h.made
    refine ⟨⟨n, Nat.lt_succ_of_lt hn, rfl⟩, ?_⟩
    have hne : s.identifier n ≠ s.identifier s.issued := fun hsame =>
      Nat.ne_of_lt hn (hdistinct hsame)
    rw [workspace?_createSession, h.closed, if_neg hne]
    rfl
  | ended other =>
    rcases hw : s.workspace? other with _ | w
    · rw [endSession_none hw]
      exact h
    · rw [endSession_some hw]
      refine ⟨h.made, (workspace?_without s other id).trans ?_⟩
      split
      · rfl
      · exact h.closed
  | worked hopen hact request =>
    rename_i other w op act
    have hne : id ≠ other := by
      rintro rfl
      rw [h.closed] at hopen
      cases hopen
    exact ⟨h.made, (workspace?_leave_of_ne hne _).trans h.closed⟩

theorem Turn.fixed (hturn : Turn s s') : Fixed s s' := by
  cases hturn with
  | handled request => exact (steps_handleMessage request s).fixed
  | idled hw => exact ⟨rfl, rfl, rfl⟩

theorem Run.fixed (hrun : Run s s') : Fixed s s' := by
  induction hrun with
  | refl => exact ⟨rfl, rfl, rfl⟩
  | tail _ hturn ih =>
    exact ⟨hturn.fixed.running.trans ih.running, hturn.fixed.settings.trans ih.settings,
      hturn.fixed.identifier.trans ih.identifier⟩

theorem Steps.spent (hsteps : Steps s s') (hdistinct : Function.Injective s.identifier)
    (h : s.Spent id) : s'.Spent id := by
  induction hsteps with
  | refl => exact h
  | tail hbefore hstep ih =>
    refine hstep.spent ?_ ih
    rw [(Steps.fixed hbefore).identifier]
    exact hdistinct

/-- A name that is used up is not used again. -/
theorem Run.spent (hrun : Run s s') (hdistinct : Function.Injective s.identifier)
    (h : s.Spent id) : s'.Spent id := by
  induction hrun with
  | refl => exact h
  | tail hbefore hturn ih =>
    rename_i t t'
    have hidentifier := (Run.fixed hbefore).identifier
    rw [← hidentifier] at hdistinct
    cases hturn with
    | handled request => exact (steps_handleMessage request t).spent hdistinct ih
    | idled hw => exact ⟨ih.made, ih.closed⟩

/-! ## Closing -/

/-- Ending a session never fails, and leaves all others open. -/
theorem endSession_closes (h : s.Owned) (id : Text) :
    ∃ s', endSession id s = (.ok (), s') ∧
      ∀ other, s'.workspace? other = if other = id then none else s.workspace? other := by
  rcases hw : s.workspace? id with _ | w
  · refine ⟨s, endSession_none hw, fun other => ?_⟩
    split
    · next hother => rw [hother, hw]
    · rfl
  · obtain ⟨w', hremove⟩ := Registry.remove_ok h.sound w.settings.sessionName
    refine ⟨{ s.without id with world := w' }, ?_, workspace?_without s id⟩
    rw [endSession_some hw]
    show ((Registry.remove w.settings.sessionName s.world).1,
      { s.without id with world := (Registry.remove w.settings.sessionName s.world).2 }) = _
    rw [hremove]

theorem note_apply (n : Note) (s : Server) : note n s = (.ok (), (note n s).2) := rfl

theorem Owned.note (h : s.Owned) (n : Note) : (Server.note n s).2.Owned :=
  h.beside (beside_record s.world n)

theorem serve_close (h : s.Owned) (begun : Response) (id : Text) (request : Json) :
    ∃ s', serve begun (.text "close".toList) (.text id) request s =
        (.ok (begun ++ members [("status", status ["done", "session-closed"])]), s') ∧
      s'.workspace? id = none := by
  obtain ⟨s', hend, hleft⟩ := endSession_closes (h.note (.sessionClosing (.text id))) id
  refine ⟨s', ?_, (hleft id).trans (if_pos rfl)⟩
  have hserve : serve begun (.text "close".toList) (.text id) request =
      note (.sessionClosing (.text id)) >>= fun _ => Server.answering (.text "close".toList) begun
        (closeSession (.text id) >>= fun _ =>
          pure (begun ++ members [("status", status ["done", "session-closed"])])) := rfl
  rw [hserve, closeSession_text, Op.bind_ok (note_apply _ _)]
  exact answering_ok (Op.bind_ok hend)

/-- A request to close a session is always answered. -/
theorem handleMessage_close (h : s.Owned) {request : Json}
    (hop : Request.fieldOr request "op" .null = .text "close".toList)
    (hsession : Request.fieldOr request "session" .null = .text id) :
    (handleMessage request s).1 = .ok (members [("id", Request.fieldOr request "id" .null)] ++
        members [("status", status ["done", "session-closed"])]) ∧
      (handleMessage request s).2.workspace? id = none := by
  unfold handleMessage
  simp only [hop, hsession]
  rw [Op.bind_ok (note_apply _ _)]
  obtain ⟨s', hserve, hclosed⟩ := serve_close (h.note _)
    (members [("id", Request.fieldOr request "id" .null)]) id request
  rw [Op.bind_ok hserve, Op.bind_ok (note_apply _ _)]
  exact ⟨rfl, hclosed⟩

/-! ## Requests to no open session -/

/-- The outcome of a request by that of the operation, after what has been written of the
response. -/
def respond (begun : Response) : Except Failure Response → Except Failure Response
  | .ok response => .ok (begun ++ response)
  | .error f => if isAnswered f then .ok (begun ++ Protocol.ofFailure f) else .error f

/-- An operation that is asked for on a session that is not open is carried out on a new one. -/
theorem serveSession_unknown (hunknown : s.workspace? id = none)
    (hnew : s.workspace? (s.identifier s.issued) = none) (begun : Response) (op request : Json)
    {act : Json → Op Seat Response} {outcome : Except Failure Response} {seat : Seat}
    (hact : act request ⟨.new (s.settingsFor (s.identifier s.issued)) none, s.world⟩ =
      (outcome, seat)) :
    ∃ w, Beside seat.world w ∧ serveSession begun op (.text id) request act s =
      (respond (begun ++ members [("session", .text (s.identifier s.issued))]) outcome,
        { (createSession s).2.leave (s.identifier s.issued) seat with world := w }) := by
  have hcreate : getOrCreateSession (.text id) s =
      (.ok (s.identifier s.issued), (createSession s).2) := by
    unfold getOrCreateSession
    simp only [isName, Bool.not_true, Bool.and_false]
    show ((get : Op Server Server) >>= fun s =>
      if (s.workspace? id).isSome = true then pure id else createSession) s = _
    rw [Op.get_bind, hunknown]
    rfl
  have hopen : (createSession s).2.workspace? (s.identifier s.issued) =
      some (.new (s.settingsFor (s.identifier s.issued)) none) := by
    rw [workspace?_createSession, hnew, if_pos rfl]
    rfl
  have hat : atWorkspace (s.identifier s.issued) (act request) (createSession s).2 =
      (outcome, (createSession s).2.leave (s.identifier s.issued) seat) := by
    rw [atWorkspace_some hopen, show act request ⟨_, (createSession s).2.world⟩ = _ from hact]
  cases outcome with
  | ok response =>
    refine ⟨seat.world, .refl _, answering_ok ?_⟩
    rw [Op.bind_ok hcreate]
    exact answering_ok (Op.bind_ok hat)
  | error f =>
    have hfails {k : Response → Op Server Response} := Op.bind_error (f := k) hat
    rcases hanswered : isAnswered f with _ | _
    · refine ⟨seat.world, .refl _, ?_⟩
      rw [respond, hanswered, if_neg Bool.false_ne_true]
      exact answering_thrown ((Op.bind_ok hcreate).trans (answering_thrown hfails hanswered))
        hanswered
    · refine ⟨_, beside_record seat.world (.requestFailed op f), ?_⟩
      rw [respond, hanswered, if_pos rfl]
      exact answering_ok ((Op.bind_ok hcreate).trans (answering_answered hfails hanswered))

/-- So it is when the request is handled: what comes of it is what comes of the operation on a new
workspace, but for notes. -/
theorem handleMessage_unknown (h : s.Owned) (hdistinct : Function.Injective s.identifier)
    {request : Json} {act : Json → Op Seat Response}
    (hact : Request.operation? (Request.fieldOr request "op" .null) = some act)
    (hsession : Request.fieldOr request "session" .null = .text id)
    (hunknown : s.workspace? id = none) :
    ∃ w outcome seat w', Beside s.world w ∧
      act request ⟨.new (s.settingsFor (s.identifier s.issued)) none, w⟩ = (outcome, seat) ∧
      Beside seat.world w' ∧ handleMessage request s =
        (respond (members [("id", Request.fieldOr request "id" .null)] ++
            members [("session", .text (s.identifier s.issued))]) outcome,
          { (createSession s).2.leave (s.identifier s.issued) seat with world := w' }) := by
  have hserve (begun : Response) :
      serve begun (Request.fieldOr request "op" .null) (.text id) request =
        serveSession begun (Request.fieldOr request "op" .null) (.text id) request act := by
    have hother {word : Text} (hword : Request.operation? (.text word) = none) :
        Request.fieldOr request "op" .null ≠ .text word := by
      intro hsame
      rw [hsame, hword] at hact
      cases hact
    rw [serve_other begun _ request (hother rfl) (hother rfl) (hother rfl), serve.other, hact]
  have hnoted := beside_record s.world
    (.message (Request.fieldOr request "op" .null) (.text id) (Request.fieldOr request "id" .null))
  rcases hdone : act request ⟨.new (s.settingsFor (s.identifier s.issued)) none, s.world.record
    (.message (Request.fieldOr request "op" .null) (.text id)
      (Request.fieldOr request "id" .null))⟩ with ⟨outcome, seat⟩
  obtain ⟨w', hbeside, hserved⟩ := serveSession_unknown (s := (note (.message
    (Request.fieldOr request "op" .null) (.text id) (Request.fieldOr request "id" .null)) s).2)
    hunknown (h.workspace?_next hdistinct) (members [("id", Request.fieldOr request "id" .null)])
    (Request.fieldOr request "op" .null) request hdone
  unfold handleMessage
  simp only [hsession]
  rw [Op.bind_ok (note_apply _ _), hserve]
  rcases hresponse : respond (members [("id", Request.fieldOr request "id" .null)] ++
    members [("session", .text (s.identifier s.issued))]) outcome with f | response
  · refine ⟨_, outcome, seat, w', hnoted, hdone, hbeside, ?_⟩
    rw [Op.bind_error (hserved.trans (by rw [← hresponse]; rfl)), hresponse]
    rfl
  · refine ⟨_, outcome, seat, w'.record (.response (.object response)), hnoted, hdone,
      hbeside.trans (beside_record _ _), ?_⟩
    rw [Op.bind_ok (hserved.trans (by rw [← hresponse]; rfl)), Op.bind_ok (note_apply _ _),
      hresponse]
    rfl

/-- A session has been made for a request, and the request has reached no other: neither the
sessions that were open nor the REPL sessions that were registered. -/
structure Fresh (s s' : Server) (id : Text) : Prop where
  unopened : s.workspace? id = none
  opened : ∃ w, s'.workspace? id = some w ∧ w.settings = s.settingsFor id
  others : ∀ other, other ≠ id → s'.workspace? other = s.workspace? other
  sessions : ∀ name handle session, find? s.world name = some handle →
    s.world.session? handle = some session →
      find? s'.world name = some handle ∧ s'.world.session? handle = some session

theorem handleMessage_fresh (h : s.Owned) (hdistinct : Function.Injective s.identifier)
    {request : Json} {act : Json → Op Seat Response}
    (hact : Request.operation? (Request.fieldOr request "op" .null) = some act)
    (hsession : Request.fieldOr request "session" .null = .text id)
    (hunknown : s.workspace? id = none) :
    Fresh s (handleMessage request s).2 (s.identifier s.issued) := by
  have hnew := h.workspace?_next hdistinct
  obtain ⟨w, outcome, seat, w', hbefore, hdone, hafter, hhandle⟩ :=
    handleMessage_unknown h hdistinct hact hsession hunknown
  have hprivate := Request.private_operation hact request
  have hsound := h.sound.beside hbefore
  have htraced := hprivate.traced
    (s := ⟨.new (s.settingsFor (s.identifier s.issued)) none, w⟩) hsound
  have hlaunching := hprivate.launching
    (s := ⟨.new (s.settingsFor (s.identifier s.issued)) none, w⟩) hsound
  obtain ⟨es, hdoes, -⟩ := htraced
  rw [hdone] at hdoes hlaunching
  have hopen : (createSession s).2.workspace? (s.identifier s.issued) =
      some (.new (s.settingsFor (s.identifier s.issued)) none) := by
    rw [workspace?_createSession, hnew, if_pos rfl]
    rfl
  rw [hhandle]
  refine ⟨hnew, ⟨seat.workspace, workspace?_leave hopen seat, hlaunching.settings⟩,
    fun other hne => ?_, fun name handle session hfound hthere => ?_⟩
  · refine (workspace?_leave_of_ne hne seat).trans ?_
    rw [workspace?_createSession, if_neg hne, Option.or_none]
  · -- nothing was registered under the name of the new session
    have hne : name ≠ s.sessionName (s.identifier s.issued) := by
      rintro rfl
      rw [h.free hnew] at hfound
      cases hfound
    have hmoves : Moves (s.sessionName (s.identifier s.issued)) s.world _ w' :=
      ((Move.aside hbefore).moves.trans hdoes.moves).trans (Move.aside hafter).moves
    refine ⟨(hmoves.find?_of_ne hne).trans hfound, hmoves.session?_of_ne h.sound hthere ?_⟩
    rw [h.sound.name_eq hfound hthere]
    exact hne

/-! ## Stopping -/

theorem eq_nil_of_lookup {α : Type} {table : List (Text × α)} (h : ∀ k, table.lookup k = none) :
    table = [] := by
  cases table with
  | nil => rfl
  | cons entry rest =>
    have hfirst := h entry.1
    rw [List.lookup_cons, beq_self_eq_true] at hfirst
    cases hfirst

/-- Ending some sessions ends these and no other. -/
theorem endSessions (ids : List Text) (h : s.Owned) :
    ∃ s', ids.forM endSession s = (.ok (), s') ∧ Steps s s' ∧
      ∀ other, s'.workspace? other = if other ∈ ids then none else s.workspace? other := by
  induction ids generalizing s with
  | nil => exact ⟨s, rfl, .refl, fun other => (if_neg List.not_mem_nil).symm⟩
  | cons id rest ih =>
    obtain ⟨s₁, hend, hfirst⟩ := endSession_closes h id
    have hstep : Step s s₁ := by
      have hended := Step.ended (s := s) id
      rwa [hend] at hended
    obtain ⟨s', hrest, hsteps, hleft⟩ := ih (hstep.owned h)
    refine ⟨s', (Op.bind_ok hend).trans hrest, .head hstep hsteps, fun other => ?_⟩
    rw [hleft, hfirst]
    by_cases hother : other = id
    · simp [hother]
    · simp [hother]

/-- Stopping never fails. It ends every session, and with it what is registered. -/
theorem stop_ends (h : s.Owned) :
    ∃ s', stop s = (.ok (), s') ∧ s'.workspaces = [] ∧ s'.world.registered = [] ∧
      ∀ name handle, s.Kept name handle → s'.world.Retired handle := by
  obtain ⟨calls, hstop⟩ : ∃ calls, stop s = ((s.workspaces.map (·.1)).forM endSession >>= fun _ =>
      onWorld (World.printLine "Server stopped."))
        { s with running := false, listening := false, calls } := by
    unfold stop
    rw [Op.get_bind, Op.modify_bind]
    cases s.listening
    · exact ⟨s.calls, rfl⟩
    · exact ⟨s.calls ++ [.shutdown] ++ [.close], rfl⟩
  have howned : Owned { s with running := false, listening := false, calls } :=
    ⟨h.sound, h.made, h.settings, fun name handle hfound => by
      obtain ⟨id, w, session, hbelongs⟩ := h.registered name handle hfound
      exact ⟨id, w, session, hbelongs.isOpen, hbelongs.settings, hbelongs.name, hbelongs.there,
        hbelongs.launched⟩⟩
  obtain ⟨s₁, hend, hsteps, hleft⟩ := endSessions (s.workspaces.map (·.1)) howned
  have hnone (id : Text) : s₁.workspace? id = none := by
    rw [hleft]
    split
    · rfl
    · next hid =>
      refine List.lookup_eq_none_iff.mpr fun entry hentry => ?_
      have hne : id ≠ entry.1 := by
        rintro rfl
        exact hid (List.mem_map_of_mem hentry)
      simpa using hne
  have hfree (name : Text) : find? s₁.world name = none := by
    rcases hfound : find? s₁.world name with _ | handle
    · rfl
    · obtain ⟨id, w, session, hbelongs⟩ := (hsteps.owned howned).registered name handle hfound
      cases (hnone id).symm.trans hbelongs.isOpen
  refine ⟨{ s₁ with world := { s₁.world with
    console := s₁.world.console.printLine "Server stopped." } }, ?_, eq_nil_of_lookup hnone,
    eq_nil_of_lookup hfree, fun name handle hkept => ?_⟩
  · rw [hstop, Op.bind_ok hend]
    rfl
  · rcases hsteps.kept howned hkept with hfound | hretired
    · cases (hfree name).symm.trans hfound
    · exact ⟨hretired.free, hretired.ended⟩

/-! ## The lifetimes of sessions -/

section
variable {host : Text} {portNumber : Int} {portFile : Option Text} {settings : Settings}
  {identifier : Nat → Text} {world : World}

theorem owned_new (hempty : world.registered = []) :
    (Server.new host portNumber portFile settings identifier world).Owned := by
  have hfree (name : Text) : find? world name = none := by
    rw [find?, hempty]
    rfl
  refine ⟨fun name handle hfound => ?_, fun id w hw => ?_, fun id w hw => ?_,
    fun name handle hfound => ?_⟩
  · cases (hfree name).symm.trans hfound
  · cases hw
  · cases hw
  · cases (hfree name).symm.trans hfound

/-- The lifetimes of sessions, on a server that begins with nothing registered and never gives two
sessions the same name. After any run of requests, whatever they come to, and whenever processes
exit, every registered REPL session belongs to an open session. A request to close a session is
answered; the session is open no more and will not be again, nothing is left under its name, and
what was registered there has ended. An operation that is asked for on a session that is not open is
carried out on a new one, and reaches no other. Stopping leaves no session and nothing registered,
and whatever was registered at any time of the run has ended. -/
theorem sessions_owned {s : Server} (hdistinct : Function.Injective identifier)
    (hempty : world.registered = [])
    (hrun : Run (.new host portNumber portFile settings identifier world) s) :
    (∀ name handle, find? s.world name = some handle →
      ∃ id w session, s.Belongs name handle id w session) ∧
    (∀ request id, Request.fieldOr request "op" .null = .text "close".toList →
      Request.fieldOr request "session" .null = .text id →
        (handleMessage request s).1 = .ok (members [("id", Request.fieldOr request "id" .null)] ++
          members [("status", status ["done", "session-closed"])]) ∧
        ((s.workspace? id).isSome = true → ∀ t, Run (handleMessage request s).2 t →
          t.workspace? id = none ∧ find? t.world (s.sessionName id) = none) ∧
        find? (handleMessage request s).2.world (s.sessionName id) = none ∧
        ∀ handle, find? s.world (s.sessionName id) = some handle →
          (handleMessage request s).2.world.Retired handle) ∧
    (∀ request id act, Request.operation? (Request.fieldOr request "op" .null) = some act →
      Request.fieldOr request "session" .null = .text id → s.workspace? id = none →
        Fresh s (handleMessage request s).2 (s.identifier s.issued) ∧
        ∃ w, Beside s.world w ∧ (handleMessage request s).1 =
          respond (members [("id", Request.fieldOr request "id" .null)] ++
              members [("session", .text (s.identifier s.issued))])
            (act request ⟨.new (s.settingsFor (s.identifier s.issued)) none, w⟩).1) ∧
    ∃ s', stop s = (.ok (), s') ∧ s'.workspaces = [] ∧ s'.world.registered = [] ∧
      ∀ t name handle, Run (.new host portNumber portFile settings identifier world) t → Run t s →
        find? t.world name = some handle → s'.world.Retired handle := by
  have hbegins : (Server.new host portNumber portFile settings identifier world).Owned :=
    owned_new hempty
  have howned := Run.owned hrun hbegins
  have hdistinct' : Function.Injective s.identifier := by
    rw [(Run.fixed hrun).identifier]
    exact hdistinct
  refine ⟨howned.registered, fun request id hop hsession => ?_,
    fun request id act hact hsession hunknown => ?_, ?_⟩
  · obtain ⟨hanswer, hclosed⟩ := handleMessage_close howned hop hsession
    have hsteps := steps_handleMessage request s
    have hname (t : Server) (ht : t.settings = s.settings) :
        t.sessionName id = s.sessionName id := sessionName_eq ht id
    have hfree := (hsteps.owned howned).free hclosed
    rw [hname _ hsteps.fixed.settings] at hfree
    refine ⟨hanswer, fun hopen t ht => ?_, hfree, fun handle hfound => ?_⟩
    · obtain ⟨w, hw⟩ := Option.isSome_iff_exists.mp hopen
      rw [← hsteps.fixed.identifier] at hdistinct'
      have hspent := Run.spent ht hdistinct' (howned.spent hsteps hw hclosed)
      have hfree' := (Run.owned ht (hsteps.owned howned)).free hspent.closed
      rw [hname t ((Run.fixed ht).settings.trans hsteps.fixed.settings)] at hfree'
      exact ⟨hspent.closed, hfree'⟩
    · rcases hsteps.kept howned (.inl hfound) with hfound' | hretired
      · cases hfree.symm.trans hfound'
      · exact hretired
  · obtain ⟨w, outcome, seat, w', hbefore, hdone, -, hhandle⟩ :=
      handleMessage_unknown howned hdistinct' hact hsession hunknown
    refine ⟨handleMessage_fresh howned hdistinct' hact hsession hunknown, w, hbefore, ?_⟩
    rw [hdone]
    exact congrArg Prod.fst hhandle
  · obtain ⟨s', hstop, hnone, hregistered, hends⟩ := stop_ends howned
    refine ⟨s', hstop, hnone, hregistered, fun t name handle hbefore hafter hfound => ?_⟩
    exact hends name handle (Run.kept hafter (Run.owned hbefore hbegins) (.inl hfound))

end

/-- A server that numbers its sessions by strokes, and whose processes echo. -/
def strokeServer : Server :=
  .new defaultHost defaultPort none (.default []) (fun n => List.replicate (n + 1) 'x')
    (.initial ⟨⟨[]⟩, ⟨1, []⟩, [], fun _ => .noShell, []⟩ (.withInput [] false false)
      (fun _ _ => .runs (.scripted "> " [.output (Terminal.drawPrompt "> ")] [] [])) .exact)

/-- The server when it has made a session and evaluated code in it. -/
def strokedServer : Server :=
  (handleMessage (evalRequest "x" "1") (handleMessage cloneRequest strokeServer).2).2

/-- A request to close a session. -/
def closeRequest (id : Text) : Json :=
  .object [("op".toList, .text "close".toList), ("session".toList, .text id)]

/-- Closing the session ends its REPL session, code for another session is evaluated in a new one,
and so is code for this one once it is closed. -/
theorem sessions_owned_strokeServer :
    Function.Injective strokeServer.identifier ∧ strokeServer.world.registered = [] ∧
      Run strokeServer strokedServer ∧
      find? strokedServer.world (strokedServer.sessionName "x") = some 0 ∧
      (∃ id w session, strokedServer.Belongs (strokedServer.sessionName "x") 0 id w session) ∧
      (handleMessage (closeRequest "x") strokedServer).2.world.Retired 0 ∧
      Fresh strokedServer (handleMessage (evalRequest "y" "2") strokedServer).2 "xx" ∧
      ∃ s', stop strokedServer = (.ok (), s') ∧ s'.world.registered = [] ∧ s'.world.Retired 0 := by
  have hdistinct : Function.Injective strokeServer.identifier := fun m n hmn => by
    simpa [strokeServer, Server.new] using congrArg List.length hmn
  have hrun : Run strokeServer strokedServer :=
    .tail (.tail .refl (.handled cloneRequest)) (.handled (evalRequest "x" "1"))
  have hfound : find? strokedServer.world (strokedServer.sessionName "x") = some 0 := by
    decide +kernel
  have hnext : strokedServer.identifier strokedServer.issued = "xx" := by decide +kernel
  obtain ⟨hbelongs, hclose, hfresh, s', hstop, -, hnone, hended⟩ :=
    sessions_owned hdistinct rfl hrun
  obtain ⟨-, -, -, hretired⟩ := hclose (closeRequest "x") "x" rfl rfl
  obtain ⟨hnew, -⟩ := hfresh (evalRequest "y" "2") "y" _ rfl rfl (by decide +kernel)
  rw [hnext] at hnew
  exact ⟨hdistinct, rfl, hrun, hfound, hbelongs _ 0 hfound, hretired 0 hfound, hnew, s', hstop,
    hnone, hended _ _ 0 hrun .refl hfound⟩

end ReplDriver.Server
