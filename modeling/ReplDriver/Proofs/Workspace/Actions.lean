import ReplDriver.Proofs.World.Moves
import ReplDriver.Workspace.Basic

/-!
# Actions on a workspace

What an editor does with a workspace is data here: an action, and the answer to it. Every action is
a list of moves for the name of the workspace's session, and an action that returns tells by its
answer which moves these were.

* `Seat.traced_perform`: the moves of an action, and what they have to do with its answer.
* `Seat.Reports`: an answer, and the entries that belong to it.
-/

namespace ReplDriver.Seat

open World Registry

/-! ## Actions and answers -/

/-- Something that is done with a workspace. -/
inductive Action where
  | start
  | send (code : Text)
  | sendRegion (text : Text) (first last : Int)
  | sendLast (text : Text) (point : Int)
  | loadFile (path : Text)
  | complete (token : Text) (inModulePath : Bool)
  | completeAt (text : Text) (point : Int)
  | interrupt (wait : Bool)
  | clear
  | reset
  | close
deriving DecidableEq, Repr

/-- What an action returns. -/
inductive Answer where
  | session (handle : Nat)
  | evaluation (e : Evaluation)
  | candidates (found : List Text)
  | output (text : Text)
  | done
deriving DecidableEq, Repr

/-- Does an action. -/
def perform : Action → Op Seat Answer
  | .start => .session <$> session
  | .send code => .evaluation <$> sendCode code
  | .sendRegion text first last => .evaluation <$> sendRegion text first last
  | .sendLast text point => .evaluation <$> sendLast text point
  | .loadFile path => .evaluation <$> loadFile path
  | .complete token inModulePath => .candidates <$> complete token inModulePath
  | .completeAt text point => (fun found => .candidates found.2) <$> completeAt text point
  | .interrupt wait => .output <$> interrupt wait
  | .clear => (fun _ => .done) <$> clear
  | .reset => .session <$> reset
  | .close => (fun _ => .done) <$> close

/-- The code that an action sends, if it sends any. -/
def Action.code (m : Machine) : Action → Except Failure (Option Text)
  | .send code => .ok code
  | .sendRegion text first last => .ok (text.slice (min first last) (max first last))
  | .sendLast text point =>
    (Expression.boundary text point).map fun start => text.slice start point
  | .loadFile path => (m.readText (m.absolute path).text).map some
  | _ => .ok none

/-! ## The entries of an answer -/

/-- The entries of an evaluation: none where the code was blank, and otherwise one exchange at the
live session, which is delivered. -/
inductive Sends : Evaluation → List Entry → Prop
  | blank (code : Text) : Sends (.empty code) []
  | evaluated {handle : Nat} {es : List Entry} (h : Startup handle es) (code output : Text)
      (chunks : List Text) :
      Sends (.value code output chunks.flatten) (es ++ [⟨handle, .exchanged true chunks⟩])

/-- The entries of an action that returned, by its answer. What an interrupt has waited for is the
output of one exchange, and a completion exchanges what is not delivered. -/
inductive Reports (m : Machine) : Action → Answer → List Entry → Prop
  | started {handle : Nat} {es : List Entry} (h : Startup handle es) :
      Reports m .start (.session handle) es
  | sent {action : Action} {code : Text} {e : Evaluation} {es : List Entry}
      (hcode : action.code m = .ok (some code)) (h : Sends e es) :
      Reports m action (.evaluation e) es
  | completed {token : Text} {inModulePath : Bool} {found : List Text} {handle : Nat}
      {es : List Entry} {episodes : List Episode} (h : Startup handle es)
      (hprobing : Completion.Probing token inModulePath found episodes) :
      Reports m (.complete token inModulePath) (.candidates found)
        (es ++ episodes.map (Entry.mk handle))
  | completedAt {text : Text} {point : Int} {found : List Text} {handle : Nat} {es : List Entry}
      {episodes : List Episode} (h : Startup handle es)
      (hprobing : Completion.Probing (Completion.contextAt text point).token
        (Completion.contextAt text point).inModulePath found episodes) :
      Reports m (.completeAt text point) (.candidates found) (es ++ episodes.map (Entry.mk handle))
  | silent {wait : Bool} {es : List Entry} (h : Ending es) :
      Reports m (.interrupt wait) (.output []) es
  | interrupted (handle : Nat) :
      Reports m (.interrupt false) (.output []) [⟨handle, .interrupted⟩]
  | awaited (handle : Nat) (chunks : List Text) :
      Reports m (.interrupt true) (.output chunks.flatten)
        [⟨handle, .interrupted⟩, ⟨handle, .exchanged true chunks⟩]
  | absent {es : List Entry} (h : Ending es) : Reports m .clear .done es
  | cleared (handle : Nat) : Reports m .clear .done [⟨handle, .cleared⟩]
  | reset {handle : Nat} {es more : List Entry} (hend : Ending es) (h : Startup handle more) :
      Reports m .reset (.session handle) (es ++ more)
  | closed {es : List Entry} (h : Ending es) : Reports m .close .done es

/-- The sends that an action which returned has made: one, with the code that was sent, if the
answer is an evaluation. -/
def Action.sends (m : Machine) : Action → Answer → List (Text × Evaluation)
  | action, .evaluation e =>
    match action.code m with
    | .ok (some code) => [(code, e)]
    | _ => []
  | _, _ => []

/-- The workspace after an action that returned: sends are remembered, and with a reset everything
is forgotten. -/
def Action.amend (m : Machine) (w : Workspace) (action : Action) (answer : Answer) : Workspace :=
  if action = .reset then w.forget
  else (action.sends m answer).foldl (fun w send => w.remember send.1 send.2) w

theorem Action.amend_evaluation {m : Machine} {w : Workspace} {action : Action} {code : Text}
    {e : Evaluation} (hcode : action.code m = .ok (some code)) :
    action.amend m w (.evaluation e) = w.remember code e := by
  have hreset : action ≠ .reset := by
    rintro rfl
    cases hcode
  rw [amend, if_neg hreset]
  simp only [sends, hcode, List.foldl_cons, List.foldl_nil]

/-! ## Moves of a seat -/

/-- The name of the session of a workspace. -/
def name (s : Seat) : Text := s.workspace.settings.sessionName

/-- Some moves for the session of the workspace lead from one seat to another. The settings stay
as they are. -/
structure Does (s : Seat) (es : List Entry) (s' : Seat) : Prop where
  moves : Moves s.name s.world es s'.world
  settings : s'.workspace.settings = s.workspace.settings

theorem Does.name_eq {s s' : Seat} {es : List Entry} (h : Does s es s') : s'.name = s.name := by
  rw [name, h.settings]
  rfl

theorem name_eq_of_workspace {s s' : Seat} (h : s'.workspace = s.workspace) : s'.name = s.name := by
  rw [name, h]
  rfl

theorem recording : Op.Recording Does where
  nil s := ⟨.nil _, rfl⟩
  append h h' := by
    refine ⟨h.moves.trans ?_, h'.settings.trans h.settings⟩
    rw [← h.name_eq]
    exact h'.moves

theorem Does.sound {s s' : Seat} {es : List Entry} (h : Does s es s') (hsound : s.world.Sound) :
    s'.world.Sound := h.moves.sound hsound

section
variable {α β : Type} {s : Seat}

/-- An operation on the world leaves the workspace alone. -/
theorem traced_onWorld {act : Op World α} {expected : α → List Entry → World → Prop}
    (h : Op.Traced (Moves s.name) s.world act expected) :
    Op.Traced Does s (onWorld act) fun a es s' =>
      expected a es s'.world ∧ s'.workspace = s.workspace := by
  obtain ⟨es, hmoves, hreturned⟩ := h
  exact ⟨es, ⟨hmoves, rfl⟩, fun a ha => ⟨hreturned a ha, rfl⟩⟩

/-- An operation on the world leaves the workspace alone. -/
theorem onWorld_apply {act : Op World α} {outcome : Except Failure α} {w : World}
    (h : act s.world = (outcome, w)) : onWorld act s = (outcome, { s with world := w }) :=
  Op.zoom_apply h

/-- Work at the desk of a session. -/
theorem onWorld_atDesk {handle : Nat} {t : Session} (hs : s.world.session? handle = some t)
    (act : Op Desk α) :
    onWorld (atDesk handle act) s =
      ((act (s.world.desk t)).1,
        { s with world := s.world.leaveDesk handle (act (s.world.desk t)).2 }) :=
  onWorld_apply (atDesk_eq hs act)

/-- The live session is found or started in the world. -/
theorem session_apply {outcome : Except Failure Nat} {w : World}
    (h : Registry.getOrStart s.name s.workspace.settings s.world = (outcome, w)) :
    session s = (outcome, { s with world := w }) := by
  rw [session, Op.get_bind]
  exact onWorld_apply h

theorem session?_apply {outcome : Except Failure (Option Nat)} {w : World}
    (h : Registry.get? s.name s.world = (outcome, w)) :
    session? s = (outcome, { s with world := w }) := by
  rw [session?, Op.get_bind]
  exact onWorld_apply h

theorem close_apply {outcome : Except Failure Unit} {w : World}
    (h : Registry.remove s.name s.world = (outcome, w)) :
    close s = (outcome, { s with world := w }) := by
  rw [close, Op.get_bind]
  exact onWorld_apply h

/-- A note changes nothing that is recorded. -/
theorem traced_note (n : Note) :
    Op.Traced Does s (onWorld (note n)) fun _ es s' => es = [] ∧ s'.workspace = s.workspace :=
  ⟨[], ⟨(Move.aside (beside_record s.world n)).moves, rfl⟩, fun _ _ => ⟨rfl, rfl⟩⟩

/-- The live session is the one registered under the name of the workspace. -/
theorem traced_session (hsound : s.world.Sound) :
    Op.Traced Does s session fun handle es s' =>
      (find? s'.world s.name = some handle ∧ Startup handle es) ∧ s'.workspace = s.workspace :=
  .look (traced_onWorld (traced_getOrStart hsound s.name s.workspace.settings))

theorem traced_session? (hsound : s.world.Sound) :
    Op.Traced Does s session? fun found es s' =>
      (find? s'.world s.name = found ∧ ((∃ handle, found = some handle ∧ es = []) ∨
        (found = none ∧ Ending es))) ∧ s'.workspace = s.workspace :=
  .look (traced_onWorld (traced_get? hsound s.name))

/-- Work at the live session begins with finding or starting it. -/
theorem traced_atSession {act : ReplyRules → Op Desk α} {expected : α → List Episode → Prop}
    (hsound : s.world.Sound)
    (hact : ∀ rules d, Op.Traced Desk.Does d (act rules) fun a episodes _ => expected a episodes) :
    Op.Traced Does s (atSession act) fun a es s' =>
      (∃ handle before episodes, Startup handle before ∧
        es = before ++ episodes.map (Entry.mk handle) ∧ expected a episodes) ∧
      s'.workspace = s.workspace := by
  refine .bind recording (traced_session hsound) ?_
  rintro handle before s₁ hdoes ⟨⟨hfound, hstartup⟩, hworkspace⟩
  refine .look ?_
  have hdesk := traced_atDesk (hdoes.sound hsound) hfound (hact s₁.workspace.rules)
  rw [← hdoes.name_eq] at hdesk
  refine (traced_onWorld hdesk).mono ?_
  rintro a es s₂ ⟨⟨-, episodes, rfl, hexpected⟩, hworkspace'⟩
  exact ⟨⟨handle, before, episodes, hstartup, rfl, hexpected⟩, hworkspace'.trans hworkspace⟩

/-! ## Sending code -/

/-- Changing the workspace is nothing that is recorded, as long as the settings stay. -/
theorem traced_onWorkspace {f : Workspace → Workspace} (a : α)
    (hf : (f s.workspace).settings = s.workspace.settings) :
    Op.Traced Does s (onWorkspace f >>= fun _ => pure a) fun b es s' =>
      b = a ∧ es = [] ∧ s'.workspace = f s.workspace := by
  refine ⟨[], ⟨.nil _, hf⟩, fun b hb => ?_⟩
  cases hb
  exact ⟨rfl, rfl, rfl⟩

/-- Sending code is one exchange at the live session, unless the code is blank. The send is
remembered. -/
theorem traced_sendCode (hsound : s.world.Sound) (code : Text) :
    Op.Traced Does s (sendCode code) fun e es s' =>
      Sends e es ∧ s'.workspace = s.workspace.remember code e := by
  have hremember : ∀ {t : Seat} {e : Evaluation} {es : List Entry},
      Sends e es → t.workspace = s.workspace →
        Op.Traced Does t (onWorkspace (fun w => w.remember code e) >>= fun _ => pure e)
          fun b more s' => Sends b (es ++ more) ∧
            s'.workspace = s.workspace.remember code b := by
    intro t e es hsends hworkspace
    refine (traced_onWorkspace e rfl).mono ?_
    rintro _ _ s' ⟨rfl, rfl, hs'⟩
    rw [List.append_nil, hs', hworkspace]
    exact ⟨hsends, rfl⟩
  refine .look ?_
  simp only
  -- blank code is not sent, but it is remembered
  split
  · exact hremember (.blank _) rfl
  · refine .bind recording
      (traced_atSession hsound fun rules d => Desk.traced_call rules (.submit _) d) ?_
    rintro _ _ s' - ⟨⟨handle, before, _, hstartup, rfl, chunks, rfl, rfl⟩, hworkspace⟩
    exact hremember (.evaluated hstartup _ _ chunks) hworkspace

/-- Sending what an outcome gives. -/
theorem traced_sendOutcome (hsound : s.world.Sound) (outcome : Except Failure β)
    (code : β → Text) :
    Op.Traced Does s (Op.ofExcept outcome >>= fun b => sendCode (code b)) fun e es s' =>
      Sends e es ∧ ∃ b, outcome = .ok b ∧ s'.workspace = s.workspace.remember (code b) e := by
  have hread : Op.Traced Does s (Op.ofExcept outcome)
      fun b es t => outcome = .ok b ∧ es = [] ∧ t = s :=
    .ofExcept recording fun b hb => ⟨hb, rfl, rfl⟩
  refine .bind recording hread ?_
  rintro b _ t - ⟨hb, rfl, rfl⟩
  refine (traced_sendCode hsound (code b)).mono ?_
  rintro e es s' ⟨hsends, hworkspace⟩
  exact ⟨hsends, b, hb, hworkspace⟩

/-- The code of a file is read, and sent. -/
theorem traced_loadFile (hsound : s.world.Sound) (path : Text) :
    Op.Traced Does s (loadFile path) fun e es s' =>
      Sends e es ∧ ∃ code,
        s.world.machine.readText (s.world.machine.absolute path).text = .ok code ∧
        s'.workspace = s.workspace.remember code e := by
  have hread : Op.Traced Does s
      (Op.ofExcept (s.world.machine.readText (s.world.machine.absolute path).text))
      fun code es t => s.world.machine.readText (s.world.machine.absolute path).text = .ok code ∧
        es = [] ∧ t = s :=
    .ofExcept recording fun code hcode => ⟨hcode, rfl, rfl⟩
  refine .look (.bind recording hread ?_)
  rintro code _ t - ⟨hcode, rfl, rfl⟩
  -- the note may be written to a file, but the code has been read
  refine .bind recording (traced_note _) ?_
  rintro _ _ u hdoes ⟨rfl, hworkspace⟩
  refine (traced_sendCode (hdoes.sound hsound) code).mono ?_
  rintro e es s' ⟨hsends, hworkspace'⟩
  exact ⟨hsends, code, hcode, by rw [hworkspace', hworkspace]⟩

/-! ## Control -/

/-- An interrupt reaches the live session, and what it waits for is one exchange that is
delivered. -/
theorem traced_interrupt (hsound : s.world.Sound) (m : Machine) (wait : Bool) :
    Op.Traced Does s (interrupt wait) fun output es s' =>
      Reports m (.interrupt wait) (.output output) es ∧ s'.workspace = s.workspace := by
  refine .bind recording (traced_session? hsound) ?_
  rintro found es s₁ hdoes ⟨⟨hfound, ⟨handle, rfl, rfl⟩ | ⟨rfl, hending⟩⟩, hworkspace⟩
  · have hinterrupt (d : Desk) : Op.Traced Desk.Does d Desk.interrupt
        fun _ episodes _ => episodes = [.interrupted] :=
      ⟨_, Desk.does_interrupt d, fun _ _ => rfl⟩
    refine .bind recording (traced_onWorld (traced_atDesk (hdoes.sound hsound)
      (by rw [hdoes.name_eq]; exact hfound) hinterrupt)) ?_
    rintro _ es s₂ hdoes₂ ⟨⟨hfound₂, _, rfl, rfl⟩, hworkspace₂⟩
    simp only
    -- with a wait, what comes up to the next prompt is one more exchange
    split
    · next hwait =>
      refine .look ((traced_onWorld (traced_atDesk (hdoes₂.sound (hdoes.sound hsound))
        (by rw [hdoes₂.name_eq]; exact hfound₂)
        fun d => Desk.traced_call s₂.workspace.rules (.awaitPrompt true) d)).mono ?_)
      rintro _ _ s₃ ⟨⟨-, _, rfl, chunks, rfl, rfl⟩, hworkspace₃⟩
      rw [hwait]
      exact ⟨.awaited handle chunks, by rw [hworkspace₃, hworkspace₂, hworkspace]⟩
    · next hwait =>
      rw [show wait = false by simpa using hwait]
      exact .returns recording rfl ⟨.interrupted handle, by rw [hworkspace₂, hworkspace]⟩
  · exact .returns recording rfl ⟨by rw [List.append_nil]; exact .silent hending, hworkspace⟩

/-- The transcript of the live session is cleared, if there is one. -/
theorem traced_clear (hsound : s.world.Sound) (m : Machine) :
    Op.Traced Does s clear fun _ es s' =>
      Reports m .clear .done es ∧ s'.workspace = s.workspace := by
  refine .bind recording (traced_session? hsound) ?_
  rintro found es s₁ hdoes ⟨⟨hfound, ⟨handle, rfl, rfl⟩ | ⟨rfl, hending⟩⟩, hworkspace⟩
  · have hclear (d : Desk) : Op.Traced Desk.Does d (Desk.onSession Session.clear)
        fun _ episodes _ => episodes = [.cleared] :=
      ⟨_, Desk.does_clear d, fun _ _ => rfl⟩
    refine (traced_onWorld (traced_atDesk (hdoes.sound hsound)
      (by rw [hdoes.name_eq]; exact hfound) hclear)).mono ?_
    rintro _ _ s₂ ⟨⟨-, _, rfl, rfl⟩, hworkspace₂⟩
    exact ⟨.cleared handle, by rw [hworkspace₂, hworkspace]⟩
  · exact .returns recording rfl ⟨by rw [List.append_nil]; exact .absent hending, hworkspace⟩

/-- Closing ends the registered session, if there is one. -/
theorem traced_close (hsound : s.world.Sound) :
    Op.Traced Does s close fun _ es s' => Ending es ∧ s'.workspace = s.workspace :=
  .look ((traced_onWorld (traced_remove hsound s.name)).mono
    fun _ _ _ h => ⟨h.1.2, h.2⟩)

/-- Resetting ends the registered session, if there is one, and starts a new one. -/
theorem traced_reset (hsound : s.world.Sound) (m : Machine) :
    Op.Traced Does s reset fun handle es s' =>
      Reports m .reset (.session handle) es ∧ s'.workspace = s.workspace.forget := by
  refine .bind recording (traced_close hsound) ?_
  rintro _ es s₁ hdoes ⟨hending, hworkspace⟩
  refine .bind recording (traced_onWorkspace (s := s₁) () rfl) ?_
  rintro _ _ s₂ hdoes₂ ⟨-, rfl, hworkspace₂⟩
  refine (traced_session (hdoes₂.sound (hdoes.sound hsound))).mono ?_
  rintro handle more s₃ ⟨⟨-, hstartup⟩, hworkspace₃⟩
  exact ⟨.reset hending hstartup, by rw [hworkspace₃, hworkspace₂, hworkspace]⟩

/-! ## Every action -/

/-- An action is a list of moves for the session of the workspace. If it returns, the moves are
those that belong to its answer, and the workspace remembers what it should. -/
theorem traced_perform (hsound : s.world.Sound) (action : Action) :
    Op.Traced Does s (perform action) fun answer es s' =>
      Reports s.world.machine action answer es ∧
        s'.workspace = action.amend s.world.machine s.workspace answer := by
  cases action with
  | start =>
    refine .map _ ((traced_session hsound).mono ?_)
    rintro handle es s' ⟨⟨-, hstartup⟩, hworkspace⟩
    exact ⟨.started hstartup, hworkspace⟩
  | send code =>
    refine .map _ ((traced_sendCode hsound code).mono ?_)
    rintro e es s' ⟨hsends, hworkspace⟩
    exact ⟨.sent rfl hsends, hworkspace⟩
  | sendRegion text first last =>
    refine .map _ ((traced_sendCode hsound _).mono ?_)
    rintro e es s' ⟨hsends, hworkspace⟩
    exact ⟨.sent rfl hsends, hworkspace⟩
  | sendLast text point =>
    refine .map _ ((traced_sendOutcome hsound (Expression.boundary text point) _).mono ?_)
    rintro e es s' ⟨hsends, first, hfirst, hworkspace⟩
    have hcode : Action.code s.world.machine (.sendLast text point) =
        .ok (some (text.slice first point)) := by
      rw [Action.code, hfirst]
      rfl
    exact ⟨.sent hcode hsends, by rw [Action.amend_evaluation hcode, hworkspace]⟩
  | loadFile path =>
    refine .map _ ((traced_loadFile hsound path).mono ?_)
    rintro e es s' ⟨hsends, code, hread, hworkspace⟩
    have hcode : Action.code s.world.machine (.loadFile path) = .ok (some code) := by
      rw [Action.code, hread]
      rfl
    exact ⟨.sent hcode hsends, by rw [Action.amend_evaluation hcode, hworkspace]⟩
  | complete token inModulePath =>
    refine .map _ ((traced_atSession hsound fun rules d =>
      Completion.does_complete rules token inModulePath d).mono ?_)
    rintro found _ s' ⟨⟨handle, before, episodes, hstartup, rfl, hprobing⟩, hworkspace⟩
    exact ⟨.completed hstartup hprobing, hworkspace⟩
  | completeAt text point =>
    refine .map _ ((traced_atSession hsound fun rules d =>
      Completion.does_completeAt rules text point d).mono ?_)
    rintro found _ s' ⟨⟨handle, before, episodes, hstartup, rfl, hprobing⟩, hworkspace⟩
    exact ⟨.completedAt hstartup hprobing, hworkspace⟩
  | interrupt wait =>
    refine .map _ ((traced_interrupt hsound s.world.machine wait).mono ?_)
    rintro output es s' ⟨hreports, hworkspace⟩
    exact ⟨hreports, hworkspace⟩
  | clear =>
    refine .map _ ((traced_clear hsound s.world.machine).mono ?_)
    rintro _ es s' ⟨hreports, hworkspace⟩
    exact ⟨hreports, hworkspace⟩
  | reset =>
    refine .map _ ((traced_reset hsound s.world.machine).mono ?_)
    rintro handle es s' ⟨hreports, hworkspace⟩
    exact ⟨hreports, hworkspace⟩
  | close =>
    refine .map _ ((traced_close hsound).mono ?_)
    rintro _ es s' ⟨hending, hworkspace⟩
    exact ⟨.closed hending, hworkspace⟩

end

end ReplDriver.Seat
