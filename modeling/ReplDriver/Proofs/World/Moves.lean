import ReplDriver.Proofs.Session.Episodes
import ReplDriver.Session.Registry

/-!
# Moves of the world

Whatever is done for the session of one name changes the world by a few moves: notes are taken, a
process is asked for, something is done at the session that is registered under the name, a session
is started and registered, a start is given up, or a session is ended and taken out of the
registry. Every move is recorded by its episodes, together with the number of the session at which
they were done. What an operation on the registry does is told once, as a list of such moves.

* `Registry.traced_getOrStart`, `Registry.traced_get?`, `Registry.traced_remove`: the moves of the
  registry.
* `World.traced_atDesk`: work at the desk of a registered session is a move.
* `World.Moves.sound`: in a sound world every registered name belongs to a session of that name,
  and moves lead from sound worlds to sound worlds.
-/

namespace ReplDriver

/-- An episode, and the number of the session at which it was done. -/
structure Entry where
  handle : Nat
  episode : Episode
deriving DecidableEq, Repr

namespace World

/-! ## What lies beside the sessions -/

/-- Nothing but notes and commands lies between two worlds. A file changes only where notes are
written to one. -/
structure Beside (w w' : World) : Prop where
  launch : w'.launch = w.launch
  journal : w'.journal = w.journal
  clock : w'.clock = w.clock
  requested : w'.requested = w.requested
  sessions : w'.sessions = w.sessions
  registered : w'.registered = w.registered
  cwd : w'.machine.cwd = w.machine.cwd
  environment : w'.machine.environment = w.machine.environment
  shell : w'.machine.shell = w.machine.shell
  files : w.journal.file = none → w'.machine.files = w.machine.files

theorem Beside.refl (w : World) : Beside w w :=
  ⟨rfl, rfl, rfl, rfl, rfl, rfl, rfl, rfl, rfl, fun _ => rfl⟩

theorem Beside.trans {w w' w'' : World} (h : Beside w w') (h' : Beside w' w'') :
    Beside w w'' where
  launch := h'.launch.trans h.launch
  journal := h'.journal.trans h.journal
  clock := h'.clock.trans h.clock
  requested := h'.requested.trans h.requested
  sessions := h'.sessions.trans h.sessions
  registered := h'.registered.trans h.registered
  cwd := h'.cwd.trans h.cwd
  environment := h'.environment.trans h.environment
  shell := h'.shell.trans h.shell
  files hfile := by
    rw [h'.files (by rw [h.journal, hfile]), h.files hfile]

theorem beside_record (w : World) (n : Note) : Beside w (w.record n) := by
  unfold record
  split
  · refine ⟨rfl, rfl, rfl, rfl, rfl, rfl, rfl, rfl, rfl, fun hfile => ?_⟩
    simp [hfile]
  · exact .refl w

theorem beside_records (w : World) (notes : List Note) : Beside w (notes.foldl record w) := by
  induction notes generalizing w with
  | nil => exact .refl w
  | cons n notes ih => exact (beside_record w n).trans (ih _)

/-- Leaving a desk changes the session and the clock; the rest is notes. -/
theorem beside_leaveDesk (w : World) (handle : Nat) (d : Desk) :
    Beside { w with sessions := w.sessions.set handle d.session, clock := d.clock }
      (w.leaveDesk handle d) :=
  beside_records _ _

/-- Looking a version up runs a command at most. -/
theorem findVersion_machine (version : Text) (directory : Option Text) (m : Machine) :
    ∃ commands, (Launch.findVersion version directory m).2 = { m with commands } := by
  unfold Launch.findVersion
  rw [Op.get_bind]
  simp only
  split
  · exact ⟨m.commands, rfl⟩
  · refine ⟨m.commands ++ [Launch.versionCommand
      (Path.joinText (Launch.managerDirectory directory m.environment) "nvm.sh") version], ?_⟩
    rw [Op.set_bind]
    rcases m.shell _ with _ | ⟨status, output, errors⟩
    · rfl
    · simp only
      rcases status == 0 with _ | _
      · rfl
      · rcases Launch.lastLine? output with _ | path <;> rfl

/-- Finding the program of a session runs a command at most. -/
theorem resolve_machine (e : Settings.Executable) (m : Machine) :
    ∃ commands, (Launch.resolve e m).2 = { m with commands } := by
  cases e with
  | literal path => exact ⟨m.commands, rfl⟩
  | version v =>
    obtain ⟨commands, h⟩ := findVersion_machine v none m
    refine ⟨commands, ?_⟩
    show ((Launch.findVersion v none >>= fun found =>
      Op.ofExcept (Launch.named (some found))) m).2 = _
    rcases hfind : Launch.findVersion v none m with ⟨f | path, m'⟩
    · rw [Op.bind_error hfind]
      rwa [hfind] at h
    · rw [Op.bind_ok hfind]
      rwa [hfind] at h

/-- Whatever keeps the program from being found is reported in one way. -/
theorem findVersion_error {version : Text} {directory : Option Text} {m : Machine} {f : Failure} :
    (Launch.findVersion version directory m).1 = .error f → ∃ why, f = .executable why := by
  have hreported {why : Text} : (.error (.executable why) : Except Failure Text) = .error f →
      ∃ why, f = .executable why := fun h => by cases h; exact ⟨why, rfl⟩
  unfold Launch.findVersion
  rw [Op.get_bind]
  simp only
  split
  · exact hreported
  · rw [Op.set_bind]
    rcases m.shell _ with _ | ⟨status, output, errors⟩
    · exact hreported
    · simp only
      rcases status == 0 with _ | _
      · exact hreported
      · rcases Launch.lastLine? output with _ | path
        · exact hreported
        · exact nofun

theorem resolve_error {e : Settings.Executable} {m : Machine} {f : Failure}
    (h : (Launch.resolve e m).1 = .error f) : ∃ why, f = .executable why := by
  cases e with
  | literal path => cases h
  | version v =>
    change ((Launch.findVersion v none >>= fun found =>
      Op.ofExcept (Launch.named (some found))) m).1 = _ at h
    rcases hfind : Launch.findVersion v none m with ⟨g | path, m'⟩
    · rw [Op.bind_error hfind] at h
      cases h
      exact findVersion_error (congrArg Prod.fst hfind)
    · rw [Op.bind_ok hfind] at h
      change Launch.named (some path) = _ at h
      unfold Launch.named at h
      split at h
      · cases h
      · cases h
        exact ⟨_, rfl⟩

theorem beside_resolve (e : Settings.Executable) (w : World) :
    Beside w (onMachine (Launch.resolve e) w).2 := by
  obtain ⟨commands, h⟩ := resolve_machine e w.machine
  show Beside w { w with machine := (Launch.resolve e w.machine).2 }
  rw [h]
  exact ⟨rfl, rfl, rfl, rfl, rfl, rfl, rfl, rfl, rfl, fun _ => rfl⟩

/-! ## Moves -/

/-- The session of a process that has just been started for a name. -/
def newcomer (name executable : Text) (launched : Launched) (b : Behaviour) : Session :=
  .start name executable (.start launched b)

/-- A move that is made for the session of one name, and the episodes that it consists of. -/
inductive Move (name : Text) : World → List Entry → World → Prop
  /-- Notes are taken and commands are run. -/
  | aside {w w' : World} (h : Beside w w') : Move name w [] w'
  /-- A process is asked for. -/
  | asked (w : World) : Move name w [] { w with requested := name :: w.requested }
  /-- Something is done at the registered session. -/
  | visited {w : World} {handle : Nat} {s : Session} {episodes : List Episode} {d : Desk}
      (hfound : Registry.find? w name = some handle) (hs : w.session? handle = some s)
      (hdoes : Desk.Does (w.desk s) episodes d) :
      Move name w (episodes.map (Entry.mk handle))
        { w with sessions := w.sessions.set handle d.session, clock := d.clock }
  /-- A session is started and registered, where none is. -/
  | started {w : World} {n : Nat} {b : Behaviour} {executable : Text} {launched : Launched}
      {chunks : List Text} {d : Desk} (hfree : Registry.find? w name = none)
      (hlaunch : w.launch name n = .runs b)
      (hdoes : Desk.Does (w.desk (newcomer name executable launched b)) [.started chunks] d) :
      Move name w [⟨w.sessions.length, .started chunks⟩]
        { w with
          sessions := w.sessions ++ [d.session]
          clock := d.clock
          registered := Registry.removeName w.registered name ++ [(name, w.sessions.length)] }
  /-- A session is started, but the wait for its first prompt fails. -/
  | givenUp {w : World} {n : Nat} {b : Behaviour} {executable : Text} {launched : Launched}
      {rules : ReplyRules} {f : Failure} {chunks : List Text} {d : Desk}
      (hfree : Registry.find? w name = none) (hlaunch : w.launch name n = .runs b)
      (hwait : Desk.awaitPrompt rules true (w.desk (newcomer name executable launched b)) =
        (.error f, d))
      (hdoes : Desk.Does (w.desk (newcomer name executable launched b)) [.givenUp chunks] d) :
      Move name w [⟨w.sessions.length, .givenUp chunks⟩]
        { w with sessions := w.sessions ++ [d.session], clock := d.clock }
  /-- The registered session is ended and taken out of the registry. -/
  | removed {w : World} {handle : Nat} {s : Session}
      (hfound : Registry.find? w name = some handle) (hs : w.session? handle = some s) :
      Move name w [⟨handle, .ended⟩]
        { w with
          sessions := w.sessions.set handle s.close
          registered := Registry.removeName w.registered name }

/-- Some moves, one after the other. -/
inductive Moves (name : Text) : World → List Entry → World → Prop
  | nil (w : World) : Moves name w [] w
  | cons {w w' w'' : World} {es more : List Entry} (h : Move name w es w')
      (hrest : Moves name w' more w'') : Moves name w (es ++ more) w''

theorem Moves.trans {name : Text} {w w' w'' : World} {es more : List Entry}
    (h : Moves name w es w') (h' : Moves name w' more w'') : Moves name w (es ++ more) w'' := by
  induction h with
  | nil => exact h'
  | cons hmove _ ih =>
    rw [List.append_assoc]
    exact .cons hmove (ih h')

theorem moves_recording (name : Text) : Op.Recording (Moves name) := ⟨.nil, .trans⟩

theorem Move.moves {name : Text} {w w' : World} {es : List Entry} (h : Move name w es w') :
    Moves name w es w' := by
  have hmoves := Moves.cons h (.nil w')
  rwa [List.append_nil] at hmoves

/-- A move, before and after which notes may be taken. -/
theorem Move.besides {name : Text} {w w₁ w₂ w' : World} {es : List Entry} (hbefore : Beside w w₁)
    (h : Move name w₁ es w₂) (hafter : Beside w₂ w') : Moves name w es w' := by
  have hmoves := Moves.cons (.aside hbefore) (.cons h (.cons (.aside hafter) (.nil w')))
  simpa using hmoves

/-! ## Sound worlds -/

/-- What is registered under a name is a session of that name. -/
def Sound (w : World) : Prop :=
  ∀ name handle, Registry.find? w name = some handle →
    ∃ s, w.session? handle = some s ∧ s.name = name

end World

/-- A table without the entries of one key. -/
theorem lookup_filter_ne {α : Type} (table : List (Text × α)) (key other : Text) :
    (table.filter fun (k, _) => k != key).lookup other =
      if other = key then none else table.lookup other := by
  induction table with
  | nil => simp
  | cons entry rest ih =>
    obtain ⟨k, v⟩ := entry
    by_cases hk : k = key
    · subst hk
      rw [List.filter_cons_of_neg (by simp), ih, List.lookup_cons]
      split
      · rfl
      · next hne => rw [show (other == k) = false by simpa using hne]
    · rw [List.filter_cons_of_pos (by simpa using hk), List.lookup_cons, List.lookup_cons, ih]
      split
      · next he =>
        have heq : other = k := by simpa using he
        rw [if_neg (by rw [heq]; exact hk)]
      · rfl

namespace Registry

theorem lookup_removeName (registered : List (Text × Nat)) (name other : Text) :
    (removeName registered name).lookup other =
      if other = name then none else registered.lookup other :=
  lookup_filter_ne registered name other

/-- A name that is registered anew has the new session, and all others have theirs. -/
theorem lookup_register (registered : List (Text × Nat)) (name other : Text) (handle : Nat) :
    (removeName registered name ++ [(name, handle)]).lookup other =
      if other = name then some handle else registered.lookup other := by
  rw [List.lookup_append, lookup_removeName]
  split
  · next h => simp [h]
  · next h =>
    have hne : (other == name) = false := by simpa using h
    simp [List.lookup_cons, hne]

end Registry

namespace World

/-- The sessions after one of them has changed. -/
theorem getElem?_set_some {sessions : List Session} {handle other : Nat} {s t u : Session}
    (hs : sessions[handle]? = some s) (hu : (sessions.set handle t)[other]? = some u) :
    (other = handle ∧ u = t) ∨ (other ≠ handle ∧ sessions[other]? = some u) := by
  obtain ⟨hlt, -⟩ := List.getElem?_eq_some_iff.mp hs
  by_cases h : other = handle
  · subst h
    rw [List.getElem?_set_self hlt] at hu
    exact .inl ⟨rfl, (Option.some.inj hu).symm⟩
  · rw [List.getElem?_set_ne (Ne.symm h)] at hu
    exact .inr ⟨h, hu⟩

/-- The session that has changed is there afterwards. -/
theorem getElem?_set_self {sessions : List Session} {handle : Nat} {s : Session} (t : Session)
    (hs : sessions[handle]? = some s) : (sessions.set handle t)[handle]? = some t := by
  obtain ⟨hlt, -⟩ := List.getElem?_eq_some_iff.mp hs
  exact List.getElem?_set_self hlt

/-- The sessions that were there before a new one are there afterwards. -/
theorem getElem?_append_some {sessions more : List Session} {handle : Nat} {s : Session}
    (hs : sessions[handle]? = some s) : (sessions ++ more)[handle]? = some s := by
  obtain ⟨hlt, -⟩ := List.getElem?_eq_some_iff.mp hs
  rw [List.getElem?_append_left hlt, hs]

/-- The sessions after a new one has come. -/
theorem getElem?_concat_some {sessions : List Session} {other : Nat} {t u : Session}
    (hu : (sessions ++ [t])[other]? = some u) :
    (other = sessions.length ∧ u = t) ∨ sessions[other]? = some u := by
  by_cases h : other < sessions.length
  · rw [List.getElem?_append_left h] at hu
    exact .inr hu
  · rw [List.getElem?_append_right (Nat.le_of_not_lt h), List.getElem?_singleton] at hu
    split at hu
    · next hlast => exact .inl ⟨by omega, (Option.some.inj hu).symm⟩
    · cases hu

/-- In a sound world, changing a session but not its name leaves the world sound. -/
theorem Sound.set {w : World} (h : w.Sound) (clock : Clock) {handle : Nat} {s t : Session}
    (hs : w.session? handle = some s) (hname : t.name = s.name) :
    Sound { w with sessions := w.sessions.set handle t, clock } := by
  intro name other hfound
  obtain ⟨u, hu, huname⟩ := h name other hfound
  by_cases hother : other = handle
  · subst hother
    rw [hs] at hu
    cases hu
    exact ⟨t, getElem?_set_self t hs, hname.trans huname⟩
  · exact ⟨u, (List.getElem?_set_ne (Ne.symm hother)).trans hu, huname⟩

theorem Sound.beside {w w' : World} (h : w.Sound) (hbeside : Beside w w') : w'.Sound := by
  intro name handle hfound
  rw [Registry.find?, hbeside.registered] at hfound
  rw [session?, hbeside.sessions]
  exact h name handle hfound

/-- A move leads from a sound world to a sound world. -/
theorem Move.sound {name : Text} {w w' : World} {es : List Entry} (h : Move name w es w')
    (hsound : w.Sound) : w'.Sound := by
  cases h with
  | aside hbeside => exact hsound.beside hbeside
  | asked => exact hsound
  | visited hfound hs hdoes => exact hsound.set _ hs hdoes.name
  | started hfree hlaunch hdoes =>
    intro other handle hfound
    rw [Registry.find?, Registry.lookup_register] at hfound
    -- the name has the new session, and every other name the one it had
    split at hfound
    · next heq =>
      cases hfound
      exact ⟨_, List.getElem?_concat_length, hdoes.name.trans heq.symm⟩
    · obtain ⟨s, hs, hname⟩ := hsound other handle hfound
      exact ⟨s, getElem?_append_some hs, hname⟩
  | givenUp hfree hlaunch hwait hdoes =>
    intro other handle hfound
    obtain ⟨s, hs, hname⟩ := hsound other handle hfound
    exact ⟨s, getElem?_append_some hs, hname⟩
  | removed hfound hs =>
    rename_i handle s
    intro other handle' hfound'
    rw [Registry.find?, Registry.lookup_removeName] at hfound'
    split at hfound'
    · cases hfound'
    · exact hsound.set (t := s.close) w.clock hs rfl other handle' hfound'

theorem Moves.sound {name : Text} {w w' : World} {es : List Entry} (h : Moves name w es w')
    (hsound : w.Sound) : w'.Sound := by
  induction h with
  | nil => exact hsound
  | cons hmove _ ih => exact ih (hmove.sound hsound)

/-! ## Between operations -/

/-- What may happen between operations: a process exits, or a new round of waiting begins. -/
inductive Meanwhile (w : World) : World → Prop
  | exits {handle : Nat} {s : Session} (hs : w.session? handle = some s) :
      Meanwhile w { w with sessions := w.sessions.set handle { s with process := s.process.kill } }
  | settles : Meanwhile w w.settle

theorem session?_settle (w : World) (handle : Nat) :
    w.settle.session? handle =
      (w.session? handle).map fun s => { s with process := s.process.settle } := by
  simp [settle, session?]

theorem Meanwhile.sound {w w' : World} (h : Meanwhile w w') (hsound : w.Sound) : w'.Sound := by
  cases h with
  | exits hs => exact hsound.set w.clock hs rfl
  | settles =>
    intro name handle hfound
    obtain ⟨s, hs, hname⟩ := hsound name handle hfound
    exact ⟨{ s with process := s.process.settle }, by rw [session?_settle, hs]; rfl, hname⟩

/-! ## Work at a desk -/

theorem atDesk_eq {α : Type} {w : World} {handle : Nat} {s : Session}
    (hs : w.session? handle = some s) (act : Op Desk α) :
    atDesk handle act w =
      ((act (w.desk s)).1, w.leaveDesk handle (act (w.desk s)).2) := by
  simp only [atDesk, hs]
  rfl

/-- Work at the desk of the registered session is a move, recorded by the episodes at the desk. -/
theorem traced_atDesk {α : Type} {name : Text} {w : World} {handle : Nat} {act : Op Desk α}
    {expected : α → List Episode → Prop} (hsound : w.Sound)
    (hfound : Registry.find? w name = some handle)
    (hact : ∀ d, Op.Traced Desk.Does d act fun a episodes _ => expected a episodes) :
    Op.Traced (Moves name) w (atDesk handle act) fun a es w' =>
      Registry.find? w' name = some handle ∧
        ∃ episodes, es = episodes.map (Entry.mk handle) ∧ expected a episodes := by
  obtain ⟨s, hs, -⟩ := hsound name handle hfound
  obtain ⟨episodes, hdoes, hreturned⟩ := hact (w.desk s)
  have hdesk := atDesk_eq hs act
  have hbeside := beside_leaveDesk w handle (act (w.desk s)).2
  refine ⟨episodes.map (Entry.mk handle), ?_, fun a ha => ⟨?_, episodes, rfl, hreturned a ?_⟩⟩
  · rw [hdesk]
    exact Move.besides (.refl w) (.visited hfound hs hdoes) hbeside
  · rw [hdesk, Registry.find?, hbeside.registered]
    exact hfound
  · rwa [hdesk] at ha

end World

/-! ## Starting a session -/

namespace World

/-- What the process of a session is started with: the command line and the directory of the
settings, and the module paths in the environment of the machine. -/
def launched (settings : Settings) (executable : Text) (m : Machine) : Launched where
  arguments := Launch.arguments executable settings
  modulePath := (Launch.environment (settings.absoluteModulePaths m.cwd) m.environment).value?
    "NODE_PATH"
  directory := settings.projectRoot

theorem launched_congr {m m' : Machine} (hcwd : m'.cwd = m.cwd)
    (henvironment : m'.environment = m.environment) (settings : Settings) (executable : Text) :
    launched settings executable m' = launched settings executable m := by
  rw [launched, launched, hcwd, henvironment]

/-- The settings by which the replies of a session are told complete when it is started. -/
def startRules (settings : Settings) : ReplyRules := ⟨settings.prompt, settings.pollInterval⟩

/-- The world when a session has been added and one has worked at its desk. -/
def withNewcomer (w : World) (d : Desk) : World :=
  leaveDesk { w with sessions := w.sessions ++ [d.session] } w.sessions.length d

theorem session?_newcomer (w : World) (s : Session) :
    ({ w with sessions := w.sessions ++ [s] } : World).session? w.sessions.length = some s := by
  show (w.sessions ++ [s])[w.sessions.length]? = some s
  exact List.getElem?_concat_length

/-- Adds a session and waits for its first prompt. -/
def welcome (rules : ReplyRules) (s : Session) : Op World Nat := do
  let handle := (← get).sessions.length
  modify fun w => { w with sessions := w.sessions ++ [s] }
  let _ ← atDesk handle (Desk.awaitPrompt rules true)
  return handle

theorem welcome_apply (rules : ReplyRules) (s : Session) (w : World) :
    welcome rules s w =
      ((Desk.awaitPrompt rules true (w.desk s)).1.map fun _ => w.sessions.length,
        w.withNewcomer (Desk.awaitPrompt rules true (w.desk s)).2) := by
  have hdesk := atDesk_eq (session?_newcomer w s) (Desk.awaitPrompt rules true)
  -- changing the session that has come last is the same as adding it as changed
  have hleave (d : Desk) : leaveDesk { w with sessions := w.sessions ++ [s] } w.sessions.length d =
      w.withNewcomer d := by
    simp only [withNewcomer, leaveDesk, List.set_append_right _ _ (Nat.le_refl _), Nat.sub_self,
      List.set_cons_zero]
  rw [hleave] at hdesk
  change atDesk w.sessions.length _ _ =
    ((Desk.awaitPrompt rules true (w.desk s)).1,
      w.withNewcomer (Desk.awaitPrompt rules true (w.desk s)).2) at hdesk
  rw [welcome, Op.get_bind, Op.modify_bind]
  rcases hwait : Desk.awaitPrompt rules true (w.desk s) with ⟨f | o, d⟩
  · rw [hwait] at hdesk
    exact Op.bind_error hdesk
  · rw [hwait] at hdesk
    exact Op.bind_ok hdesk

theorem beside_withNewcomer (w : World) (d : Desk) :
    Beside { w with sessions := w.sessions ++ [d.session], clock := d.clock }
      (w.withNewcomer d) := by
  have hbeside := beside_leaveDesk { w with sessions := w.sessions ++ [d.session] }
    w.sessions.length d
  simp only [List.set_append_right _ _ (Nat.le_refl _), Nat.sub_self, List.set_cons_zero]
    at hbeside
  exact hbeside

/-- The ways of starting a session. The program is not found; or no process comes of it; or one is
started, and its first prompt is awaited. -/
inductive Starts (name : Text) (settings : Settings) (w : World) :
    Except Failure Nat → World → Prop
  | unresolved {w' : World} {why : Text} (hbeside : Beside w w') :
      Starts name settings w (.error (.executable why)) w'
  | refused {w' : World} {why : Text} (hbeside : Beside w w') :
      Starts name settings w (.error (.executable why))
        { w' with requested := name :: w'.requested }
  | waited {w' : World} {n : Nat} {b : Behaviour} {executable : Text}
      {outcome : Except Failure Text} {d : Desk} (hbeside : Beside w w')
      (hlaunch : w'.launch name n = .runs b)
      (hwait : Desk.awaitPrompt (startRules settings) true
        (w'.desk (newcomer name executable (launched settings executable w.machine) b)) =
          (outcome, d)) :
      Starts name settings w (outcome.map fun _ => w'.sessions.length)
        ({ w' with requested := name :: w'.requested }.withNewcomer d)

/-- A session is started in one of these ways. -/
theorem startSession_starts (name : Text) (settings : Settings) (w : World) :
    Starts name settings w (startSession name settings true w).1
      (startSession name settings true w).2 := by
  have hresolve := beside_resolve settings.executable w
  rcases hexe : onMachine (Launch.resolve settings.executable) w with ⟨f | executable, w₁⟩
  · rw [hexe] at hresolve
    obtain ⟨why, rfl⟩ : ∃ why, f = .executable why :=
      resolve_error (m := w.machine) (congrArg Prod.fst hexe)
    rw [startSession, Op.bind_error hexe]
    exact .unresolved hresolve
  · rw [hexe] at hresolve
    rw [startSession, Op.bind_ok hexe, Op.get_bind]
    have hnote : note (.starting name executable) w₁ =
        (.ok (), w₁.record (.starting name executable)) := rfl
    have hbeside := hresolve.trans (beside_record w₁ (.starting name executable))
    rw [Op.bind_ok hnote, Op.modify_bind]
    have hlaunch : w₁.launch = (w₁.record (.starting name executable)).launch :=
      (beside_record _ _).launch.symm
    generalize w₁.record (.starting name executable) = w₂ at hbeside hlaunch ⊢
    rcases hruns : w₁.launch name (w₁.requested.count name) with b | why
    · have hlaunched := launched_congr hresolve.cwd hresolve.environment settings executable
      change Starts name settings w
        (welcome (startRules settings)
          (newcomer name executable (launched settings executable w₁.machine) b) _).1
        (welcome (startRules settings)
          (newcomer name executable (launched settings executable w₁.machine) b) _).2
      rw [hlaunched, welcome_apply]
      exact .waited hbeside (by rw [← hlaunch]; exact hruns) rfl
    · exact .refused hbeside

end World

/-! ## The registry -/

namespace Registry

open World

/-- The entries of ending what is registered: none if nothing is. -/
inductive Ending : List Entry → Prop
  | absent : Ending []
  | ended (handle : Nat) : Ending [⟨handle, .ended⟩]

/-- The entries of asking for the live session: none if there is one, and otherwise the end of the
one that has exited, if there is one, and the start of the one that is returned. -/
inductive Startup (handle : Nat) : List Entry → Prop
  | live : Startup handle []
  | fresh {es : List Entry} (chunks : List Text) (h : Ending es) :
      Startup handle (es ++ [⟨handle, .started chunks⟩])

/-- The world in which the registered session of a name has been ended and taken out. -/
def removed (w : World) (name : Text) (handle : Nat) (s : Session) : World :=
  { w with
    sessions := w.sessions.set handle s.close
    registered := removeName w.registered name }

/-- Removing a name does nothing where nothing is registered. -/
theorem remove_none {w : World} {name : Text} (h : find? w name = none) :
    remove name w = (.ok (), w) := by
  rw [remove, Op.get_bind, h]
  rfl

/-- Removing a name ends the session that is registered under it. -/
theorem remove_some {w : World} {name : Text} {handle : Nat} {s : Session}
    (h : find? w name = some handle) (hs : w.session? handle = some s) :
    ∃ w', remove name w = (.ok (), w') ∧ Beside (removed w name handle s) w' := by
  have hs' : ({ w with registered := removeName w.registered name } : World).session? handle =
    some s := hs
  rw [remove, Op.get_bind, h]
  simp only
  rw [Op.modify_bind, atDesk_eq hs']
  exact ⟨_, rfl, beside_leaveDesk { w with registered := removeName w.registered name } handle
    (Desk.close (w.desk s)).2⟩

theorem find?_removed (w : World) (name : Text) (handle : Nat) (s : Session) :
    find? (removed w name handle s) name = none :=
  (lookup_removeName _ _ _).trans (if_pos rfl)

/-- Removing a name never fails. -/
theorem remove_ok {w : World} (hsound : w.Sound) (name : Text) :
    ∃ w', remove name w = (.ok (), w') := by
  rcases hfound : find? w name with _ | handle
  · exact ⟨w, remove_none hfound⟩
  · obtain ⟨s, hs, -⟩ := hsound name handle hfound
    obtain ⟨w', hremove, -⟩ := remove_some hfound hs
    exact ⟨w', hremove⟩

/-- Removing a name is the end of the session that is registered under it, if there is one. -/
theorem traced_remove {w : World} (hsound : w.Sound) (name : Text) :
    Op.Traced (Moves name) w (remove name) fun _ es w' => find? w' name = none ∧ Ending es := by
  rcases hfound : find? w name with _ | handle
  · exact .returns (moves_recording name) (remove_none hfound) ⟨hfound, .absent⟩
  · obtain ⟨s, hs, -⟩ := hsound name handle hfound
    obtain ⟨w', hremove, hbeside⟩ := remove_some hfound hs
    rw [Op.Traced, hremove]
    refine ⟨[⟨handle, .ended⟩], Move.besides (.refl w) (.removed hfound hs) hbeside,
      fun _ _ => ⟨?_, .ended handle⟩⟩
    exact (congrArg (List.lookup name) hbeside.registered).trans (find?_removed w name handle s)

/-- Asking for the live session of a name never fails. -/
theorem get?_ok {w : World} (hsound : w.Sound) (name : Text) :
    ∃ found w', get? name w = (.ok found, w') := by
  rw [get?, Op.get_bind]
  rcases find? w name with _ | handle
  · exact ⟨none, w, rfl⟩
  · simp only
    split
    · exact ⟨some handle, w, rfl⟩
    · have hnote : note (.removing name) w = (.ok (), w.record (.removing name)) := rfl
      obtain ⟨w', hremove⟩ := remove_ok (hsound.beside (beside_record w (.removing name))) name
      rw [Op.bind_ok hnote, Op.bind_ok hremove]
      exact ⟨none, w', rfl⟩

/-- The live session of a name is found, or there is none afterwards. -/
theorem traced_get? {w : World} (hsound : w.Sound) (name : Text) :
    Op.Traced (Moves name) w (get? name) fun found es w' =>
      find? w' name = found ∧ ((∃ handle, found = some handle ∧ es = []) ∨
        (found = none ∧ Ending es)) := by
  unfold get?
  refine .look ?_
  split
  · next hnone => exact .returns (moves_recording name) rfl ⟨hnone, .inr ⟨rfl, .absent⟩⟩
  · next handle hfound =>
    split
    · exact .returns (moves_recording name) rfl ⟨hfound, .inl ⟨handle, rfl, rfl⟩⟩
    · have hbeside := beside_record w (.removing name)
      have hnote : Op.Traced (Moves name) w (note (.removing name))
          fun _ es w' => es = [] ∧ w'.Sound :=
        ⟨[], (Move.aside hbeside).moves, fun _ _ => ⟨rfl, hsound.beside hbeside⟩⟩
      refine .bind (moves_recording name) hnote ?_
      rintro _ _ w₁ - ⟨rfl, hsound₁⟩
      refine .bind (moves_recording name) (traced_remove hsound₁ name) ?_
      rintro _ es w₂ - ⟨hnone, hending⟩
      refine .returns (moves_recording name) rfl ⟨hnone, .inr ⟨rfl, ?_⟩⟩
      simpa using hending

/-- The live session of a name is found, or a new one is started and registered. -/
theorem traced_getOrStart {w : World} (hsound : w.Sound) (name : Text) (settings : Settings) :
    Op.Traced (Moves name) w (getOrStart name settings) fun handle es w' =>
      find? w' name = some handle ∧ Startup handle es := by
  unfold getOrStart
  refine .bind (moves_recording name) (traced_get? hsound name) ?_
  rintro found es w₁ hmoves ⟨hfound, ⟨handle, rfl, rfl⟩ | ⟨rfl, hending⟩⟩
  · exact .returns (moves_recording name) rfl ⟨hfound, .live⟩
  have hstarts := startSession_starts name settings w₁
  simp only
  generalize hstart : World.startSession name settings true = start at hstarts ⊢
  rcases happly : start w₁ with ⟨outcome, w₂⟩
  rw [happly] at hstarts
  cases hstarts with
  | unresolved hbeside => exact .of_error (Op.bind_error happly) (Move.aside hbeside).moves
  | refused hbeside =>
    exact .of_error (Op.bind_error happly)
      (Moves.trans (Move.aside hbeside).moves (Move.asked _).moves)
  | waited hbeside hlaunch hwait =>
    rename_i w' n b executable outcome d
    have hfree : find? { w' with requested := name :: w'.requested } name = none := by
      rw [find?, hbeside.registered]
      exact hfound
    have hasked : Moves name w₁ [] { w' with requested := name :: w'.requested } :=
      Moves.trans (Move.aside hbeside).moves (Move.asked _).moves
    have hafter := beside_withNewcomer { w' with requested := name :: w'.requested } d
    have hcall := Desk.does_call (startRules settings) (.awaitPrompt true)
      (w'.desk (newcomer name executable (launched settings executable w₁.machine) b))
    have hrun : (Call.awaitPrompt true).run (startRules settings)
        (w'.desk (newcomer name executable (launched settings executable w₁.machine) b)) =
          (outcome, d) := hwait
    rw [hrun] at hcall
    obtain ⟨chunks, ⟨rfl, hdoes⟩ | ⟨f, rfl, hdoes⟩⟩ := hcall
    · -- the wait has returned, and the session is registered
      have hregistered : Beside
          { w' with
            requested := name :: w'.requested
            sessions := w'.sessions ++ [d.session]
            clock := d.clock
            registered := removeName w'.registered name ++ [(name, w'.sessions.length)] }
          { withNewcomer { w' with requested := name :: w'.requested } d with
            registered := removeName (withNewcomer { w' with requested := name :: w'.requested }
              d).registered name ++ [(name, w'.sessions.length)] } :=
        { hafter with registered := by rw [hafter.registered] }
      have hstarted := hasked.trans (Move.besides (.refl _)
        (.started hfree hlaunch ⟨hdoes.name, hdoes.life, hdoes.output⟩) hregistered)
      exact .of_ok (Op.bind_ok happly) hstarted
        ⟨(lookup_register _ _ _ _).trans (if_pos rfl), .fresh chunks hending⟩
    · exact .of_error (Op.bind_error happly) (hasked.trans (Move.besides (.refl _)
        (.givenUp hfree hlaunch hwait ⟨hdoes.name, hdoes.life, hdoes.output⟩) hafter))

end Registry

end ReplDriver
