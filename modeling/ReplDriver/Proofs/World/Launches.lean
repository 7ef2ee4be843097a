import ReplDriver.Proofs.World.Moves

/-!
# What sessions are launched with

Work for the session of some settings leaves every session with the name and the launch data that
it was started with. Whatever session it starts has the name of the settings, and its process the
command line, the module paths and the directory that they give.

* `World.launches_startSession`, `Registry.launches_getOrStart`: starting a session.
* `World.launches_atDesk`, `Registry.launches_remove`, `Registry.launches_get?`: working at one and
  ending it.
-/

namespace ReplDriver

/-- The session was launched by some settings on a machine. -/
structure Session.LaunchedBy (s : Session) (settings : Settings) (m : Machine) : Prop where
  name : s.name = settings.sessionName
  process : ∃ executable, s.process.launched = World.launched settings executable m

/-- The session is the same one, and so is its process. -/
structure Session.SameLaunch (s s' : Session) : Prop where
  name : s'.name = s.name
  launched : s'.process.launched = s.process.launched

theorem Session.LaunchedBy.same {s s' : Session} {settings : Settings} {m m' : Machine}
    (h : s.LaunchedBy settings m) (hsame : s.SameLaunch s') (hcwd : m'.cwd = m.cwd)
    (henvironment : m'.environment = m.environment) : s'.LaunchedBy settings m' where
  name := hsame.name.trans h.name
  process := by
    obtain ⟨executable, hlaunched⟩ := h.process
    refine ⟨executable, ?_⟩
    rw [hsame.launched, hlaunched, World.launched_congr hcwd henvironment]

/-- Episodes at a desk are episodes of one session. -/
theorem Desk.Does.sameLaunch {d d' : Desk} {episodes : List Episode} (h : Does d episodes d') :
    d.session.SameLaunch d'.session :=
  ⟨h.name, h.life.sameStart.launched⟩

namespace World

/-- Every session is one that was there, or was launched by the settings. -/
structure Launches (settings : Settings) (w w' : World) : Prop where
  cwd : w'.machine.cwd = w.machine.cwd
  environment : w'.machine.environment = w.machine.environment
  sessions : ∀ handle s', w'.session? handle = some s' →
    (∃ s, w.session? handle = some s ∧ s.SameLaunch s') ∨ s'.LaunchedBy settings w.machine

section
variable {settings : Settings} {w w' w'' : World} {handle : Nat} {s t : Session}

theorem Launches.of_sessions (hcwd : w'.machine.cwd = w.machine.cwd)
    (henvironment : w'.machine.environment = w.machine.environment)
    (hsessions : w'.sessions = w.sessions) : Launches settings w w' where
  cwd := hcwd
  environment := henvironment
  sessions handle s' hs' := by
    rw [session?, hsessions] at hs'
    exact .inl ⟨s', hs', rfl, rfl⟩

theorem Launches.refl (w : World) : Launches settings w w := .of_sessions rfl rfl rfl

theorem Launches.trans (h : Launches settings w w') (h' : Launches settings w' w'') :
    Launches settings w w'' where
  cwd := h'.cwd.trans h.cwd
  environment := h'.environment.trans h.environment
  sessions handle s'' hs'' := by
    rcases h'.sessions handle s'' hs'' with ⟨s', hs', hsame'⟩ | hlaunched
    · rcases h.sessions handle s' hs' with ⟨s, hs, hsame⟩ | hlaunched
      · exact .inl ⟨s, hs, hsame'.name.trans hsame.name, hsame'.launched.trans hsame.launched⟩
      · exact .inr (hlaunched.same hsame' rfl rfl)
    · exact .inr (hlaunched.same ⟨rfl, rfl⟩ h.cwd.symm h.environment.symm)

theorem Beside.launches (h : Beside w w') : Launches settings w w' :=
  .of_sessions h.cwd h.environment h.sessions

/-- A session may change, but not into another one. -/
theorem launches_set (clock : Clock) (hs : w.session? handle = some s) (hsame : s.SameLaunch t) :
    Launches settings w { w with sessions := w.sessions.set handle t, clock } where
  cwd := rfl
  environment := rfl
  sessions other u hu := by
    rcases getElem?_set_some hs hu with ⟨rfl, rfl⟩ | ⟨-, hu⟩
    · exact .inl ⟨s, hs, hsame⟩
    · exact .inl ⟨u, hu, rfl, rfl⟩

/-- A session that comes has been launched. -/
theorem launches_append (clock : Clock) (h : t.LaunchedBy settings w.machine) :
    Launches settings w { w with sessions := w.sessions ++ [t], clock } where
  cwd := rfl
  environment := rfl
  sessions other u hu := by
    rcases getElem?_concat_some hu with ⟨-, rfl⟩ | hu
    · exact .inr h
    · exact .inl ⟨u, hu, rfl, rfl⟩

/-- Work at a desk starts no session. -/
theorem launches_atDesk {α : Type} {act : Op Desk α} (w : World) (handle : Nat)
    (hact : ∀ d, Op.Traced Desk.Does d act fun _ _ _ => True) :
    Launches settings w (atDesk handle act w).2 := by
  rcases hs : w.session? handle with _ | s
  · simp only [atDesk, hs]
    exact .refl w
  · obtain ⟨episodes, hdoes, -⟩ := hact (w.desk s)
    rw [atDesk_eq hs]
    exact (launches_set _ hs hdoes.sameLaunch).trans (beside_leaveDesk w handle _).launches

/-- Starting a session launches it by its settings, if a process comes of it at all. -/
theorem launches_startSession (settings : Settings) (w : World) :
    Launches settings w (startSession settings.sessionName settings true w).2 := by
  have hstarts := startSession_starts settings.sessionName settings w
  generalize (startSession settings.sessionName settings true w).1 = outcome at hstarts
  generalize (startSession settings.sessionName settings true w).2 = w' at hstarts ⊢
  cases hstarts with
  | unresolved hbeside => exact hbeside.launches
  | refused hbeside => exact .of_sessions hbeside.cwd hbeside.environment hbeside.sessions
  | waited hbeside hlaunch hwait =>
    rename_i w₁ n b executable outcome d
    obtain ⟨chunks, hcall⟩ := Desk.does_call (startRules settings) (.awaitPrompt true)
      (w₁.desk (newcomer settings.sessionName executable
        (launched settings executable w.machine) b))
    have hrun : ((Call.awaitPrompt true).run (startRules settings)
        (w₁.desk (newcomer settings.sessionName executable
          (launched settings executable w.machine) b))).2 = d := congrArg Prod.snd hwait
    rw [hrun] at hcall
    have hsame : (newcomer settings.sessionName executable
        (launched settings executable w.machine) b).SameLaunch d.session := by
      rcases hcall with ⟨-, hdoes⟩ | ⟨-, -, hdoes⟩ <;> exact hdoes.sameLaunch
    have hbegun : (newcomer settings.sessionName executable
        (launched settings executable w.machine) b).LaunchedBy settings w.machine :=
      ⟨rfl, executable, rfl⟩
    have hasked : Launches settings w
        { w₁ with requested := settings.sessionName :: w₁.requested } :=
      .of_sessions hbeside.cwd hbeside.environment hbeside.sessions
    exact (hasked.trans (launches_append d.clock
      (hbegun.same hsame hbeside.cwd hbeside.environment))).trans
        (beside_withNewcomer _ d).launches

end

end World

namespace Registry

open World

variable {settings : Settings} {w : World}

/-- Ending a session starts none. -/
theorem launches_remove (hsound : w.Sound) (name : Text) :
    Launches settings w (remove name w).2 := by
  rcases hfound : find? w name with _ | handle
  · rw [remove_none hfound]
    exact .refl w
  · obtain ⟨s, hs, -⟩ := hsound name handle hfound
    obtain ⟨w', hremove, hbeside⟩ := remove_some hfound hs
    have hclosed : Launches settings w (removed w name handle s) :=
      (launches_set (t := s.close) w.clock hs ⟨rfl, rfl⟩).trans (.of_sessions rfl rfl rfl)
    rw [hremove]
    exact hclosed.trans hbeside.launches

theorem launches_get? (hsound : w.Sound) (name : Text) :
    Launches settings w (get? name w).2 := by
  rw [get?, Op.get_bind]
  rcases find? w name with _ | handle
  · exact .refl w
  · simp only
    split
    · exact .refl w
    · have hbeside := beside_record w (.removing name)
      have hnote : note (.removing name) w = (.ok (), w.record (.removing name)) := rfl
      have hremove : Launches settings _ _ := launches_remove (hsound.beside hbeside) name
      obtain ⟨w', hok⟩ := remove_ok (hsound.beside hbeside) name
      rw [hok] at hremove
      rw [Op.bind_ok hnote, Op.bind_ok hok]
      exact hbeside.launches.trans hremove

/-- Asking for the live session starts it by its settings, if it has to be started. -/
theorem launches_getOrStart (hsound : w.Sound) :
    Launches settings w (getOrStart settings.sessionName settings w).2 := by
  have hlooked : Launches settings w _ := launches_get? hsound settings.sessionName
  obtain ⟨found, w₁, hget⟩ := get?_ok hsound settings.sessionName
  rw [hget] at hlooked
  rw [getOrStart, Op.bind_ok hget]
  rcases found with _ | handle
  · have hstarted := launches_startSession settings w₁
    simp only
    rcases hstart : World.startSession settings.sessionName settings true w₁ with ⟨f | handle, w₂⟩
      <;> rw [hstart] at hstarted
    · rw [Op.bind_error hstart]
      exact hlooked.trans hstarted
    · rw [Op.bind_ok hstart]
      exact (hlooked.trans hstarted).trans (.of_sessions rfl rfl rfl)
  · exact hlooked

end Registry

end ReplDriver
