import ReplDriver.Proofs.World.Launches
import ReplDriver.Proofs.World.Share

/-!
# What becomes of registered sessions

Work for the session of one name registers new sessions only, under that name. A session that was
registered is registered still, or it has been taken out and ended for good. Nothing that belongs to
another name is touched.

* `World.Moves.find?_of_ne`, `World.Moves.session?_of_ne`: what belongs to another name.
* `World.Moves.registers`: what is registered was registered before, or is new.
* `World.Moves.registered_or_retired`, `World.Moves.retired`: sessions leave the registry ended, and
  do not come back.
* `World.Moves.launched`: what the registered sessions were launched by.
-/

namespace ReplDriver

open Registry

/-- The session has been closed, and its process with it. -/
structure Session.Ended (s : Session) : Prop where
  closed : s.closed = true
  dead : s.process.alive = false
  released : s.process.closed = true

theorem Session.ended_close (s : Session) : s.close.Ended := ⟨rfl, rfl, rfl⟩

namespace World

/-- The session of a number has been taken out of the registry and ended. -/
structure Retired (handle : Nat) (w : World) : Prop where
  free : ∀ name, find? w name ≠ some handle
  ended : ∃ s, w.session? handle = some s ∧ s.Ended

variable {name other : Text} {w w' : World} {es : List Entry} {handle : Nat} {s s' : Session}

/-! ## Other names -/

theorem Move.find?_of_ne (h : Move name w es w') (hne : other ≠ name) :
    find? w' other = find? w other := by
  cases h with
  | aside hbeside => exact congrArg (List.lookup other) hbeside.registered
  | asked => rfl
  | visited hfound hs hdoes => rfl
  | started hfree hlaunch hdoes => exact (lookup_register _ _ _ _).trans (if_neg hne)
  | givenUp hfree hlaunch hwait hdoes => rfl
  | removed hfound hs => exact (lookup_removeName _ _ _).trans (if_neg hne)

theorem Moves.find?_of_ne (h : Moves name w es w') (hne : other ≠ name) :
    find? w' other = find? w other := by
  induction h with
  | nil => rfl
  | cons hmove _ ih => exact ih.trans (hmove.find?_of_ne hne)

theorem Move.session?_of_ne (h : Move name w es w') (hsound : w.Sound)
    (hs : w.session? handle = some s) (hne : s.name ≠ name) : w'.session? handle = some s := by
  -- what is worked at or ended is registered under the name, so it is another session
  have hset {place : Nat} {t u : Session} (hfound : find? w name = some place)
      (ht : w.session? place = some t) : (w.sessions.set place u)[handle]? = some s := by
    have hplace : place ≠ handle := by
      rintro rfl
      rw [ht] at hs
      cases hs
      exact hne (hsound.name_eq hfound ht)
    rw [List.getElem?_set_ne hplace]
    exact hs
  cases h with
  | aside hbeside => rwa [session?, hbeside.sessions]
  | asked => exact hs
  | visited hfound ht hdoes => exact hset hfound ht
  | started hfree hlaunch hdoes => exact getElem?_append_some hs
  | givenUp hfree hlaunch hwait hdoes => exact getElem?_append_some hs
  | removed hfound ht => exact hset hfound ht

theorem Moves.session?_of_ne (h : Moves name w es w') (hsound : w.Sound)
    (hs : w.session? handle = some s) (hne : s.name ≠ name) : w'.session? handle = some s := by
  induction h with
  | nil => exact hs
  | cons hmove _ ih => exact ih (hmove.sound hsound) (hmove.session?_of_ne hsound hs hne)

/-! ## New registrations -/

theorem Move.length_le (h : Move name w es w') : w.sessions.length ≤ w'.sessions.length := by
  cases h with
  | aside hbeside => exact Nat.le_of_eq (congrArg List.length hbeside.sessions.symm)
  | asked => exact Nat.le_refl _
  | visited hfound hs hdoes => simp
  | started hfree hlaunch hdoes => simp
  | givenUp hfree hlaunch hwait hdoes => simp
  | removed hfound hs => simp

/-- What is registered under the name was registered before, or is a session that has come. -/
theorem Move.registers (h : Move name w es w') (hfound' : find? w' other = some handle) :
    find? w other = some handle ∨ w.sessions.length ≤ handle := by
  by_cases hother : other = name
  · subst hother
    cases h with
    | aside hbeside =>
      rw [find?, hbeside.registered] at hfound'
      exact .inl hfound'
    | asked => exact .inl hfound'
    | visited hfound hs hdoes => exact .inl hfound'
    | started hfree hlaunch hdoes =>
      rw [find?, lookup_register, if_pos rfl] at hfound'
      cases hfound'
      exact .inr (Nat.le_refl _)
    | givenUp hfree hlaunch hwait hdoes => exact .inl hfound'
    | removed hfound hs =>
      rw [find?, lookup_removeName, if_pos rfl] at hfound'
      cases hfound'
  · rw [h.find?_of_ne hother] at hfound'
    exact .inl hfound'

theorem Moves.registers (h : Moves name w es w') (hfound' : find? w' other = some handle) :
    find? w other = some handle ∨ w.sessions.length ≤ handle := by
  induction h with
  | nil => exact .inl hfound'
  | cons hmove _ ih =>
    rcases ih hfound' with hfound | hnew
    · exact hmove.registers hfound
    · exact .inr (Nat.le_trans hmove.length_le hnew)

/-- A session that is registered after work for the session of some settings was launched by them,
or it is as it was launched before. -/
theorem Moves.launched {settings : Settings} (h : Moves settings.sessionName w es w')
    (hsound : w.Sound) (hlaunches : Launches settings w w')
    (hfound : find? w' other = some handle) :
    ∃ s', w'.session? handle = some s' ∧
      ((other = settings.sessionName ∧ s'.LaunchedBy settings w'.machine) ∨
        find? w other = some handle ∧ ∃ s, w.session? handle = some s ∧ s.SameLaunch s') := by
  obtain ⟨s', hs', hname⟩ := (h.sound hsound) other handle hfound
  refine ⟨s', hs', ?_⟩
  rcases hlaunches.sessions handle s' hs' with ⟨s, hs, hsame⟩ | hlaunched
  · rcases h.registers hfound with hfound | hnew
    · exact .inr ⟨hfound, s, hs, hsame⟩
    · rw [session?, List.getElem?_eq_none hnew] at hs
      cases hs
  · exact .inl ⟨hname.symm.trans hlaunched.name,
      hlaunched.same ⟨rfl, rfl⟩ hlaunches.cwd hlaunches.environment⟩

/-! ## Leaving the registry -/

/-- A session that was ended and taken out is left alone. -/
theorem Move.retired (h : Move name w es w') (hretired : w.Retired handle) :
    w'.Retired handle := by
  obtain ⟨s, hs, hended⟩ := hretired.ended
  obtain ⟨hlt, -⟩ := List.getElem?_eq_some_iff.mp hs
  refine ⟨fun other hfound' => ?_, s, ?_, hended⟩
  · rcases h.registers hfound' with hfound | hnew
    · exact hretired.free other hfound
    · exact absurd hlt (Nat.not_lt.mpr hnew)
  · have hset {place : Nat} {u : Session} (hfound : find? w name = some place) :
        (w.sessions.set place u)[handle]? = some s := by
      have hplace : place ≠ handle := by
        rintro rfl
        exact hretired.free name hfound
      rw [List.getElem?_set_ne hplace]
      exact hs
    cases h with
    | aside hbeside => rwa [session?, hbeside.sessions]
    | asked => exact hs
    | visited hfound ht hdoes => exact hset hfound
    | started hfree hlaunch hdoes => exact getElem?_append_some hs
    | givenUp hfree hlaunch hwait hdoes => exact getElem?_append_some hs
    | removed hfound ht => exact hset hfound

theorem Moves.retired (h : Moves name w es w') (hretired : w.Retired handle) :
    w'.Retired handle := by
  induction h with
  | nil => exact hretired
  | cons hmove _ ih => exact ih (hmove.retired hretired)

/-- A session that is taken out of the registry has been ended. -/
theorem retired_removed (hsound : w.Sound) (hfound : find? w name = some handle)
    (hs : w.session? handle = some s) : (removed w name handle s).Retired handle where
  free other hfound' := by
    have hlookup : (removeName w.registered name).lookup other = some handle := hfound'
    rw [lookup_removeName] at hlookup
    split at hlookup
    · cases hlookup
    · next hne =>
      exact hne ((hsound.name_eq hlookup hs).symm.trans (hsound.name_eq hfound hs))
  ended := ⟨s.close, getElem?_set_self s.close hs, s.ended_close⟩

theorem Move.registered_or_retired (h : Move name w es w') (hsound : w.Sound)
    (hfound : find? w other = some handle) :
    find? w' other = some handle ∨ w'.Retired handle := by
  by_cases hother : other = name
  · subst hother
    cases h with
    | aside hbeside =>
      rw [find?, hbeside.registered]
      exact .inl hfound
    | asked => exact .inl hfound
    | visited hfound' hs hdoes => exact .inl hfound
    | started hfree hlaunch hdoes =>
      rw [hfree] at hfound
      cases hfound
    | givenUp hfree hlaunch hwait hdoes => exact .inl hfound
    | removed hfound' hs =>
      rw [hfound'] at hfound
      cases hfound
      exact .inr (retired_removed hsound hfound' hs)
  · rw [h.find?_of_ne hother]
    exact .inl hfound

theorem Moves.registered_or_retired (h : Moves name w es w') (hsound : w.Sound)
    (hfound : find? w other = some handle) :
    find? w' other = some handle ∨ w'.Retired handle := by
  induction h with
  | nil => exact .inl hfound
  | cons hmove hrest ih =>
    rcases hmove.registered_or_retired hsound hfound with hfound | hretired
    · exact ih (hmove.sound hsound) hfound
    · exact .inr (hrest.retired hretired)

/-! ## Between operations -/

theorem Meanwhile.find? (h : Meanwhile w w') (name : Text) :
    Registry.find? w' name = Registry.find? w name := by
  cases h <;> rfl

theorem Meanwhile.machine (h : Meanwhile w w') : w'.machine = w.machine := by
  cases h <;> rfl

/-- No session is launched between operations. -/
theorem Meanwhile.sameLaunch (h : Meanwhile w w') (hs' : w'.session? handle = some s') :
    ∃ s, w.session? handle = some s ∧ s.SameLaunch s' := by
  cases h with
  | exits ht =>
    rcases getElem?_set_some ht hs' with ⟨rfl, rfl⟩ | ⟨-, hs⟩
    · exact ⟨_, ht, rfl, rfl⟩
    · exact ⟨s', hs, rfl, rfl⟩
  | settles =>
    rw [session?_settle] at hs'
    obtain ⟨s, hs, rfl⟩ := Option.map_eq_some_iff.mp hs'
    exact ⟨s, hs, rfl, rfl⟩

theorem Meanwhile.retired (h : Meanwhile w w') (hretired : w.Retired handle) :
    w'.Retired handle where
  free name := by
    rw [h.find?]
    exact hretired.free name
  ended := by
    obtain ⟨s, hs, hended⟩ := hretired.ended
    cases h with
    | exits ht =>
      rename_i place t
      by_cases hplace : place = handle
      · subst hplace
        rw [hs] at ht
        cases ht
        exact ⟨_, getElem?_set_self _ hs, hended.closed, rfl, hended.released⟩
      · exact ⟨s, (List.getElem?_set_ne hplace).trans hs, hended⟩
    | settles =>
      refine ⟨{ s with process := s.process.settle }, ?_, hended.closed, hended.dead,
        hended.released⟩
      rw [session?_settle, hs]
      rfl

end World

end ReplDriver
