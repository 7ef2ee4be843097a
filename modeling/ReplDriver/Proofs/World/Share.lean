import ReplDriver.Proofs.World.Moves

/-!
# What belongs to a name

A name's share of the world is made up of the sessions that were started under the name, in order,
of the place among them of the one that is registered, and of how many processes were asked for.
Moves for one name change neither the share of any other name nor anything else that work under
another name depends on.

* `World.Moves.elsewhere`: what moves for one name leave alone.
-/

namespace ReplDriver

/-! ## Selected entries -/

section
variable {α : Type} {p : α → Bool} {l : List α} {i : Nat} {a b : α}

theorem getElem?_split (h : l[i]? = some a) :
    ∃ before after, l = before ++ a :: after ∧ before.length = i := by
  obtain ⟨hlt, rfl⟩ := List.getElem?_eq_some_iff.mp h
  refine ⟨l.take i, l.drop (i + 1), ?_, List.length_take_of_le (Nat.le_of_lt hlt)⟩
  rw [List.getElem_cons_drop, List.take_append_drop]

/-- The place of a selected entry among those that are selected. -/
theorem getElem?_filter (h : l[i]? = some a) (ha : p a) :
    (l.filter p)[((l.take i).filter p).length]? = some a := by
  obtain ⟨before, after, rfl, rfl⟩ := getElem?_split h
  simp [ha]

/-- Changing a selected entry changes it among those that are selected. -/
theorem filter_set (h : l[i]? = some a) (ha : p a) (hb : p b) :
    (l.set i b).filter p = (l.filter p).set ((l.take i).filter p).length b := by
  obtain ⟨before, after, rfl, rfl⟩ := getElem?_split h
  simp [ha, hb]

/-- Changing an entry that is not selected changes nothing among those that are. -/
theorem filter_set_of_not (h : ∀ a, l[i]? = some a → p a = false) (hb : p b = false) :
    (l.set i b).filter p = l.filter p := by
  rcases hi : l[i]? with _ | a
  · rw [List.set_eq_of_length_le (List.getElem?_eq_none_iff.mp hi)]
  · obtain ⟨before, after, rfl, rfl⟩ := getElem?_split hi
    simp [h a hi, hb]

end

/-! ## Shares -/

/-- A name's share of the world: the sessions that were started under it, which of them is
registered, and how many processes were asked for. -/
structure Share where
  started : List Session
  place : Option Nat
  asked : Nat

namespace World

/-- The sessions that were started under a name. -/
def started (w : World) (name : Text) : List Session := w.sessions.filter fun s => s.name == name

/-- How many sessions were started under a name before one of them. -/
def rank (w : World) (name : Text) (handle : Nat) : Nat :=
  ((w.sessions.take handle).filter fun s => s.name == name).length

/-- A name's share of the world. -/
def share (w : World) (name : Text) : Share where
  started := w.started name
  place := (Registry.find? w name).map (w.rank name)
  asked := w.requested.count name

variable {name other : Text} {w v : World} {handle : Nat} {s t : Session}

theorem rank_beside (h : Beside w v) : v.rank name handle = w.rank name handle := by
  rw [rank, rank, h.sessions]

theorem share_beside (h : Beside w v) (name : Text) : v.share name = w.share name := by
  unfold share started rank Registry.find?
  rw [h.registered, h.sessions, h.requested]

/-- What is registered under a name is found in its share. -/
theorem started_rank (hs : w.session? handle = some s) (hname : s.name = name) :
    (w.started name)[w.rank name handle]? = some s :=
  getElem?_filter hs (by simpa using hname)

/-- In a sound world, the session that is registered under a name has that name. -/
theorem Sound.name_eq (h : w.Sound) (hfound : Registry.find? w name = some handle)
    (hs : w.session? handle = some s) : s.name = name := by
  obtain ⟨u, hu, hname⟩ := h name handle hfound
  rw [hs] at hu
  cases hu
  exact hname

/-- In a sound world, only sessions that were started are registered. -/
theorem Sound.lt (h : w.Sound) (hfound : Registry.find? w name = some handle) :
    handle < w.sessions.length := by
  obtain ⟨u, hu, -⟩ := h name handle hfound
  exact (List.getElem?_eq_some_iff.mp hu).1

/-! ### A session that changes -/

theorem started_set (clock : Clock) (hs : w.session? handle = some s) (hname : s.name = name)
    (ht : t.name = s.name) :
    ({ w with sessions := w.sessions.set handle t, clock } : World).started name =
      (w.started name).set (w.rank name handle) t :=
  filter_set hs (by simpa using hname) (by simpa using ht.trans hname)

theorem rank_set (clock : Clock) (name : Text) :
    ({ w with sessions := w.sessions.set handle t, clock } : World).rank name handle =
      w.rank name handle := by
  show (((w.sessions.set handle t).take handle).filter _).length = _
  rw [List.take_set_of_le (Nat.le_refl handle)]
  rfl

/-- A session that changes is no part of the share of any other name. -/
theorem share_set_of_ne (clock : Clock) (hs : w.session? handle = some s) (ht : t.name = s.name)
    (hne : other ≠ s.name) :
    ({ w with sessions := w.sessions.set handle t, clock } : World).share other =
      w.share other := by
  have hold (u : Session) (hu : w.session? handle = some u) : (u.name == other) = false := by
    rw [hs] at hu
    cases hu
    simpa using Ne.symm hne
  have hnew : (t.name == other) = false := by simpa [ht] using Ne.symm hne
  -- wherever the list is cut, what has changed is not counted
  have hrank : ({ w with sessions := w.sessions.set handle t, clock } : World).rank other =
      w.rank other := by
    funext place
    unfold rank
    rw [List.take_set]
    refine congrArg List.length (filter_set_of_not (fun u hu => ?_) hnew)
    rw [List.getElem?_take] at hu
    split at hu
    · exact hold u hu
    · cases hu
  have hstarted : ({ w with sessions := w.sessions.set handle t, clock } : World).started other =
      w.started other := filter_set_of_not hold hnew
  rw [share, hrank, hstarted]
  rfl

/-! ### A session that comes -/

theorem started_append (clock : Clock) (hname : s.name = name) :
    ({ w with sessions := w.sessions ++ [s], clock } : World).started name =
      w.started name ++ [s] := by
  show (w.sessions ++ [s]).filter _ = _
  rw [List.filter_append, List.filter_cons_of_pos (by simpa using hname)]
  rfl

theorem rank_append (clock : Clock) (s : Session) (name : Text) (h : handle ≤ w.sessions.length) :
    ({ w with sessions := w.sessions ++ [s], clock } : World).rank name handle =
      w.rank name handle := by
  show (((w.sessions ++ [s]).take handle).filter _).length = _
  rw [List.take_append_of_le_length h]
  rfl

/-- The last session that has come under a name is the last of its share. -/
theorem rank_length (w : World) (name : Text) :
    w.rank name w.sessions.length = (w.started name).length := by
  rw [rank, List.take_length]
  rfl

theorem place_append (hsound : w.Sound) (clock : Clock) (s : Session) (name : Text) :
    (Registry.find? w name).map
        (({ w with sessions := w.sessions ++ [s], clock } : World).rank name) =
      (Registry.find? w name).map (w.rank name) := by
  rcases hfound : Registry.find? w name with _ | handle
  · rfl
  · rw [Option.map_some, Option.map_some,
      rank_append clock s name (Nat.le_of_lt (hsound.lt hfound))]

/-- A session that comes is no part of the share of any other name. -/
theorem share_append_of_ne (hsound : w.Sound) (clock : Clock) (hne : other ≠ s.name) :
    ({ w with sessions := w.sessions ++ [s], clock } : World).share other = w.share other := by
  have hstarted : ({ w with sessions := w.sessions ++ [s], clock } : World).started other =
      w.started other := by
    show (w.sessions ++ [s]).filter _ = _
    rw [List.filter_append, List.filter_cons_of_neg (by simpa using Ne.symm hne),
      List.filter_nil, List.append_nil]
    rfl
  have hplace := place_append hsound clock s other
  rw [share, hstarted]
  show Share.mk _ ((Registry.find? w other).map _) _ = _
  rw [hplace]
  rfl

end World

namespace Registry

open World

variable {name other : Text} {w : World} {handle : Nat} {s : Session}

/-- Taking a session out of the registry leaves the shares of all other names. -/
theorem share_removed_of_ne (hs : w.session? handle = some s) (hname : s.name = name)
    (hne : other ≠ name) : (removed w name handle s).share other = w.share other := by
  have hset := share_set_of_ne (t := s.close) w.clock hs rfl (by rwa [hname])
  rw [← hset]
  show Share.mk _ (((removeName w.registered name).lookup other).map _) _ = _
  rw [lookup_removeName, if_neg hne]
  rfl

/-- The world in which a session has been registered under a name. -/
def withRegistered (w : World) (name : Text) (handle : Nat) : World :=
  { w with registered := removeName w.registered name ++ [(name, handle)] }

theorem find?_withRegistered (w : World) (name : Text) (handle : Nat) :
    find? (withRegistered w name handle) name = some handle :=
  (lookup_register _ _ _ _).trans (if_pos rfl)

/-- Registering a session leaves the shares of all other names. -/
theorem share_withRegistered_of_ne (w : World) (handle : Nat) (hne : other ≠ name) :
    (withRegistered w name handle).share other = w.share other := by
  show Share.mk _ (((removeName w.registered name ++ [(name, handle)]).lookup other).map _) _ = _
  rw [lookup_register, if_neg hne]
  rfl

end Registry

namespace World

/-! ## Elsewhere -/

/-- Nothing has changed that concerns any other name. -/
structure Elsewhere (name : Text) (w w' : World) : Prop where
  share : ∀ other, other ≠ name → w'.share other = w.share other
  launch : w'.launch = w.launch
  journal : w'.journal = w.journal
  cwd : w'.machine.cwd = w.machine.cwd
  environment : w'.machine.environment = w.machine.environment
  shell : w'.machine.shell = w.machine.shell
  files : w.journal.file = none → w'.machine.files = w.machine.files

theorem Elsewhere.refl (name : Text) (w : World) : Elsewhere name w w :=
  ⟨fun _ _ => rfl, rfl, rfl, rfl, rfl, rfl, fun _ => rfl⟩

theorem Elsewhere.trans {name : Text} {w w' w'' : World} (h : Elsewhere name w w')
    (h' : Elsewhere name w' w'') : Elsewhere name w w'' where
  share other hne := (h'.share other hne).trans (h.share other hne)
  launch := h'.launch.trans h.launch
  journal := h'.journal.trans h.journal
  cwd := h'.cwd.trans h.cwd
  environment := h'.environment.trans h.environment
  shell := h'.shell.trans h.shell
  files hfile := (h'.files (by rw [h.journal, hfile])).trans (h.files hfile)

theorem Beside.elsewhere {w w' : World} (h : Beside w w') (name : Text) : Elsewhere name w w' where
  share other _ := share_beside h other
  launch := h.launch
  journal := h.journal
  cwd := h.cwd
  environment := h.environment
  shell := h.shell
  files := h.files

/-- A move for one name leaves all other names alone. -/
theorem Move.elsewhere {name : Text} {w w' : World} {es : List Entry} (h : Move name w es w')
    (hsound : w.Sound) : Elsewhere name w w' := by
  cases h with
  | aside hbeside => exact hbeside.elsewhere name
  | asked =>
    exact { Elsewhere.refl name w with
      share := fun other hne => by
        show Share.mk _ _ ((name :: w.requested).count other) = _
        rw [List.count_cons_of_ne (Ne.symm hne)]
        rfl }
  | visited hfound hs hdoes =>
    exact { Elsewhere.refl name w with
      share := fun other hne =>
        share_set_of_ne _ hs hdoes.name (by rwa [hsound.name_eq hfound hs]) }
  | started hfree hlaunch hdoes =>
    rename_i n b executable launched chunks d
    have hname : d.session.name = name := hdoes.name
    -- the session comes first, and is then registered
    exact { Elsewhere.refl name w with
      share := fun other hne => by
        have happend := share_append_of_ne hsound d.clock (s := d.session) (by rwa [hname])
        rw [← happend]
        exact Registry.share_withRegistered_of_ne
          { w with sessions := w.sessions ++ [d.session], clock := d.clock } w.sessions.length hne }
  | givenUp hfree hlaunch hwait hdoes =>
    rename_i n b executable launched rules f chunks d
    have hname : d.session.name = name := hdoes.name
    exact { Elsewhere.refl name w with
      share := fun other hne => share_append_of_ne hsound d.clock (by rwa [hname]) }
  | removed hfound hs =>
    exact { Elsewhere.refl name w with
      share := fun other hne => Registry.share_removed_of_ne hs (hsound.name_eq hfound hs) hne }

theorem Moves.elsewhere {name : Text} {w w' : World} {es : List Entry} (h : Moves name w es w')
    (hsound : w.Sound) : Elsewhere name w w' := by
  induction h with
  | nil w => exact .refl name w
  | cons hmove _ ih => exact (hmove.elsewhere hsound).trans (ih (hmove.sound hsound))

end World

end ReplDriver
