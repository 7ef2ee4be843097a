import ReplDriver.Proofs.Session.Timeless
import ReplDriver.Proofs.World.Share

/-!
# Worlds that are alike for a name

What is done for the session of one name depends on little: the name's share of the world, the
processes that can be started for it, and the machine. Two worlds that agree on these are alike for
the name, and operations on the registry end alike in them, whatever else there is, whatever the
time is, and whatever numbers the sessions have.

* `World.Alike.atDesk`: so does work at the desk of the registered session.
* `Registry.paired_getOrStart`: so does starting the session.
-/

namespace ReplDriver

namespace World

/-- A sound world in which times are exact, and notes go to no file. -/
structure Timely (w : World) : Prop where
  sound : w.Sound
  clock : ∃ q, w.clock = .exactly q
  journal : w.journal.file = none
  launch : ∀ name n b, w.launch name n = .runs b → b.Timely
  processes : ∀ s ∈ w.sessions, s.process.Timely

/-- Two such worlds agree on everything that work for the session of one name depends on. -/
structure Alike (name : Text) (w w' : World) : Prop where
  left : w.Timely
  right : w'.Timely
  share : w'.share name = w.share name
  launch : w'.launch name = w.launch name
  files : w'.machine.files = w.machine.files
  cwd : w'.machine.cwd = w.machine.cwd
  environment : w'.machine.environment = w.machine.environment
  shell : w'.machine.shell = w.machine.shell

section
variable {name : Text} {w w' v v' : World}

theorem Timely.beside (h : w.Timely) (hbeside : Beside w v) : v.Timely where
  sound := h.sound.beside hbeside
  clock := by rw [hbeside.clock]; exact h.clock
  journal := by rw [hbeside.journal]; exact h.journal
  launch := by rw [hbeside.launch]; exact h.launch
  processes := by rw [hbeside.sessions]; exact h.processes

/-- Notes and commands make no difference. -/
theorem Alike.beside (h : Alike name w w') (hbeside : Beside w v) (hbeside' : Beside w' v') :
    Alike name v v' where
  left := h.left.beside hbeside
  right := h.right.beside hbeside'
  share := by rw [share_beside hbeside, share_beside hbeside', h.share]
  launch := by rw [hbeside.launch, hbeside'.launch, h.launch]
  files := by rw [hbeside.files h.left.journal, hbeside'.files h.right.journal, h.files]
  cwd := by rw [hbeside.cwd, hbeside'.cwd, h.cwd]
  environment := by rw [hbeside.environment, hbeside'.environment, h.environment]
  shell := by rw [hbeside.shell, hbeside'.shell, h.shell]

/-- What concerns no other name keeps worlds alike for all other names. -/
theorem Elsewhere.alike {other : Text} (h : Elsewhere other w v) (hv : v.Timely)
    (hlike : Alike name w w') (hne : name ≠ other) : Alike name v w' where
  left := hv
  right := hlike.right
  share := by rw [h.share name hne, hlike.share]
  launch := by rw [h.launch, hlike.launch]
  files := by rw [h.files hlike.left.journal, hlike.files]
  cwd := by rw [h.cwd, hlike.cwd]
  environment := by rw [h.environment, hlike.environment]
  shell := by rw [h.shell, hlike.shell]

theorem Alike.started (h : Alike name w w') : w'.started name = w.started name :=
  congrArg Share.started h.share

theorem Alike.asked (h : Alike name w w') : w'.requested.count name = w.requested.count name :=
  congrArg Share.asked h.share

/-- What is registered in both worlds has the same place in the share of the name. -/
theorem Alike.rank {handle handle' : Nat} (h : Alike name w w')
    (hfound : Registry.find? w name = some handle)
    (hfound' : Registry.find? w' name = some handle') :
    w'.rank name handle' = w.rank name handle := by
  have hplace : (Registry.find? w' name).map (w'.rank name) =
      (Registry.find? w name).map (w.rank name) := congrArg Share.place h.share
  rw [hfound, hfound', Option.map_some, Option.map_some, Option.some.injEq] at hplace
  exact hplace

/-- In worlds that are alike, nothing is registered under the name, or the same session is. -/
theorem Alike.find (h : Alike name w w') :
    (Registry.find? w name = none ∧ Registry.find? w' name = none) ∨
      ∃ handle handle' s, Registry.find? w name = some handle ∧
        Registry.find? w' name = some handle' ∧ w.session? handle = some s ∧
          w'.session? handle' = some s ∧ s.name = name ∧ s.process.Timely := by
  have hplace : (Registry.find? w' name).map (w'.rank name) =
      (Registry.find? w name).map (w.rank name) := congrArg Share.place h.share
  rcases hfound : Registry.find? w name with _ | handle <;>
    rcases hfound' : Registry.find? w' name with _ | handle' <;> rw [hfound, hfound'] at hplace
  · exact .inl ⟨rfl, rfl⟩
  · cases hplace
  · cases hplace
  · obtain ⟨s, hs, hname⟩ := h.left.sound name handle hfound
    obtain ⟨s', hs', hname'⟩ := h.right.sound name handle' hfound'
    have hsame := started_rank hs' hname'
    rw [h.started, h.rank hfound hfound', started_rank hs hname] at hsame
    cases hsame
    exact .inr ⟨handle, handle', s, rfl, rfl, hs, hs', hname,
      h.left.processes s (List.mem_of_getElem? hs)⟩

/-- What is registered in both worlds is the same session. -/
theorem Alike.registered {handle handle' : Nat} (h : Alike name w w')
    (hfound : Registry.find? w name = some handle)
    (hfound' : Registry.find? w' name = some handle') :
    ∃ s, w.session? handle = some s ∧ w'.session? handle' = some s ∧ s.name = name ∧
      s.process.Timely := by
  obtain ⟨hnone, -⟩ | ⟨h₁, h₂, s, hf₁, hf₂, hrest⟩ := h.find
  · rw [hfound] at hnone
    cases hnone
  · rw [hfound] at hf₁
    rw [hfound'] at hf₂
    cases hf₁
    cases hf₂
    exact ⟨s, hrest⟩

/-! ## Changes that keep worlds alike -/

/-- Changing a session leaves times exact. -/
theorem Timely.set (h : w.Timely) {handle : Nat} {s t : Session} (q : Rat)
    (hs : w.session? handle = some s) (hname : t.name = s.name) (ht : t.process.Timely) :
    Timely { w with sessions := w.sessions.set handle t, clock := .exactly q } where
  sound := h.sound.set _ hs hname
  clock := ⟨q, rfl⟩
  journal := h.journal
  launch := h.launch
  processes u hu := by
    obtain hold | rfl := List.mem_or_eq_of_mem_set hu
    · exact h.processes u hold
    · exact ht

/-- Between operations, times stay exact. -/
theorem Timely.meanwhile (h : w.Timely) (hw : Meanwhile w v) : v.Timely := by
  cases hw with
  | @exits handle s hs =>
    obtain ⟨q, hclock⟩ := h.clock
    have hprocess := h.processes s (List.mem_of_getElem? hs)
    have hset := h.set (t := { s with process := s.process.kill }) q hs rfl
      ⟨hprocess.queue, hprocess.behaviour⟩
    rwa [← hclock] at hset
  | settles =>
    refine ⟨Meanwhile.settles.sound h.sound, h.clock, h.journal, h.launch, fun t ht => ?_⟩
    obtain ⟨s, hs, rfl⟩ := List.mem_map.mp ht
    have hprocess := h.processes s hs
    exact ⟨hprocess.queue, hprocess.behaviour⟩

/-- Changing the session that is registered in both worlds keeps them alike. -/
theorem Alike.set (h : Alike name w w') {handle handle' : Nat} {s t : Session} (q q' : Rat)
    (hfound : Registry.find? w name = some handle)
    (hfound' : Registry.find? w' name = some handle') (hs : w.session? handle = some s)
    (hs' : w'.session? handle' = some s) (hname : t.name = s.name) (ht : t.process.Timely) :
    Alike name { w with sessions := w.sessions.set handle t, clock := .exactly q }
      { w' with sessions := w'.sessions.set handle' t, clock := .exactly q' } :=
  { h with
    left := h.left.set q hs hname ht
    right := h.right.set q' hs' hname ht
    share := by
      have hsname := h.left.sound.name_eq hfound hs
      show Share.mk _ ((Registry.find? w' name).map _) (w'.requested.count name) =
        Share.mk _ ((Registry.find? w name).map _) (w.requested.count name)
      rw [started_set _ hs hsname hname, started_set _ hs' hsname hname, h.started,
        h.rank hfound hfound', hfound, hfound', Option.map_some, Option.map_some, rank_set,
        rank_set, h.rank hfound hfound', h.asked] }

/-- Work at the desk of the registered session ends alike in worlds that are alike, if it does the
same at any time. -/
theorem Alike.atDesk {α : Type} {act : Op Desk α} {handle handle' : Nat} (h : Alike name w w')
    (hfound : Registry.find? w name = some handle)
    (hfound' : Registry.find? w' name = some handle')
    (hact : ∀ s, s.process.Timely → Desk.Timeless act s)
    (hname : ∀ d, (act d).2.session.name = d.session.name) :
    Op.Paired (Alike name)
      (fun a b v v' => a = b ∧ Registry.find? v name = some handle ∧
        Registry.find? v' name = some handle')
      (atDesk handle act w) (atDesk handle' act w') := by
  obtain ⟨s, hs, hs', hsname, htimely⟩ := h.registered hfound hfound'
  obtain ⟨q, hclock⟩ := h.left.clock
  obtain ⟨q', hclock'⟩ := h.right.clock
  obtain ⟨outcome, t, ε, more, ht, hsame⟩ := hact s htimely
  have hdesk : act (w.desk s) = (outcome, ⟨t, .exactly (q + ε), more ++ []⟩) := by
    rw [desk, hclock, hsame]
  have hdesk' : act (w'.desk s) = (outcome, ⟨t, .exactly (q' + ε), more ++ []⟩) := by
    rw [desk, hclock', hsame]
  have htname : t.name = s.name := by
    have hkept := hname (w.desk s)
    rw [hdesk] at hkept
    exact hkept
  have hbeside := beside_leaveDesk w handle ⟨t, .exactly (q + ε), more ++ []⟩
  have hbeside' := beside_leaveDesk w' handle' ⟨t, .exactly (q' + ε), more ++ []⟩
  have hset := h.set (q + ε) (q' + ε) hfound hfound' hs hs' htname ht
  have hleft := hset.beside hbeside hbeside'
  have hkept : Registry.find? (w.leaveDesk handle ⟨t, .exactly (q + ε), more ++ []⟩) name =
      some handle := by
    rw [Registry.find?, hbeside.registered]
    exact hfound
  have hkept' : Registry.find? (w'.leaveDesk handle' ⟨t, .exactly (q' + ε), more ++ []⟩) name =
      some handle' := by
    rw [Registry.find?, hbeside'.registered]
    exact hfound'
  rw [atDesk_eq hs, atDesk_eq hs', hdesk, hdesk']
  cases outcome with
  | ok a => exact .ok hleft ⟨rfl, hkept, hkept'⟩
  | error f => exact .error hleft f

/-- Taking a note makes no difference. -/
theorem Alike.note (h : Alike name w w') (n n' : Note) :
    Op.Paired (Alike name) (fun _ _ _ _ => True) (note n w) (note n' w') :=
  .ok (h.beside (beside_record w n) (beside_record w' n')) trivial

end

end World

/-! ## The registry -/

namespace Registry

open World

variable {name : Text} {w w' : World}

theorem timely_removed (h : w.Timely) {handle : Nat} {s : Session}
    (hfound : find? w name = some handle) (hs : w.session? handle = some s) :
    (removed w name handle s).Timely where
  sound := Move.sound (.removed hfound hs) h.sound
  clock := h.clock
  journal := h.journal
  launch := h.launch
  processes t ht := by
    obtain hold | rfl := List.mem_or_eq_of_mem_set ht
    · exact h.processes t hold
    · have hprocess := h.processes s (List.mem_of_getElem? hs)
      exact ⟨hprocess.queue, hprocess.behaviour⟩

/-- Taking the session that is registered in both worlds out keeps them alike. -/
theorem alike_removed (h : Alike name w w') {handle handle' : Nat} {s : Session}
    (hfound : find? w name = some handle) (hfound' : find? w' name = some handle')
    (hs : w.session? handle = some s) (hs' : w'.session? handle' = some s) :
    Alike name (removed w name handle s) (removed w' name handle' s) :=
  { h with
    left := timely_removed h.left hfound hs
    right := timely_removed h.right hfound' hs'
    share := by
      -- the session is closed in its place among those that were started under the name
      have hname := h.left.sound.name_eq hfound hs
      have hstarted := started_set (t := s.close) w.clock hs hname rfl
      have hstarted' := started_set (t := s.close) w'.clock hs' hname rfl
      rw [h.started, h.rank hfound hfound', ← hstarted] at hstarted'
      show Share.mk _ ((find? (removed w' name handle' s) name).map _) (w'.requested.count name) =
        Share.mk _ ((find? (removed w name handle s) name).map _) (w.requested.count name)
      rw [find?_removed, find?_removed, h.asked]
      exact congrArg (fun l => Share.mk l none _) hstarted' }

/-- Removing the name ends alike. -/
theorem paired_remove (h : Alike name w w') :
    Op.Paired (Alike name)
      (fun _ _ v v' => find? v name = none ∧ find? v' name = none)
      (remove name w) (remove name w') := by
  obtain ⟨hnone, hnone'⟩ | ⟨handle, handle', s, hfound, hfound', hs, hs', hname, htimely⟩ := h.find
  · rw [remove_none hnone, remove_none hnone']
    exact .ok h ⟨hnone, hnone'⟩
  · obtain ⟨v, hremove, hbeside⟩ := remove_some hfound hs
    obtain ⟨v', hremove', hbeside'⟩ := remove_some hfound' hs'
    have hremoved := alike_removed h hfound hfound' hs hs'
    rw [hremove, hremove']
    refine .ok (hremoved.beside hbeside hbeside') ⟨?_, ?_⟩
    · rw [find?, hbeside.registered]
      exact find?_removed w name handle s
    · rw [find?, hbeside'.registered]
      exact find?_removed w' name handle' s

/-- Two numbers are those of what is registered under the name, in the one world and in the
other. -/
def Registered (name : Text) (found found' : Option Nat) (w w' : World) : Prop :=
  find? w name = found ∧ find? w' name = found' ∧ (found = none ↔ found' = none)

/-- Asking for the live session ends alike. -/
theorem paired_get? (h : Alike name w w') :
    Op.Paired (Alike name) (Registered name) (get? name w) (get? name w') := by
  rw [get?, Op.get_bind, Op.get_bind]
  obtain ⟨hnone, hnone'⟩ | ⟨handle, handle', s, hfound, hfound', hs, hs', -⟩ := h.find
  · rw [hnone, hnone']
    exact .ok h ⟨hnone, hnone', Iff.rfl⟩
  · simp only [hfound, hfound', hs, hs', Option.any_some]
    -- the same session is registered in both, so it has exited in both or in neither
    split
    · exact .ok h ⟨hfound, hfound', by simp⟩
    · refine .bind (h.note _ _) fun _ _ v v' hv _ => .bind (paired_remove hv) ?_
      rintro _ _ u u' hu ⟨hfree, hfree'⟩
      exact .ok hu ⟨hfree, hfree', Iff.rfl⟩

end Registry

/-! ## Starting a session -/

/-- What comes of looking a version up depends on the machine alone, but not on the commands that
it has run. -/
theorem Launch.findVersion_outcome {m m' : Machine} (version : Text) (directory : Option Text)
    (hfiles : m'.files = m.files) (hcwd : m'.cwd = m.cwd)
    (henvironment : m'.environment = m.environment) (hshell : m'.shell = m.shell) :
    (findVersion version directory m').1 = (findVersion version directory m).1 := by
  have hfile (path : Text) : m'.isFile path = m.isFile path := by
    rw [Machine.isFile, Machine.isFile, hfiles, hcwd]
  rw [findVersion, Op.get_bind, Op.get_bind, henvironment, hshell, hfile]
  by_cases hmissing : (!m.isFile
      (Path.joinText (managerDirectory directory m.environment) "nvm.sh")) = true
  · rw [if_pos hmissing, if_pos hmissing]
    rfl
  · rw [if_neg hmissing, if_neg hmissing]
    simp only
    rw [Op.set_bind, Op.set_bind]
    rcases m.shell _ with _ | ⟨status, output, errors⟩
    · rfl
    · simp only
      rcases status == 0 with _ | _
      · rfl
      · rcases lastLine? output with _ | path <;> rfl

theorem Launch.resolve_outcome {m m' : Machine} (e : Settings.Executable)
    (hfiles : m'.files = m.files) (hcwd : m'.cwd = m.cwd)
    (henvironment : m'.environment = m.environment) (hshell : m'.shell = m.shell) :
    (resolve e m').1 = (resolve e m).1 := by
  cases e with
  | literal path => rfl
  | version v =>
    have hfind := findVersion_outcome v none hfiles hcwd henvironment hshell
    show ((findVersion v none >>= fun found => Op.ofExcept (named (some found))) m').1 =
      ((findVersion v none >>= fun found => Op.ofExcept (named (some found))) m).1
    rcases hfound : findVersion v none m with ⟨f | path, n⟩ <;>
      rcases hfound' : findVersion v none m' with ⟨f' | path', n'⟩ <;> rw [hfound, hfound'] at hfind
    · rw [Op.bind_error hfound, Op.bind_error hfound']
      exact hfind
    · cases hfind
    · cases hfind
    · cases hfind
      rw [Op.bind_ok hfound, Op.bind_ok hfound']
      rfl

namespace World

variable {name : Text} {w w' : World}

/-- Finding the program ends alike. -/
theorem Alike.resolve (h : Alike name w w') (e : Settings.Executable) :
    Op.Paired (Alike name) (fun a b v v' => a = b ∧ Beside w v ∧ Beside w' v')
      (onMachine (Launch.resolve e) w) (onMachine (Launch.resolve e) w') := by
  have houtcome := Launch.resolve_outcome e h.files h.cwd h.environment h.shell
  have hbeside := beside_resolve e w
  have hbeside' := beside_resolve e w'
  have hlike := h.beside hbeside hbeside'
  unfold onMachine Op.zoom at hbeside hbeside' hlike ⊢
  rcases hresolve : Launch.resolve e w.machine with ⟨outcome, m⟩
  rcases hresolve' : Launch.resolve e w'.machine with ⟨outcome', m'⟩
  rw [hresolve, hresolve'] at houtcome hlike
  rw [hresolve] at hbeside
  rw [hresolve'] at hbeside'
  cases houtcome
  cases outcome with
  | error f => exact .error hlike f
  | ok executable => exact .ok hlike ⟨rfl, hbeside, hbeside'⟩

/-- A new session that is not registered leaves times exact. -/
theorem Timely.append (h : w.Timely) {s : Session} (hs : s.process.Timely) (q : Rat) :
    Timely { w with sessions := w.sessions ++ [s], clock := .exactly q } where
  sound other handle hfound := by
    obtain ⟨u, hu, hname⟩ := h.sound other handle hfound
    exact ⟨u, getElem?_append_some hu, hname⟩
  clock := ⟨q, rfl⟩
  journal := h.journal
  launch := h.launch
  processes t ht := by
    obtain hold | hnew := List.mem_append.mp ht
    · exact h.processes t hold
    · rw [List.mem_singleton.mp hnew]
      exact hs

/-- The same new session keeps worlds alike. -/
theorem Alike.append (h : Alike name w w') {s : Session} (hname : s.name = name)
    (hs : s.process.Timely) (q q' : Rat) :
    Alike name { w with sessions := w.sessions ++ [s], clock := .exactly q }
      { w' with sessions := w'.sessions ++ [s], clock := .exactly q' } :=
  { h with
    left := h.left.append hs q
    right := h.right.append hs q'
    share := by
      have hplace : (Registry.find? w' name).map (w'.rank name) =
          (Registry.find? w name).map (w.rank name) := congrArg Share.place h.share
      show Share.mk _ ((Registry.find? w' name).map _) (w'.requested.count name) =
        Share.mk _ ((Registry.find? w name).map _) (w.requested.count name)
      rw [started_append _ hname, started_append _ hname, place_append h.left.sound,
        place_append h.right.sound, h.started, hplace, h.asked] }

/-- In two worlds nothing is registered under a name, but they have the same new session. -/
def SameNewcomer (name : Text) (handle handle' : Nat) (w w' : World) : Prop :=
  w'.rank name handle' = w.rank name handle ∧
    ∃ s, w.session? handle = some s ∧ w'.session? handle' = some s ∧ s.name = name ∧
      s.process.Timely

/-- Waiting for the first prompt of a new session ends alike. -/
theorem Alike.welcome (h : Alike name w w') {rules : ReplyRules} {τ : Rat}
    (hrules : rules.interval = .finite τ) {s : Session} (hname : s.name = name)
    (hs : s.process.Timely) :
    Op.Paired (Alike name) (SameNewcomer name) (welcome rules s w) (welcome rules s w') := by
  obtain ⟨q, hclock⟩ := h.left.clock
  obtain ⟨q', hclock'⟩ := h.right.clock
  -- the wait comes to the same at any time, so at the times of both worlds
  obtain ⟨outcome, t, ε, more, ht, hsame⟩ :=
    Desk.timeless_run hrules hs [] (Terminal.hasPrompt rules.prompt) true
  have hwait (q : Rat) : Desk.awaitPrompt rules true ⟨s, .exactly q, []⟩ =
    (outcome, ⟨t, .exactly (q + ε), more ++ []⟩) := hsame q []
  have htname : t.name = name := by
    obtain ⟨es, hdoes, -⟩ := Desk.traced_call rules (.awaitPrompt true) ⟨s, .exactly q, []⟩
    rw [show Call.run rules (.awaitPrompt true) _ = _ from hwait q] at hdoes
    exact hdoes.name.trans hname
  have hbeside := beside_withNewcomer w ⟨t, .exactly (q + ε), more ++ []⟩
  have hbeside' := beside_withNewcomer w' ⟨t, .exactly (q' + ε), more ++ []⟩
  have hlike := (h.append htname ht (q + ε) (q' + ε)).beside hbeside hbeside'
  rw [welcome_apply, welcome_apply, desk, desk, hclock, hclock', hwait, hwait]
  cases outcome with
  | error f => exact .error hlike f
  | ok o =>
    -- in both worlds, the new session comes after all that were started under the name
    have hlast {u v : World} {r : Rat}
        (hv : Beside { u with sessions := u.sessions ++ [t], clock := .exactly r } v) :
        v.rank name u.sessions.length = (u.started name).length := by
      rw [rank_beside hv, rank_append _ t name (Nat.le_refl _), rank_length]
    refine .ok hlike ⟨?_, t, ?_, ?_, htname, ht⟩
    · exact (hlast hbeside').trans ((congrArg List.length h.started).trans (hlast hbeside).symm)
    · rw [session?, hbeside.sessions]
      exact List.getElem?_concat_length
    · rw [session?, hbeside'.sessions]
      exact List.getElem?_concat_length

/-- Asking for one more process keeps worlds alike. -/
theorem Alike.ask (h : Alike name w w') :
    Alike name { w with requested := name :: w.requested }
      { w' with requested := name :: w'.requested } :=
  { h with
    left := { h.left with }
    right := { h.right with }
    share := by
      show Share.mk (w'.started name) _ _ = Share.mk (w.started name) _ _
      have hplace : (Registry.find? w' name).map (w'.rank name) =
          (Registry.find? w name).map (w.rank name) := congrArg Share.place h.share
      rw [List.count_cons_self, List.count_cons_self, h.asked, h.started]
      exact congrArg (fun place => Share.mk _ place _) hplace }

/-- Starting a session ends alike. -/
theorem Alike.start (h : Alike name w w') {settings : Settings} {τ : Rat}
    (hinterval : settings.pollInterval = .finite τ) :
    Op.Paired (Alike name) (SameNewcomer name) (startSession name settings true w)
      (startSession name settings true w') := by
  refine .bind (h.resolve settings.executable) ?_
  rintro executable _ v v' hv ⟨rfl, hbeside, hbeside'⟩
  have hnote (u : World) : World.note (.starting name executable) u =
      (.ok (), u.record (.starting name executable)) := rfl
  rw [Op.get_bind, Op.get_bind, Op.bind_ok (hnote v), Op.bind_ok (hnote v'), Op.modify_bind,
    Op.modify_bind, hv.launch, hv.asked, hv.cwd, hv.environment]
  -- as many processes were asked for in both, so the next one is the same
  have hnoted := beside_record v (.starting name executable)
  have hnoted' := beside_record v' (.starting name executable)
  have hasked := (hv.beside hnoted hnoted').ask
  rcases hlaunch : v.launch name (v.requested.count name) with b | why
  · have hrules : (startRules settings).interval = .finite τ := hinterval
    exact hasked.welcome hrules rfl
      (Process.only_start _ (hv.left.launch _ _ _ hlaunch))
  · exact .error hasked _

end World

namespace Registry

open World

variable {name : Text} {w w' : World}

/-- Registering a session under its name leaves times exact. -/
theorem timely_withRegistered (h : w.Timely) {handle : Nat} {s : Session}
    (hs : w.session? handle = some s) (hname : s.name = name) :
    (withRegistered w name handle).Timely where
  sound other handle' hfound := by
    rw [find?, withRegistered, lookup_register] at hfound
    split at hfound
    · next heq =>
      cases hfound
      exact ⟨s, hs, hname.trans heq.symm⟩
    · exact h.sound other handle' hfound
  clock := h.clock
  journal := h.journal
  launch := h.launch
  processes := h.processes

/-- Registering the same new session keeps worlds alike. -/
theorem alike_withRegistered (h : Alike name w w') {handle handle' : Nat}
    (hnew : SameNewcomer name handle handle' w w') :
    Alike name (withRegistered w name handle) (withRegistered w' name handle') := by
  obtain ⟨hrank, s, hs, hs', hname, -⟩ := hnew
  exact
    { h with
      left := timely_withRegistered h.left hs hname
      right := timely_withRegistered h.right hs' hname
      share := by
        show Share.mk (w'.started name) ((find? (withRegistered w' name handle') name).map
            (w'.rank name)) (w'.requested.count name) =
          Share.mk (w.started name) ((find? (withRegistered w name handle) name).map
            (w.rank name)) (w.requested.count name)
        rw [find?_withRegistered, find?_withRegistered, Option.map_some, Option.map_some, hrank,
          h.started, h.asked] }

/-- Asking for the live session, which is started if there is none, ends alike. -/
theorem paired_getOrStart (h : Alike name w w') {settings : Settings} {τ : Rat}
    (hinterval : settings.pollInterval = .finite τ) :
    Op.Paired (Alike name)
      (fun handle handle' v v' => find? v name = some handle ∧ find? v' name = some handle')
      (getOrStart name settings w) (getOrStart name settings w') := by
  refine .bind (paired_get? h) ?_
  rintro found found' v v' hv ⟨hfound, hfound', hsame⟩
  cases found with
  | some handle =>
    cases found' with
    | some handle' => exact .ok hv ⟨hfound, hfound'⟩
    | none => cases hsame.mpr rfl
  | none =>
    cases hsame.mp rfl
    refine .bind (hv.start hinterval) ?_
    rintro handle handle' u u' hu hnew
    exact .ok (alike_withRegistered hu hnew)
      ⟨find?_withRegistered u name handle, find?_withRegistered u' name handle'⟩

end Registry

end ReplDriver
