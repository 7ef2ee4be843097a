import ReplDriver.Proofs.Session.Answering
import ReplDriver.Proofs.World.Greeting

/-!
# Worlds in which the session answers

For some settings a world answers if their program can be found, every process that is started for
their session answers, and so does the process that is registered, on a session that is free. The
registry keeps it so. Starting the session fails only when the wait for its first prompt is
interrupted, and nothing is registered then.

* `World.Answering.leaveDesk`: work at the registered session.
* `World.Answering.getOrStart`, `World.Answering.remove`: asking for the session, and ending it.
-/

namespace ReplDriver.World

open Registry

/-- The program of the settings can be found, whatever files there are, and the session of the
settings answers. -/
structure Answering (settings : Settings) (rounding : Double.Rounding) (w : World) : Prop where
  clock : w.clock.rounding = rounding
  found : ∀ files commands, ∃ path,
    (Launch.resolve settings.executable { w.machine with files, commands }).1 = .ok path
  launch : ∀ n, ∃ b, w.launch settings.sessionName n = .runs b ∧
    b.Answering settings.prompt rounding
  registered : ∀ handle, find? w settings.sessionName = some handle →
    ∃ s, w.session? handle = some s ∧ (w.desk s).Responsive settings.prompt rounding

variable {settings : Settings} {rounding : Double.Rounding} {w w' : World} {handle : Nat}
  {s : Session} {d : Desk}

theorem Answering.beside (h : w.Answering settings rounding) (hbeside : Beside w w') :
    w'.Answering settings rounding where
  clock := by rw [hbeside.clock, h.clock]
  found files commands := by
    have hmachine : { w'.machine with files, commands } = { w.machine with files, commands } := by
      simp only [hbeside.cwd, hbeside.environment, hbeside.shell]
    rw [hmachine]
    exact h.found files commands
  launch := by rw [hbeside.launch]; exact h.launch
  registered handle hfound := by
    rw [find?, hbeside.registered] at hfound
    obtain ⟨s, hs, hresponsive⟩ := h.registered handle hfound
    refine ⟨s, by rw [session?, hbeside.sessions]; exact hs, ?_⟩
    rw [desk, hbeside.clock]
    exact hresponsive

/-- Where nothing is registered, there is nothing that has to answer. -/
theorem Answering.of_unregistered (h : w.Answering settings rounding)
    (hfree : find? w' settings.sessionName = none) (hclock : w'.clock.rounding = rounding)
    (hmachine : w'.machine = w.machine) (hlaunch : w'.launch = w.launch) :
    w'.Answering settings rounding where
  clock := hclock
  found := by rw [hmachine]; exact h.found
  launch := by rw [hlaunch]; exact h.launch
  registered handle hfound := by
    rw [hfree] at hfound
    cases hfound

/-! ## At the desk -/

/-- Notes have no part in whether a desk is responsive. -/
theorem responsive_desk (w : World) (hd : d.Responsive settings.prompt rounding)
    (hclock : w.clock = d.clock) : (w.desk d.session).Responsive settings.prompt rounding where
  answering := ⟨hd.answering.process, by rw [desk, hclock]; exact hd.answering.clock⟩
  free := hd.free

theorem asked_desk (w : World) (hd : d.Asked settings.prompt rounding)
    (hclock : w.clock = d.clock) : (w.desk d.session).Asked settings.prompt rounding :=
  ⟨responsive_desk w hd.responsive hclock, hd.answers, hd.silences⟩

/-- Work at the registered session that leaves it responsive leaves a world that answers. -/
theorem Answering.leaveDesk (h : w.Answering settings rounding)
    (hfound : find? w settings.sessionName = some handle) (hs : w.session? handle = some s)
    (hd : d.Responsive settings.prompt rounding) :
    (w.leaveDesk handle d).Answering settings rounding ∧
      find? (w.leaveDesk handle d) settings.sessionName = some handle ∧
      (w.leaveDesk handle d).session? handle = some d.session ∧
      (w.leaveDesk handle d).clock = d.clock := by
  have hbeside := beside_leaveDesk w handle d
  have hthere : ({ w with sessions := w.sessions.set handle d.session, clock := d.clock } :
      World).session? handle = some d.session := getElem?_set_self d.session hs
  have hanswering : ({ w with sessions := w.sessions.set handle d.session, clock := d.clock } :
      World).Answering settings rounding := by
    refine ⟨hd.answering.clock, h.found, h.launch, fun other hother => ?_⟩
    cases hfound.symm.trans hother
    exact ⟨d.session, hthere, responsive_desk _ hd rfl⟩
  refine ⟨hanswering.beside hbeside, ?_, ?_, hbeside.clock⟩
  · rw [find?, hbeside.registered]
    exact hfound
  · rw [session?, hbeside.sessions]
    exact hthere

/-! ## The registry -/

/-- Ending the session succeeds, and it is registered no longer. -/
theorem Answering.remove (h : w.Answering settings rounding) :
    ∃ w', Registry.remove settings.sessionName w = (.ok (), w') ∧ w'.Answering settings rounding ∧
      find? w' settings.sessionName = none ∧
      ∀ handle s, find? w settings.sessionName = some handle → w.session? handle = some s →
        w'.session? handle = some s.close := by
  rcases hfound : find? w settings.sessionName with _ | handle
  · exact ⟨w, remove_none hfound, h, hfound, fun handle s hnone => by cases hnone⟩
  · obtain ⟨s, hs, hresponsive⟩ := h.registered handle hfound
    obtain ⟨w', hremove, hbeside⟩ := remove_some hfound hs
    have hgone := find?_removed w settings.sessionName handle s
    have hremoved : (removed w settings.sessionName handle s).Answering settings rounding :=
      h.of_unregistered hgone h.clock rfl rfl
    refine ⟨w', hremove, hremoved.beside hbeside, ?_, fun other t hother ht => ?_⟩
    · rw [find?, hbeside.registered]
      exact hgone
    · cases hother
      cases hs.symm.trans ht
      rw [session?, hbeside.sessions]
      exact getElem?_set_self s.close hs

/-- Asking for the live session succeeds. -/
theorem Answering.get? (h : w.Answering settings rounding) :
    ∃ found w', Registry.get? settings.sessionName w = (.ok found, w') ∧
      w'.Answering settings rounding ∧ find? w' settings.sessionName = found := by
  rw [Registry.get?, Op.get_bind]
  rcases hfound : find? w settings.sessionName with _ | handle
  · exact ⟨none, w, rfl, h, hfound⟩
  · simp only
    split
    · exact ⟨some handle, w, rfl, h, hfound⟩
    · have hnote : note (.removing settings.sessionName) w =
          (.ok (), w.record (.removing settings.sessionName)) := rfl
      obtain ⟨w', hremove, hanswering, hgone, -⟩ :=
        (h.beside (beside_record w (.removing settings.sessionName))).remove
      rw [Op.bind_ok hnote, Op.bind_ok hremove]
      exact ⟨none, w', rfl, hanswering, hgone⟩

/-- Starting the session where none is registered fails only when it is interrupted. -/
theorem Answering.startSession (h : w.Answering settings rounding)
    (hrules : (startRules settings).Tells) (hfree : find? w settings.sessionName = none) :
    ∃ outcome w', World.startSession settings.sessionName settings true w = (outcome, w') ∧
      w'.Answering settings rounding ∧ find? w' settings.sessionName = none ∧
      (outcome = .error .interrupted ∨ ∃ handle s, outcome = .ok handle ∧
        w'.session? handle = some s ∧ (w'.desk s).Responsive settings.prompt rounding) := by
  obtain ⟨executable, hresolve⟩ := h.found w.machine.files w.machine.commands
  obtain ⟨b, hlaunch, hb⟩ := h.launch (w.requested.count settings.sessionName)
  obtain ⟨w₁, hbeside, hstart⟩ := startSession_runs hresolve hlaunch
  rw [hstart, welcome_apply]
  generalize hs : newcomer settings.sessionName executable
    (launched settings executable w.machine) b = s
  have hfree₁ : find? w₁ settings.sessionName = none := by
    rw [find?, hbeside.registered]
    exact hfree
  -- what a new process has to answer is its own start
  have hasked : (w₁.desk s).Asked settings.prompt rounding := by
    rw [← hs]
    exact ⟨⟨⟨Process.answering_start _ hb, by rw [desk, hbeside.clock]; exact h.clock⟩, rfl⟩,
      hb.banner, rfl⟩
  obtain ⟨hresponsive, hends⟩ := hasked.responsive.call hrules (.awaitPrompt hasked true)
  rcases hwait : Desk.awaitPrompt (startRules settings) true (w₁.desk s) with ⟨outcome, d⟩
  have hrun : (Call.awaitPrompt true).run (startRules settings) (w₁.desk s) = (outcome, d) := hwait
  rw [hrun] at hresponsive hends
  let asked : World := { w₁ with requested := settings.sessionName :: w₁.requested }
  have hwelcome : Desk.awaitPrompt (startRules settings) true (asked.desk s) = (outcome, d) := hwait
  have hafter := beside_withNewcomer asked d
  have hfree' : find? (asked.withNewcomer d) settings.sessionName = none := by
    rw [find?, hafter.registered]
    exact hfree₁
  have hanswering : (asked.withNewcomer d).Answering settings rounding := by
    have hadded : ({ asked with sessions := asked.sessions ++ [d.session], clock := d.clock } :
        World).Answering settings rounding :=
      (h.beside hbeside).of_unregistered hfree₁ hresponsive.answering.clock rfl rfl
    exact hadded.beside hafter
  rw [hwelcome]
  refine ⟨_, _, rfl, hanswering, hfree', hends.imp ?_ ?_⟩
  · rintro rfl
    rfl
  · rintro ⟨reply, rfl⟩
    refine ⟨_, d.session, rfl, ?_, responsive_desk _ hresponsive hafter.clock⟩
    rw [session?, hafter.sessions]
    exact List.getElem?_concat_length

/-- The live session is found or started, unless its start is interrupted. -/
theorem Answering.getOrStart (h : w.Answering settings rounding)
    (hrules : (startRules settings).Tells) :
    ∃ outcome w', Registry.getOrStart settings.sessionName settings w = (outcome, w') ∧
      w'.Answering settings rounding ∧ (outcome = .error .interrupted ∨
        ∃ handle, outcome = .ok handle ∧ find? w' settings.sessionName = some handle) := by
  obtain ⟨found, w₁, hget, hanswering, hfound⟩ := h.get?
  rw [Registry.getOrStart, Op.bind_ok hget]
  cases found with
  | some handle => exact ⟨_, _, rfl, hanswering, .inr ⟨handle, rfl, hfound⟩⟩
  | none =>
    obtain ⟨outcome, w₂, hstart, hanswering₂, hfree, rfl | ⟨handle, s, rfl, hs, hresponsive⟩⟩ :=
      hanswering.startSession hrules hfound
    · exact ⟨_, _, Op.bind_error hstart, hanswering₂, .inl rfl⟩
    · have hregister := lookup_register w₂.registered settings.sessionName settings.sessionName
        handle
      rw [if_pos rfl] at hregister
      refine ⟨_, _, Op.bind_ok hstart, ⟨hanswering₂.clock, hanswering₂.found, hanswering₂.launch,
        fun other hother => ?_⟩, .inr ⟨handle, rfl, hregister⟩⟩
      obtain rfl : handle = other := Option.some.inj (hregister.symm.trans hother)
      exact ⟨s, hs, hresponsive⟩

end ReplDriver.World
