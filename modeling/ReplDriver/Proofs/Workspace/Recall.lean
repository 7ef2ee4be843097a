import ReplDriver.Proofs.Workspace.Caching
import ReplDriver.Session.Scripted

/-!
# What completions recall

Workspaces take turns in one world, and processes may exit between the turns. What a completion
recalls is told by the turns before it: the last completion of the same session for which the
process was asked, as long as nothing has been delivered since and the session has not been closed
or replaced.

* `Seat.Standing`: the candidates that some turns have left to recall.
* `Seat.Turn.caches`: what one turn does to what is cached.
* `Seat.Turns.recollects`: over a run, what is cached is what the turns have left to recall.
* `Seat.complete_recalls`: when a completion recalls candidates, and what it does otherwise.
-/

namespace ReplDriver.Seat

open World Registry

/-! ## Turns -/

/-- What is done in a turn. -/
inductive Deed where
  | act (action : Action)
  | transcript
deriving DecidableEq, Repr

namespace Deed

/-- Does it. -/
def run : Deed → Op Seat Answer
  | act action => perform action
  | transcript => .output <$> Seat.transcript

/-- The probe that is completed, if one is. -/
def probe? : Deed → Option Text
  | act (.complete token inModulePath) => some (Completion.probeText token inModulePath)
  | act (.completeAt text point) =>
    let context := Completion.contextAt text point
    some (Completion.probeText context.token context.inModulePath)
  | _ => none

/-- Something has been delivered to a session: the reply to code that is not blank, or what came
while an interrupt was waiting. -/
def Delivers (deed : Deed) (outcome : Except Failure Answer) : Prop :=
  (∃ e, outcome = .ok (.evaluation e) ∧ e.isEmpty = false) ∨
    (deed = .act (.interrupt true) ∧ ∃ output, outcome = .ok (.output output))

end Deed

/-- A turn: the workspace that takes it and the world in which it is taken, and what is done. -/
structure Turn where
  seat : Seat
  deed : Deed

namespace Turn

/-- What comes of a turn. -/
def outcome (τ : Turn) : Except Failure Answer := (τ.deed.run τ.seat).1

/-- The workspace and the world after a turn. -/
def after (τ : Turn) : Seat := (τ.deed.run τ.seat).2

/-- In the turn, a probe has been completed for the session of a name by asking a process, which has
shown some candidates. -/
structure Stores (τ : Turn) (name probe : Text) (found : List Text) : Prop where
  name : τ.seat.name = name
  probe : τ.deed.probe? = some probe
  returned : τ.outcome = .ok (.candidates found)
  asked : ∃ handle, τ.after.world.writtenTo handle ≠ τ.seat.world.writtenTo handle

/-- After the turn, what was cached for the session of a name before is not to be recalled any more:
another probe has been completed by asking a process, something has been delivered, or the session
has been closed or replaced. -/
inductive Drops (τ : Turn) (name : Text) : Prop
  | stored {probe : Text} {found : List Text} (h : τ.Stores name probe found)
  | delivered (hname : τ.seat.name = name) (h : τ.deed.Delivers τ.outcome)
  | replaced (h : find? τ.after.world name ≠ find? τ.seat.world name)

end Turn

/-- Turns that workspaces take in one world, whatever comes of them. At each turn it may be another
workspace, with other settings and another session, so that a change of settings needs no turn of
its own. Between the turns processes may exit. -/
inductive Turns (w : World) : List Turn → World → Prop
  | nil : Turns w [] w
  | turn {turns : List Turn} {τ : Turn} (h : Turns w turns τ.seat.world) :
      Turns w (turns ++ [τ]) τ.after.world
  | meanwhile {turns : List Turn} {w' w'' : World} (h : Turns w turns w')
      (hworld : Meanwhile w' w'') : Turns w turns w''

/-- What some turns have left to recall of a session: the candidates of the last probe that was
completed by asking its process, as long as no turn since has dropped them. -/
def Standing (name : Text) (turns : List Turn) (probe : Text) (found : List Text) : Prop :=
  ∃ before τ after, turns = before ++ τ :: after ∧ τ.Stores name probe found ∧
    ∀ σ ∈ after, ¬ σ.Drops name

variable {name probe : Text} {found : List Text} {turns : List Turn} {τ : Turn} {s : Seat}
  {w w' : World}

theorem not_standing_nil : ¬ Standing name [] probe found := by
  rintro ⟨before, τ, after, hsplit, -⟩
  exact absurd hsplit (by simp)

/-- One more turn leaves what it stores itself, and otherwise what was left before unless it drops
it. -/
theorem standing_concat : Standing name (turns ++ [τ]) probe found ↔
    τ.Stores name probe found ∨ Standing name turns probe found ∧ ¬ τ.Drops name := by
  constructor
  · rintro ⟨before, σ, after, hsplit, hstores, hafter⟩
    rcases List.eq_nil_or_concat after with rfl | ⟨more, last, rfl⟩
    · obtain ⟨-, hlast⟩ := List.append_inj' hsplit rfl
      cases hlast
      exact .inl hstores
    · have hsplit' : turns ++ [τ] = (before ++ σ :: more) ++ [last] := by simpa using hsplit
      obtain ⟨rfl, hlast⟩ := List.append_inj' hsplit' rfl
      cases hlast
      rw [List.concat_eq_append] at hafter
      refine .inr ⟨⟨before, σ, more, rfl, hstores, fun ρ hρ => hafter ρ ?_⟩, hafter τ ?_⟩
      · exact List.mem_append_left _ hρ
      · exact List.mem_append_right _ (List.mem_singleton_self τ)
  · rintro (hstores | ⟨⟨before, σ, after, rfl, hstores, hafter⟩, hkept⟩)
    · exact ⟨turns, τ, [], rfl, hstores, by simp⟩
    · refine ⟨before, σ, after ++ [τ], by simp, hstores, fun ρ hρ => ?_⟩
      rcases List.mem_append.mp hρ with hold | hnew
      · exact hafter ρ hold
      · rw [List.mem_singleton.mp hnew]
        exact hkept

/-! ## One turn -/

namespace Deed

/-- What is delivered by sending is what is evaluated. -/
theorem delivers_evaluation {deed : Deed} (hdeed : deed ≠ .act (.interrupt true))
    (outcome : Except Failure Evaluation) :
    deed.Delivers (outcome.map .evaluation) ↔ ∃ e, outcome = .ok e ∧ e.isEmpty = false := by
  constructor
  · rintro (⟨e, he, hvalue⟩ | ⟨hinterrupt, -⟩)
    · cases outcome with
      | error f => cases he
      | ok e' =>
        cases he
        exact ⟨_, rfl, hvalue⟩
    · exact absurd hinterrupt hdeed
  · rintro ⟨e, rfl, hvalue⟩
    exact .inl ⟨e, rfl, hvalue⟩

/-- Nothing is delivered where the answer tells of no evaluation and of no wait. -/
theorem not_delivers {α : Type} {deed : Deed} (hdeed : deed ≠ .act (.interrupt true))
    {answer : α → Answer} (hanswer : ∀ a e, answer a ≠ .evaluation e)
    (outcome : Except Failure α) : ¬ deed.Delivers (outcome.map answer) := by
  rintro (⟨e, he, -⟩ | ⟨hinterrupt, -⟩)
  · cases outcome with
    | error f => cases he
    | ok a => exact hanswer a e (Except.ok.inj he)
  · exact hdeed hinterrupt

theorem delivers_interrupt (wait : Bool) (outcome : Except Failure Text) :
    (Deed.act (.interrupt wait)).Delivers (outcome.map .output) ↔
      wait = true ∧ ∃ output, outcome = .ok output := by
  constructor
  · rintro (⟨e, he, -⟩ | ⟨hdeed, output, houtput⟩)
    · cases outcome <;> cases he
    · cases hdeed
      cases outcome with
      | error f => cases houtput
      | ok o => exact ⟨rfl, o, rfl⟩
  · rintro ⟨rfl, output, rfl⟩
    exact .inr ⟨rfl, output, rfl⟩

/-- A deed that completes nothing treats what is cached as it delivers. -/
theorem treats (hsound : s.world.Sound) {deed : Deed} (hprobe : deed.probe? = none) :
    Treats s.name (deed.Delivers (deed.run s).1) s.world (deed.run s).2.world := by
  have hquiet {α : Type} {answer : α → Answer} {act : Op Seat α}
      (hdeed : deed ≠ .act (.interrupt true)) (hanswer : ∀ a e, answer a ≠ .evaluation e)
      (hrun : deed.run = answer <$> act) (h : Treats s.name False s.world (act s).2.world) :
      Treats s.name (deed.Delivers (deed.run s).1) s.world (deed.run s).2.world := by
    rw [hrun, Op.map_apply]
    exact h.mono ⟨False.elim, not_delivers hdeed hanswer _⟩
  have hsend {act : Op Seat Evaluation} (hdeed : deed ≠ .act (.interrupt true))
      (hrun : deed.run = .evaluation <$> act)
      (h : Treats s.name (∃ e, (act s).1 = .ok e ∧ e.isEmpty = false) s.world (act s).2.world) :
      Treats s.name (deed.Delivers (deed.run s).1) s.world (deed.run s).2.world := by
    rw [hrun, Op.map_apply]
    exact h.mono (delivers_evaluation hdeed _).symm
  cases deed with
  | transcript => exact hquiet nofun nofun rfl (treats_transcript hsound)
  | act action =>
    cases action with
    | start => exact hquiet nofun nofun rfl (treats_session hsound)
    | send code => exact hsend nofun rfl (treats_sendCode hsound code)
    | sendRegion text first last => exact hsend nofun rfl (treats_sendCode hsound _)
    | sendLast text point => exact hsend nofun rfl (treats_sendLast hsound text point)
    | loadFile path => exact hsend nofun rfl (treats_loadFile hsound path)
    | complete token inModulePath => cases hprobe
    | completeAt text point => cases hprobe
    | interrupt wait =>
      have hrun : (Deed.act (.interrupt wait)).run s =
          ((interrupt wait s).1.map .output, (interrupt wait s).2) := Op.map_apply _ _ _
      rw [hrun]
      exact (treats_interrupt hsound wait).mono (delivers_interrupt wait _).symm
    | clear => exact hquiet nofun nofun rfl (treats_clear hsound)
    | reset => exact hquiet nofun nofun rfl (treats_reset hsound)
    | close => exact hquiet nofun nofun rfl (treats_close hsound)

/-- A deed that completes a probe does what the completion does, and returns its candidates. -/
theorem run_probe {deed : Deed} (hprobe : deed.probe? = some probe) (s : Seat) :
    ∃ token inModulePath, probe = Completion.probeText token inModulePath ∧
      deed.run s = ((complete token inModulePath s).1.map .candidates,
        (complete token inModulePath s).2) := by
  cases deed with
  | transcript => cases hprobe
  | act action =>
    cases action with
    | complete token inModulePath =>
      cases hprobe
      exact ⟨token, inModulePath, rfl, Op.map_apply _ _ _⟩
    | completeAt text point =>
      cases hprobe
      refine ⟨_, _, rfl, ?_⟩
      show ((fun found => Answer.candidates found.2) <$> atSession fun rules =>
        (fun found => (Completion.contextAt text point, found)) <$>
          Completion.complete rules _ _) s = _
      rw [Op.map_apply, atSession_map, complete]
      rcases (atSession _ s).1 with f | found <;> rfl
    | _ => cases hprobe

end Deed

namespace Turn

/-- A turn is a list of moves for the session of its workspace. -/
theorem moves (hsound : τ.seat.world.Sound) :
    ∃ es, Moves τ.seat.name τ.seat.world es τ.after.world := by
  obtain ⟨s, deed⟩ := τ
  cases deed with
  | act action =>
    obtain ⟨es, hdoes, -⟩ := traced_perform hsound action
    exact ⟨es, hdoes.moves⟩
  | transcript =>
    obtain ⟨es, hdoes, -⟩ := traced_session? hsound
    have hafter : (Seat.transcript s).2 = (session? s).2 := by
      rcases hlook : session? s with ⟨f | _ | handle, s₁⟩
      · rw [Seat.transcript, Op.bind_error hlook]
      · rw [Seat.transcript, Op.bind_ok hlook]
        rfl
      · rw [Seat.transcript, Op.bind_ok hlook]
        rfl
    refine ⟨es, ?_⟩
    show Moves s.name s.world es ((Answer.output <$> Seat.transcript) s).2.world
    rw [Op.map_apply, hafter]
    exact hdoes.moves

/-- What a turn does to what is cached for a name: it stores candidates, or keeps those that were
there, or drops them. The session stays free. -/
structure Caches (τ : Turn) (name : Text) : Prop where
  free : τ.after.world.Free name
  cached : ∀ probe found, τ.after.world.cached name = some (probe, found) ↔
    τ.Stores name probe found ∨ τ.seat.world.cached name = some (probe, found) ∧ ¬ τ.Drops name

/-- A turn that fails stores nothing. -/
theorem not_stores_of_error {f : Failure} (houtcome : τ.outcome = .error f) :
    ¬ τ.Stores name probe found := by
  intro hstores
  have hreturned := hstores.returned
  rw [houtcome] at hreturned
  cases hreturned

/-- What a turn stores is cached then, and nothing else. -/
theorem caches_of_stores (hstores : τ.Stores name probe found) (hfree : τ.after.world.Free name)
    (hcached : τ.after.world.cached name = some (probe, found)) : τ.Caches name := by
  refine ⟨hfree, fun probe' found' => ?_⟩
  rw [hcached]
  constructor
  · intro heq
    cases heq
    exact .inl hstores
  · rintro (hother | ⟨-, hkept⟩)
    · have hsame := hstores.probe.symm.trans hother.probe
      have hreturned := hstores.returned.symm.trans hother.returned
      cases hsame
      cases hreturned
      rfl
    · exact absurd (.stored hstores) hkept

/-- A turn that stores no candidates keeps or drops those that were there, as its work does. -/
theorem caches_of_treats {delivers : Prop} (hfree : τ.seat.world.Free name)
    (h : Treats name delivers τ.seat.world τ.after.world)
    (hdelivers : delivers ↔ τ.seat.name = name ∧ τ.deed.Delivers τ.outcome)
    (hnothing : ∀ probe found, ¬ τ.Stores name probe found) : τ.Caches name := by
  have hdrops : τ.Drops name ↔ delivers ∨ find? τ.after.world name ≠ find? τ.seat.world name := by
    constructor
    · rintro (hstores | ⟨hname, hdelivered⟩ | hreplaced)
      · exact absurd hstores (hnothing _ _)
      · exact .inl (hdelivers.mpr ⟨hname, hdelivered⟩)
      · exact .inr hreplaced
    · rintro (hdelivered | hreplaced)
      · obtain ⟨hname, hdelivered⟩ := hdelivers.mp hdelivered
        exact .delivered hname hdelivered
      · exact .replaced hreplaced
  refine ⟨h.free hfree, fun probe found => ?_⟩
  rw [or_iff_right (hnothing probe found)]
  by_cases hdropped : τ.Drops name
  · rw [h.dropped (hdrops.mp hdropped)]
    simp [hdropped]
  · obtain ⟨hkept, hsame⟩ := not_or.mp (fun hor => hdropped (hdrops.mpr hor))
    rw [h.kept hkept (Classical.not_not.mp hsame)]
    simp [hdropped]

/-- A turn for another session keeps what is there. -/
theorem caches_of_ne (hsound : τ.seat.world.Sound) (hfree : τ.seat.world.Free name)
    (hne : τ.seat.name ≠ name) : τ.Caches name := by
  obtain ⟨es, hmoves⟩ := moves hsound
  exact caches_of_treats hfree (hmoves.treats hsound (Ne.symm hne))
    ⟨False.elim, fun h => hne h.1⟩ fun _ _ hstores => hne hstores.name

/-- A completion stores candidates if it has to ask for them, and otherwise keeps those that were
there. -/
theorem caches_of_probe (hsound : τ.seat.world.Sound) (hfree : τ.seat.world.Free τ.seat.name)
    (hprobe : τ.deed.probe? = some probe) : τ.Caches τ.seat.name := by
  obtain ⟨token, inModulePath, rfl, hrun⟩ := Deed.run_probe hprobe τ.seat
  have houtcome : τ.outcome = (complete token inModulePath τ.seat).1.map .candidates :=
    congrArg Prod.fst hrun
  have hafter : τ.after = (complete token inModulePath τ.seat).2 := congrArg Prod.snd hrun
  -- a completion delivers nothing, so unless it stores something what is cached is kept
  have hquiet (h : Treats τ.seat.name False τ.seat.world τ.after.world)
      (hnothing : ∀ probe found, ¬ τ.Stores τ.seat.name probe found) : τ.Caches τ.seat.name := by
    refine caches_of_treats hfree h ⟨False.elim, fun ⟨_, hdelivers⟩ => ?_⟩ hnothing
    rw [houtcome] at hdelivers
    refine Deed.not_delivers (fun hinterrupt => ?_) nofun _ hdelivers
    rw [hinterrupt] at hprobe
    cases hprobe
  by_cases hanswered : ∃ found, τ.seat.Answered (Completion.probeText token inModulePath) found
  · obtain ⟨found, hanswered⟩ := hanswered
    obtain ⟨-, -, hbeside⟩ := complete_cached hanswered
    rw [← hafter] at hbeside
    refine hquiet (treats_of_beside hbeside) fun _ _ hstores => ?_
    obtain ⟨handle, hasked⟩ := hstores.asked
    exact hasked (writtenTo_congr hbeside.sessions handle)
  · have hasks := complete_asks hsound hfree (not_exists.mp hanswered)
    rw [← hafter] at hasks
    generalize (complete token inModulePath τ.seat).1 = outcome at houtcome hasks
    generalize hs' : τ.after = s' at hasks
    cases hasks with
    | unstarted hsession =>
      have htreats := treats_session hsound
      rw [hsession, ← hs'] at htreats
      exact hquiet htreats fun _ _ => not_stores_of_error houtcome
    | givenUp htyped _ _ hcache =>
      rw [← hs'] at htyped
      exact hquiet (htyped.treats hsound hcache) fun _ _ => not_stores_of_error houtcome
    | probed htyped hcache =>
      rename_i handle before after found
      rw [← hs'] at htyped
      refine caches_of_stores ⟨rfl, hprobe, houtcome, handle, ?_⟩ htyped.holds.1
        (htyped.holds.2.trans hcache)
      rw [htyped.written handle, if_pos rfl]
      simp [Completion.keys]

/-- Every turn stores candidates, or keeps those that were there, or drops them. -/
theorem caches (hsound : τ.seat.world.Sound) (hfree : τ.seat.world.Free name) :
    τ.Caches name := by
  by_cases hname : τ.seat.name = name
  · subst hname
    rcases hprobe : τ.deed.probe? with _ | probe
    · refine caches_of_treats hfree (Deed.treats hsound hprobe) ⟨fun h => ⟨rfl, h⟩, fun h => h.2⟩
        fun _ _ hstores => ?_
      have hnone := hstores.probe
      rw [hprobe] at hnone
      cases hnone
    · exact caches_of_probe hsound hfree hprobe
  · exact caches_of_ne hsound hfree hname

end Turn

/-! ## Runs -/

/-- After some turns the world is sound, no exchange is open on the session of a name, and what is
cached for it is what the turns have left to recall. -/
structure Recollects (name : Text) (turns : List Turn) (w : World) : Prop where
  sound : w.Sound
  free : w.Free name
  cached : ∀ probe found, w.cached name = some (probe, found) ↔ Standing name turns probe found

/-- Over every run, what is cached is what the turns have left to recall. -/
theorem Turns.recollects (hsound : w.Sound) (hnew : find? w name = none)
    (hrun : Turns w turns w') : Recollects name turns w' := by
  induction hrun with
  | nil =>
    refine ⟨hsound, fun handle session hfound => ?_, fun probe found => ?_⟩
    · rw [hnew] at hfound
      cases hfound
    · rw [cached_of_none hnew]
      exact ⟨nofun, fun h => absurd h not_standing_nil⟩
  | turn hbefore ih =>
    obtain ⟨es, hmoves⟩ := Turn.moves ih.sound
    have hcaches := Turn.caches ih.sound ih.free
    refine ⟨hmoves.sound ih.sound, hcaches.free, fun probe found => ?_⟩
    rw [hcaches.cached, standing_concat, ih.cached]
  | meanwhile hbefore hworld ih =>
    have htreats := hworld.treats ih.sound name
    refine ⟨hworld.sound ih.sound, htreats.free ih.free, fun probe found => ?_⟩
    rw [htreats.kept id (hworld.find? name), ih.cached]

/-! ## Completions -/

/-- What some turns have left answers a completion: the session is there, and the probe goes on from
the one that the candidates were shown for, without a character past which they no longer hold. -/
def Recalled (turns : List Turn) (s : Seat) (probe : Text) (found : List Text) : Prop :=
  s.world.Live s.name ∧ ∃ earlier added, Standing s.name turns earlier found ∧
    probe = earlier ++ added ∧ ∀ c ∈ added, Completion.isBoundary c = false

/-- What is recalled is what is cached. -/
theorem Recollects.answered_iff (h : Recollects s.name turns s.world) :
    s.Answered probe found ↔ Recalled turns s probe found := by
  unfold Answered Recalled
  simp only [h.cached]

/-- A completion after any run of turns. If the turns have left candidates that hold for the probe,
they are the answer: nothing is written, no session changes, and nothing but a note is taken.
Otherwise the process of the session is asked, which is started if it is not there: exactly the
probe with a tab, a second tab and the keys that erase the line are written to it, transcript and
marker stay as they are, and afterwards the cache holds the probe and what is returned. -/
theorem complete_recalls {w : World} {turns : List Turn} {s : Seat} (hsound : w.Sound)
    (hnew : find? w s.name = none) (hrun : Turns w turns s.world) (token : Text)
    (inModulePath : Bool) :
    (∀ found, Recalled turns s (Completion.probeText token inModulePath) found →
      (complete token inModulePath s).1 = .ok found ∧
        (complete token inModulePath s).2.workspace = s.workspace ∧
        Beside s.world (complete token inModulePath s).2.world) ∧
    ((∀ found, ¬ Recalled turns s (Completion.probeText token inModulePath) found) →
      Asks (Completion.probeText token inModulePath) s (complete token inModulePath s).1
        (complete token inModulePath s).2) := by
  have hrecollects := hrun.recollects hsound hnew
  constructor
  · intro found hrecalled
    exact complete_cached (hrecollects.answered_iff.mpr hrecalled)
  · intro hnothing
    exact complete_asks hrecollects.sound hrecollects.free fun found hanswered =>
      hnothing found (hrecollects.answered_iff.mp hanswered)

/-- A completion in a new workspace, before a REPL that knows how a name goes on. -/
def askingTurn : Turn where
  seat :=
    { workspace := .new (Settings.default []) none
      world := .initial ⟨⟨[]⟩, ⟨1, []⟩, [], fun _ => .noShell, []⟩ (.withInput [] false false)
        (fun _ _ => .runs (.scripted "> " [.output (Terminal.drawPrompt "> ")] []
          [("Math.ab\t", .ok [.output "Math.abs"])])) .exact }
  deed := .act (.complete "Math.ab" false)

theorem complete_recalls_askingTurn :
    Recalled [askingTurn] askingTurn.after "Math.abs" ["Math.abs"] ∧
      (complete "Math.abs" false askingTurn.after).1 = .ok ["Math.abs"] := by
  have hreturned : askingTurn.outcome.toOption = some (.candidates ["Math.abs"]) := by
    decide +kernel
  have hstores : askingTurn.Stores askingTurn.after.name "Math.ab" ["Math.abs"] := by
    refine ⟨by decide +kernel, rfl, ?_, 0, by decide +kernel⟩
    rcases houtcome : askingTurn.outcome with f | answer
    · rw [houtcome] at hreturned
      cases hreturned
    · rw [houtcome] at hreturned
      cases hreturned
      rfl
  have hlive : askingTurn.after.world.Live askingTurn.after.name := by
    have halive : (askingTurn.after.world.session? 0).any Session.isAlive = true := by
      decide +kernel
    rcases hs : askingTurn.after.world.session? 0 with _ | session
    · rw [hs] at halive
      cases halive
    · rw [hs] at halive
      exact ⟨0, session, by decide +kernel, hs, halive⟩
  have hplain : ∀ c ∈ ("s" : Text), Completion.isBoundary c = false := by
    intro c hc
    rw [List.mem_singleton.mp hc]
    rfl
  have hrecalled : Recalled [askingTurn] askingTurn.after "Math.abs" ["Math.abs"] :=
    ⟨hlive, "Math.ab", "s", ⟨[], askingTurn, [], rfl, hstores, by simp⟩, rfl, hplain⟩
  have hsound : askingTurn.seat.world.Sound := fun _ _ => nofun
  have hnew : find? askingTurn.seat.world askingTurn.after.name = none := by decide +kernel
  have hrun : Turns askingTurn.seat.world [askingTurn] askingTurn.after.world := .turn .nil
  obtain ⟨hreturns, -⟩ := (complete_recalls hsound hnew hrun "Math.abs" false).1 _ hrecalled
  exact ⟨hrecalled, hreturns⟩

end ReplDriver.Seat
