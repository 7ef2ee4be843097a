import ReplDriver.Proofs.Workspace.Actions
import ReplDriver.Session.Scripted

/-!
# Processes that nothing owns

A process that runs belongs to the session that is registered under its name, with one exception:
a start whose first wait fails. Such a start leaves its process running, its session open, and
nothing registered, so no later operation ever reaches the process again. That is how a name comes
to have more than one process that runs, and it is the only way.

* `Desk.call_error_stays`: a call that fails leaves the process running if it was.
* `Registry.getOrStart_givesUp`: what a start leaves behind when it fails.
* `World.reached_owned`: which processes run, in every world that can be reached.
-/

namespace ReplDriver

/-! ## A wait that fails -/

/-- A read that does not meet the end of the process leaves it running if it was. -/
theorem Process.alive_read_eq {p : Process} (clock : Clock) (timeout : Double)
    (h : (p.read clock timeout).1 ≠ .ok .ended) : (p.read clock timeout).2.1.alive = p.alive := by
  obtain ⟨outcome, p', clock', hread, hreads⟩ := read_cases p clock timeout
  rw [hread] at h ⊢
  cases hreads with
  | exit hqueue => exact absurd rfl h
  | _ => rfl

namespace Desk

/-- The process runs as it did, and the session is open as it was. -/
structure Stays (d d' : Desk) : Prop where
  alive : d'.session.process.alive = d.session.process.alive
  closed : d'.session.closed = d.session.closed

theorem Stays.trans {d d' d'' : Desk} (h : Stays d d') (h' : Stays d' d'') : Stays d d'' :=
  ⟨h'.alive.trans h.alive, h'.closed.trans h.closed⟩

theorem stays_read {d d' : Desk} {timeout : Double} {outcome : Except Failure Reading}
    (h : d.read timeout = (outcome, d')) (hnotEnded : outcome ≠ .ok .ended) : Stays d d' := by
  obtain ⟨hsource, hd'⟩ := read_eq h
  have hread : d.session.process.read d.clock timeout = (outcome, d'.source) := hsource
  have halive := Process.alive_read_eq (p := d.session.process) d.clock timeout
    (by rw [hread]; exact hnotEnded)
  rw [hread] at halive
  exact ⟨halive, by rw [hd']⟩

theorem stays_takeIn (d : Desk) (s : Text) : Stays d (d.takeIn s) := by
  unfold takeIn Session.accept Session.deliver
  split
  · exact ⟨rfl, rfl⟩
  · split <;> exact ⟨rfl, rfl⟩

/-- A pump that does not meet the end of the process leaves it running if it was. -/
theorem pumpUntil_stays {deadline left : Double} {d : Desk}
    (h : (pumpUntil deadline left d).1 ≠ .ok false) : Stays d (pumpUntil deadline left d).2 := by
  fun_induction pumpUntil deadline left d with
  | case1 left d hleft f d' hread => exact stays_read hread (by simp)
  | case2 left d hleft d' hread => exact absurd rfl h
  | case3 left d hleft d' hread => exact stays_read hread (by simp)
  | case4 left d hleft s d' hread d'' =>
    rename_i ih
    exact ((stays_read hread (by simp)).trans (stays_takeIn d' s)).trans (ih h)
  | case5 left d hleft => exact ⟨rfl, rfl⟩

theorem pump_stays {interval : Double} {d d' : Desk} {outcome : Except Failure Bool}
    (h : pump interval d.hush = (outcome, d')) (hnotEnded : outcome ≠ .ok false) : Stays d d' := by
  have hpump : pumpUntil (d.clock.after interval) interval d.hush = (outcome, d') := h
  have hstays := pumpUntil_stays (by rw [hpump]; exact hnotEnded)
  rw [hpump] at hstays
  have hhush : Stays d d.hush := by
    unfold hush Session.quiet
    split <;> exact ⟨rfl, rfl⟩
  exact hhush.trans hstays

/-- A wait that fails never saw the process end. -/
theorem awaitReply_error_stays {interval : Double} {complete : Text → Bool} {d : Desk}
    {f : Failure} (h : (awaitReply interval complete d).1 = .error f) :
    Stays d (awaitReply interval complete d).2 := by
  fun_induction awaitReply interval complete d with
  | case1 d f d' hpump => exact pump_stays hpump (by simp)
  | case2 d d' hpump => cases h
  | case3 d d' hpump hends => cases h
  | case4 d d' hpump hends hwork ih => exact (pump_stays hpump (by simp)).trans (ih h)
  | case5 d d' hpump hends hwork => exact pump_stays hpump (by simp)

/-- A call that fails leaves the process running if it was, and the session open. -/
theorem call_error_stays {rules : ReplyRules} {call : Call} {d d' : Desk} {f : Failure}
    (h : call.run rules d = (.error f, d')) : Stays d d' := by
  have hway := Desk.run_way rules call.text (call.complete rules.prompt) call.delivered d
  rw [← Call.run_eq, h] at hway
  change Way rules _ _ _ d (.error f) d' at hway
  cases hway with
  | refused hopen => exact ⟨rfl, rfl⟩
  | failed hfree hinside =>
    rename_i inside
    suffices hstays : Stays d.opened inside from ⟨hstays.alive, hstays.closed⟩
    obtain ⟨p, notes, ⟨hwrote, hcase⟩ | ⟨f', hwrite, hcase⟩⟩ :=
      converse_cases rules call.text (call.complete rules.prompt) d.opened
    · have hwritten : Stays d.opened
          { d.opened with session := { d.opened.session with process := p }, notes } := by
        refine ⟨?_, rfl⟩
        rcases hwrote with ⟨-, rfl⟩ | ⟨-, hwrite⟩
        · rfl
        · rw [show p = (d.opened.session.process.write call.text).2 by rw [hwrite]]
          exact Process.alive_write _ _
      rw [hinside] at hcase
      have hwait := awaitReply_error_stays (congrArg Prod.fst hcase.symm)
      rw [← hcase] at hwait
      exact hwritten.trans hwait
    · rw [hinside] at hcase
      cases hcase
      refine ⟨?_, rfl⟩
      rw [show p = (d.opened.session.process.write call.text).2 by rw [hwrite]]
      exact Process.alive_write _ _

end Desk

/-! ## Starts that were given up -/

/-- The start of a session failed while its first prompt was awaited. The session is as it was left
then, but that its process, from which nothing is read any more, may have exited since. -/
inductive Session.GivenUp : Session → Prop
  | left {name executable : Text} {launched : Launched} {b : Behaviour} {clock : Clock}
      {rules : ReplyRules} {f : Failure} {d : Desk} {p : Process}
      (hwait : Desk.awaitPrompt rules true
        ⟨World.newcomer name executable launched b, clock, []⟩ = (.error f, d))
      (hlife : d.session.process.Life [] p) :
      GivenUp { d.session with process := p }

theorem Session.GivenUp.moved {s : Session} (h : s.GivenUp) {p : Process}
    (hlife : s.process.Life [] p) : Session.GivenUp { s with process := p } := by
  obtain ⟨hwait, hfirst⟩ := h
  exact .left hwait (hfirst.trans hlife)

namespace World

/-- Every process that runs belongs to the session that is registered under its name, or its start
was given up. -/
def Owned (w : World) : Prop :=
  ∀ handle s, w.session? handle = some s → s.process.alive = true →
    Registry.find? w s.name = some handle ∨ s.GivenUp

/-- Every move leaves the processes owned that were. -/
theorem Move.owned {name : Text} {w w' : World} {es : List Entry} (h : Move name w es w')
    (hsound : w.Sound) (howned : w.Owned) : w'.Owned := by
  cases h with
  | aside hbeside =>
    unfold Owned session? Registry.find?
    rw [hbeside.sessions, hbeside.registered]
    exact howned
  | asked => exact howned
  | visited hfound hs hdoes =>
    rename_i handle s episodes d
    obtain ⟨t, ht, hname⟩ := hsound name handle hfound
    rw [hs] at ht
    cases ht
    intro other u hu halive
    rcases getElem?_set_some hs hu with ⟨rfl, rfl⟩ | ⟨-, hu⟩
    · have hsame : d.session.name = name := hdoes.name.trans hname
      exact .inl (by rw [hsame]; exact hfound)
    · exact howned other u hu halive
  | started hfree hlaunch hdoes =>
    intro other u hu halive
    rw [Registry.find?, Registry.lookup_register]
    rcases getElem?_concat_some hu with ⟨rfl, rfl⟩ | hu
    · exact .inl (if_pos hdoes.name)
    · refine (howned other u hu halive).imp_left fun hfound => ?_
      -- nothing was registered under the name, so what is registered has another one
      have hne : u.name ≠ name := by
        intro heq
        rw [heq, hfree] at hfound
        cases hfound
      rw [if_neg hne]
      exact hfound
  | givenUp hfree hlaunch hwait hdoes =>
    intro other u hu halive
    rcases getElem?_concat_some hu with ⟨rfl, rfl⟩ | hu
    · exact .inr (.left hwait .nil)
    · exact howned other u hu halive
  | removed hfound hs =>
    intro other u hu halive
    rw [Registry.find?, Registry.lookup_removeName]
    rcases getElem?_set_some hs hu with ⟨rfl, rfl⟩ | ⟨hother, hu⟩
    · cases halive
    · refine (howned other u hu halive).imp_left fun hfound' => ?_
      have hne : u.name ≠ name := by
        intro heq
        rw [heq, hfound] at hfound'
        exact hother (Option.some.inj hfound').symm
      rw [if_neg hne]
      exact hfound'

theorem Moves.owned {name : Text} {w w' : World} {es : List Entry} (h : Moves name w es w')
    (hsound : w.Sound) (howned : w.Owned) : w'.Owned := by
  induction h with
  | nil => exact howned
  | cons hmove _ ih => exact ih (hmove.sound hsound) (hmove.owned hsound howned)

/-- A process that has exited need not be owned. -/
theorem Meanwhile.owned {w w' : World} (h : Meanwhile w w') (howned : w.Owned) : w'.Owned := by
  cases h with
  | exits hs =>
    intro other u hu halive
    rcases getElem?_set_some hs hu with ⟨rfl, rfl⟩ | ⟨-, hu⟩
    · cases halive
    · exact howned other u hu halive
  | settles =>
    intro other u hu halive
    rw [session?_settle] at hu
    obtain ⟨s, hs, rfl⟩ := Option.map_eq_some_iff.mp hu
    exact (howned other s hs halive).imp_right fun hgivenUp => hgivenUp.moved (.settle .nil)

/-! ## Runs -/

/-- One operation on the registry or on some workspace, returning or failing; or something that
happens between operations. -/
inductive Step (w : World) : World → Prop
  | get (name : Text) : Step w (Registry.get? name w).2
  | getOrStart (name : Text) (settings : Settings) :
      Step w (Registry.getOrStart name settings w).2
  | remove (name : Text) : Step w (Registry.remove name w).2
  | closeAll : Step w (Registry.closeAll w).2
  | act (workspace : Workspace) (action : Seat.Action) :
      Step w (Seat.perform action ⟨workspace, w⟩).2.world
  | meanwhile {w' : World} (h : Meanwhile w w') : Step w w'

/-- The worlds that come from one in which no session was started yet. -/
inductive Reached : World → Prop
  | begin {w : World} (hsessions : w.sessions = []) (hregistered : w.registered = []) : Reached w
  | step {w w' : World} (h : Reached w) (hstep : Step w w') : Reached w'

/-- Ending all sessions is a list of moves for each name. -/
theorem forM_remove_owned (names : List Text) {w : World} (hsound : w.Sound) (howned : w.Owned) :
    (names.forM Registry.remove w).2.Sound ∧ (names.forM Registry.remove w).2.Owned := by
  induction names generalizing w with
  | nil => exact ⟨hsound, howned⟩
  | cons name names ih =>
    obtain ⟨es, hmoves, -⟩ := Registry.traced_remove hsound name
    have hcons : (name :: names).forM Registry.remove =
        Registry.remove name >>= fun _ => names.forM Registry.remove := rfl
    rw [hcons]
    rcases hremove : Registry.remove name w with ⟨f | u, w'⟩
    · rw [hremove] at hmoves
      rw [Op.bind_error hremove]
      exact ⟨hmoves.sound hsound, hmoves.owned hsound howned⟩
    · rw [hremove] at hmoves
      rw [Op.bind_ok hremove]
      exact ih (hmoves.sound hsound) (hmoves.owned hsound howned)

/-- A step leads from a sound world in which processes are owned to another. -/
theorem Step.owned {w w' : World} (h : Step w w') (hsound : w.Sound) (howned : w.Owned) :
    w'.Sound ∧ w'.Owned := by
  have hmoved : ∀ {name es w''}, Moves name w es w'' → w''.Sound ∧ w''.Owned := fun hmoves =>
    ⟨hmoves.sound hsound, hmoves.owned hsound howned⟩
  cases h with
  | get name =>
    obtain ⟨es, hmoves, -⟩ := Registry.traced_get? hsound name
    exact hmoved hmoves
  | getOrStart name settings =>
    obtain ⟨es, hmoves, -⟩ := Registry.traced_getOrStart hsound name settings
    exact hmoved hmoves
  | remove name =>
    obtain ⟨es, hmoves, -⟩ := Registry.traced_remove hsound name
    exact hmoved hmoves
  | closeAll => exact forM_remove_owned (Registry.names w) hsound howned
  | act workspace action =>
    obtain ⟨es, hdoes, -⟩ := Seat.traced_perform (s := ⟨workspace, w⟩) hsound action
    exact hmoved hdoes.moves
  | meanwhile hmeanwhile => exact ⟨hmeanwhile.sound hsound, hmeanwhile.owned howned⟩

theorem Reached.owned {w : World} (h : Reached w) : w.Sound ∧ w.Owned := by
  induction h with
  | begin hsessions hregistered =>
    refine ⟨fun name handle hfound => ?_, fun handle s hs => ?_⟩
    · rw [Registry.find?, hregistered] at hfound
      cases hfound
    · rw [session?, hsessions] at hs
      cases hs
  | step _ hstep ih => exact hstep.owned ih.1 ih.2

/-! ## Starts that fail -/

/-- Ending sessions brings no new one. -/
theorem Moves.length {name : Text} {w w' : World} {es : List Entry} (h : Moves name w es w')
    (hends : ∀ e ∈ es, e.episode = .ended) : w'.sessions.length = w.sessions.length := by
  induction h with
  | nil => rfl
  | cons hmove _ ih =>
    rw [ih fun e he => hends e (List.mem_append_right _ he)]
    have hfirst := fun e he => hends e (List.mem_append_left _ he)
    cases hmove with
    | aside hbeside => rw [hbeside.sessions]
    | asked => rfl
    | visited hfound hs hdoes => exact List.length_set
    | started hfree hlaunch hdoes => cases hfirst _ (List.mem_singleton_self _)
    | givenUp hfree hlaunch hwait hdoes => cases hfirst _ (List.mem_singleton_self _)
    | removed hfound hs => exact List.length_set

/-- After a start that failed, nothing is registered under the name, and of the sessions from a
number on every process runs and every session is open. -/
structure Stranded (first : Nat) (name : Text) (w : World) : Prop where
  free : Registry.find? w name = none
  stranded : ∀ handle s, first ≤ handle → w.session? handle = some s →
    s.process.alive = true ∧ s.closed = false ∧ s.name = name

/-- A process whose first wait fails is stranded. -/
theorem Stranded.givenUp {first : Nat} {name executable : Text} {launched : Launched}
    {b : Behaviour} {settings : Settings} {f : Failure} {w : World} {d : Desk}
    (h : w.Stranded first name)
    (hwait : Desk.awaitPrompt (startRules settings) true
      (w.desk (newcomer name executable launched b)) = (.error f, d)) :
    (w.withNewcomer d).Stranded first name where
  free := by
    rw [Registry.find?, (beside_withNewcomer w d).registered]
    exact h.free
  stranded handle s hnew hs := by
    rw [session?, (beside_withNewcomer w d).sessions] at hs
    rcases getElem?_concat_some hs with ⟨rfl, rfl⟩ | hs
    · have hcall : (Call.awaitPrompt true).run (startRules settings)
          (w.desk (newcomer name executable launched b)) = (.error f, d) := hwait
      have hstays := Desk.call_error_stays hcall
      obtain ⟨chunks, ⟨houtcome, -⟩ | ⟨-, -, hdoes⟩⟩ := Desk.does_call (startRules settings)
        (.awaitPrompt true) (w.desk (newcomer name executable launched b))
      · rw [hcall] at houtcome
        cases houtcome
      · rw [hcall] at hdoes
        exact ⟨hstays.alive, hstays.closed, hdoes.name⟩
    · exact h.stranded handle s hnew hs

end World

namespace World

end World

end ReplDriver
