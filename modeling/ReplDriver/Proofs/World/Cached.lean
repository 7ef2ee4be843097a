import ReplDriver.Proofs.Session.Typing
import ReplDriver.Proofs.World.Registered

/-!
# What is cached for a name

The candidates that are cached for a name are those of the session that is registered under it.
Work for the name, other than a completion, leaves them as they are unless something is delivered
or the session does not stay the same; then nothing is cached. Nothing but a completion writes to a
process on the way to a session.

* `World.Treats`: how such work treats what is cached, and `World.Treats.next` for work in sequence.
* `Registry.looks_get?`, `Registry.obtains_getOrStart`: the ways to a session.
* `World.treats_atDesk`: work at the desk of the registered session.
-/

namespace ReplDriver

open Registry

namespace World

/-- The probe and the candidates that the session registered under a name has stored. -/
def cached (w : World) (name : Text) : Option (Text × List Text) :=
  ((find? w name).bind w.session?).bind fun s => s.cache.entry

/-- No exchange is open on the session that is registered under a name. -/
def Free (w : World) (name : Text) : Prop :=
  ∀ handle s, find? w name = some handle → w.session? handle = some s → s.exchangeOpen = false

/-- A session is registered under a name, and there to talk to. -/
def Live (w : World) (name : Text) : Prop :=
  ∃ handle s, find? w name = some handle ∧ w.session? handle = some s ∧ s.isAlive = true

/-- What has been written to the process of a session, which is nothing until there is one. -/
def writtenTo (w : World) (handle : Nat) : List Text :=
  ((w.session? handle).map fun s => s.process.written).getD []

variable {name : Text} {w w' w'' : World} {handle : Nat} {s : Session} {d : Desk}
  {P : Prop}

theorem cached_of_none (hfound : find? w name = none) : w.cached name = none := by
  rw [cached, hfound]
  rfl

theorem cached_of_some (hfound : find? w name = some handle) (hs : w.session? handle = some s) :
    w.cached name = s.cache.entry := by
  rw [cached, hfound, Option.bind_some, hs, Option.bind_some]

theorem writtenTo_of_some (hs : w.session? handle = some s) :
    w.writtenTo handle = s.process.written := by
  rw [writtenTo, hs]
  rfl

/-- Nothing has been written to a session that is yet to come. -/
theorem writtenTo_of_le (h : w.sessions.length ≤ handle) : w.writtenTo handle = [] := by
  rw [writtenTo, session?, List.getElem?_eq_none h]
  rfl

theorem cached_congr (hsessions : w'.sessions = w.sessions)
    (hregistered : w'.registered = w.registered) (name : Text) :
    w'.cached name = w.cached name := by
  unfold cached find? session?
  rw [hsessions, hregistered]

theorem Free.congr (h : w.Free name) (hsessions : w'.sessions = w.sessions)
    (hregistered : w'.registered = w.registered) : w'.Free name := by
  intro handle s hfound hs
  rw [find?, hregistered] at hfound
  rw [session?, hsessions] at hs
  exact h handle s hfound hs

theorem writtenTo_congr (hsessions : w'.sessions = w.sessions) (handle : Nat) :
    w'.writtenTo handle = w.writtenTo handle := by
  unfold writtenTo session?
  rw [hsessions]

theorem writtenTo_set {t : Session} (hs : w.session? handle = some s)
    (hsessions : w'.sessions = w.sessions.set handle t) (other : Nat) :
    w'.writtenTo other = if other = handle then t.process.written else w.writtenTo other := by
  split
  · next heq =>
    subst heq
    refine writtenTo_of_some ?_
    rw [session?, hsessions]
    exact getElem?_set_self t hs
  · next hne =>
    unfold writtenTo session?
    rw [hsessions, List.getElem?_set_ne (Ne.symm hne)]

/-- A session that comes and has not been written to changes nothing of what has been written. -/
theorem writtenTo_append {t : Session} (hsessions : w'.sessions = w.sessions ++ [t])
    (ht : t.process.written = []) (other : Nat) : w'.writtenTo other = w.writtenTo other := by
  by_cases hlt : other < w.sessions.length
  · unfold writtenTo session?
    rw [hsessions, List.getElem?_append_left hlt]
  · rw [writtenTo_of_le (Nat.le_of_not_lt hlt)]
    rcases hother : w'.session? other with _ | u
    · rw [writtenTo, hother]
      rfl
    · rw [writtenTo_of_some hother]
      rw [session?, hsessions] at hother
      obtain ⟨-, rfl⟩ | hold := getElem?_concat_some hother
      · exact ht
      · exact absurd (List.getElem?_eq_some_iff.mp hold).1 hlt

/-! ## At a desk -/

theorem find?_leaveDesk (w : World) (handle : Nat) (d : Desk) (name : Text) :
    find? (w.leaveDesk handle d) name = find? w name :=
  congrArg (List.lookup name) (beside_leaveDesk w handle d).registered

theorem session?_leaveDesk (hs : w.session? handle = some s) (d : Desk) :
    (w.leaveDesk handle d).session? handle = some d.session := by
  rw [session?, (beside_leaveDesk w handle d).sessions]
  exact getElem?_set_self d.session hs

theorem writtenTo_leaveDesk (hs : w.session? handle = some s) (d : Desk) (other : Nat) :
    (w.leaveDesk handle d).writtenTo other =
      if other = handle then d.written else w.writtenTo other :=
  writtenTo_set hs (beside_leaveDesk w handle d).sessions other

/-- A desk that is left with nothing but notes. -/
theorem beside_of_leaveDesk (hs : w.session? handle = some s) (hsession : d.session = s)
    (hclock : d.clock = w.clock) : Beside w (w.leaveDesk handle d) := by
  have hbeside := beside_leaveDesk w handle d
  obtain ⟨hlt, rfl⟩ := List.getElem?_eq_some_iff.mp hs
  rwa [hsession, hclock, List.set_getElem_self hlt] at hbeside

/-! ## How work treats what is cached -/

/-- Work for a name, in which something is delivered or not, leaves what is cached as it was, unless
something is delivered or another session is registered, or none any more. Then nothing is cached.
-/
structure Treats (name : Text) (delivers : Prop) (w w' : World) : Prop where
  free : w.Free name → w'.Free name
  dropped : delivers ∨ find? w' name ≠ find? w name → w'.cached name = none
  kept : ¬ delivers → find? w' name = find? w name → w'.cached name = w.cached name

theorem treats_of_beside (h : Beside w w') : Treats name False w w' where
  free hfree := hfree.congr h.sessions h.registered
  dropped
    | .inr hother => absurd (congrArg (List.lookup name) h.registered) hother
  kept _ _ := cached_congr h.sessions h.registered name

theorem Treats.refl (name : Text) (w : World) : Treats name False w w := treats_of_beside (.refl w)

theorem Treats.mono {Q : Prop} (h : Treats name P w w') (hPQ : P ↔ Q) : Treats name Q w w' := by
  obtain rfl : P = Q := propext hPQ
  exact h

/-- Once no session is registered, nothing is cached. -/
theorem treats_of_none (hnone : find? w' name = none) : Treats name P w w' where
  free _ handle s hfound := by
    rw [hnone] at hfound
    cases hfound
  dropped _ := cached_of_none hnone
  kept _ hfind := by
    rw [cached_of_none hnone, cached_of_none (hfind.symm.trans hnone)]

/-- Work that delivers nothing, and then work at the session that is registered after it. -/
theorem Treats.next (h : Treats name False w w') (h' : Treats name P w' w'')
    (hfind : find? w'' name = find? w' name) : Treats name P w w'' where
  free hfree := h'.free (h.free hfree)
  dropped hdropped := by
    by_cases hP : P
    · exact h'.dropped (.inl hP)
    · obtain hP' | hother := hdropped
      · exact absurd hP' hP
      · rw [h'.kept hP hfind]
        exact h.dropped (.inr (hfind ▸ hother))
  kept hP hsame := by
    rw [h'.kept hP hfind, h.kept id (hfind.symm.trans hsame)]

/-- Notes and commands before some work make no difference. -/
theorem Treats.beside (h : Beside w w') (h' : Treats name P w' w'') : Treats name P w w'' := by
  have hfind : find? w' name = find? w name := congrArg (List.lookup name) h.registered
  have hcached : w'.cached name = w.cached name := cached_congr h.sessions h.registered name
  refine ⟨fun hfree => h'.free (hfree.congr h.sessions h.registered), ?_, ?_⟩
  · rw [← hfind]
    exact h'.dropped
  · rw [← hfind, ← hcached]
    exact h'.kept

/-- Work at the desk of the registered session. -/
theorem treats_leaveDesk (hfound : find? w name = some handle) (hs : w.session? handle = some s)
    (hfree : s.exchangeOpen = false → d.session.exchangeOpen = false)
    (hdropped : P → d.session.cache = .empty) (hkept : ¬ P → d.session.cache = s.cache) :
    Treats name P w (w.leaveDesk handle d) := by
  have hfound' : find? (w.leaveDesk handle d) name = some handle :=
    (find?_leaveDesk w handle d name).trans hfound
  have hs' := session?_leaveDesk hs d
  refine ⟨fun h handle' s' hfind hsession => ?_, fun hdrop => ?_, fun hP _ => ?_⟩
  · rw [hfound'] at hfind
    cases hfind
    rw [hs'] at hsession
    cases hsession
    exact hfree (h handle s hfound hs)
  · obtain hP | hother := hdrop
    · rw [cached_of_some hfound' hs', hdropped hP]
      rfl
    · exact absurd (hfound'.trans hfound.symm) hother
  · rw [cached_of_some hfound' hs', cached_of_some hfound hs, hkept hP]

/-- Work at the desk of the registered session leaves it registered. -/
theorem find?_atDesk {α : Type} (act : Op Desk α) (w : World) (handle : Nat) (name : Text) :
    find? (atDesk handle act w).2 name = find? w name := by
  rcases hs : w.session? handle with _ | s
  · simp only [atDesk, hs]
  · rw [atDesk_eq hs, find?_leaveDesk]

/-- A call at the desk of the registered session, which delivers if it returns. -/
theorem treats_call (hfound : find? w name = some handle) (hs : w.session? handle = some s)
    (rules : ReplyRules) (call : Call) (hdelivered : call.delivered = true) :
    Treats name (∃ o, (atDesk handle (call.run rules) w).1 = .ok o) w
      (atDesk handle (call.run rules) w).2 := by
  have htransacts := call.transacts rules (w.desk s)
  rw [atDesk_eq hs]
  refine treats_leaveDesk hfound hs htransacts.released ?_ fun hfailed => ?_
  · rintro ⟨o, ho⟩
    exact (htransacts.delivered o ho hdelivered).2.2
  · rcases houtcome : (call.run rules (w.desk s)).1 with f | o
    · exact (htransacts.failed f houtcome).2.2
    · exact absurd ⟨o, houtcome⟩ hfailed

/-- Between operations nothing happens to what is cached. -/
theorem Meanwhile.treats (h : Meanwhile w w') (hsound : w.Sound) (name : Text) :
    Treats name False w w' := by
  have hfind := h.find? name
  -- the process of a session may change, and nothing else
  have hsame {handle : Nat} {s' : Session} (hs' : w'.session? handle = some s') :
      ∃ s, w.session? handle = some s ∧ s'.cache = s.cache ∧ s'.exchangeOpen = s.exchangeOpen := by
    cases h with
    | exits hs =>
      obtain ⟨rfl, rfl⟩ | ⟨-, hs'⟩ := getElem?_set_some hs hs'
      · exact ⟨_, hs, rfl, rfl⟩
      · exact ⟨s', hs', rfl, rfl⟩
    | settles =>
      rw [session?_settle] at hs'
      obtain ⟨s, hs, rfl⟩ := Option.map_eq_some_iff.mp hs'
      exact ⟨s, hs, rfl, rfl⟩
  refine ⟨fun hfree handle s' hfound hs' => ?_, ?_, fun _ _ => ?_⟩
  · obtain ⟨s, hs, -, hopen⟩ := hsame hs'
    rw [hopen]
    exact hfree handle s (hfind ▸ hfound) hs
  · rintro (hfalse | hother)
    · exact hfalse.elim
    · exact absurd hfind hother
  · rcases hfound : Registry.find? w name with _ | handle
    · rw [cached_of_none hfound, cached_of_none (hfind.trans hfound)]
    · obtain ⟨s', hs', -⟩ := (h.sound hsound) name handle (hfind.trans hfound)
      obtain ⟨s, hs, hcache, -⟩ := hsame hs'
      rw [cached_of_some hfound hs, cached_of_some (hfind.trans hfound) hs', hcache]

/-- Work for another name does not touch what is cached. -/
theorem Moves.treats {other : Text} {es : List Entry} (h : Moves other w es w') (hsound : w.Sound)
    (hne : name ≠ other) : Treats name False w w' := by
  have hfind := h.find?_of_ne hne
  have hsame {handle : Nat} (hfound : find? w name = some handle) :
      ∃ s, w.session? handle = some s ∧ w'.session? handle = some s := by
    obtain ⟨s, hs, hname⟩ := hsound name handle hfound
    exact ⟨s, hs, h.session?_of_ne hsound hs (hname.symm ▸ hne)⟩
  refine ⟨fun hfree handle s' hfound hs' => ?_, ?_, fun _ _ => ?_⟩
  · rw [hfind] at hfound
    obtain ⟨s, hs, hkept⟩ := hsame hfound
    rw [hs'] at hkept
    cases hkept
    exact hfree handle s' hfound hs
  · rintro (hfalse | hother)
    · exact hfalse.elim
    · exact absurd hfind hother
  · rcases hfound : find? w name with _ | handle
    · rw [cached_of_none hfound, cached_of_none (hfind.trans hfound)]
    · obtain ⟨s, hs, hkept⟩ := hsame hfound
      rw [cached_of_some hfound hs, cached_of_some (hfind.trans hfound) hkept]

end World

/-! ## The ways to a session -/

namespace Registry

open World

/-- The ways of asking for the live session of a name. It is there; or there is none, and one whose
process has exited has been ended. -/
inductive Looks (name : Text) (w : World) : Except Failure (Option Nat) → World → Prop
  | live {handle : Nat} {s : Session} (hfound : find? w name = some handle)
      (hs : w.session? handle = some s) (halive : s.isAlive = true) :
      Looks name w (.ok (some handle)) w
  | gone {w' : World} (hnone : find? w' name = none)
      (hlength : w'.sessions.length = w.sessions.length)
      (hwritten : ∀ handle, w'.writtenTo handle = w.writtenTo handle) : Looks name w (.ok none) w'

/-- The ways of asking for the live session of a name, to be started if there is none. It is there;
or one has been started and registered; or none can be started. -/
inductive Obtains (name : Text) (w : World) : Except Failure Nat → World → Prop
  | live {handle : Nat} {s : Session} (hfound : find? w name = some handle)
      (hs : w.session? handle = some s) (halive : s.isAlive = true) :
      Obtains name w (.ok handle) w
  | fresh {handle : Nat} {s : Session} {w' : World} (hnew : w.sessions.length ≤ handle)
      (hfound : find? w' name = some handle) (hs : w'.session? handle = some s)
      (hcache : s.cache = .empty) (hfree : s.exchangeOpen = false)
      (hwritten : ∀ handle, w'.writtenTo handle = w.writtenTo handle) :
      Obtains name w (.ok handle) w'
  | missing {f : Failure} {w' : World} (hnone : find? w' name = none) :
      Obtains name w (.error f) w'

variable {name : Text} {w w' : World} {handle : Nat} {s : Session}

theorem get?_live (h : w.Live name) :
    ∃ handle s, find? w name = some handle ∧ w.session? handle = some s ∧ s.isAlive = true ∧
      get? name w = (.ok (some handle), w) := by
  obtain ⟨handle, s, hfound, hs, halive⟩ := h
  refine ⟨handle, s, hfound, hs, halive, ?_⟩
  rw [get?, Op.get_bind, hfound]
  simp only [hs, Option.any_some, halive, if_pos]
  rfl

theorem removed_written (hs : w.session? handle = some s) (other : Nat) :
    (removed w name handle s).writtenTo other = w.writtenTo other := by
  rw [writtenTo_set (t := s.close) hs rfl]
  split
  · next heq =>
    subst heq
    exact (writtenTo_of_some hs).symm
  · rfl

/-- Removing a name takes its session away, and writes nothing. -/
theorem remove_gone (hsound : w.Sound) (name : Text) :
    ∃ w', remove name w = (.ok (), w') ∧ find? w' name = none ∧
      w'.sessions.length = w.sessions.length ∧
      ∀ handle, w'.writtenTo handle = w.writtenTo handle := by
  rcases hfound : find? w name with _ | handle
  · exact ⟨w, remove_none hfound, hfound, rfl, fun _ => rfl⟩
  · obtain ⟨s, hs, -⟩ := hsound name handle hfound
    obtain ⟨w', hremove, hbeside⟩ := remove_some hfound hs
    refine ⟨w', hremove, ?_, ?_, fun other => ?_⟩
    · exact (congrArg (List.lookup name) hbeside.registered).trans (find?_removed w name handle s)
    · rw [hbeside.sessions]
      exact List.length_set
    · rw [writtenTo_congr hbeside.sessions, removed_written hs]

theorem looks_get? (hsound : w.Sound) (name : Text) :
    Looks name w (get? name w).1 (get? name w).2 := by
  rw [get?, Op.get_bind]
  rcases hfound : find? w name with _ | handle
  · exact .gone hfound rfl fun _ => rfl
  · obtain ⟨s, hs, -⟩ := hsound name handle hfound
    simp only [hs, Option.any_some]
    split
    · next halive => exact .live hfound hs halive
    · have hbeside := beside_record w (.removing name)
      have hnote : note (.removing name) w = (.ok (), w.record (.removing name)) := rfl
      obtain ⟨w', hremove, hnone, hlength, hwritten⟩ := remove_gone (hsound.beside hbeside) name
      rw [Op.bind_ok hnote, Op.bind_ok hremove]
      refine .gone hnone (hlength.trans (congrArg List.length hbeside.sessions)) fun handle => ?_
      exact (hwritten handle).trans (writtenTo_congr hbeside.sessions handle)

/-- Starting a session registers nothing. -/
theorem registered_startSession (name : Text) (settings : Settings) (w : World) :
    (startSession name settings true w).2.registered = w.registered := by
  have hstarts := startSession_starts name settings w
  generalize (startSession name settings true w).1 = outcome at hstarts
  generalize (startSession name settings true w).2 = w' at hstarts ⊢
  cases hstarts with
  | unresolved hbeside => exact hbeside.registered
  | refused hbeside => exact hbeside.registered
  | waited hbeside hlaunch hwait =>
    rename_i w₁ n b executable outcome d
    exact (beside_withNewcomer { w₁ with requested := name :: w₁.requested } d).registered.trans
      hbeside.registered

/-- A session that has been started is the last one. Nothing is cached for it, nothing has been
written to it, and it is free. -/
theorem startSession_fresh {settings : Settings}
    (h : startSession name settings true w = (.ok handle, w')) :
    handle = w.sessions.length ∧ ∃ s, w'.sessions = w.sessions ++ [s] ∧ s.cache = .empty ∧
      s.exchangeOpen = false ∧ s.process.written = [] := by
  have hstarts := startSession_starts name settings w
  rw [h] at hstarts
  generalize houtcome : (Except.ok handle : Except Failure Nat) = outcome at hstarts
  cases hstarts with
  | unresolved => cases houtcome
  | refused => cases houtcome
  | waited hbeside hlaunch hwait =>
    rename_i w₁ n b executable outcome d
    cases outcome with
    | error f => cases houtcome
    | ok o =>
      cases houtcome
      have hrun : (Call.awaitPrompt true).run (startRules settings)
          (w₁.desk (newcomer name executable (launched settings executable w.machine) b)) =
            (.ok o, d) := hwait
      have htransacts := (Call.awaitPrompt true).transacts (startRules settings)
        (w₁.desk (newcomer name executable (launched settings executable w.machine) b))
      have hwritten := Desk.written_call (startRules settings) (.awaitPrompt true)
        (d := w₁.desk (newcomer name executable (launched settings executable w.machine) b)) rfl
      rw [hrun] at htransacts hwritten
      have hafter := beside_withNewcomer { w₁ with requested := name :: w₁.requested } d
      refine ⟨congrArg List.length hbeside.sessions, d.session, ?_, ?_, ?_, hwritten⟩
      · exact hafter.sessions.trans (congrArg (· ++ [d.session]) hbeside.sessions)
      · exact (htransacts.delivered o rfl rfl).2.2
      · exact htransacts.released rfl

theorem obtains_getOrStart (hsound : w.Sound) (name : Text) (settings : Settings) :
    Obtains name w (getOrStart name settings w).1 (getOrStart name settings w).2 := by
  have hlooks := looks_get? hsound name
  rcases hget : get? name w with ⟨outcome, w₁⟩
  rw [hget] at hlooks
  cases hlooks with
  | live hfound hs halive =>
    rw [getOrStart, Op.bind_ok hget]
    exact .live hfound hs halive
  | gone hnone hlength hwritten =>
    rw [getOrStart, Op.bind_ok hget]
    simp only
    have hregistered := registered_startSession name settings w₁
    rcases hstart : startSession name settings true w₁ with ⟨f | handle, w₂⟩
      <;> rw [hstart] at hregistered
    · rw [Op.bind_error hstart]
      exact .missing ((congrArg (List.lookup name) hregistered).trans hnone)
    · obtain ⟨hhandle, s, hsessions, hcache, hfree, hnothing⟩ := startSession_fresh hstart
      rw [Op.bind_ok hstart]
      refine .fresh (s := s) ?_ ((lookup_register _ _ _ _).trans (if_pos rfl)) ?_ hcache hfree
        fun other => ?_
      · exact Nat.le_of_eq (hlength.symm.trans hhandle.symm)
      · show w₂.sessions[handle]? = some s
        rw [hsessions, hhandle]
        exact List.getElem?_concat_length
      · exact (writtenTo_append (w := w₁) hsessions hnothing other).trans (hwritten other)

/-- Where no session is registered, because it has just been taken out, one is started. -/
theorem Obtains.restarted {w₁ : World} {outcome : Except Failure Nat}
    (h : Obtains name w₁ outcome w') (hnone : find? w₁ name = none)
    (hlength : w₁.sessions.length = w.sessions.length)
    (hwritten : ∀ handle, w₁.writtenTo handle = w.writtenTo handle) :
    Obtains name w outcome w' := by
  cases h with
  | live hfound =>
    rw [hnone] at hfound
    cases hfound
  | fresh hnew hfound hs hcache hfree hnothing =>
    exact .fresh (hlength ▸ hnew) hfound hs hcache hfree fun handle =>
      (hnothing handle).trans (hwritten handle)
  | missing hnone => exact .missing hnone

/-- The session that is returned is registered. -/
theorem Looks.found (h : Looks name w (.ok (some handle)) w') :
    find? w' name = some handle ∧ ∃ s, w'.session? handle = some s := by
  cases h with
  | live hfound hs => exact ⟨hfound, _, hs⟩

theorem Obtains.found (h : Obtains name w (.ok handle) w') :
    find? w' name = some handle ∧ ∃ s, w'.session? handle = some s := by
  cases h with
  | live hfound hs => exact ⟨hfound, _, hs⟩
  | fresh _ hfound hs => exact ⟨hfound, _, hs⟩

/-- The session was there, or nothing is cached for it. -/
theorem Obtains.live_or_empty (h : Obtains name w (.ok handle) w') :
    (w' = w ∧ w.Live name) ∨ w'.cached name = none := by
  cases h with
  | live hfound hs halive => exact .inl ⟨rfl, handle, _, hfound, hs, halive⟩
  | fresh _ hfound hs hcache =>
    refine .inr ?_
    rw [cached_of_some hfound hs, hcache]
    rfl

/-- Nothing is written on the way to a session. -/
theorem Obtains.written (h : Obtains name w (.ok handle) w') (other : Nat) :
    w'.writtenTo other = w.writtenTo other := by
  cases h with
  | live => rfl
  | fresh _ _ _ _ _ hwritten => exact hwritten other

/-- On the way to the live session nothing is delivered to one that stays. -/
theorem Looks.treats {outcome : Except Failure (Option Nat)} (h : Looks name w outcome w') :
    Treats name False w w' := by
  cases h with
  | live => exact .refl name w
  | gone hnone => exact treats_of_none hnone

theorem Obtains.treats {outcome : Except Failure Nat} (hsound : w.Sound)
    (h : Obtains name w outcome w') : Treats name False w w' := by
  cases h with
  | live => exact .refl name w
  | missing hnone => exact treats_of_none hnone
  | fresh hnew hfound hs hcache hfree hwritten =>
    have hempty : w'.cached name = none := by
      rw [cached_of_some hfound hs, hcache]
      rfl
    refine ⟨fun _ handle' s' hfound' hs' => ?_, fun _ => hempty, fun _ hsame => ?_⟩
    · rw [hfound] at hfound'
      cases hfound'
      rw [hs] at hs'
      cases hs'
      exact hfree
    · -- a number that has just been given out was not registered before
      exact absurd (hsound.lt (hsame.symm.trans hfound)) (Nat.not_lt.mpr hnew)

end Registry

end ReplDriver
