import ReplDriver.Proofs.Workspace.Failing
import ReplDriver.Proofs.World.Cached

/-!
# How operations of a workspace treat what is cached

What is cached for the session of a workspace stays as it is under every operation but a completion,
unless the operation delivers something, or ends or replaces the session; then nothing is cached. A
completion is answered by what is cached, and changes nothing; or the process is asked, and what it
answers is cached.

* `Seat.treats_sendCode`, `Seat.treats_interrupt`, `Seat.treats_reset` and the like: operations that
  complete nothing.
* `Seat.complete_cached`, `Seat.complete_asks`: the two ways of a completion.
-/

namespace ReplDriver.Seat

open World Registry

variable {α : Type} {s s' : Seat}

/-! ## At the live session -/

theorem obtains_session (hsound : s.world.Sound) :
    Obtains s.name s.world (session s).1 (session s).2.world :=
  obtains_getOrStart hsound s.name s.workspace.settings

theorem looks_session? (hsound : s.world.Sound) :
    Looks s.name s.world (session? s).1 (session? s).2.world :=
  looks_get? hsound s.name

theorem treats_session (hsound : s.world.Sound) :
    Treats s.name False s.world (session s).2.world :=
  (obtains_session hsound).treats hsound

/-- Once the live session has been found or started, an operation is carried out at its desk. -/
theorem atSession_ok {act : ReplyRules → Op Desk α} {handle : Nat} {s₁ : Seat}
    (h : session s = (.ok handle, s₁)) :
    atSession act s = ((atDesk handle (act s₁.workspace.rules) s₁.world).1,
      { s₁ with world := (atDesk handle (act s₁.workspace.rules) s₁.world).2 }) := by
  rw [atSession, Op.bind_ok h]
  rfl

theorem atSession_error {act : ReplyRules → Op Desk α} {f : Failure}
    (h : session s = (.error f, s')) : atSession act s = (.error f, s') := by
  rw [atSession, Op.bind_error h]

/-- Changing what an operation at the live session returns changes nothing else. -/
theorem atSession_map {β : Type} (g : α → β) (act : ReplyRules → Op Desk α) (s : Seat) :
    atSession (fun rules => g <$> act rules) s =
      ((atSession act s).1.map g, (atSession act s).2) := by
  rcases hsession : session s with ⟨f | handle, s₁⟩
  · rw [atSession_error hsession, atSession_error hsession]
    rfl
  · rw [atSession_ok hsession, atSession_ok hsession, atDesk, atDesk]
    rcases s₁.world.session? handle with _ | session
    · rfl
    · simp only [Op.map_apply]
      rfl

/-- A call at the live session, which delivers if it returns. -/
theorem treats_atSession (hsound : s.world.Sound) (call : Call)
    (hdelivered : call.delivered = true) :
    Treats s.name (∃ o, (atSession (fun rules => call.run rules) s).1 = .ok o) s.world
      (atSession (fun rules => call.run rules) s).2.world := by
  have hobtains := obtains_session hsound
  have htreats := hobtains.treats hsound
  rcases hsession : session s with ⟨f | handle, s₁⟩ <;> rw [hsession] at hobtains htreats
  · rw [atSession_error hsession]
    exact htreats.mono (by simp)
  · obtain ⟨hfound, session, hs⟩ := hobtains.found
    rw [atSession_ok hsession]
    exact htreats.next (treats_call hfound hs _ call hdelivered) (find?_atDesk _ _ _ _)

/-! ## Sending -/

/-- Sending delivers unless the code is blank. -/
theorem treats_sendCode (hsound : s.world.Sound) (code : Text) :
    Treats s.name (∃ e, (sendCode code s).1 = .ok e ∧ e.isEmpty = false) s.world
      (sendCode code s).2.world := by
  rw [sendCode, Op.get_bind]
  simp only
  split
  · refine (Treats.refl s.name s.world).mono ⟨False.elim, ?_⟩
    rintro ⟨e, he, hvalue⟩
    cases he
    cases hvalue
  · have htreats := treats_atSession hsound (.submit (s.workspace.prepare code)) rfl
    rcases hcall : atSession (fun rules => (Call.submit (s.workspace.prepare code)).run rules) s
      with ⟨f | raw, s₁⟩ <;> rw [hcall] at htreats
    · have hsend : atSession (fun rules => Desk.submit rules (s.workspace.prepare code)) s =
          (.error f, s₁) := hcall
      rw [Op.bind_error hsend]
      exact htreats.mono (by simp)
    · have hsend : atSession (fun rules => Desk.submit rules (s.workspace.prepare code)) s =
          (.ok raw, s₁) := hcall
      rw [Op.bind_ok hsend]
      exact htreats.mono ⟨fun _ => ⟨_, rfl, rfl⟩, fun _ => ⟨raw, rfl⟩⟩

theorem treats_sendLast (hsound : s.world.Sound) (text : Text) (point : Int) :
    Treats s.name (∃ e, (sendLast text point s).1 = .ok e ∧ e.isEmpty = false) s.world
      (sendLast text point s).2.world := by
  rcases hboundary : Expression.boundary text point with f | first
  · have hread : boundary text point s = (.error f, s) := by
      rw [boundary, hboundary]
      rfl
    rw [sendLast, Op.bind_error hread]
    exact (Treats.refl s.name s.world).mono (by simp)
  · have hread : boundary text point s = (.ok first, s) := by
      rw [boundary, hboundary]
      rfl
    rw [sendLast, Op.bind_ok hread]
    exact treats_sendCode hsound _

theorem treats_loadFile (hsound : s.world.Sound) (path : Text) :
    Treats s.name (∃ e, (loadFile path s).1 = .ok e ∧ e.isEmpty = false) s.world
      (loadFile path s).2.world := by
  rw [loadFile, Op.get_bind]
  rcases hread : s.world.machine.readText (s.world.machine.absolute path).text with f | code
  · have hnothing : (Op.ofExcept (.error f) : Op Seat Text) s = (.error f, s) := rfl
    rw [Op.bind_error hnothing]
    exact (Treats.refl s.name s.world).mono (by simp)
  · have hbeside := beside_record s.world (.loading (s.world.machine.absolute path).text)
    have hsend := treats_sendCode (s := { s with world := s.world.record _ })
      (hsound.beside hbeside) code
    exact Treats.beside hbeside hsend

/-! ## Control -/

/-- An interrupt delivers if it waits. -/
theorem treats_interrupt (hsound : s.world.Sound) (wait : Bool) :
    Treats s.name (wait = true ∧ ∃ o, (interrupt wait s).1 = .ok o) s.world
      (interrupt wait s).2.world := by
  have hlooks := looks_session? hsound
  rcases hlook : session? s with ⟨f | _ | handle, s₁⟩ <;> rw [hlook] at hlooks
  · cases hlooks
  · rw [interrupt, Op.bind_ok hlook]
    cases hlooks with
    | gone hnone => exact treats_of_none hnone
  · obtain ⟨hfound, session, hs⟩ := hlooks.found
    -- the interrupt itself changes nothing but the process
    have hinterrupt : Treats s.name False s₁.world
        (atDesk handle Desk.interrupt s₁.world).2 := by
      rw [atDesk_eq hs]
      exact treats_leaveDesk hfound hs id nofun fun _ => rfl
    have hfound₂ := (find?_atDesk Desk.interrupt s₁.world handle s.name).trans hfound
    obtain ⟨session₂, hs₂⟩ : ∃ session₂,
        (atDesk handle Desk.interrupt s₁.world).2.session? handle = some session₂ := by
      rw [atDesk_eq hs]
      exact ⟨_, session?_leaveDesk hs _⟩
    have hboth := hlooks.treats.next hinterrupt (find?_atDesk _ _ _ _)
    have hsent : onWorld (atDesk handle Desk.interrupt) s₁ =
        ((atDesk handle Desk.interrupt s₁.world).1,
          { s₁ with world := (atDesk handle Desk.interrupt s₁.world).2 }) := rfl
    rw [interrupt, Op.bind_ok hlook]
    simp only
    rcases houtcome : (atDesk handle Desk.interrupt s₁.world).1 with f | _ <;>
      rw [houtcome] at hsent
    · -- an interrupt that could not be sent is not waited for
      rw [Op.bind_error hsent]
      exact hboth.mono (by simp)
    · rw [Op.bind_ok hsent]
      cases wait with
      | false => exact hboth.mono (by simp)
      | true =>
        have hwait := treats_call hfound₂ hs₂ s₁.workspace.rules (.awaitPrompt true) rfl
        exact (hboth.next hwait (find?_atDesk _ _ _ _)).mono ⟨fun h => ⟨rfl, h⟩, fun h => h.2⟩

/-- Nothing is delivered when the transcript is cleared or read. -/
theorem treats_clear (hsound : s.world.Sound) :
    Treats s.name False s.world (clear s).2.world := by
  have hlooks := looks_session? hsound
  rcases hlook : session? s with ⟨f | _ | handle, s₁⟩ <;> rw [hlook] at hlooks
  · cases hlooks
  · rw [clear, Op.bind_ok hlook]
    exact hlooks.treats
  · obtain ⟨hfound, session, hs⟩ := hlooks.found
    have hclear : Treats s.name False s₁.world
        (atDesk handle (Desk.onSession Session.clear) s₁.world).2 := by
      rw [atDesk_eq hs]
      exact treats_leaveDesk hfound hs id nofun fun _ => rfl
    rw [clear, Op.bind_ok hlook]
    exact hlooks.treats.next hclear
      (find?_atDesk (Desk.onSession Session.clear) s₁.world handle s.name)

theorem treats_transcript (hsound : s.world.Sound) :
    Treats s.name False s.world (transcript s).2.world := by
  have hlooks := looks_session? hsound
  rcases hlook : session? s with ⟨f | _ | handle, s₁⟩ <;> rw [hlook] at hlooks
  · cases hlooks
  · rw [transcript, Op.bind_ok hlook]
    exact hlooks.treats
  · rw [transcript, Op.bind_ok hlook]
    exact hlooks.treats

theorem close_gone (hsound : s.world.Sound) :
    ∃ w', close s = (.ok (), { s with world := w' }) ∧ find? w' s.name = none ∧
      w'.sessions.length = s.world.sessions.length ∧
      ∀ handle, w'.writtenTo handle = s.world.writtenTo handle := by
  obtain ⟨w', hremove, hgone⟩ := remove_gone hsound s.name
  exact ⟨w', close_apply hremove, hgone⟩

theorem treats_close (hsound : s.world.Sound) :
    Treats s.name False s.world (close s).2.world := by
  obtain ⟨w', hclose, hnone, -⟩ := close_gone hsound
  rw [hclose]
  exact treats_of_none hnone

/-- The session that is started by a reset is another one. -/
theorem treats_reset (hsound : s.world.Sound) :
    Treats s.name False s.world (reset s).2.world := by
  obtain ⟨w', hclose, hnone, hlength, hwritten⟩ := close_gone hsound
  obtain ⟨_, hdoes, -⟩ := traced_close hsound
  have hsound' : w'.Sound := by
    have hclosed := hdoes.sound hsound
    rwa [hclose] at hclosed
  have hobtains : Obtains s.name w' _ _ :=
    obtains_session (s := ⟨s.workspace.forget, w'⟩) hsound'
  rw [reset, Op.bind_ok hclose]
  exact (hobtains.restarted hnone hlength hwritten).treats hsound

/-! ## Completing -/

/-- What is cached answers a completion: the session is there, and the probe goes on from the one
that is cached, without a character past which the candidates no longer hold. -/
def Answered (s : Seat) (probe : Text) (found : List Text) : Prop :=
  s.world.Live s.name ∧ ∃ cached added, s.world.cached s.name = some (cached, found) ∧
    probe = cached ++ added ∧ ∀ c ∈ added, Completion.isBoundary c = false

/-- The live session has been found or started, and texts have been typed to its process and to no
other. The session is registered and free, and its transcript and marker are as they were before
anything was typed. -/
structure Typed (s : Seat) (handle : Nat) (before : Session) (texts : List Text) (s' : Seat)
    (after : Session) : Prop where
  begun : ∃ s₁, session s = (.ok handle, s₁) ∧ s₁.world.session? handle = some before
  registered : find? s'.world s.name = some handle
  there : s'.world.session? handle = some after
  written : ∀ other, s'.world.writtenTo other =
    s.world.writtenTo other ++ if other = handle then texts else []
  transcript : after.transcript = before.transcript
  marker : after.marker = before.marker
  free : after.exchangeOpen = false

/-- The registered session is free, and what is cached for it is what it holds now. -/
theorem Typed.holds {handle : Nat} {before after : Session} {texts : List Text}
    (h : Typed s handle before texts s' after) :
    s'.world.Free s.name ∧ s'.world.cached s.name = after.cache.entry := by
  refine ⟨fun handle' session hfound hs => ?_, cached_of_some h.registered h.there⟩
  rw [h.registered] at hfound
  cases hfound
  rw [h.there] at hs
  cases hs
  exact h.free

/-- Typing that stores no candidates leaves what is cached as it is. -/
theorem Typed.treats {handle : Nat} {before after : Session} {texts : List Text}
    (h : Typed s handle before texts s' after) (hsound : s.world.Sound)
    (hcache : after.cache = before.cache) : Treats s.name False s.world s'.world := by
  obtain ⟨s₁, hsession, hbefore⟩ := h.begun
  have hobtains := obtains_session hsound
  rw [hsession] at hobtains
  have hfind : find? s'.world s.name = find? s₁.world s.name :=
    h.registered.trans hobtains.found.1.symm
  have htyped : Treats s.name False s₁.world s'.world := by
    refine ⟨fun _ => h.holds.1, fun hother => ?_, fun _ _ => ?_⟩
    · exact absurd hfind (hother.resolve_left id)
    · rw [h.holds.2, cached_of_some hobtains.found.1 hbefore, hcache]
  exact (hobtains.treats hsound).next htyped hfind

/-- How a completion ends for which the process has to be asked. There is no session and none can be
started; or the probe is typed, and what the answer shows is cached; or it is given up when a
beginning of the probe has been typed, and what is cached stays. Where reads and writes do not fail,
it is given up only if a wait never ends. -/
inductive Asks (probe : Text) (s : Seat) : Except Failure (List Text) → Seat → Prop
  | unstarted {f : Failure} {s' : Seat} (h : session s = (.error f, s')) :
      Asks probe s (.error f) s'
  | probed {handle : Nat} {before after : Session} {found : List Text} {s' : Seat}
      (h : Typed s handle before (Completion.keys probe) s' after)
      (hcache : after.cache.entry = some (probe, found)) : Asks probe s (.ok found) s'
  | givenUp {handle : Nat} {before after : Session} {texts : List Text} {f : Failure} {s' : Seat}
      (h : Typed s handle before texts s' after) (hbegun : texts <+: Completion.keys probe)
      (htyped : texts ≠ []) (hcache : after.cache = before.cache)
      (hf : s.Works → f = .blocked) : Asks probe s (.error f) s'

/-- What is cached answers a completion, and nothing but a note is taken. -/
theorem complete_cached {token : Text} {inModulePath : Bool} {found : List Text}
    (h : s.Answered (Completion.probeText token inModulePath) found) :
    (complete token inModulePath s).1 = .ok found ∧
      (complete token inModulePath s).2.workspace = s.workspace ∧
      Beside s.world (complete token inModulePath s).2.world := by
  obtain ⟨hlive, cached, added, hcached, hprobe, hadded⟩ := h
  obtain ⟨handle, session, hfound, hs, -, hget⟩ := get?_live hlive
  rw [cached_of_some hfound hs] at hcached
  have hlookup := CompletionCache.lookup?_eq_some_iff.mpr ⟨cached, added, hcached, hprobe, hadded⟩
  have hlook : getOrStart s.name s.workspace.settings s.world = (.ok handle, s.world) := by
    rw [getOrStart, Op.bind_ok hget]
    rfl
  have hsession : Seat.session s = (.ok handle, s) := session_apply hlook
  have hcomplete : Completion.complete s.workspace.rules token inModulePath
      (s.world.desk session) = (.ok found,
        ⟨session, s.world.clock, [.cacheHit (Completion.probeText token inModulePath)]⟩) := by
    rw [Completion.complete, Op.get_bind]
    simp only [World.desk, hlookup]
    rfl
  rw [complete, atSession_ok hsession, atDesk_eq hs, hcomplete]
  exact ⟨rfl, rfl, beside_of_leaveDesk hs rfl rfl⟩

/-- What has been typed at the desk of the live session. -/
theorem typed_atDesk {handle : Nat} {s₁ : Seat} {before : Session} {texts : List Text} {d : Desk}
    (hsound : s.world.Sound) (hsession : session s = (.ok handle, s₁))
    (hbefore : s₁.world.session? handle = some before)
    (hwritten : d.written = before.process.written ++ texts)
    (htranscript : d.session.transcript = before.transcript)
    (hmarker : d.session.marker = before.marker) (hfree : d.session.exchangeOpen = false) :
    Typed s handle before texts { s₁ with world := s₁.world.leaveDesk handle d } d.session := by
  have hobtains := obtains_session hsound
  rw [hsession] at hobtains
  refine ⟨⟨s₁, hsession, hbefore⟩, ?_, session?_leaveDesk hbefore d, fun other => ?_, htranscript,
    hmarker, hfree⟩
  · exact (find?_leaveDesk _ _ _ _).trans hobtains.found.1
  · rw [writtenTo_leaveDesk hbefore, ← hobtains.written other]
    split
    · next heq =>
      rw [heq, hwritten, writtenTo_of_some hbefore]
    · rw [List.append_nil]

/-- If nothing that is cached answers a probe, neither does the cache of the session that has been
found or started: it is a new one, or what it holds is of no use. -/
theorem lookup?_of_not_answered {handle : Nat} {s₁ : Seat} {before : Session} {probe : Text}
    (hsound : s.world.Sound) (hsession : session s = (.ok handle, s₁))
    (hbefore : s₁.world.session? handle = some before) (h : ∀ found, ¬ s.Answered probe found) :
    before.cache.lookup? probe = none := by
  have hobtains := obtains_session hsound
  rw [hsession] at hobtains
  obtain ⟨hfound, -⟩ := hobtains.found
  rcases hlookup : before.cache.lookup? probe with _ | found
  · rfl
  · obtain ⟨cached, added, hentry, hanswer⟩ := CompletionCache.lookup?_eq_some_iff.mp hlookup
    rw [← cached_of_some hfound hbefore] at hentry
    obtain ⟨hsame, hlive⟩ | hempty := hobtains.live_or_empty
    · rw [hsame] at hentry
      exact absurd ⟨hlive, cached, added, hentry, hanswer⟩ (h found)
    · rw [hempty] at hentry
      cases hentry

/-- If nothing that is cached answers it, a completion asks the process. -/
theorem complete_asks (hsound : s.world.Sound) (hfree : s.world.Free s.name) {token : Text}
    {inModulePath : Bool}
    (h : ∀ found, ¬ s.Answered (Completion.probeText token inModulePath) found) :
    Asks (Completion.probeText token inModulePath) s (complete token inModulePath s).1
      (complete token inModulePath s).2 := by
  have hobtains := obtains_session hsound
  obtain ⟨es, hdoes, -⟩ := traced_session hsound
  rcases hsession : session s with ⟨f | handle, s₁⟩
  · rw [complete, atSession_error hsession]
    exact .unstarted hsession
  rw [hsession] at hobtains hdoes
  obtain ⟨hfound, before, hbefore⟩ := hobtains.found
  have hfree₁ : before.exchangeOpen = false :=
    (hobtains.treats hsound).free hfree handle before hfound hbefore
  have hready (hworks : s.Works) : (s₁.world.desk before).Ready :=
    ⟨(hworks.does hdoes).processes _ (List.mem_of_getElem? hbefore), hfree₁⟩
  have hmissed := lookup?_of_not_answered hsound hsession hbefore h
  rw [complete, atSession_ok hsession, atDesk_eq hbefore]
  have hway := Completion.complete_way s₁.workspace.rules token inModulePath
    (s₁.world.desk before)
  have hends := fun hworks => (Completion.meets_ready_complete s₁.workspace.rules token
    inModulePath).ends (hready hworks)
  generalize hcomplete : Completion.complete s₁.workspace.rules token inModulePath
    (s₁.world.desk before) = result at hway hends ⊢
  obtain ⟨outcome, d⟩ := result
  cases hway with
  | cached hcached =>
    rw [show (s₁.world.desk before).session.cache = before.cache from rfl, hmissed] at hcached
    cases hcached
  | probed _ htypes =>
    exact .probed (typed_atDesk hsound hsession hbefore htypes.written htypes.transcript
      htypes.marker (htypes.free hfree₁)) rfl
  | givenUp _ htypes hbegun htyped =>
    refine .givenUp (typed_atDesk hsound hsession hbefore htypes.written htypes.transcript
      htypes.marker (htypes.free hfree₁)) hbegun (htyped hfree₁) htypes.cache fun hworks => ?_
    cases hends hworks with
    | error _ hf => exact hf

end ReplDriver.Seat
