import ReplDriver.Proofs.Session.Call

/-!
# Exchanges as transactions

Whatever happens during a call that exchanges text with a session, afterwards output goes to where
it went before and the session is released. A call that fails leaves the transcript, the marker
and the cached candidates as they were; a call that returns changes them by delivering the reply,
or not at all. So the session is settled between any two operations: nothing holds it, output goes
to the transcript, and the marker counts the characters of the transcript.

* `Operation.run_transacts`: calls are transactions, and every run of operations leaves a settled
  session.
-/

namespace ReplDriver

/-! ## One call -/

/-- What a call has done to a session when it is over, on every way out of it. -/
structure Transacts (call : Call) (d : Desk) (outcome : Except Failure Text) (d' : Desk) :
    Prop where
  /-- While an exchange is open, another is refused, and nothing at all is done. -/
  refused : d.session.exchangeOpen = true →
    outcome = .error (.exchangeOpen d.session.name) ∧ d' = d
  /-- Output goes where it went before. -/
  sink : d'.session.sink = d.session.sink
  /-- A session that was free is free again. -/
  released : d.session.exchangeOpen = false → d'.session.exchangeOpen = false
  /-- A failed call leaves no trace in the transcript, the marker and the cached candidates. -/
  failed : ∀ f, outcome = .error f →
    d'.session.transcript = d.session.transcript ∧ d'.session.marker = d.session.marker ∧
      d'.session.cache = d.session.cache
  /-- A delivered reply is one more chunk, unless it is empty. -/
  delivered : ∀ o, outcome = .ok o → call.delivered = true →
    d'.session.transcript = d.session.transcript ++ (if o = [] then [] else [o]) ∧
      d'.session.marker = d.session.marker + o.length ∧ d'.session.cache = .empty
  /-- A reply that is not delivered leaves no trace either. -/
  kept : ∀ o, outcome = .ok o → call.delivered = false →
    d'.session.transcript = d.session.transcript ∧ d'.session.marker = d.session.marker ∧
      d'.session.cache = d.session.cache

namespace Call

/-- A call is a transaction. -/
theorem transacts (rules : ReplyRules) (call : Call) (d : Desk) :
    Transacts call d (call.run rules d).1 (call.run rules d).2 := by
  have hway := Desk.run_way rules call.text (call.complete rules.prompt) call.delivered d
  rw [← run_eq] at hway
  -- between the brackets everything arrives in the capture, whichever way the call goes
  have hcaptures : ∀ {outcome inside},
      Desk.converse rules call.text (call.complete rules.prompt) d.opened = (outcome, inside) →
        Desk.Captures d.opened inside := by
    intro outcome inside hinside
    rw [← show _ = inside from congrArg Prod.snd hinside]
    exact Desk.converse_captures rfl
  generalize (call.run rules d).1 = outcome at hway ⊢
  generalize (call.run rules d).2 = d' at hway ⊢
  cases hway with
  | refused hopen =>
    exact ⟨fun _ => ⟨rfl, rfl⟩, rfl, fun h => h, fun _ _ => ⟨rfl, rfl, rfl⟩, nofun, nofun⟩
  | failed hfree hinside =>
    have hkept := hcaptures hinside
    refine ⟨fun hopen => ?_, rfl, fun _ => rfl, fun _ _ => ?_, nofun, nofun⟩
    · rw [hfree] at hopen
      cases hopen
    · exact ⟨hkept.transcript, rfl, hkept.cache⟩
  | answered hfree hinside =>
    have hkept := hcaptures hinside
    have hnever : d.session.exchangeOpen = true → False := by
      intro hopen
      rw [hfree] at hopen
      cases hopen
    -- only the delivery, outside the brackets, touches the transcript
    rcases hdelivered : call.delivered with _ | _
    · refine ⟨fun hopen => (hnever hopen).elim, rfl, fun _ => rfl, nofun, fun o _ htrue => ?_, ?_⟩
      · rw [hdelivered] at htrue
        cases htrue
      · exact fun o _ _ => ⟨hkept.transcript, rfl, hkept.cache⟩
    · refine ⟨fun hopen => (hnever hopen).elim, ?_, ?_, nofun, fun o ho _ => ?_,
        fun o _ hfalse => ?_⟩
      · rw [Desk.session_answered]
        rfl
      · rw [Desk.session_answered]
        exact fun _ => rfl
      · cases ho
        rw [Desk.session_answered, hkept.transcript]
        exact ⟨rfl, rfl, rfl⟩
      · rw [hdelivered] at hfalse
        cases hfalse

end Call

/-! ## A run of operations -/

/-- The session between two operations: nothing holds it, output goes to the transcript, and the
marker counts what has been delivered since the transcript was last cleared. -/
structure Session.Settled (s : Session) : Prop where
  free : s.exchangeOpen = false
  sink : s.sink = .transcript
  marker : s.marker = s.output.length

/-- What is done with a session. Between two operations the process does what it will, and time
passes. -/
inductive Operation where
  | call (rules : ReplyRules) (call : Call)
  | pump (timeout : Double)
  | accept (text : Text)
  | deliver (text : Text)
  | clear
  | store (probe : Text) (candidates : List Text)
  | interrupt
  | close
  | meanwhile (process : Process) (clock : Clock)

namespace Operation

/-- The desk after an operation, whether it has failed or not. -/
def after (d : Desk) : Operation → Desk
  | .call rules c => (c.run rules d).2
  | .pump timeout => (Desk.pump timeout d).2
  | .accept text => { d with session := d.session.accept text }
  | .deliver text => { d with session := d.session.deliver text }
  | .clear => { d with session := d.session.clear }
  | .store probe candidates =>
    { d with session := { d.session with cache := d.session.cache.store probe candidates } }
  | .interrupt => (Desk.interrupt d).2
  | .close => (Desk.close d).2
  | .meanwhile process clock => { d with session := { d.session with process }, clock }

/-- The desk after some operations, from a session that has just been started. -/
def run (name executable : Text) (process : Process) (clock : Clock) (operations : List Operation) :
    Desk :=
  operations.foldl after ⟨.start name executable process, clock, []⟩

/-- A call leaves a settled session settled, however it goes. -/
theorem settled_call {rules : ReplyRules} {c : Call} {d : Desk} (h : d.session.Settled) :
    (c.run rules d).2.session.Settled := by
  have htransacts := c.transacts rules d
  refine ⟨htransacts.released h.free, htransacts.sink.trans h.sink, ?_⟩
  rcases houtcome : (c.run rules d).1 with f | o
  -- marker and transcript move together or not at all
  · obtain ⟨htranscript, hmarker, -⟩ := htransacts.failed f houtcome
    rw [hmarker, h.marker, Session.output, Session.output, htranscript]
  · rcases hdelivered : c.delivered with _ | _
    · obtain ⟨htranscript, hmarker, -⟩ := htransacts.kept o houtcome hdelivered
      rw [hmarker, h.marker, Session.output, Session.output, htranscript]
    · obtain ⟨htranscript, hmarker, -⟩ := htransacts.delivered o houtcome hdelivered
      rw [hmarker, h.marker, Session.output, Session.output, htranscript]
      cases o <;> simp

/-- Delivered output is counted. -/
theorem settled_deliver {s : Session} (h : s.Settled) (text : Text) : (s.deliver text).Settled := by
  rw [Session.deliver_eq]
  refine ⟨h.free, h.sink, ?_⟩
  show s.marker + text.length = _
  rw [h.marker, Session.output, Session.output]
  cases text <;> simp

/-- Output that arrives at a settled session is delivered. -/
theorem settled_accept {s : Session} (h : s.Settled) (text : Text) : (s.accept text).Settled := by
  rw [Session.accept, h.sink]
  exact settled_deliver h text

/-- A read only moves the process and the clock. -/
theorem settled_read {d d' : Desk} {timeout : Double} {outcome : Except Failure Reading}
    (h : d.session.Settled) (hread : d.read timeout = (outcome, d')) : d'.session.Settled := by
  rw [(Desk.read_eq hread).2]
  exact ⟨h.free, h.sink, h.marker⟩

/-- A pump delivers what arrives, whatever else it meets. -/
theorem settled_pumpUntil {deadline left : Double} {d : Desk} (h : d.session.Settled) :
    (Desk.pumpUntil deadline left d).2.session.Settled := by
  fun_induction Desk.pumpUntil deadline left d with
  | case1 left d hleft f d' hread => exact settled_read h hread
  | case2 left d hleft d' hread =>
    have hsettled := settled_read h hread
    show d'.sawEnd.session.Settled
    unfold Desk.sawEnd
    split
    · exact hsettled
    · exact ⟨hsettled.free, hsettled.sink, hsettled.marker⟩
  | case3 left d hleft d' hread => exact settled_read h hread
  | case4 left d hleft s d' hread d'' =>
    rename_i ih
    have hsettled := settled_read h hread
    apply ih
    show (d'.takeIn s).session.Settled
    unfold Desk.takeIn
    split
    · exact hsettled
    · exact settled_accept hsettled s
  | case5 left d hleft => exact h

/-- An operation leaves a settled session settled. -/
theorem settled_after {d : Desk} (h : d.session.Settled) (operation : Operation) :
    (operation.after d).session.Settled := by
  cases operation with
  | call rules c => exact settled_call h
  | pump timeout => exact settled_pumpUntil h
  | accept text => exact settled_accept h text
  | deliver text => exact settled_deliver h text
  | clear => exact ⟨h.free, h.sink, rfl⟩
  | store probe candidates => exact ⟨h.free, h.sink, h.marker⟩
  | interrupt => exact ⟨h.free, h.sink, h.marker⟩
  | close => exact ⟨h.free, h.sink, h.marker⟩
  | meanwhile process clock => exact ⟨h.free, h.sink, h.marker⟩

/-- Every call is a transaction on its session, however its channel behaves: afterwards output
goes to where it went before and the session is released, and the transcript, the marker and the
cached candidates are changed by the delivery of the reply or not at all; while an exchange is
open, the call is refused and changes nothing. So in every run of operations on a session the
session is settled before and after each of them. -/
theorem run_transacts :
    (∀ (rules : ReplyRules) (call : Call) (d : Desk),
      Transacts call d (call.run rules d).1 (call.run rules d).2) ∧
    ∀ (name executable : Text) (process : Process) (clock : Clock) (operations : List Operation),
      (run name executable process clock operations).session.Settled := by
  refine ⟨Call.transacts, fun name executable process clock operations => ?_⟩
  -- the induction is over the operations, so it starts from any settled session
  suffices hrun : ∀ d : Desk, d.session.Settled → (operations.foldl after d).session.Settled by
    exact hrun _ ⟨rfl, rfl, rfl⟩
  induction operations with
  | nil => exact fun d h => h
  | cons operation operations ih => exact fun d h => ih _ (settled_after h operation)

end Operation

end ReplDriver
