import ReplDriver.Proofs.Process.Answering
import ReplDriver.Proofs.Session.Timeless
import ReplDriver.Proofs.Session.Transaction

/-!
# Calls to a process that answers

At the desk of a session whose process answers, every wait for the prompt comes to an end. A call
returns, or it is interrupted; the session is free after it, and its process goes on answering.

* `Desk.Answering.awaitReply`: a wait is over when the answer is, if not before.
* `Desk.Responsive.call`: how calls end.
-/

namespace ReplDriver

open Terminal

variable {prompt : Text} {rounding : Double.Rounding}

/-- An answer after a text ends a wait for the prompt: the process is gone, or there is an event to
come that ends it, or the prompt is drawn on the last line of all that is printed. -/
def Process.Due (prompt sofar : Text) (p : Process) : Prop :=
  p.alive = false ∨ (∃ e ∈ p.queue, e.Stops) ∨
    DrawsPrompt prompt (lastLineOf (sofar ++ printed p.queue))

theorem Answers.due {p : Process} (h : Answers prompt p.queue) (hprompt : '\n' ∉ prompt) :
    p.Due prompt [] := by
  obtain hstops | ⟨before, move, hprinted, hmove⟩ := h
  · exact .inr (.inl hstops)
  · refine .inr (.inr ?_)
    rw [List.nil_append, hprinted]
    exact drawsPrompt_lastLineOf hprompt before hmove

theorem Process.Due.yields {p p' : Process} {sofar text : Text} (h : p.Due prompt sofar)
    (hyields : p.Yields text p') : p'.Due prompt (sofar ++ text) := by
  obtain hdead | ⟨e, he, hstops⟩ | hdrawn := h
  · exact .inl (hyields.alive.trans hdead)
  · exact .inr (.inl ⟨e, hyields.breaks e he hstops.breaks, hstops⟩)
  · rw [hyields.printed, ← List.append_assoc] at hdrawn
    exact .inr (.inr hdrawn)

namespace Desk

variable {d d' : Desk} {c : Capture}

/-- The process at the desk answers, with the rounding of the clock. -/
structure Answering (prompt : Text) (rounding : Double.Rounding) (d : Desk) : Prop where
  process : d.session.process.Answering prompt rounding
  clock : d.clock.rounding = rounding

theorem Answering.source (h : d.Answering prompt rounding) (hsource : d'.source = d.source) :
    d'.Answering prompt rounding := by
  obtain ⟨hprocess, hclock⟩ := Prod.mk.inj hsource
  exact ⟨by rw [hprocess]; exact h.process, by rw [hclock]; exact h.clock⟩

theorem Answering.counted (h : d.Answering prompt rounding) : d.source.Counted := by
  intro e he
  rw [show d.source.2.rounding = rounding from h.clock]
  exact (h.process.plays e he).counted

/-- There is work left for a read, or the process is gone. -/
def Attends (d : Desk) : Prop := d.session.process.alive = true → 2 ≤ d.session.process.work

/-- A read at the desk of a process that answers fails only when it is interrupted. Output ends the
silence. -/
theorem Answering.read {timeout : Double} {outcome : Except Failure Reading}
    (h : d.Answering prompt rounding) (hwork : d.Attends) (hpositive : timeout.isPositive = true)
    (hread : d.read timeout = (outcome, d')) :
    d'.Answering prompt rounding ∧ (∀ f, outcome = .error f → f = .interrupted) ∧
      ∀ s, outcome = .ok (.chunk s) → d'.session.process.silences = 0 := by
  obtain ⟨found, p', clock', heq, hanswering, hclock, hends⟩ :=
    h.process.read h.clock hpositive hwork
  have hfound : (found, p', clock') = (outcome, d'.session.process, d'.clock) :=
    heq.symm.trans (read_eq hread).1
  cases hfound
  refine ⟨⟨hanswering, hclock⟩, ?_⟩
  obtain rfl | rfl | ⟨reading, rfl, hsilences⟩ := hends
  · exact ⟨fun f hf => by cases hf; rfl, nofun⟩
  · exact ⟨nofun, nofun⟩
  · exact ⟨nofun, fun s hs => hsilences (by cases hs; exact nofun)⟩

/-- So does a pump. -/
theorem Answering.pumpUntil {deadline left : Double} (h : d.Answering prompt rounding)
    (hc : d.session.sink = .capture c) (hwork : d.Attends) :
    (pumpUntil deadline left d).2.Answering prompt rounding ∧
      ((pumpUntil deadline left d).1 = .error .interrupted ∨
        ∃ alive, (pumpUntil deadline left d).1 = .ok alive) := by
  fun_induction Desk.pumpUntil deadline left d generalizing c with
  | case1 left d hleft f d' hread =>
    obtain ⟨hanswering, hfails, -⟩ := h.read hwork hleft hread
    exact ⟨hanswering, .inl (by rw [hfails f rfl])⟩
  | case2 left d hleft d' hread =>
    obtain ⟨hanswering, -⟩ := h.read hwork hleft hread
    exact ⟨hanswering.source (sawEnd_eq d').2.1, .inr ⟨false, rfl⟩⟩
  | case3 left d hleft d' hread => exact ⟨(h.read hwork hleft hread).1, .inr ⟨true, rfl⟩⟩
  | case4 left d hleft s d₁ hread d₂ =>
    rename_i ih
    obtain ⟨hanswering, -, hsilences⟩ := h.read hwork hleft hread
    obtain ⟨-, hc₁⟩ := captures_read hc hread
    have hsource : d₂.source = d₁.source := source_takeIn hc₁ s
    refine ih (hanswering.source hsource) (sink_takeIn hc₁ s) fun _ => ?_
    rw [show d₂.session.process = d₁.session.process from congrArg Prod.fst hsource]
    exact Nat.le_of_succ_le (Process.work_of_silences (hsilences s rfl))
  | case5 left d hleft => exact ⟨h, .inr ⟨true, rfl⟩⟩

/-! ## Waits -/

variable {interval : Double} {complete : Text → Bool}

/-- A wait for a line that draws the prompt, or for more lines than that, is over when the answer
that is due is, if not before. It fails only when it is interrupted. -/
theorem Answering.awaitReply {sofar : Text} (h : d.Answering prompt rounding)
    (hc : d.session.sink = .capture c) (hinterval : interval.isPositive = true)
    (hunits : 0 < interval.units) (hwork : d.Attends) (htracks : c.Tracks sofar)
    (hcomplete : ∀ line, DrawsPrompt prompt line → complete line = true)
    (hdue : d.session.process.Due prompt sofar) :
    (awaitReply interval complete d).2.Answering prompt rounding ∧
      ((awaitReply interval complete d).1 = .error .interrupted ∨
        (awaitReply interval complete d).1 = .ok ()) := by
  -- the induction is on the work that is left, which every round makes less
  induction hn : d.session.process.work using Nat.strongRecOn generalizing d c sofar with
  | ind n ih =>
    subst hn
    have hsource : d.hush.source = d.source := (captures_hush hc).2
    have hprocess : d.hush.session.process = d.session.process := congrArg Prod.fst hsource
    have hattends : d.hush.Attends := by
      unfold Attends
      rw [hprocess]
      exact hwork
    obtain ⟨hanswering, hends⟩ : (pump interval d.hush).2.Answering prompt rounding ∧
        ((pump interval d.hush).1 = .error .interrupted ∨
          ∃ alive, (pump interval d.hush).1 = .ok alive) :=
      (h.source hsource).pumpUntil (sink_hush hc) hattends
    rcases hpump : pump interval d.hush with ⟨outcome, d'⟩
    rw [hpump] at hanswering hends
    rw [Desk.awaitReply, show pump interval { d with session := d.session.quiet } = _ from hpump]
    obtain rfl | ⟨alive, rfl⟩ := hends
    · exact ⟨hanswering, .inl rfl⟩
    cases alive with
    | false => exact ⟨hanswering, .inr rfl⟩
    | true =>
      obtain ⟨text, c', hpumped, hsink, hrecorded, hlive, -⟩ := pump_pumped hc hpump
      obtain ⟨hyields, -, hless⟩ := hpumped.yields rfl h.counted
      have hyields : d.session.process.Yields text d'.session.process := hyields
      have hless : d'.session.process.work < d.session.process.work := hless hinterval hunits
      have hcaptured : d'.session.captured = c' := by rw [Session.captured, hsink]
      have htracks' : c'.Tracks (sofar ++ text) := hrecorded htracks
      simp only [hcaptured, htracks'.lastLine, hlive, Bool.not_not, if_pos hless]
      by_cases hstop : (text.isEmpty && complete (lastLineOf (sofar ++ text))) = true
      · rw [if_pos hstop]
        exact ⟨hanswering, .inr rfl⟩
      · rw [if_neg hstop]
        refine ih _ hless hanswering hsink (fun halive => ?_) htracks' (hdue.yields hyields) rfl
        -- the answer was not over, so the process has not been silent for too long
        refine hyields.patient (Nat.le_of_succ_le (Process.four_le_work fun hqueue => hstop ?_))
        have hprinted := hyields.printed
        rw [hqueue] at hprinted
        obtain ⟨rfl, -⟩ := List.append_eq_nil_iff.mp hprinted.symm
        obtain hdead | ⟨e, he, -⟩ | hdrawn := hdue
        · rw [hyields.alive.trans hdead] at halive
          cases halive
        · rw [hqueue] at he
          cases he
        · rw [hqueue] at hdrawn
          exact Bool.and_eq_true_iff.mpr ⟨rfl, hcomplete _ hdrawn⟩

end Desk

/-! ## Calls -/

/-- Code is submitted with a line end, or with what commits editor mode. -/
theorem frameSubmission_getLast? (code : Text) :
    (frameSubmission code).getLast? = some '\n' ∨
      (frameSubmission code).getLast? = some endOfTransmission := by
  unfold frameSubmission
  dsimp only
  split
  · exact .inr List.getLast?_concat
  · exact .inl List.getLast?_concat

theorem frameSubmission_ne_nil (code : Text) : frameSubmission code ≠ [] := by
  intro hempty
  simpa [hempty] using frameSubmission_getLast? code

/-- Rules by which a prompt can be told: it is one line, and silence is measured. -/
structure ReplyRules.Tells (rules : ReplyRules) : Prop where
  oneLine : '\n' ∉ rules.prompt
  interval : 0 < rules.interval.units

/-- A drawn prompt ends every call. -/
theorem Call.complete_of_drawsPrompt {call : Call} {line : Text} (h : DrawsPrompt prompt line) :
    call.complete prompt line = true := by
  rw [complete_iff]
  cases call with
  | awaitPrompt => exact h
  | _ => exact .inl h

namespace Desk

variable {d : Desk} {rules : ReplyRules}

/-- The session at the desk is free, and its process answers. -/
structure Responsive (prompt : Text) (rounding : Double.Rounding) (d : Desk) : Prop where
  answering : d.Answering prompt rounding
  free : d.session.exchangeOpen = false

/-- The process at the desk has just been given something to answer. -/
structure Asked (prompt : Text) (rounding : Double.Rounding) (d : Desk) : Prop where
  responsive : d.Responsive prompt rounding
  answers : Answers prompt d.session.process.queue
  silences : d.session.process.silences = 0

/-- Interrupting asks for an answer. -/
theorem Responsive.interrupt (h : d.Responsive prompt rounding) :
    ∃ d', Desk.interrupt d = (.ok (), d') ∧ d'.Asked prompt rounding := by
  obtain ⟨q, hinterrupt, hanswering, hanswers, hsilences⟩ := h.answering.process.interrupt
  rw [interrupt_eq, hinterrupt]
  exact ⟨_, rfl, ⟨⟨hanswering, h.answering.clock⟩, h.free⟩, hanswers, hsilences⟩

/-- The call has an answer to wait for at the desk: it submits code, or has been preceded by what
asks for the prompt. -/
inductive Expects (prompt : Text) (rounding : Double.Rounding) (d : Desk) : Call → Prop
  | submit (code : Text) : Expects prompt rounding d (.submit code)
  | awaitPrompt (hasked : d.Asked prompt rounding) (delivered : Bool) :
      Expects prompt rounding d (.awaitPrompt delivered)

/-- Between the brackets, what is waited for is an answer that is due. -/
theorem Responsive.converse {call : Call} (h : d.Responsive rules.prompt rounding)
    (hrules : rules.Tells) (hexpects : d.Expects rules.prompt rounding call) :
    let r := converse rules call.text (call.complete rules.prompt) d.opened
    r.2.Answering rules.prompt rounding ∧ (r.1 = .error .interrupted ∨ r.1 = .ok ()) := by
  obtain ⟨p, notes, heq, hanswering, hanswers, hsilences⟩ : ∃ p notes,
      Desk.converse rules call.text (call.complete rules.prompt) d.opened =
        awaitReply rules.interval (call.complete rules.prompt)
          { d.opened with session := { d.opened.session with process := p }, notes } ∧
      p.Answering rules.prompt rounding ∧ Answers rules.prompt p.queue ∧ p.silences = 0 := by
    -- what is submitted is given its answer by the write; otherwise there is an answer already
    cases hexpects with
    | submit code =>
      obtain ⟨q, hwrite, hgiven⟩ := h.answering.process.submit code
      obtain ⟨p, notes, ⟨⟨hempty, -⟩ | ⟨-, hwrote⟩, heq⟩ | ⟨f, hfailed, -⟩⟩ :=
        converse_cases rules (Call.submit code).text ((Call.submit code).complete rules.prompt)
          d.opened
      · exact absurd hempty (frameSubmission_ne_nil code)
      · cases hwrite.symm.trans hwrote
        exact ⟨_, notes, heq, hgiven⟩
      · cases hwrite.symm.trans hfailed
    | awaitPrompt hasked delivered =>
      exact ⟨_, _, rfl, h.answering.process, hasked.answers, hasked.silences⟩
  simp only [heq]
  let asking : Desk :=
    { d.opened with session := { d.opened.session with process := p }, notes }
  have hasking : asking.Answering rules.prompt rounding := ⟨hanswering, h.answering.clock⟩
  exact hasking.awaitReply rfl (Double.isPositive_of_units hrules.interval) hrules.interval
    (fun _ => Nat.le_of_succ_le (Process.work_of_silences hsilences)) Capture.tracks_empty
    (fun _ => Call.complete_of_drawsPrompt) (hanswers.due hrules.oneLine)

/-- A call that has an answer to wait for returns or is interrupted. The session is free afterwards,
and its process goes on answering. -/
theorem Responsive.call {call : Call} (h : d.Responsive rules.prompt rounding)
    (hrules : rules.Tells) (hexpects : d.Expects rules.prompt rounding call) :
    (call.run rules d).2.Responsive rules.prompt rounding ∧
      ((call.run rules d).1 = .error .interrupted ∨
        ∃ reply, (call.run rules d).1 = .ok reply) := by
  obtain ⟨hanswering, hends⟩ := h.converse hrules hexpects
  have hway := run_way rules call.text (call.complete rules.prompt) call.delivered d
  rw [← Call.run_eq] at hway
  generalize (call.run rules d).1 = outcome at hway ⊢
  generalize (call.run rules d).2 = d' at hway ⊢
  cases hway with
  | refused hopen =>
    rw [h.free] at hopen
    cases hopen
  | failed _ hinside =>
    rw [hinside] at hanswering hends
    obtain hfailed | hreturned := hends
    · cases hfailed
      exact ⟨⟨hanswering.source rfl, rfl⟩, .inl rfl⟩
    · cases hreturned
  | @answered inside _ hinside =>
    rw [hinside] at hanswering
    have hresponsive : (d.answered inside call.delivered).Responsive rules.prompt rounding := by
      refine ⟨hanswering.source (source_answered d inside call.delivered).1, ?_⟩
      cases call.delivered with
      | false => rfl
      | true => rw [session_answered]; rfl
    exact ⟨hresponsive, .inr ⟨_, rfl⟩⟩

end Desk

end ReplDriver
