import ReplDriver.Proofs.Session.Prompted
import ReplDriver.Proofs.Session.Typing

/-!
# From one silence to the next

At a silent desk the session is free and nothing is to come from the process. A call writes its
text, the process prints an answer to it, and then is silent again. The call returns exactly if the
answer ends in a line that ends the call; otherwise it waits for ever, as nothing else will come.

* `Pumps.preserves`: what every read leaves as it is, any number of pumps do.
* `Desk.SilentAfter.run`: a call returns the answer and leaves the desk silent, or never returns.
-/

namespace ReplDriver

open Terminal

/-! ## What reads leave -/

section Preserves

variable {I : Source → Prop} {c c' : Source}

/-- What every read leaves as it is, a pump does. -/
theorem Pumped.preserves (hread : ∀ c timeout, I c → I (c.read timeout).2) {deadline left : Double}
    {r : Round} (h : Pumped deadline left c r c') (hc : I c) : I c' := by
  induction h with
  | timeUp => exact hc
  | @idle left _ _ hleft heq =>
    have hkept := hread _ left hc
    rwa [heq] at hkept
  | @ended left _ _ hleft heq =>
    have hkept := hread _ left hc
    rwa [heq] at hkept
  | @chunk left _ _ _ _ _ hleft heq hrest ih =>
    have hkept := hread _ left hc
    rw [heq] at hkept
    exact ih hkept

/-- So do any number of pumps. -/
theorem Pumps.preserves (hread : ∀ c timeout, I c → I (c.read timeout).2) {interval : Double}
    {rounds : List Round} (h : Pumps interval c rounds c') (hc : I c) : I c' := by
  induction h with
  | nil => exact hc
  | cons hfirst _ ih => exact ih (hfirst.preserves hread hc)

end Preserves

/-- The last of some events brings text. -/
def EndsInText (events : List Event) : Prop := ∀ e, events.getLast? = some e → e.text ≠ []

/-- When all text of such events is out, so are the events. -/
theorem EndsInText.eq_nil {events : List Event} (h : EndsInText events)
    (hout : printed events = []) : events = [] := by
  rcases List.eq_nil_or_concat events with hnil | ⟨before, e, rfl⟩
  · exact hnil
  · rw [printed, List.concat_eq_append, List.flatMap_append, List.append_eq_nil_iff] at hout
    have hlast := h e (by simp)
    exact absurd (by simpa using hout.2) hlast

/-- Of events that end in text, those behind the first one do too. -/
theorem EndsInText.tail {e : Event} {rest : List Event} (h : EndsInText (e :: rest)) :
    EndsInText rest := by
  intro e' he'
  apply h e'
  rw [List.getLast?_cons, he']
  rfl

/-- It does not matter how long the first of them is delayed. -/
theorem EndsInText.later {t left : Double} {s : Text} {rest : List Event}
    (h : EndsInText (.delayed t s :: rest)) : EndsInText (.delayed left s :: rest) := by
  intro e he
  cases rest with
  | nil =>
    cases he
    exact h (.delayed t s) rfl
  | cons next rest => exact h.tail e (by simpa [List.getLast?_cons] using he)

/-- A read leaves the last event, or a delay before its text. -/
theorem Process.endsInText_read {p : Process} (h : EndsInText p.queue) (clock : Clock)
    (timeout : Double) : EndsInText (p.read clock timeout).2.1.queue := by
  obtain ⟨outcome, p', clock', hread, hreads⟩ := read_cases p clock timeout
  rw [hread]
  cases hreads with
  | gone hqueue hdead => exact h
  | blocked hqueue halive hpatience => exact h
  | silent hqueue halive hpatience => exact h
  | later hqueue hlt =>
    rw [hqueue] at h
    exact h.later
  | output hqueue | pause hqueue | delayed hqueue hlt | exit hqueue | failing hqueue =>
    rw [hqueue] at h
    exact h.tail

namespace Desk

/-! ## Silent desks -/

/-- After some texts have been written the desk is silent: the session is free, and the process is
there, with nothing to come. The process still behaves as before. -/
structure SilentAfter (d : Desk) (texts : List Text) (d' : Desk) : Prop where
  free : d'.session.exchangeOpen = false
  alive : d'.session.process.alive = true
  queue : d'.session.process.queue = []
  behaviour : d'.session.process.behaviour = d.session.process.behaviour
  rounding : d'.clock.rounding = d.clock.rounding
  written : d'.written = d.written ++ texts

/-- The desk is silent. -/
abbrev Silent (d : Desk) : Prop := SilentAfter d [] d

/-- After some texts have been written, the process answers a call by printing: its last event
brings text, and more is not kept waiting for during a polling interval where the call would be
over. -/
structure Prints (rules : ReplyRules) (d : Desk) (texts : List Text) (call : Call)
    (events : List Event) : Prop where
  respond : d.session.process.behaviour.respond (d.written ++ texts) call.text = .ok events
  prints : ∀ e ∈ events, e.Prints d.clock.rounding
  last : EndsInText events
  waits : WaitsAfter rules.interval (fun s => ¬ call.Ends rules.prompt (lastLineOf s)) [] events

variable {rules : ReplyRules} {call : Call} {d d' : Desk} {texts : List Text} {events : List Event}

/-- A wait that begins with nothing captured, when the process that was at a desk has an answer to
print. -/
structure Awaits (d : Desk) (events : List Event) (w : Desk) : Prop where
  sink : w.session.sink = .capture .empty
  printing : w.Printing
  queue : w.session.process.queue = events
  silences : w.session.process.silences = 0
  behaviour : w.session.process.behaviour = d.session.process.behaviour
  rounding : w.clock.rounding = d.clock.rounding

/-- When a call has written its text at a silent desk, the wait for the answer begins. -/
theorem SilentAfter.awaits (h : SilentAfter d texts d') (hprints : Prints rules d texts call events)
    (htext : call.text ≠ []) :
    ∃ w, converse rules call.text (call.complete rules.prompt) d'.opened =
      awaitReply rules.interval (call.complete rules.prompt) w ∧ Awaits d events w := by
  have hrespond : d'.session.process.behaviour.respond d'.session.process.written call.text =
      .ok events := by
    rw [h.behaviour, show d'.session.process.written = _ from h.written]
    exact hprints.respond
  have hwrite : d'.session.process.write call.text =
      (.ok (), (d'.session.process.noting call.text).enqueue events) := by
    rw [Process.write_eq, hrespond]
    rfl
  obtain ⟨p, notes, ⟨hwrote, hconverse⟩ | ⟨f, hfails, -⟩⟩ :=
    converse_cases rules call.text (call.complete rules.prompt) d'.opened
  · obtain rfl := hwrote.unique (.inr ⟨htext, hwrite⟩)
    have hqueue : d'.session.process.queue ++ events = events := by rw [h.queue, List.nil_append]
    have hall : ∀ e ∈ d'.session.process.queue ++ events, e.Prints d'.clock.rounding := by
      rw [hqueue, h.rounding]
      exact hprints.prints
    exact ⟨_, hconverse, rfl, ⟨h.alive, hall⟩, hqueue, rfl, h.behaviour, h.rounding⟩
  · cases hfails.symm.trans hwrite

/-- What a wait leaves of a process that prints and whose last event brings text: when its text is
out, nothing is to come. -/
theorem awaitReply_silent {interval : Double} {complete : Text → Bool} {inside : Desk}
    (hsink : d.session.sink = .capture .empty) (hlast : EndsInText d.session.process.queue)
    (hwait : awaitReply interval complete d = (.ok (), inside))
    (hout : printed inside.session.process.queue = []) :
    inside.session.process.queue = [] ∧
      inside.session.process.behaviour = d.session.process.behaviour ∧
      inside.clock.rounding = d.clock.rounding := by
  have htracks : Capture.Tracks .empty (captured []) := Capture.tracks_empty
  obtain ⟨rounds, hpumps, -⟩ := awaitReply_isWait hsink htracks hwait
  have hkept := hpumps.preserves
    (I := fun c => EndsInText c.1.queue ∧ c.1.behaviour = d.session.process.behaviour ∧
      c.2.rounding = d.clock.rounding)
    (fun c timeout hc => ⟨Process.endsInText_read hc.1 c.2 timeout,
      (Process.sameStart_read _ c.2 timeout).behaviour.trans hc.2.1,
      (Process.rounding_read c.1 c.2 timeout).trans hc.2.2⟩)
    ⟨hlast, rfl, rfl⟩
  exact ⟨hkept.1.eq_nil hout, hkept.2⟩

/-- The exchange of a call at a silent desk. If what the process prints ends in a line that ends the
call, all of it is captured and nothing more is to come; otherwise the wait for it never ends. -/
theorem SilentAfter.converse (h : SilentAfter d texts d') (hunits : 0 < rules.interval.units)
    (hprints : Prints rules d texts call events) (htext : call.text ≠ []) :
    (call.Ends rules.prompt (lastLineOf (printed events)) →
      ∃ inside, converse rules call.text (call.complete rules.prompt) d'.opened = (.ok (), inside) ∧
        inside.session.captured.output = printed events ∧
        inside.session.process.alive = true ∧ inside.session.process.queue = [] ∧
        inside.session.process.behaviour = d.session.process.behaviour ∧
        inside.clock.rounding = d.clock.rounding) ∧
    (¬ call.Ends rules.prompt (lastLineOf (printed events)) →
      (Desk.converse rules call.text (call.complete rules.prompt) d'.opened).1 =
        .error .blocked) := by
  obtain ⟨w, hconverse, hw⟩ := h.awaits hprints htext
  have hpositive : rules.interval.isPositive = true := Double.isPositive_of_units hunits
  have hprinted : [] ++ printed w.session.process.queue = printed events := by
    rw [List.nil_append, hw.queue]
  have hwaits : WaitsAfter rules.interval
      (fun s => call.complete rules.prompt (lastLineOf s) = false) []
        w.session.process.queue := by
    rw [hw.queue]
    exact hprints.waits.mono fun s hs => eq_false_of_ne_true (mt Call.complete_iff.mp hs)
  rw [hconverse]
  constructor
  · intro hends
    have hwork : 2 ≤ w.session.process.work :=
      Nat.le_of_succ_le (Process.work_of_silences hw.silences)
    obtain ⟨inside, hwait, htracks, hinside, hout⟩ :=
      awaitReply_printing hw.printing hw.sink hpositive hunits hwork Capture.tracks_empty
        (by rw [hprinted]; exact Call.complete_iff.mpr hends) hwaits
    obtain ⟨hempty, hbehaves, hrounding⟩ := awaitReply_silent hw.sink
      (by rw [hw.queue]; exact hprints.last) hwait hout
    exact ⟨inside, hwait, htracks.output.trans hprinted, hinside.alive, hempty,
      hbehaves.trans hw.behaviour, hrounding.trans hw.rounding⟩
  · intro hends
    refine awaitReply_blocked hw.printing hw.sink hpositive hunits Capture.tracks_empty ?_ hwaits
    rw [hprinted]
    exact eq_false_of_ne_true (mt Call.complete_iff.mp hends)

/-- A call at a silent desk. If what the process prints ends in a line that ends the call, the call
returns it, and the desk is silent again; otherwise the call never returns. -/
theorem SilentAfter.run (h : SilentAfter d texts d') (hunits : 0 < rules.interval.units)
    (hprints : Prints rules d texts call events) (htext : call.text ≠ []) :
    (call.Ends rules.prompt (lastLineOf (printed events)) →
      ∃ d'', call.run rules d' = (.ok (printed events), d'') ∧
        SilentAfter d (texts ++ [call.text]) d'') ∧
    (¬ call.Ends rules.prompt (lastLineOf (printed events)) →
      (call.run rules d').1 = .error .blocked) := by
  obtain ⟨hreturns, hblocks⟩ := h.converse hunits hprints htext
  have hway := run_way rules call.text (call.complete rules.prompt) call.delivered d'
  rw [← Call.run_eq] at hway
  have hwritten := written_call rules call h.free
  have hfree := (call.transacts rules d').released h.free
  rcases hcall : call.run rules d' with ⟨outcome, d''⟩
  simp only [hcall] at hway hwritten hfree
  constructor
  · intro hends
    obtain ⟨inside, hinside, houtput, halive, hqueue, hbehaviour, hrounding⟩ := hreturns hends
    cases hway with
    | refused hopen => simp [h.free] at hopen
    | failed _ hfailed => cases hfailed.symm.trans hinside
    | answered _ hanswered =>
      cases hanswered.symm.trans hinside
      obtain ⟨hprocess, hclock⟩ := Prod.mk.inj (source_answered d' inside call.delivered).1
      rw [← hprocess] at halive hqueue hbehaviour
      rw [← hclock] at hrounding
      refine ⟨_, by rw [houtput], hfree, halive, hqueue, hbehaviour, hrounding, ?_⟩
      rw [hwritten, h.written, typed, if_neg htext, List.append_assoc]
  · intro hends
    have hblocked := hblocks hends
    cases hway with
    | refused hopen => simp [h.free] at hopen
    | failed _ hfailed =>
      rw [hfailed] at hblocked
      exact congrArg Except.error (Except.error.inj hblocked)
    | answered _ hanswered =>
      rw [hanswered] at hblocked
      cases hblocked

end Desk

end ReplDriver
