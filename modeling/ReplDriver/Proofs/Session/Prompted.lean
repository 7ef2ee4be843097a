import ReplDriver.Proofs.Process.Printing
import ReplDriver.Proofs.Session.Timeless

/-!
# Waiting for the prompt of a process that prints

A process prints a text and then is silent. The wait for its prompt goes on while output comes. It
ends in the first silence on a line that draws the prompt; if no line can draw it, the silence is
waited for until the process is given up, as there is no other end to the wait.

* `Desk.awaitReply_printing`: when the whole text ends in a line of the awaited kind, and is not
  kept waiting for during an interval at such a line before, the wait returns with all of it.
* `Desk.awaitReply_blocked`: when it ends in a line of another kind, the wait never ends.
* `Desk.awaitPrompt_printing`, `Desk.awaitPrompt_blocked`: the same for the prompt of a session.
-/

namespace ReplDriver

open Terminal

/-! ## Rounds with a process that prints -/

/-- A pump takes a text away from a process that prints. -/
theorem Pumped.printing {deadline left : Double} {c c' : Source} {r : Round}
    (hpumped : Pumped deadline left c r c') (h : c.1.Printing c.2.rounding) (hwork : 2 ≤ c.1.work) :
    r.alive = true ∧ c'.2.rounding = c.2.rounding ∧ c.1.HandsOver c.2.rounding r.text c'.1 := by
  induction hpumped with
  | timeUp hleft => exact ⟨rfl, rfl, .refl h⟩
  | idle hleft hread =>
    obtain ⟨reading, p', clock', heq, hrounding, -, hands, -⟩ := h.read hleft hwork
    cases heq.symm.trans hread
    exact ⟨rfl, hrounding, hands⟩
  | ended hleft hread =>
    obtain ⟨reading, p', clock', heq, -, hended, -⟩ := h.read hleft hwork
    cases heq.symm.trans hread
    exact absurd rfl hended
  | chunk hleft hread hrest ih =>
    obtain ⟨reading, p', clock', heq, hrounding, -, hands, hsilences⟩ := h.read hleft hwork
    cases heq.symm.trans hread
    have hquiet : p'.silences = 0 := hsilences nofun
    -- the chunk has ended the silence, so there is work left for the reads after it
    obtain ⟨halive, hrounding', hands'⟩ := ih (by rw [hrounding]; exact hands.printing)
      (Nat.le_of_succ_le (Process.work_of_silences hquiet))
    rw [hrounding] at hands'
    exact ⟨halive, hrounding'.trans hrounding, hands.trans hands' hquiet⟩

/-- Text that comes within the time of a read is found by it. -/
theorem Event.Within.read {left : Double} {c : Source} {e : Event} {rest : List Event}
    (he : e.Within left) (hqueue : c.1.queue = e :: rest) :
    e.text ≠ [] ∧ ∃ c', c.read left = (.ok (.chunk e.text), c') := by
  cases e with
  | output s =>
    exact ⟨he, (c.1.taken rest, c.2), (Process.Reads.output hqueue).eq⟩
  | delayed t s =>
    have hsoon : ¬ left.lt t = true := by
      rw [he.2]
      exact Bool.false_ne_true
    exact ⟨he.1, (c.1.taken rest, c.2.pass t), (Process.Reads.delayed hqueue hsoon).eq⟩
  | _ => exact he.elim

/-- Text that comes before an interval is over is read in a round of that length. -/
theorem Pumped.text_ne_nil {deadline left : Double} {c c' : Source} {r : Round} {e : Event}
    {rest : List Event} (hpumped : Pumped deadline left c r c') (hleft : left.isPositive = true)
    (hqueue : c.1.queue = e :: rest) (he : e.Within left) : r.text ≠ [] := by
  obtain ⟨htext, c₁, hread⟩ := he.read hqueue
  cases hpumped with
  | timeUp hleft' => simp [hleft] at hleft'
  | idle _ hread' => cases hread.symm.trans hread'
  | ended _ hread' => cases hread.symm.trans hread'
  | chunk _ hread' hrest =>
    cases hread.symm.trans hread'
    exact List.append_ne_nil_of_left_ne_nil htext _

namespace Desk

variable {d : Desk} {c : Capture} {interval : Double} {complete : Text → Bool}

/-- The process at the desk is there, and all that it still does is to print. -/
def Printing (d : Desk) : Prop := d.session.process.Printing d.clock.rounding

/-- A read at the desk of a process that prints finds output or nothing. -/
theorem Printing.read {timeout : Double} {d' : Desk} {outcome : Except Failure Reading}
    (h : d.Printing) (hpositive : timeout.isPositive = true) (hwork : 2 ≤ d.session.process.work)
    (hread : d.read timeout = (outcome, d')) :
    outcome = .ok .idle ∨ ∃ s, outcome = .ok (.chunk s) ∧ d'.Printing ∧
      2 ≤ d'.session.process.work := by
  obtain ⟨reading, p', clock', heq, hrounding, hended, hands, hsilences⟩ :=
    Process.Printing.read h hpositive hwork
  have hfound : (.ok reading, p', clock') = (outcome, d'.session.process, d'.clock) :=
    heq.symm.trans (read_eq hread).1
  cases hfound
  cases reading with
  | chunk s =>
    have hquiet : d'.session.process.silences = 0 := hsilences nofun
    have hprinting : d'.Printing := by
      rw [Printing, hrounding]
      exact hands.printing
    exact .inr ⟨s, rfl, hprinting, Nat.le_of_succ_le (Process.work_of_silences hquiet)⟩
  | idle => exact .inl rfl
  | ended => exact absurd rfl hended

/-- A pump at the desk of a process that prints comes to no failure, and to no end. -/
theorem Printing.pumpUntil {deadline left : Double} (h : d.Printing)
    (hc : d.session.sink = .capture c) (hwork : 2 ≤ d.session.process.work) :
    (pumpUntil deadline left d).1 = .ok true := by
  fun_induction Desk.pumpUntil deadline left d generalizing c with
  | case1 left d hleft f d' hread => rcases h.read hleft hwork hread with h | ⟨s, h, -⟩ <;> cases h
  | case2 left d hleft d' hread => rcases h.read hleft hwork hread with h | ⟨s, h, -⟩ <;> cases h
  | case3 left d hleft d' hread => rfl
  | case4 left d hleft s d₁ hread d₂ =>
    rename_i ih
    rcases h.read hleft hwork hread with h | ⟨s', -, hprinting, hwork'⟩
    · cases h
    obtain ⟨-, hc₁⟩ := captures_read hc hread
    -- taking the chunk in moves neither the process nor the clock
    obtain ⟨hprocess, hclock⟩ := Prod.mk.inj (source_takeIn hc₁ s)
    refine ih ?_ (sink_takeIn hc₁ s) ?_
    · show d₂.session.process.Printing d₂.clock.rounding
      rw [show d₂.session.process = d₁.session.process from hprocess,
        show d₂.clock = d₁.clock from hclock]
      exact hprinting
    · rw [show d₂.session.process = d₁.session.process from hprocess]
      exact hwork'
  | case5 left d hleft => rfl

/-- A round with a process that prints: the capture records what the process hands over, and there
is less to do after it. -/
theorem Printing.round (h : d.Printing) (hc : d.session.sink = .capture c)
    (hinterval : interval.isPositive = true) (hunits : 0 < interval.units)
    (hwork : 2 ≤ d.session.process.work) :
    ∃ text c' d', pump interval d.hush = (.ok true, d') ∧ d'.session.sink = .capture c' ∧
      (∀ {s}, c.Tracks s → c'.Tracks (s ++ text)) ∧ c'.live = !text.isEmpty ∧ d'.Printing ∧
      d.session.process.HandsOver d.clock.rounding text d'.session.process ∧
      (∀ e rest, d.session.process.queue = e :: rest → e.Within interval → text ≠ []) ∧
      d'.session.process.work < d.session.process.work := by
  have hprinting : d.hush.Printing := by
    have hsource := (captures_hush hc).2
    obtain ⟨hprocess, hclock⟩ := Prod.mk.inj hsource
    show d.hush.session.process.Printing d.hush.clock.rounding
    rw [hprocess, hclock]
    exact h
  have hwork' : 2 ≤ d.hush.session.process.work := by
    rw [show d.hush.session.process = d.session.process from
      congrArg Prod.fst (captures_hush hc).2]
    exact hwork
  have hanswer : (pump interval d.hush).1 = .ok true :=
    hprinting.pumpUntil (sink_hush hc) hwork'
  rcases hpump : pump interval d.hush with ⟨outcome, d'⟩
  obtain rfl : outcome = .ok true := (congrArg Prod.fst hpump).symm.trans hanswer
  obtain ⟨text, c', hpumped, hsink, htracks, hlive, -⟩ := pump_pumped hc hpump
  obtain ⟨-, hrounding, hands⟩ := hpumped.printing h hwork
  obtain ⟨-, -, hless⟩ := hpumped.yields rfl fun e he => (h.queue e he).counted
  have hprinting' : d'.Printing := by
    show d'.session.process.Printing d'.clock.rounding
    rw [show d'.clock.rounding = d.clock.rounding from hrounding]
    exact hands.printing
  exact ⟨text, c', d', rfl, hsink, htracks, hlive, hprinting', hands,
    fun e rest hqueue he => hpumped.text_ne_nil hinterval hqueue he, hless hinterval hunits⟩

/-- With no work left for a round, the process has been silent for too long, and is given up. -/
theorem Printing.round_blocked (h : d.Printing) (hc : d.session.sink = .capture c)
    (hinterval : interval.isPositive = true) (hwork : d.session.process.work < 2) :
    (pump interval d.hush).1 = .error .blocked := by
  have hqueue : d.session.process.queue = [] := by
    by_contra hqueue
    have := Process.four_le_work hqueue
    omega
  have hpatience : Process.patience ≤ d.session.process.silences + 1 := by
    have hthree : Process.patience = 3 := rfl
    rw [Process.work_eq, hqueue, List.map_nil, List.sum_nil] at hwork
    omega
  have hprocess : d.hush.session.process = d.session.process :=
    congrArg Prod.fst (captures_hush hc).2
  have hread : (d.hush.read interval).1 = .error .blocked := by
    rw [Desk.read, hprocess, (Process.Reads.blocked hqueue h.alive hpatience).eq]
  rw [pump, pumpUntil_read hinterval]
  rcases hresult : d.hush.read interval with ⟨outcome, d'⟩
  rw [hresult] at hread
  obtain rfl : outcome = .error .blocked := hread
  rfl

/-! ## Waits -/

/-- Where more is not kept waiting for during an interval at a line of the awaited kind, a silence
on such a line comes only when all is out. -/
theorem out_of_silence {p p' : Process} {rounding : Double.Rounding} {sofar text : Text}
    (hands : p.HandsOver rounding text p')
    (hwithin : ∀ e rest, p.queue = e :: rest → e.Within interval → text ≠ [])
    (hwaits : WaitsAfter interval (fun text => complete (lastLineOf text) = false) sofar p.queue)
    (hstop : (text.isEmpty && complete (lastLineOf (sofar ++ text))) = true) :
    text = [] ∧ printed p'.queue = [] := by
  obtain ⟨hempty, hline⟩ := Bool.and_eq_true_iff.mp hstop
  obtain rfl : text = [] := List.isEmpty_iff.mp hempty
  refine ⟨rfl, ?_⟩
  by_contra hmore
  have hprinted := hands.printed
  rw [List.nil_append] at hprinted
  rcases hqueue : p.queue with _ | ⟨e, rest⟩
  · rw [hqueue] at hprinted
    exact hmore hprinted.symm
  · rw [hqueue] at hwaits hprinted
    have hline' := hwaits.1 (fun he => hwithin e rest hqueue he rfl)
      (by rw [hprinted]; exact hmore)
    rw [List.append_nil, hline'] at hline
    cases hline

/-- If the whole text ends in a line of the awaited kind, and more is not kept waiting for during an
interval at such a line before, the wait returns with the whole text. -/
theorem awaitReply_printing {sofar : Text} (h : d.Printing) (hc : d.session.sink = .capture c)
    (hinterval : interval.isPositive = true) (hunits : 0 < interval.units)
    (hwork : 2 ≤ d.session.process.work) (htracks : c.Tracks sofar)
    (hends : complete (lastLineOf (sofar ++ printed d.session.process.queue)) = true)
    (hwaits : WaitsAfter interval (fun text => complete (lastLineOf text) = false) sofar
      d.session.process.queue) :
    ∃ d', awaitReply interval complete d = (.ok (), d') ∧
      d'.session.captured.Tracks (sofar ++ printed d.session.process.queue) ∧
      d'.Printing ∧ printed d'.session.process.queue = [] := by
  -- the induction is on the work that is left, which every round makes less
  induction hn : d.session.process.work using Nat.strongRecOn generalizing d c sofar with
  | ind n ih =>
    subst hn
    obtain ⟨text, c', d', hpump, hsink, hrecorded, hlive, hprinting, hands, hwithin, hless⟩ :=
      h.round hc hinterval hunits hwork
    have htracks' : c'.Tracks (sofar ++ text) := hrecorded htracks
    have hcaptured : d'.session.captured = c' := by rw [Session.captured, hsink]
    rw [hands.printed, ← List.append_assoc] at hends ⊢
    rw [awaitReply_round hpump hless, hcaptured, htracks'.lastLine, hlive, Bool.not_not]
    by_cases hstop : (text.isEmpty && complete (lastLineOf (sofar ++ text))) = true
    · obtain ⟨-, hout⟩ := out_of_silence hands hwithin hwaits hstop
      exact ⟨d', if_pos hstop, by rwa [hcaptured, hout, List.append_nil], hprinting, hout⟩
    · -- some of it was still to come, so the process has not been silent for too long
      have hwork' : 2 ≤ d'.session.process.work := by
        refine hands.patient (Nat.le_of_succ_le (Process.four_le_work fun hqueue => hstop ?_))
        have hprinted := hands.printed
        rw [hqueue] at hprinted
        obtain ⟨rfl, hrest⟩ := List.append_eq_nil_iff.mp hprinted.symm
        rw [hrest, List.append_nil] at hends
        exact Bool.and_eq_true_iff.mpr ⟨rfl, hends⟩
      obtain ⟨d'', hrest, hall⟩ :=
        ih _ hless hprinting hsink hwork' htracks' hends (hands.waits hwaits) rfl
      exact ⟨d'', (if_neg hstop).trans hrest, hall⟩

/-- If the whole text ends in a line of another kind, and more is not kept waiting for during an
interval at a line of the awaited kind before, the wait never ends. -/
theorem awaitReply_blocked {sofar : Text} (h : d.Printing) (hc : d.session.sink = .capture c)
    (hinterval : interval.isPositive = true) (hunits : 0 < interval.units)
    (htracks : c.Tracks sofar)
    (hends : complete (lastLineOf (sofar ++ printed d.session.process.queue)) = false)
    (hwaits : WaitsAfter interval (fun text => complete (lastLineOf text) = false) sofar
      d.session.process.queue) : (awaitReply interval complete d).1 = .error .blocked := by
  induction hn : d.session.process.work using Nat.strongRecOn generalizing d c sofar with
  | ind n ih =>
    subst hn
    by_cases hwork : 2 ≤ d.session.process.work
    · obtain ⟨text, c', d', hpump, hsink, hrecorded, hlive, hprinting, hands, hwithin, hless⟩ :=
        h.round hc hinterval hunits hwork
      have htracks' : c'.Tracks (sofar ++ text) := hrecorded htracks
      have hcaptured : d'.session.captured = c' := by rw [Session.captured, hsink]
      rw [hands.printed, ← List.append_assoc] at hends
      -- with all of it out, the line would be one of the awaited kind
      have hgoes : ¬ (text.isEmpty && complete (lastLineOf (sofar ++ text))) = true := by
        intro hstop
        obtain ⟨-, hout⟩ := out_of_silence hands hwithin hwaits hstop
        rw [hout, List.append_nil] at hends
        rw [hends, Bool.and_false] at hstop
        cases hstop
      rw [awaitReply_round hpump hless, hcaptured, htracks'.lastLine, hlive, Bool.not_not,
        if_neg hgoes]
      exact ih _ hless hprinting hsink htracks' hends (hands.waits hwaits) rfl
    · exact awaitReply_error (h.round_blocked hc hinterval (Nat.lt_of_not_le hwork))

/-! ## The first prompt -/

variable {rules : ReplyRules}

/-- A wait for the prompt that returns between the brackets is answered. -/
theorem awaitPrompt_ok {inside : Desk} (hfree : d.session.exchangeOpen = false)
    (hwait : awaitReply rules.interval (hasPrompt rules.prompt) d.opened = (.ok (), inside)) :
    awaitPrompt rules true d = (.ok inside.session.captured.output, d.answered inside true) := by
  have hway := run_way rules [] (hasPrompt rules.prompt) true d
  rcases hrun : run rules [] (hasPrompt rules.prompt) true d with ⟨outcome, d'⟩
  simp only [hrun] at hway
  cases hway with
  | refused hopen => simp [hfree] at hopen
  | failed _ hinside => cases hinside.symm.trans hwait
  | answered _ hinside =>
    cases hinside.symm.trans hwait
    exact hrun

/-- A wait for the prompt that fails between the brackets fails. -/
theorem awaitPrompt_error {f : Failure} (hfree : d.session.exchangeOpen = false)
    (hwait : (awaitReply rules.interval (hasPrompt rules.prompt) d.opened).1 = .error f) :
    (awaitPrompt rules true d).1 = .error f := by
  have hway := run_way rules [] (hasPrompt rules.prompt) true d
  rcases hrun : run rules [] (hasPrompt rules.prompt) true d with ⟨outcome, d'⟩
  simp only [hrun] at hway
  rw [awaitPrompt, hrun]
  cases hway with
  | refused hopen => simp [hfree] at hopen
  | failed _ hinside =>
    cases (congrArg Prod.fst hinside).symm.trans hwait
    rfl
  | answered _ hinside => cases (congrArg Prod.fst hinside).symm.trans hwait

/-- The prompt of a process that prints a text and draws the prompt at its end, and does not keep
its reader waiting for more during an interval where the prompt is drawn before, is waited for until
the whole text is out. The text is delivered as one chunk. -/
theorem awaitPrompt_printing (h : d.Printing) (hfree : d.session.exchangeOpen = false)
    (hinterval : rules.interval.isPositive = true) (hunits : 0 < rules.interval.units)
    (hwork : 2 ≤ d.session.process.work)
    (hends : DrawsPrompt rules.prompt (lastLineOf (printed d.session.process.queue)))
    (hwaits : WaitsAfter rules.interval
      (fun text => ¬ DrawsPrompt rules.prompt (lastLineOf text)) [] d.session.process.queue) :
    ∃ d', awaitPrompt rules true d = (.ok (printed d.session.process.queue), d') ∧
      d'.session.transcript = d.session.transcript ++ [printed d.session.process.queue] ∧
      d'.session.marker = d.session.marker + (printed d.session.process.queue).length ∧
      d'.session.sink = d.session.sink ∧ d'.session.exchangeOpen = false := by
  have hprinting : d.opened.Printing := h
  obtain ⟨inside, hwait, htracks, -⟩ :
      ∃ inside, awaitReply rules.interval (hasPrompt rules.prompt) d.opened = (.ok (), inside) ∧
        inside.session.captured.Tracks (printed d.session.process.queue) ∧
        inside.Printing ∧ printed inside.session.process.queue = [] :=
    awaitReply_printing hprinting rfl hinterval hunits hwork Capture.tracks_empty
      (hasPrompt_iff.mpr hends)
      (hwaits.mono fun text hnot => eq_false_of_ne_true (mt hasPrompt_iff.mp hnot))
  have htranscript : inside.session.transcript = d.session.transcript := by
    have hcaptures : Captures d.opened inside := by
      rw [← show (awaitReply rules.interval (hasPrompt rules.prompt) d.opened).2 = inside from
        congrArg Prod.snd hwait]
      exact awaitReply_captures rfl
    exact hcaptures.transcript
  have houtput : inside.session.captured.output = printed d.session.process.queue :=
    htracks.output
  -- a text that draws a prompt is not empty, so it makes a chunk
  have hne : printed d.session.process.queue ≠ [] := by
    intro hempty
    rw [hempty] at hends
    exact not_drawsPrompt_nil hends
  refine ⟨_, by rw [awaitPrompt_ok hfree hwait, houtput], ?_, ?_, ?_, ?_⟩
  all_goals rw [session_answered]
  · rw [houtput, htranscript, if_neg hne]
  · rw [houtput]
  · rfl
  · rfl

/-- A prompt of more than one line is waited for in vain. -/
theorem awaitPrompt_blocked (h : d.Printing) (hfree : d.session.exchangeOpen = false)
    (hinterval : rules.interval.isPositive = true) (hunits : 0 < rules.interval.units)
    (hprompt : '\n' ∈ rules.prompt) : (awaitPrompt rules true d).1 = .error .blocked := by
  have hprinting : d.opened.Printing := h
  have hnever : ∀ text, hasPrompt rules.prompt (lastLineOf text) = false := fun text =>
    eq_false_of_ne_true (mt hasPrompt_iff.mp (not_drawsPrompt hprompt (not_mem_lastLineOf text)))
  exact awaitPrompt_error hfree (awaitReply_blocked hprinting rfl hinterval hunits
    Capture.tracks_empty (hnever _) (.of_forall hnever))

end Desk

end ReplDriver
