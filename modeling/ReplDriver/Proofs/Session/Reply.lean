import ReplDriver.Proofs.Session.Call
import ReplDriver.Session.Scripted

/-!
# Where a reply ends

A call collects its reply chunk by chunk and decides from what it remembers of the last lines
whether the reply is complete. Here the decision is told of whole texts: the reply is everything
read, and the wait for it ended with the first round that met the end of the process, or in which
nothing was read while the last line of everything read so far satisfied the condition of the
call. Where the chunks were cut does not come into it.

* `Call.run_returns`: a call that is handed over the rounds of such a wait returns.
* `Call.run_refines`: a call that returns has read the rounds of such a wait, and returns their
  text; on any other session that hands over the same rounds the call returns the same.
-/

namespace ReplDriver

open Terminal

/-- A call that is answered has written its text, and then read the rounds of a wait. -/
theorem Desk.converse_isWait {rules : ReplyRules} {text : Text} {complete : Text → Bool}
    {d inside : Desk} (hsink : d.session.sink = .capture .empty)
    (h : converse rules text complete d = (.ok (), inside)) :
    ∃ p rounds, Wrote text d.session.process p ∧
      Pumps rules.interval (p, d.clock) rounds inside.source ∧
      IsWait (fun line => complete line = true) [] rounds ∧
      inside.session.captured.output = captured rounds ∧
      ((∃ r ∈ rounds, r.alive = false) → inside.session.closed = true) := by
  obtain ⟨p, notes, ⟨hwrote, hconverse⟩ | ⟨f, -, hconverse⟩⟩ := converse_cases rules text complete d
  · rw [hconverse] at h
    have htracks : Capture.Tracks .empty (captured []) := Capture.tracks_empty
    obtain ⟨rounds, hpumps, hwait, htracks', hclosed⟩ :=
      awaitReply_isWait (d := { d with session := { d.session with process := p }, notes })
        hsink htracks h
    exact ⟨p, rounds, hwrote, hpumps, hwait, htracks'.output, hclosed⟩
  · rw [hconverse] at h
    cases h

/-- Where time is counted, a call that has written its text and is handed over the rounds of a wait
is answered. -/
theorem Desk.converse_returns {rules : ReplyRules} {text : Text} {complete : Text → Bool}
    {d : Desk} {p : Process} {rounds : List Round} {s : Source}
    (hsink : d.session.sink = .capture .empty) (hwrote : Wrote text d.session.process p)
    (hpumps : Pumps rules.interval (p, d.clock) rounds s)
    (hwait : IsWait (fun line => complete line = true) [] rounds)
    (hcounted : Source.Counted (p, d.clock)) (hunits : 0 < rules.interval.units) :
    (converse rules text complete d).1 = .ok () := by
  obtain ⟨notes, hconverse⟩ := converse_wrote rules complete hwrote
  have htracks : Capture.Tracks .empty (captured []) := Capture.tracks_empty
  rw [hconverse]
  exact awaitReply_returns hsink htracks hpumps hwait hcounted hunits

namespace Call

/-- Where time is counted, a call on a session that is free returns if it is handed over the rounds
of a wait. -/
theorem run_returns {rules : ReplyRules} {call : Call} {d : Desk} {p : Process}
    {rounds : List Round} {s : Source} (hfree : d.session.exchangeOpen = false)
    (hwrote : Desk.Wrote call.text d.session.process p)
    (hpumps : Pumps rules.interval (p, d.clock) rounds s)
    (hwait : IsWait (call.Ends rules.prompt) [] rounds)
    (hcounted : Source.Counted (p, d.clock)) (hunits : 0 < rules.interval.units) :
    ∃ o d', call.run rules d = (.ok o, d') := by
  have hwait' : IsWait (fun line => call.complete rules.prompt line = true) [] rounds :=
    hwait.congr fun line => complete_iff.symm
  have hanswered : (Desk.converse rules call.text (call.complete rules.prompt) d.opened).1 =
      .ok () := Desk.converse_returns rfl hwrote hpumps hwait' hcounted hunits
  have hway := Desk.run_way rules call.text (call.complete rules.prompt) call.delivered d
  rw [← run_eq] at hway
  rcases hrun : call.run rules d with ⟨outcome, d'⟩
  simp only [hrun] at hway
  cases hway with
  | refused hopen => simp [hfree] at hopen
  | failed _ hinside => cases (congrArg Prod.fst hinside).symm.trans hanswered
  | answered _ _ => exact ⟨_, _, rfl⟩

/-- The rounds that an answered call has read. -/
theorem run_isWait {rules : ReplyRules} {call : Call} {d d' : Desk} {o : Text}
    (h : call.run rules d = (.ok o, d')) :
    ∃ p rounds, Desk.Wrote call.text d.session.process p ∧
      Pumps rules.interval (p, d.clock) rounds d'.source ∧
      IsWait (call.Ends rules.prompt) [] rounds ∧ o = captured rounds ∧
      ((∃ r ∈ rounds, r.alive = false) → d'.session.closed = true) := by
  have hway := Desk.run_way rules call.text (call.complete rules.prompt) call.delivered d
  rw [← run_eq, h] at hway
  cases hway with
  | answered hfree hinside =>
    rename_i inside
    obtain ⟨p, rounds, hwrote, hpumps, hwait, houtput, hclosed⟩ :=
      Desk.converse_isWait rfl hinside
    obtain ⟨hsource, hclosed'⟩ := Desk.source_answered d inside call.delivered
    rw [← hsource] at hpumps
    rw [← hclosed'] at hclosed
    exact ⟨p, rounds, hwrote, hpumps, hwait.congr fun line => complete_iff, houtput, hclosed⟩

/-- The end of a reply is decided by the whole text that has been read. A call that returns has
written its text and then read, in pumps of one length, the rounds of a wait for its condition:
the first round that meets the end of the process, or is silent while the condition holds of the
last line so far, is the last. It returns the text of the rounds, and at the end of the process
the session is closed. On any other desk whose process hands over the same rounds to this call, in
chunks that may be cut in any other way, the call returns nothing else; and it does return if the
session is free and time is counted there. -/
theorem run_refines {rules : ReplyRules} {call : Call} {d d' : Desk} {o : Text}
    (h : call.run rules d = (.ok o, d')) :
    ∃ p rounds, Desk.Wrote call.text d.session.process p ∧
      Pumps rules.interval (p, d.clock) rounds d'.source ∧
      IsWait (call.Ends rules.prompt) [] rounds ∧ o = captured rounds ∧
      ((∃ r ∈ rounds, r.alive = false) → d'.session.closed = true) ∧
      ∀ {rules₂ : ReplyRules} {d₂ : Desk} {p₂ : Process} {c₂ : Source},
        rules₂.prompt = rules.prompt → Desk.Wrote call.text d₂.session.process p₂ →
        Pumps rules₂.interval (p₂, d₂.clock) rounds c₂ →
        (∀ {d₂' : Desk} {o₂ : Text}, call.run rules₂ d₂ = (.ok o₂, d₂') → o₂ = o) ∧
          (d₂.session.exchangeOpen = false → 0 < rules₂.interval.units →
            Source.Counted (p₂, d₂.clock) → ∃ d₂', call.run rules₂ d₂ = (.ok o, d₂')) := by
  obtain ⟨p, rounds, hwrote, hpumps, hwait, houtput, hclosed⟩ := run_isWait h
  refine ⟨p, rounds, hwrote, hpumps, hwait, houtput, hclosed, ?_⟩
  intro rules₂ d₂ p₂ c₂ hprompt hwrote₂ hpumps₂
  have hsame : ∀ {d₂' : Desk} {o₂ : Text}, call.run rules₂ d₂ = (.ok o₂, d₂') → o₂ = o := by
    intro d₂' o₂ h₂
    obtain ⟨p', rounds', hwrote', hpumps', hwait', houtput', -⟩ := run_isWait h₂
    have hp : p' = p₂ := hwrote'.unique hwrote₂
    rw [hp] at hpumps'
    rw [hprompt] at hwait'
    -- the rounds that are handed over and the rounds that were read begin alike, and both end
    -- where the wait does
    have hrounds : rounds = rounds' := by
      rcases hpumps₂.agree hpumps' with hbegins | hbegins
      · exact hwait.eq_of_begins hwait' hbegins
      · exact (hwait'.eq_of_begins hwait hbegins).symm
    rw [houtput, houtput', hrounds]
  refine ⟨hsame, fun hfree hunits hcounted => ?_⟩
  have hwait₂ : IsWait (call.Ends rules₂.prompt) [] rounds := by
    rw [hprompt]
    exact hwait
  obtain ⟨o₂, d₂', hrun⟩ := run_returns hfree hwrote₂ hpumps₂ hwait₂ hcounted hunits
  obtain rfl := hsame hrun
  exact ⟨d₂', hrun⟩

/-- A desk before a REPL that answers a line in two chunks, cut within a line end, and then is
silent. -/
def cutReplyDesk : Desk where
  session := .start "repl" "node" (.start ⟨[], none, none⟩ (.scripted "> " [] []
    [("7\n", .ok [.output "7\r\n7\r", .output "\n\x1b[1G\x1b[0J> \x1b[3G", .pause])]))
  clock := .zero .exact
  notes := []

theorem run_refines_cutReply :
    ∃ d' rounds, (exchange "7\n" true).run ⟨"> ", .finite 1⟩ cutReplyDesk =
        (.ok "7\r\n7\r\n\x1b[1G\x1b[0J> \x1b[3G".toList, d') ∧
      captured rounds = "7\r\n7\r\n\x1b[1G\x1b[0J> \x1b[3G".toList ∧
      IsWait ((exchange "7\n" true).Ends "> ") [] rounds := by
  have hanswer : ((exchange "7\n" true).run ⟨"> ", .finite 1⟩ cutReplyDesk).1.toOption =
      some "7\r\n7\r\n\x1b[1G\x1b[0J> \x1b[3G".toList := by decide +kernel
  rcases h : (exchange "7\n" true).run ⟨"> ", .finite 1⟩ cutReplyDesk with ⟨f | o, d'⟩
  · rw [h] at hanswer
    cases hanswer
  · rw [h] at hanswer
    cases hanswer
    obtain ⟨p, rounds, -, -, hwait, hcaptured, -, -⟩ := run_refines h
    exact ⟨d', rounds, rfl, hcaptured.symm, hwait⟩

end Call

end ReplDriver
