import ReplDriver.Proofs.Operation
import ReplDriver.Proofs.Session.Reading

/-!
# Calls that exchange text with a session

There are four ways to exchange text with a session, and all of them write a text, wait for a
condition on the last line, and deliver what they captured or not. What such a call does is told
once: it is refused, it fails between its brackets, or it is answered.

* `Desk.run_way`: a call goes one of these three ways.
* `Call.run_eq`: the four calls are one operation with three parameters.
* `Call.complete_iff`: the conditions for which they wait.
-/

namespace ReplDriver

open Terminal

/-- Delivering adds a chunk, unless it is empty, and counts its characters; the cached candidates
are dropped in any case. -/
theorem Session.deliver_eq (s : Session) (text : Text) :
    s.deliver text =
      { s with
        transcript := s.transcript ++ (if text = [] then [] else [text])
        marker := s.marker + text.length
        cache := .empty } := by
  cases text <;> simp [deliver]

namespace Desk

/-! ## Between the brackets -/

/-- The desk when the brackets of an exchange have been opened. -/
def opened (d : Desk) : Desk :=
  { d with
    session := { d.session with exchangeOpen := true, sink := .capture .empty, marker := 0 } }

/-- The desk when the brackets of an exchange have been closed, given the one that was left
inside. -/
def restored (d inside : Desk) : Desk :=
  { inside with
    session := { inside.session with
      exchangeOpen := false
      sink := d.session.sink
      marker := d.session.marker } }

/-- What is done between the brackets: the text is written, if there is any, and the reply
awaited. -/
def converse (rules : ReplyRules) (text : Text) (complete : Text → Bool) : Op Desk Unit := do
  if !text.isEmpty then
    note (.sent text)
    write text
  awaitReply rules.interval complete

/-- Writing a text, unless it is empty, has led from one process to another. -/
def Wrote (text : Text) (p p' : Process) : Prop :=
  (text = [] ∧ p' = p) ∨ (text ≠ [] ∧ p.write text = (.ok (), p'))

theorem Wrote.unique {text : Text} {p p₁ p₂ : Process} (h₁ : Wrote text p p₁)
    (h₂ : Wrote text p p₂) : p₁ = p₂ := by
  rcases h₁ with ⟨rfl, rfl⟩ | ⟨hne, hwrite₁⟩
  · rcases h₂ with ⟨-, rfl⟩ | ⟨hne, -⟩
    · rfl
    · exact absurd rfl hne
  · rcases h₂ with ⟨rfl, -⟩ | ⟨-, hwrite₂⟩
    · exact absurd rfl hne
    · exact congrArg Prod.snd (hwrite₁.symm.trans hwrite₂)

/-- When the text has been written, what is done between the brackets is waiting. -/
theorem converse_wrote (rules : ReplyRules) {text : Text} (complete : Text → Bool) {d : Desk}
    {p : Process} (h : Wrote text d.session.process p) :
    ∃ notes, converse rules text complete d = awaitReply rules.interval complete
      { d with session := { d.session with process := p }, notes } := by
  obtain ⟨rfl, rfl⟩ | ⟨hne, hwrite⟩ := h
  · exact ⟨d.notes, rfl⟩
  · obtain ⟨c, r, rfl⟩ := List.exists_cons_of_ne_nil hne
    have hnote : note (.sent (c :: r)) d =
        (.ok (), { d with notes := .sent (c :: r) :: d.notes }) := rfl
    refine ⟨.sent (c :: r) :: d.notes, ?_⟩
    show (note (.sent (c :: r)) >>= fun _ => write (c :: r) >>= fun _ =>
      awaitReply rules.interval complete) d = _
    rw [Op.bind_ok hnote]
    apply Op.bind_ok (a := ())
    simp only [write, hwrite]

/-- What is done between the brackets is either waiting, on a desk that has written the text and
otherwise only taken notes, or a failure to write. -/
theorem converse_cases (rules : ReplyRules) (text : Text) (complete : Text → Bool) (d : Desk) :
    ∃ (p : Process) (notes : List Note),
      (Wrote text d.session.process p ∧
        converse rules text complete d = awaitReply rules.interval complete
          { d with session := { d.session with process := p }, notes }) ∨
      ∃ f, d.session.process.write text = (.error f, p) ∧
        converse rules text complete d =
          (.error f, { d with session := { d.session with process := p }, notes }) := by
  cases text with
  | nil =>
    have hwrote : Wrote [] d.session.process d.session.process := .inl ⟨rfl, rfl⟩
    obtain ⟨notes, heq⟩ := converse_wrote rules complete hwrote
    exact ⟨_, notes, .inl ⟨hwrote, heq⟩⟩
  | cons c r =>
    rcases hwrite : d.session.process.write (c :: r) with ⟨f | u, p⟩
    · -- the note is taken before the write is tried, so it stays when the write fails
      have hnote : note (.sent (c :: r)) d =
          (.ok (), { d with notes := .sent (c :: r) :: d.notes }) := rfl
      refine ⟨p, .sent (c :: r) :: d.notes, .inr ⟨f, rfl, ?_⟩⟩
      show (note (.sent (c :: r)) >>= fun _ => write (c :: r) >>= fun _ =>
        awaitReply rules.interval complete) d = _
      rw [Op.bind_ok hnote]
      apply Op.bind_error
      simp only [write, hwrite]
    · have hwrote : Wrote (c :: r) d.session.process p := .inr ⟨List.cons_ne_nil c r, hwrite⟩
      obtain ⟨notes, heq⟩ := converse_wrote rules complete hwrote
      exact ⟨p, notes, .inl ⟨hwrote, heq⟩⟩

/-- Between the brackets output is captured, whatever happens there. -/
theorem converse_captures {rules : ReplyRules} {text : Text} {complete : Text → Bool} {d : Desk}
    {c : Capture} (hc : d.session.sink = .capture c) :
    Captures d (converse rules text complete d).2 := by
  obtain ⟨p, notes, ⟨-, h⟩ | ⟨f, -, h⟩⟩ := converse_cases rules text complete d
  · rw [h]
    have hwritten : Captures d { d with session := { d.session with process := p }, notes } :=
      ⟨rfl, rfl, rfl, rfl, rfl, c, hc⟩
    exact hwritten.trans (awaitReply_captures hc)
  · rw [h]
    exact ⟨rfl, rfl, rfl, rfl, rfl, c, hc⟩

/-! ## The ways a call goes -/

/-- The desk that an answered call leaves: the reply is noted, and delivered if it is to be. -/
def answered (d inside : Desk) (delivered : Bool) : Desk :=
  let output := inside.session.captured.output
  let session := (d.restored inside).session
  { d.restored inside with
    session := if delivered then session.deliver output else session
    notes := .received output :: inside.notes }

/-- A reply that is delivered is added to the session that the brackets leave. -/
theorem session_answered (d inside : Desk) :
    (d.answered inside true).session =
      { (d.restored inside).session with
        transcript := inside.session.transcript ++
          (if inside.session.captured.output = [] then [] else [inside.session.captured.output])
        marker := d.session.marker + inside.session.captured.output.length
        cache := .empty } :=
  Session.deliver_eq (d.restored inside).session inside.session.captured.output

/-- Delivering a reply leaves the process, the clock, and whether the end has been seen. -/
theorem source_answered (d inside : Desk) (delivered : Bool) :
    (d.answered inside delivered).source = inside.source ∧
      (d.answered inside delivered).session.closed = inside.session.closed := by
  cases delivered with
  | false => exact ⟨rfl, rfl⟩
  | true =>
    rw [source, session_answered]
    exact ⟨rfl, rfl⟩

/-- The ways a call goes. It is refused if an exchange is open; it fails if something fails
between the brackets; and otherwise it is answered by what has been captured. -/
inductive Way (rules : ReplyRules) (text : Text) (complete : Text → Bool) (delivered : Bool)
    (d : Desk) : Except Failure Text → Desk → Prop
  | refused (hopen : d.session.exchangeOpen = true) :
      Way rules text complete delivered d (.error (.exchangeOpen d.session.name)) d
  | failed {f : Failure} {inside : Desk} (hfree : d.session.exchangeOpen = false)
      (hinside : converse rules text complete d.opened = (.error f, inside)) :
      Way rules text complete delivered d (.error f) (d.restored inside)
  | answered {inside : Desk} (hfree : d.session.exchangeOpen = false)
      (hinside : converse rules text complete d.opened = (.ok (), inside)) :
      Way rules text complete delivered d (.ok inside.session.captured.output)
        (d.answered inside delivered)

/-- The brackets around an operation on a session that is free. -/
theorem bracketed_eq {α : Type} (act : Op Desk α) {d : Desk}
    (hfree : d.session.exchangeOpen = false) :
    exclusive (redirect 0 act) d =
      ((act d.opened).1.map fun a => (a, (act d.opened).2.session.captured),
        d.restored (act d.opened).2) := by
  rw [exclusive, if_neg (by simp [hfree])]
  rfl

/-- A call goes one of the three ways. -/
theorem run_way (rules : ReplyRules) (text : Text) (complete : Text → Bool) (delivered : Bool)
    (d : Desk) :
    Way rules text complete delivered d (run rules text complete delivered d).1
      (run rules text complete delivered d).2 := by
  have hrun : run rules text complete delivered = (do
      let result ← exclusive (redirect 0 (converse rules text complete))
      note (.received result.2.output)
      if delivered then onSession fun s => s.deliver result.2.output
      return result.2.output) := rfl
  rw [hrun]
  -- whether an exchange is open is decided before anything else is done
  by_cases hopen : d.session.exchangeOpen = true
  · have hrefused : exclusive (redirect 0 (converse rules text complete)) d =
        (.error (.exchangeOpen d.session.name), d) := by
      rw [exclusive, if_pos hopen]
    rw [Op.bind_error hrefused]
    exact .refused hopen
  · have hfree : d.session.exchangeOpen = false := by simpa using hopen
    have hbracketed := bracketed_eq (converse rules text complete) hfree
    rcases hinside : converse rules text complete d.opened with ⟨f | u, inside⟩
    · rw [hinside] at hbracketed
      rw [Op.bind_error hbracketed]
      exact .failed hfree hinside
    · rw [hinside] at hbracketed
      rw [Op.bind_ok hbracketed]
      cases delivered
      · exact .answered hfree hinside
      · exact .answered hfree hinside

end Desk

/-! ## The four calls -/

/-- A call that exchanges text with a session. -/
inductive Call where
  | exchange (text : Text) (delivered : Bool)
  | probe (text : Text)
  | awaitPrompt (delivered : Bool)
  | submit (code : Text)

namespace Call

/-- The call as an operation. -/
def run (rules : ReplyRules) : Call → Op Desk Text
  | exchange text delivered => Desk.exchange rules text delivered
  | probe text => Desk.probe rules text
  | awaitPrompt delivered => Desk.awaitPrompt rules delivered
  | submit code => Desk.submit rules code

/-- What the call writes. -/
def text : Call → Text
  | exchange text _ => text
  | probe text => text
  | awaitPrompt _ => []
  | submit code => frameSubmission code

/-- Whether the call delivers the reply. -/
def delivered : Call → Bool
  | exchange _ delivered => delivered
  | probe _ => false
  | awaitPrompt delivered => delivered
  | submit _ => true

/-- Whether a line ends the call. -/
def complete (prompt : Text) : Call → Text → Bool
  | exchange text _ => Desk.endsExchange prompt text
  | probe text => Desk.endsProbe prompt text
  | awaitPrompt _ => hasPrompt prompt
  | submit code => Desk.endsExchange prompt (frameSubmission code)

/-- All calls are one operation with three parameters. -/
theorem run_eq (rules : ReplyRules) (call : Call) :
    call.run rules = Desk.run rules call.text (call.complete rules.prompt) call.delivered := by
  cases call <;> rfl

/-- The condition on the last line for which the call waits. A prompt that is drawn ends every
call. The echo of what was written ends those that write, as long as it has come no further than
what was written; a probe is also ended by a line that goes on where the probe stops. -/
def Ends (prompt : Text) : Call → Text → Prop
  | exchange text _, line => DrawsPrompt prompt line ∨ line <+: Text.trim text
  | probe text, line => DrawsPrompt prompt line ∨ line <+: Text.trim text ∨
      (Text.trim text ≠ [] ∧ Text.trim text <+: line)
  | awaitPrompt _, line => DrawsPrompt prompt line
  | submit code, line =>
      DrawsPrompt prompt line ∨ line <+: Text.trim (frameSubmission code)

theorem endsExchange_iff {prompt text line : Text} :
    Desk.endsExchange prompt text line = true ↔
      DrawsPrompt prompt line ∨ line <+: Text.trim text := by
  rw [Desk.endsExchange, Bool.or_eq_true, hasPrompt_iff, Text.startsWith_iff]

theorem complete_iff {prompt : Text} {call : Call} {line : Text} :
    call.complete prompt line = true ↔ call.Ends prompt line := by
  cases call with
  | exchange text delivered => exact endsExchange_iff
  | probe text =>
    show Desk.endsProbe prompt text line = true ↔ _
    rw [Desk.endsProbe, Bool.or_eq_true, endsExchange_iff, Bool.and_eq_true, Text.startsWith_iff,
      Bool.not_eq_true', List.isEmpty_eq_false_iff, or_assoc]
    rfl
  | awaitPrompt delivered => exact hasPrompt_iff
  | submit code => exact endsExchange_iff

end Call

end ReplDriver
