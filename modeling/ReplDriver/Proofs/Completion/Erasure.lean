import ReplDriver.Proofs.Completion.Repeated

/-!
# What a completion leaves on the input line

A probe is typed with two exchanges, and a third one erases it from the input line. Nothing sees to
it that the third is begun: where one of the first two fails, by a read or a write or because it is
interrupted, the completion fails with it, and what has been typed stays on the line. Whatever is
submitted next is appended to it.

* `asked_way`: how far the first two exchanges come, and what has been typed by then.
* `complete_erases_iff`: a probe that is typed is erased exactly if both of them return.
-/

namespace ReplDriver.Completion

open Terminal
open Desk (typed)

variable {rules : ReplyRules} {text : Text} {d : Desk}

/-- The exchanges in which a probe is typed: with a tab, and with a second tab after it. -/
def asked (rules : ReplyRules) (text : Text) : Op Desk Text := do
  let first ← Desk.probe rules (text ++ tab)
  let second ← Desk.exchange rules tab false
  return first ++ second

theorem asked_eq (rules : ReplyRules) (text : Text) :
    asked rules text = Call.run rules (.probe (text ++ tab)) >>= fun first =>
      Call.run rules (.exchange tab false) >>= fun second => pure (first ++ second) := rfl

/-- A probe is erased after both exchanges. -/
theorem probe_eq_asked (rules : ReplyRules) (text : Text) :
    probe rules text = asked rules text >>= fun reply =>
      Call.run rules (.exchange lineClear false) >>= fun _ => pure reply := by
  rw [probe_eq, asked_eq]
  simp only [bind_assoc, pure_bind]

/-- How far the exchanges in which a probe is typed come. Both return, and the tab has been typed
after the text; or one of them fails. -/
inductive AskedWay (text : Text) (d : Desk) : Except Failure Text → Desk → Prop
  | returned {reply : Text} {d' : Desk} (hwritten : d'.written = d.written ++ [text ++ tab, tab])
      (hfree : d'.session.exchangeOpen = false) : AskedWay text d (.ok reply) d'
  | failed {f : Failure} {d' : Desk} {texts : List Text}
      (hwritten : d'.written = d.written ++ texts)
      (htexts : texts = [text ++ tab] ∨ texts = [text ++ tab, tab])
      (hfree : d'.session.exchangeOpen = false) : AskedWay text d (.error f) d'

/-- The exchanges go one of these ways at the desk of a session that is free. -/
theorem asked_way (rules : ReplyRules) (text : Text) (hfree : d.session.exchangeOpen = false) :
    AskedWay text d (asked rules text d).1 (asked rules text d).2 := by
  have hfirst : typed (text ++ tab) = [text ++ tab] :=
    if_neg (List.append_ne_nil_of_right_ne_nil _ (by decide))
  have hwritten₁ := Desk.written_call rules (.probe (text ++ tab)) hfree
  have hfree₁ := (Call.transacts rules (.probe (text ++ tab)) d).released hfree
  rw [show typed (Call.probe (text ++ tab)).text = [text ++ tab] from hfirst] at hwritten₁
  rcases hcall₁ : Call.run rules (.probe (text ++ tab)) d with ⟨f | first, d₁⟩
    <;> rw [hcall₁] at hwritten₁ hfree₁
  · rw [asked_eq, Op.bind_error hcall₁]
    exact .failed hwritten₁ (.inl rfl) hfree₁
  · have hwritten₂ := Desk.written_call rules (.exchange tab false) hfree₁
    have hfree₂ := (Call.transacts rules (.exchange tab false) d₁).released hfree₁
    rw [show typed (Call.exchange tab false).text = [tab] from rfl, hwritten₁,
      List.append_assoc] at hwritten₂
    rcases hcall₂ : Call.run rules (.exchange tab false) d₁ with ⟨f | second, d₂⟩
      <;> rw [hcall₂] at hwritten₂ hfree₂
    · rw [asked_eq, Op.bind_ok hcall₁, Op.bind_error hcall₂]
      exact .failed hwritten₂ (.inr rfl) hfree₂
    · rw [asked_eq, Op.bind_ok hcall₁, Op.bind_ok hcall₂]
      exact .returned hwritten₂ hfree₂

/-- What a probe has typed when it is over, from what its first two exchanges come to. -/
inductive ProbeWay (text : Text) (d : Desk) : Except Failure Text → Except Failure Text → Desk →
    Prop
  | erased {reply : Text} {outcome : Except Failure Text} {d' : Desk}
      (hwritten : d'.written = d.written ++ keys text)
      (hfree : d'.session.exchangeOpen = false) : ProbeWay text d (.ok reply) outcome d'
  | left {f : Failure} {d' : Desk} {texts : List Text} (hwritten : d'.written = d.written ++ texts)
      (htexts : texts = [text ++ tab] ∨ texts = [text ++ tab, tab])
      (hfree : d'.session.exchangeOpen = false) : ProbeWay text d (.error f) (.error f) d'

/-- If both exchanges return, the probe is erased whatever becomes of the third; if one of them
fails, so does the probe. -/
theorem probe_way (rules : ReplyRules) (text : Text) (hfree : d.session.exchangeOpen = false) :
    ProbeWay text d (asked rules text d).1 (probe rules text d).1 (probe rules text d).2 := by
  have hway := asked_way rules text hfree
  rcases hasked : asked rules text d with ⟨outcome, d₂⟩
  rw [hasked] at hway
  cases hway with
  | @returned reply _ hwritten hfree₂ =>
    have hwritten₃ := Desk.written_call rules (.exchange lineClear false) hfree₂
    have hfree₃ := (Call.transacts rules (.exchange lineClear false) d₂).released hfree₂
    rw [show typed (Call.exchange lineClear false).text = [lineClear] from rfl, hwritten,
      List.append_assoc] at hwritten₃
    rw [probe_eq_asked, Op.bind_ok hasked]
    rcases hcall₃ : Call.run rules (.exchange lineClear false) d₂ with ⟨f | reply', d₃⟩
      <;> rw [hcall₃] at hwritten₃ hfree₃
    · rw [Op.bind_error hcall₃]
      exact .erased hwritten₃ hfree₃
    · rw [Op.bind_ok hcall₃]
      exact .erased hwritten₃ hfree₃
  | failed hwritten htexts hfree₂ =>
    rw [probe_eq_asked, Op.bind_error hasked]
    exact .left hwritten htexts hfree₂

/-! ## Completions -/

variable {token : Text} {inModulePath : Bool}

/-- A completion that the cache does not answer is over when the probe is, up to storing the
candidates. -/
theorem complete_missed (rules : ReplyRules)
    (hmissed : d.session.cache.lookup? (probeText token inModulePath) = none) :
    let probed := probe rules (probeText token inModulePath) d
    let after := complete rules token inModulePath d
    after.2.written = probed.2.written ∧
      after.2.session.exchangeOpen = probed.2.session.exchangeOpen ∧
      ∀ f, probed.1 = .error f → after.1 = .error f := by
  intro probed after
  have hafter : after = complete rules token inModulePath d := rfl
  rw [complete, Op.get_bind, hmissed] at hafter
  rcases hprobed : probe rules (probeText token inModulePath) d with ⟨f | reply, d'⟩
  · rw [hafter, show probed = _ from hprobed]
    simp only
    rw [Op.bind_error hprobed]
    exact ⟨rfl, rfl, fun g hg => by cases hg; rfl⟩
  · rw [hafter, show probed = _ from hprobed]
    simp only
    rw [Op.bind_ok hprobed]
    exact ⟨rfl, rfl, fun g hg => by cases hg⟩

/-- A completion that is answered by the cache or refused types nothing. -/
theorem missed_of_written (hwrote : (complete rules token inModulePath d).2.written ≠ d.written) :
    d.session.cache.lookup? (probeText token inModulePath) = none ∧
      d.session.exchangeOpen = false := by
  rcases hlookup : d.session.cache.lookup? (probeText token inModulePath) with _ | found
  · refine ⟨rfl, ?_⟩
    by_contra hopen
    apply hwrote
    have hrefused := (Call.transacts rules (.probe (probeText token inModulePath ++ tab)) d).refused
      (by simpa using hopen)
    have hasked : probe rules (probeText token inModulePath) d =
        (.error (.exchangeOpen d.session.name), d) := by
      rw [probe_eq_asked, Op.bind_error]
      rw [asked_eq, Op.bind_error (Prod.ext hrefused.1 hrefused.2)]
    rw [(complete_missed rules hlookup).1, hasked]
  · rw [complete_recalled hlookup] at hwrote
    exact absurd rfl hwrote

/-- A completion that has typed anything has typed the beginning of the keys of a probe: all of
them, with those that erase the line, exactly if both exchanges in which the probe is typed return.
If one of them fails, the completion fails with it. What is submitted afterwards comes directly
after what has been typed. -/
theorem complete_erases_iff (rules : ReplyRules) (token : Text) (inModulePath : Bool) (d : Desk)
    (hwrote : (complete rules token inModulePath d).2.written ≠ d.written) :
    let text := probeText token inModulePath
    let after := complete rules token inModulePath d
    ∃ texts, after.2.written = d.written ++ texts ∧
      texts <+: keys text ∧ texts ≠ [] ∧
      (texts = keys text ↔ ∃ reply, (asked rules text d).1 = .ok reply) ∧
      (∀ f, (asked rules text d).1 = .error f → after.1 = .error f) ∧
      ∀ code, (Desk.submit rules code after.2).2.written =
        d.written ++ texts ++ typed (frameSubmission code) := by
  intro text after
  obtain ⟨hmissed, hfree⟩ := missed_of_written hwrote
  obtain ⟨hafter, hopen, hfails⟩ := complete_missed rules hmissed
  have hsubmitted {texts : List Text} (hfree' : (probe rules text d).2.session.exchangeOpen = false)
      (hwritten : (probe rules text d).2.written = d.written ++ texts) (code : Text) :
      (Desk.submit rules code after.2).2.written =
        d.written ++ texts ++ typed (frameSubmission code) := by
    have hcall := Desk.written_call rules (.submit code) (hopen.trans hfree')
    exact hcall.trans (congrArg (· ++ _) (hafter.trans hwritten))
  have hway := probe_way rules text hfree
  generalize hasked : (asked rules text d).1 = outcome at hway ⊢
  generalize hprobed : (probe rules text d).1 = outcome' at hway
  generalize hdesk : (probe rules text d).2 = d' at hway
  cases hway with
  | @erased reply _ _ hwritten hfree' =>
    rw [← hdesk] at hwritten hfree'
    refine ⟨keys text, hafter.trans hwritten, List.prefix_rfl, List.cons_ne_nil _ _, ?_, nofun,
      hsubmitted hfree' hwritten⟩
    exact iff_of_true rfl ⟨reply, rfl⟩
  | @left f _ texts hwritten htexts hfree' =>
    rw [← hdesk] at hwritten hfree'
    have hprefix : texts <+: keys text ∧ texts ≠ [] ∧ texts ≠ keys text := by
      rcases htexts with rfl | rfl
      · exact ⟨⟨[tab, lineClear], rfl⟩, by simp, by simp [keys]⟩
      · exact ⟨⟨[lineClear], rfl⟩, by simp, by simp [keys]⟩
    refine ⟨texts, hafter.trans hwritten, hprefix.1, hprefix.2.1, ?_, ?_,
      hsubmitted hfree' hwritten⟩
    · exact iff_of_false hprefix.2.2 nofun
    · rintro g hg
      cases hg
      exact hfails f hprobed

/-- A REPL that loses its terminal for a moment, while a probe is typed. -/
def brokenDesk : Desk where
  session := .start "javascript" "node" (.start ⟨[], none, none⟩ (.scripted "> " [] []
    [("foo\t", .ok [.failing (.device "gone")])]))
  clock := .zero .exact
  notes := []

/-- The completion fails, the process is still there, and what is submitted next goes on where the
probe stopped. -/
theorem complete_erases_iff_broken :
    let rules : ReplyRules := ⟨"> ", (Settings.default []).pollInterval⟩
    let after := complete rules "foo" false brokenDesk
    after.1 = .error (.device "gone") ∧ after.2.session.isAlive = true ∧
      after.2.written = ["foo\t".toList] ∧
      (Desk.submit rules "1" after.2).2.written = ["foo\t".toList, "1\n".toList] := by
  intro rules after
  have hwritten : after.2.written = ["foo\t".toList] := by decide +kernel
  have hnone : brokenDesk.written = [] := rfl
  have hwrote : after.2.written ≠ brokenDesk.written := by
    rw [hwritten, hnone]
    exact List.cons_ne_nil _ _
  obtain ⟨texts, htexts, -, -, -, hfails, hsubmit⟩ :=
    complete_erases_iff rules "foo" false brokenDesk hwrote
  obtain rfl : texts = ["foo\t".toList] := by
    have htyped := htexts.symm.trans hwritten
    rwa [hnone, List.nil_append] at htyped
  have hasked : (asked rules "foo" brokenDesk).1 = .error (.device "gone") := by
    have hdevice : (match (asked rules "foo" brokenDesk).1 with
      | .error (.device why) => decide (why = "gone".toList)
      | _ => false) = true := by decide +kernel
    split at hdevice
    · next why heq => rw [heq, of_decide_eq_true hdevice]
    · cases hdevice
  refine ⟨hfails _ hasked, by decide +kernel, hwritten, (hsubmit "1").trans ?_⟩
  rw [hnone]
  decide

end ReplDriver.Completion
