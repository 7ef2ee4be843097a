import ReplDriver.Proofs.Process.Events
import ReplDriver.Proofs.Session.Episodes

/-!
# How calls fail

At the desk of a session whose process works, there are two ways for a call to fail: an exchange is
open already, or the wait for the reply would never end.

* `Desk.meets_call`: so it is with every call, and so with everything that is made of calls.
-/

namespace ReplDriver

/-- The failure belongs to one of some families, or is a wait that never ends. -/
def Failure.Among (families : List Failure.Family) (f : Failure) : Prop :=
  f = .blocked ∨ f.family ∈ families

theorem Failure.Among.mono {families more : List Failure.Family} {f : Failure}
    (h : f.Among families) (hmore : families ⊆ more) : f.Among more :=
  h.imp_right fun hf => hmore hf

namespace Desk

/-- The process of the session works. -/
def Works (d : Desk) : Prop := d.session.process.Works

variable {d d' : Desk}

theorem Works.does {episodes : List Episode} (h : d.Works) (hdoes : Does d episodes d') :
    d'.Works := Process.Works.life h hdoes.life

theorem Works.hears {chunks : List Text} (h : d.Works) (hears : Hears d chunks d') : d'.Works :=
  Process.Works.life h hears.life

/-- A read fails only if the wait for events would never end. -/
theorem Works.read_error (h : d.Works) {timeout : Double} {f : Failure}
    (hread : d.read timeout = (.error f, d')) : f = .blocked :=
  Process.Works.read_error h (read_eq hread).1

/-- So does a pump. -/
theorem Works.pumpUntil_error {deadline left : Double} {c : Capture} {f : Failure}
    (h : d.Works) (hc : d.session.sink = .capture c)
    (hpump : (pumpUntil deadline left d).1 = .error f) : f = .blocked := by
  fun_induction pumpUntil deadline left d generalizing c with
  | case1 left d hleft g d' hread =>
    cases hpump
    exact h.read_error hread
  | case2 left d hleft d' hread => cases hpump
  | case3 left d hleft d' hread => cases hpump
  | case4 left d hleft s d' hread d'' =>
    rename_i ih
    exact ih (h.hears (hears_chunk hc hread)) (sink_takeIn (captures_read hc hread).2 s) hpump
  | case5 left d hleft => cases hpump

/-- So does the wait for a reply. -/
theorem Works.awaitReply_error {interval : Double} {complete : Text → Bool} {c : Capture}
    {f : Failure} (h : d.Works) (hc : d.session.sink = .capture c)
    (hwait : (awaitReply interval complete d).1 = .error f) : f = .blocked := by
  have hhush {d : Desk} (h : d.Works) : d.hush.Works := h.hears (hears_hush d)
  fun_induction awaitReply interval complete d generalizing c with
  | case1 d g d' hpump =>
    cases hwait
    exact (hhush h).pumpUntil_error (sink_hush hc) (congrArg Prod.fst hpump)
  | case2 d d' hpump => cases hwait
  | case3 d d' hpump hends => cases hwait
  | case4 d d' hpump hends hwork ih =>
    obtain ⟨chunks, hears⟩ := pump_hears hc hpump
    obtain ⟨c', hc'⟩ := (pump_captures hc hpump).sink
    exact ih (h.hears hears) hc' hwait
  | case5 d d' hpump hends hwork =>
    cases hwait
    rfl

/-- Between the brackets, a call fails only if the wait for the reply would never end. -/
theorem Works.converse_error {rules : ReplyRules} {text : Text} {complete : Text → Bool}
    {c : Capture} {f : Failure} (h : d.Works) (hc : d.session.sink = .capture c)
    (hconverse : (converse rules text complete d).1 = .error f) : f = .blocked := by
  obtain ⟨p, notes, ⟨hwrote, heq⟩ | ⟨g, hwrite, -⟩⟩ := converse_cases rules text complete d
  · have hwritten : Works { d with session := { d.session with process := p }, notes } := by
      obtain ⟨-, rfl⟩ | ⟨-, hwrite⟩ := hwrote
      · exact h
      · exact Process.Works.life h (.wrote hwrite)
    rw [heq] at hconverse
    exact hwritten.awaitReply_error hc hconverse
  · exact (Process.Works.write_error h hwrite).elim

/-- A call on a session that is free fails only if the wait for the reply would never end. -/
theorem Works.call_blocked {rules : ReplyRules} {call : Call} {f : Failure} (h : d.Works)
    (hfree : d.session.exchangeOpen = false) (hcall : (call.run rules d).1 = .error f) :
    f = .blocked := by
  have hway := run_way rules call.text (call.complete rules.prompt) call.delivered d
  rw [← Call.run_eq, hcall] at hway
  generalize (call.run rules d).2 = d' at hway
  cases hway with
  | refused hopen =>
    rw [hfree] at hopen
    cases hopen
  | failed _ hinside =>
    have hopened : d.opened.Works := h
    exact hopened.converse_error rfl (congrArg Prod.fst hinside)

/-- A call fails only if an exchange is open or the wait for the reply would never end. -/
theorem Works.call_error {rules : ReplyRules} {call : Call} {f : Failure} (h : d.Works)
    (hcall : (call.run rules d).1 = .error f) : f.Among [.driver] := by
  by_cases hopen : d.session.exchangeOpen = true
  · obtain ⟨hrefused, -⟩ := (call.transacts rules d).refused hopen
    rw [hrefused] at hcall
    cases hcall
    exact .inr (List.mem_singleton.mpr rfl)
  · exact .inl (h.call_blocked (by simpa using hopen) hcall)

theorem meets_call (rules : ReplyRules) (call : Call) :
    Op.Meets Works (Failure.Among [.driver]) (fun _ => True) (call.run rules) where
  ends {d} h := by
    obtain ⟨episodes, hdoes, -⟩ := traced_call rules call d
    have hkept := h.does hdoes
    rcases hcall : call.run rules d with ⟨f | reply, d'⟩ <;> rw [hcall] at hkept
    · exact .error hkept (h.call_error (congrArg Prod.fst hcall))
    · exact .ok hkept trivial

theorem meets_note (n : Note) : Op.Meets Works (Failure.Among [.driver]) (fun _ => True) (note n) :=
  ⟨fun h => .ok h trivial⟩

end Desk

namespace Completion

open Desk

end Completion

end ReplDriver
