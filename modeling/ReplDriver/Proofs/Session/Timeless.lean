import ReplDriver.Proofs.Process.Time
import ReplDriver.Proofs.Session.Episodes

/-!
# Work at a desk at any time

Everything that is done at a desk does the same at any exact time: the outcome and the session that
is left depend on the session alone, and the same time passes.

* `Desk.Timeless`: an operation does the same at any exact time.
* `Desk.timeless_run`: calls do, and so does everything that is made of calls.
-/

namespace ReplDriver.Desk

/-- On a session, an operation does the same at any exact time and whatever notes there are: it has
one outcome, leaves one session, and takes one time. -/
def Timeless {α : Type} (act : Op Desk α) (s : Session) : Prop :=
  ∃ outcome s' ε more, s'.process.Timely ∧
    ∀ q notes, act ⟨s, .exactly q, notes⟩ = (outcome, ⟨s', .exactly (q + ε), more ++ notes⟩)

section
variable {α β : Type} {act : Op Desk α} {s : Session}

theorem Timeless.ofExcept (hs : s.process.Timely) (outcome : Except Failure α) :
    Timeless (Op.ofExcept outcome) s :=
  ⟨outcome, s, 0, [], hs, fun q notes => by rw [Rat.add_zero]; rfl⟩

theorem Timeless.pure (hs : s.process.Timely) (a : α) : Timeless (Pure.pure a) s :=
  .ofExcept hs (.ok a)

/-- A sequence does the same at any time if its parts do. -/
theorem Timeless.bind {k : α → Op Desk β} (h : Timeless act s)
    (hk : ∀ a s', s'.process.Timely → Timeless (k a) s') : Timeless (act >>= k) s := by
  obtain ⟨outcome, s₁, ε, more, hs₁, hact⟩ := h
  cases outcome with
  | error f => exact ⟨.error f, s₁, ε, more, hs₁, fun q notes => Op.bind_error (hact q notes)⟩
  | ok a =>
    obtain ⟨outcome, s₂, ε', more', hs₂, hrest⟩ := hk a s₁ hs₁
    refine ⟨outcome, s₂, ε + ε', more' ++ more, hs₂, fun q notes => ?_⟩
    rw [Op.bind_ok (hact q notes), hrest, Rat.add_assoc, List.append_assoc]

/-- An operation that comes down to another on this session. -/
theorem Timeless.congr {other : Op Desk α}
    (hact : ∀ clock notes, act ⟨s, clock, notes⟩ = other ⟨s, clock, notes⟩)
    (h : Timeless other s) : Timeless act s := by
  obtain ⟨outcome, s', ε, more, hs', hother⟩ := h
  exact ⟨outcome, s', ε, more, hs', fun q notes => by rw [hact, hother]⟩

theorem timeless_note (hs : s.process.Timely) (n : Note) : Timeless (note n) s :=
  ⟨.ok (), s, 0, [n], hs, fun q notes => by rw [Rat.add_zero]; rfl⟩

theorem timeless_onSession (f : Session → Session) (hf : (f s).process.Timely) :
    Timeless (onSession f) s :=
  ⟨.ok (), f s, 0, [], hf, fun q notes => by rw [Rat.add_zero]; rfl⟩

theorem timeless_write (hs : s.process.Timely) (text : Text) : Timeless (write text) s :=
  ⟨(s.process.write text).1, { s with process := (s.process.write text).2 }, 0, [],
    hs.write text, fun q notes => by rw [Rat.add_zero]; rfl⟩

theorem timeless_sendInterrupt (hs : s.process.Timely) : Timeless sendInterrupt s :=
  ⟨s.process.interrupt.1, { s with process := s.process.interrupt.2 }, 0, [],
    hs.interrupt, fun q notes => by rw [Rat.add_zero]; rfl⟩

/-! ## Reading -/

/-- One read does the same at any time. -/
theorem timeless_read (hs : s.process.Timely) (τ : Rat) :
    Timeless (read (.finite τ)) s := by
  obtain ⟨outcome, p, ε, hp, hread⟩ := Process.read_timeless hs τ
  refine ⟨outcome, { s with process := p }, ε, [], hp, fun q notes => ?_⟩
  simp only [read, hread, List.nil_append]

/-- Output is taken in by the session alone, and does not touch the process. -/
theorem takeIn_eq (s : Session) (t : Text) :
    ∃ s', s'.process = s.process ∧
      ∀ clock notes, takeIn ⟨s, clock, notes⟩ t = ⟨s', clock, notes⟩ := by
  unfold takeIn
  split
  · exact ⟨s, rfl, fun _ _ => rfl⟩
  · refine ⟨s.accept t, ?_, fun _ _ => rfl⟩
    unfold Session.accept Session.deliver
    split
    · split <;> rfl
    · rfl

/-- The end is seen by the session alone, and noted. -/
theorem sawEnd_notes (s : Session) :
    ∃ s' more, s'.process = s.process ∧
      ∀ clock notes, sawEnd ⟨s, clock, notes⟩ = ⟨s', clock, more ++ notes⟩ := by
  by_cases h : s.closed = true
  · exact ⟨s, [], rfl, fun _ _ => if_pos h⟩
  · exact ⟨{ s with closed := true }, [.exited s.name], rfl, fun _ _ => if_neg h⟩

/-- A pump before its deadline begins with a read. -/
theorem pumpUntil_read {deadline left : Double} (hleft : left.isPositive = true) (d : Desk) :
    pumpUntil deadline left d =
      match d.read left with
      | (.error f, d') => (.error f, d')
      | (.ok .ended, d') => (.ok false, d'.sawEnd)
      | (.ok .idle, d') => (.ok true, d')
      | (.ok (.chunk t), d') =>
        pumpUntil deadline ((d'.takeIn t).clock.remaining deadline) (d'.takeIn t) := by
  rw [pumpUntil, if_pos hleft]
  split
  · next h => rw [h]
  · next h => rw [h]
  · next h => rw [h]
  · next h =>
    rw [h]
    rfl

/-- A pump does the same at any time that is as far from its deadline. -/
theorem pumpUntil_timeless (hs : s.process.Timely) (δ : Rat) :
    ∃ outcome s' ε more, s'.process.Timely ∧ ∀ q notes,
      pumpUntil (.finite (q + δ)) (.finite δ) ⟨s, .exactly q, notes⟩ =
        (outcome, ⟨s', .exactly (q + ε), more ++ notes⟩) := by
  -- the induction is on the events to come, of which every chunk takes one away
  induction hn : s.process.queue.length using Nat.strongRecOn generalizing s δ with
  | ind n ih =>
    subst hn
    by_cases hleft : (Double.finite δ).isPositive = true
    · obtain ⟨outcome, s₁, ε, more, hs₁, hread⟩ := timeless_read hs δ
      rcases outcome with f | chunk | _ | _
      · exact ⟨.error f, s₁, ε, more, hs₁, fun q notes => by rw [pumpUntil_read hleft, hread]⟩
      · obtain ⟨s₂, hprocess, htaken⟩ := takeIn_eq s₁ chunk
        have hlt : s₂.process.queue.length < s.process.queue.length := by
          rw [hprocess]
          exact read_chunk_lt (hread 0 [])
        obtain ⟨outcome, s₃, ε', more', hs₃, hrest⟩ :=
          ih _ hlt (by rw [hprocess]; exact hs₁) (δ - ε) rfl
        refine ⟨outcome, s₃, ε + ε', more' ++ more, hs₃, fun q notes => ?_⟩
        -- the deadline is as much nearer as time has passed
        have hdeadline : q + δ = (q + ε) + (δ - ε) := by grind
        have hnearer : (q + ε) + (δ - ε) - (q + ε) = δ - ε := by grind
        rw [pumpUntil_read hleft, hread]
        simp only [htaken]
        rw [hdeadline, Clock.remaining_exactly, hnearer, hrest, Rat.add_assoc, List.append_assoc]
      · exact ⟨.ok true, s₁, ε, more, hs₁, fun q notes => by rw [pumpUntil_read hleft, hread]⟩
      · obtain ⟨s₂, more', hprocess, hend⟩ := sawEnd_notes s₁
        refine ⟨.ok false, s₂, ε, more' ++ more, by rw [hprocess]; exact hs₁, fun q notes => ?_⟩
        rw [pumpUntil_read hleft, hread]
        simp only [hend, List.append_assoc]
    · refine ⟨.ok true, s, 0, [], hs, fun q notes => ?_⟩
      rw [pumpUntil, if_neg hleft, Rat.add_zero]
      rfl

theorem timeless_pump (hs : s.process.Timely) (τ : Rat) : Timeless (pump (.finite τ)) s := by
  obtain ⟨outcome, s', ε, more, hs', hpump⟩ := pumpUntil_timeless hs τ
  refine ⟨outcome, s', ε, more, hs', fun q notes => ?_⟩
  rw [← hpump, pump, Clock.after_exactly]

/-- Waiting for a reply does the same at any time. -/
theorem timeless_awaitReply (hs : s.process.Timely) (τ : Rat) (complete : Text → Bool) :
    Timeless (awaitReply (.finite τ) complete) s := by
  -- the induction is on the work that is left, as the wait goes on only while that gets less
  induction hn : s.process.work using Nat.strongRecOn generalizing s with
  | ind n ih =>
    subst hn
    have hquiet : s.quiet.process = s.process := by
      unfold Session.quiet
      split <;> rfl
    obtain ⟨outcome, s₁, ε, more, hs₁, hpump⟩ := timeless_pump (s := s.quiet)
      (by rw [hquiet]; exact hs) τ
    rcases outcome with f | alive
    · exact ⟨.error f, s₁, ε, more, hs₁, fun q notes => by rw [awaitReply, hpump]⟩
    cases alive with
    | false => exact ⟨.ok (), s₁, ε, more, hs₁, fun q notes => by rw [awaitReply, hpump]⟩
    | true =>
      by_cases hends : (!s₁.captured.live && complete s₁.captured.lastLine) = true
      · refine ⟨.ok (), s₁, ε, more, hs₁, fun q notes => ?_⟩
        rw [awaitReply, hpump]
        exact if_pos hends
      by_cases hwork : s₁.process.work < s.process.work
      · obtain ⟨outcome, s₂, ε', more', hs₂, hrest⟩ := ih _ hwork hs₁ rfl
        refine ⟨outcome, s₂, ε + ε', more' ++ more, hs₂, fun q notes => ?_⟩
        rw [awaitReply, hpump]
        simp only [if_neg hends, if_pos hwork]
        rw [hrest, Rat.add_assoc, List.append_assoc]
      · refine ⟨.error .blocked, s₁, ε, more, hs₁, fun q notes => ?_⟩
        rw [awaitReply, hpump]
        simp only [if_neg hends, if_neg hwork]

/-! ## Calls -/

theorem Timeless.redirect (marker : Int)
    (h : Timeless act { s with sink := .capture .empty, marker }) :
    Timeless (redirect marker act) s := by
  obtain ⟨outcome, s₁, ε, more, hs₁, hact⟩ := h
  refine ⟨outcome.map fun a => (a, s₁.captured),
    { s₁ with sink := s.sink, marker := s.marker }, ε, more, hs₁, fun q notes => ?_⟩
  simp only [Desk.redirect, hact]

theorem Timeless.exclusive (hs : s.process.Timely)
    (h : Timeless act { s with exchangeOpen := true }) : Timeless (exclusive act) s := by
  by_cases hopen : s.exchangeOpen = true
  · refine ⟨.error (.exchangeOpen s.name), s, 0, [], hs, fun q notes => ?_⟩
    rw [Rat.add_zero]
    exact if_pos hopen
  · obtain ⟨outcome, s₁, ε, more, hs₁, hact⟩ := h
    refine ⟨outcome, { s₁ with exchangeOpen := false }, ε, more, hs₁, fun q notes => ?_⟩
    simp only [Desk.exclusive, hact, if_neg hopen]

/-- Writing a text and collecting the reply does the same at any time. -/
theorem timeless_run {rules : ReplyRules} {τ : Rat} (hrules : rules.interval = .finite τ)
    (hs : s.process.Timely) (text : Text) (complete : Text → Bool) (delivered : Bool) :
    Timeless (run rules text complete delivered) s := by
  have hwait (s₁ : Session) (hs₁ : s₁.process.Timely) :
      Timeless (awaitReply rules.interval complete) s₁ := by
    rw [hrules]
    exact timeless_awaitReply hs₁ τ complete
  have hdeliver (s₁ : Session) (output : Text) : (s₁.deliver output).process = s₁.process := by
    unfold Session.deliver
    split <;> rfl
  unfold run
  refine .bind (.exclusive hs (.redirect 0 ?_)) ?_
  · split
    · refine .bind (timeless_note ?_ _) fun _ s₁ hs₁ =>
        .bind (timeless_write hs₁ text) fun _ s₂ hs₂ => hwait s₂ hs₂
      exact hs
    · exact hwait _ hs
  · rintro ⟨_, capture⟩ s₁ hs₁
    refine .bind (timeless_note hs₁ _) fun _ s₂ hs₂ => ?_
    cases delivered with
    | false => exact .pure hs₂ _
    | true =>
      exact .bind (timeless_onSession _ (by rw [hdeliver]; exact hs₂)) fun _ s₃ hs₃ => .pure hs₃ _

/-- Interrupting does the same at any time. -/
theorem timeless_interrupt (hs : s.process.Timely) : Timeless interrupt s := by
  have hsequence : Timeless (note (.interrupting s.name) >>= fun _ => sendInterrupt) s :=
    .bind (timeless_note hs _) fun _ _ hs₁ => timeless_sendInterrupt hs₁
  exact .congr (fun _ _ => rfl) hsequence

end

end ReplDriver.Desk

/-! ## Completions -/

namespace ReplDriver.Completion

open Desk

variable {s : Session} {rules : ReplyRules} {τ : Rat}

theorem timeless_probe (hrules : rules.interval = .finite τ) (hs : s.process.Timely)
    (text : Text) : Timeless (probe rules text) s :=
  .bind (timeless_run hrules hs _ _ _) fun _ _ hs₁ =>
    .bind (timeless_run hrules hs₁ _ _ _) fun _ _ hs₂ =>
      .bind (timeless_run hrules hs₂ _ _ _) fun _ _ hs₃ => .pure hs₃ _

/-- Completing does the same at any time. -/
theorem timeless_complete (hrules : rules.interval = .finite τ) (hs : s.process.Timely)
    (token : Text) (inModulePath : Bool) : Timeless (complete rules token inModulePath) s := by
  rcases hcached : s.cache.lookup? (probeText token inModulePath) with _ | found
  · have hprobe (clock : Clock) (notes : List Note) :
        complete rules token inModulePath ⟨s, clock, notes⟩ =
          (probe rules (probeText token inModulePath) >>= fun reply =>
            onSession (fun t => { t with
              cache := t.cache.store (probeText token inModulePath)
                (shown token inModulePath reply) }) >>= fun _ =>
            pure (shown token inModulePath reply)) ⟨s, clock, notes⟩ := by
      rw [complete, Op.get_bind]
      simp only [hcached]
      rfl
    exact .congr hprobe (.bind (timeless_probe hrules hs _) fun _ _ hs₁ =>
      .bind (timeless_onSession _ hs₁) fun _ _ hs₂ => .pure hs₂ _)
  · have hhit (clock : Clock) (notes : List Note) :
        complete rules token inModulePath ⟨s, clock, notes⟩ =
          (note (.cacheHit (probeText token inModulePath)) >>= fun _ => pure found)
            ⟨s, clock, notes⟩ := by
      rw [complete, Op.get_bind]
      simp only [hcached]
    exact .congr hhit (.bind (timeless_note hs _) fun _ _ hs₁ => .pure hs₁ _)

theorem timeless_completeAt (hrules : rules.interval = .finite τ) (hs : s.process.Timely)
    (text : Text) (point : Int) : Timeless (completeAt rules text point) s :=
  .bind (timeless_complete hrules hs _ _) fun _ _ hs₁ => .pure hs₁ _

end ReplDriver.Completion
