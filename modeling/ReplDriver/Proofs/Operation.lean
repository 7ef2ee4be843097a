import ReplDriver.Failure

/-!
# Operations in sequence

An operation either gives a value or fails, and leaves a state in both cases. Here is how the
outcome of a sequence comes from its parts, what an operation does to a part of the state and when
its failures are answered, and how what happens during an operation is recorded: a relation between
states that is labelled by what has happened goes along with a sequence if it goes along with the
parts.

* `Op.answering_cases`: an operation goes as it does without answers, or its failure is answered.
* `Op.Traced.bind`: the record of a sequence is the record of its parts, one after the other.
* `Op.Meets.bind`: a sequence ends in the ways in which its parts may end.
* `Op.Paired.bind`: sequences that are done in two states end alike if their parts do.
-/

namespace ReplDriver.Op

variable {σ τ ε α β : Type}

/-! ## Outcomes -/

section
variable {act : Op σ α} {f : α → Op σ β} {s s' : σ}

theorem bind_ok {a : α} (h : act s = (.ok a, s')) : (act >>= f) s = f a s' := by
  simp only [bind, ExceptT.bind, ExceptT.mk, StateT.bind, h, ExceptT.bindCont]

theorem bind_error {e : Failure} (h : act s = (.error e, s')) :
    (act >>= f) s = (.error e, s') := by
  simp only [bind, ExceptT.bind, ExceptT.mk, StateT.bind, h, ExceptT.bindCont]
  rfl

/-- What comes of a sequence depends on what its first part does in the state. -/
theorem bind_congr {act' : Op σ α} (h : act s = act' s) (f : α → Op σ β) :
    (act >>= f) s = (act' >>= f) s := by
  rcases hact : act s with ⟨e | a, s'⟩ <;> rw [hact] at h
  · rw [bind_error hact, bind_error h.symm]
  · rw [bind_ok hact, bind_ok h.symm]

/-- Changing the value of an operation changes neither its failures nor the state. -/
theorem map_apply (g : α → β) (act : Op σ α) (s : σ) :
    (g <$> act) s = ((act s).1.map g, (act s).2) := by
  show (act >>= fun a => pure (g a)) s = _
  rcases h : act s with ⟨f | a, s'⟩
  · rw [bind_error h]
    rfl
  · rw [bind_ok h]
    rfl

/-- An operation that begins by looking at the state. -/
theorem get_bind (f : σ → Op σ β) (s : σ) : ((get : Op σ σ) >>= f) s = f s s := rfl

/-- An operation that begins by replacing the state. -/
theorem set_bind (t : σ) (f : PUnit → Op σ β) (s : σ) :
    ((set t : Op σ PUnit) >>= f) s = f ⟨⟩ t := rfl

/-- An operation that begins by changing the state. -/
theorem modify_bind (g : σ → σ) (f : PUnit → Op σ β) (s : σ) :
    ((modify g : Op σ PUnit) >>= f) s = f ⟨⟩ (g s) := rfl

end

/-! ## Parts of the state -/

section
variable {get : σ → τ} {set : τ → σ → σ} {s : σ}

/-- An operation on a part changes the part as it does by itself. -/
theorem zoom_apply {act : Op τ α} {outcome : Except Failure α} {part : τ}
    (h : act (get s) = (outcome, part)) : Op.zoom get set act s = (outcome, set part s) := by
  unfold Op.zoom
  rw [h]

end

/-! ## Answers to failures -/

section
variable {act : Op σ α} {answer : Failure → Option (Op σ α)} {s s' : σ} {f : Failure}

/-- Where an operation returns, there is nothing to answer. -/
theorem answering_ok {a : α} (h : act s = (.ok a, s')) :
    Op.answering act answer s = (.ok a, s') := by
  unfold Op.answering
  rw [h]

/-- The answer to a failure begins where the failure has left the state. -/
theorem answering_some {other : Op σ α} (h : act s = (.error f, s'))
    (hother : answer f = some other) : Op.answering act answer s = other s' := by
  unfold Op.answering
  simp only [h, hother]

/-- A failure without an answer stays. -/
theorem answering_none (h : act s = (.error f, s')) (hnone : answer f = none) :
    Op.answering act answer s = (.error f, s') := by
  unfold Op.answering
  simp only [h, hnone]

/-- What is answered depends on what the operation does in the state. -/
theorem answering_congr {act' : Op σ α} (h : act s = act' s)
    (answer : Failure → Option (Op σ α)) :
    Op.answering act answer s = Op.answering act' answer s := by
  unfold Op.answering
  rw [h]

/-- Answers to an operation whose value is changed. -/
theorem answering_map (g : α → β) (act : Op σ α) (answer : Failure → Option (Op σ β)) (s : σ) :
    Op.answering (g <$> act) answer s = match act s with
      | (.ok a, s') => (.ok (g a), s')
      | (.error f, s') => match answer f with
        | some other => other s'
        | none => (.error f, s') := by
  unfold Op.answering
  rw [map_apply]
  rcases act s with ⟨f | a, s'⟩ <;> rfl

/-- Either nothing is answered, or a failure is. -/
theorem answering_cases (act : Op σ α) (answer : Failure → Option (Op σ α)) (s : σ) :
    Op.answering act answer s = act s ∨
      ∃ f other s', act s = (.error f, s') ∧ answer f = some other ∧
        Op.answering act answer s = other s' := by
  rcases hact : act s with ⟨f | a, s'⟩
  · rcases hother : answer f with _ | other
    · exact .inl (answering_none hact hother)
    · exact .inr ⟨f, other, s', rfl, hother, answering_some hact hother⟩
  · exact .inl (answering_ok hact)

end

/-! ## Records -/

/-- A relation between states, labelled by what has happened from one to the other. -/
structure Recording (R : σ → List ε → σ → Prop) : Prop where
  nil : ∀ s, R s [] s
  append : ∀ {s s' s'' es es'}, R s es s' → R s' es' s'' → R s (es ++ es') s''

/-- What happens during an operation is recorded, and where the operation returns, its value, the
record and the state it leaves are as expected. -/
def Traced (R : σ → List ε → σ → Prop) (s : σ) (act : Op σ α) (expected : α → List ε → σ → Prop) :
    Prop :=
  ∃ es, R s es (act s).2 ∧ ∀ a, (act s).1 = .ok a → expected a es (act s).2

section
variable {R : σ → List ε → σ → Prop} {s : σ} {act : Op σ α} {k : α → Op σ β}
  {expected expected' : α → List ε → σ → Prop} {wanted : β → List ε → σ → Prop}

theorem Traced.mono (h : Traced R s act expected)
    (himp : ∀ a es s', expected a es s' → expected' a es s') : Traced R s act expected' := by
  obtain ⟨es, hes, hreturned⟩ := h
  exact ⟨es, hes, fun a ha => himp a es _ (hreturned a ha)⟩

theorem Traced.of_ok {a : α} {es : List ε} {s' : σ} (h : act s = (.ok a, s')) (hes : R s es s')
    (ha : expected a es s') : Traced R s act expected := by
  refine ⟨es, by rw [h]; exact hes, fun b hb => ?_⟩
  rw [h] at hb ⊢
  cases hb
  exact ha

theorem Traced.of_error {f : Failure} {es : List ε} {s' : σ} (h : act s = (.error f, s'))
    (hes : R s es s') : Traced R s act expected := by
  refine ⟨es, by rw [h]; exact hes, fun b hb => ?_⟩
  rw [h] at hb
  cases hb

/-- An operation that returns and leaves the state alone. -/
theorem Traced.returns (hR : Recording R) {a : α} (h : act s = (.ok a, s))
    (ha : expected a [] s) : Traced R s act expected := .of_ok h (hR.nil s) ha

/-- An operation that fails and leaves the state alone. -/
theorem Traced.fails (hR : Recording R) {f : Failure} (h : act s = (.error f, s)) :
    Traced R s act expected := .of_error h (hR.nil s)

/-- An operation that only looks at an outcome. -/
theorem Traced.ofExcept (hR : Recording R) {outcome : Except Failure α}
    (h : ∀ a, outcome = .ok a → expected a [] s) : Traced R s (Op.ofExcept outcome) expected :=
  ⟨[], hR.nil s, fun a ha => h a ha⟩

/-- An operation that begins by looking at the state. -/
theorem Traced.look {k : σ → Op σ β} (h : Traced R s (k s) wanted) :
    Traced R s ((get : Op σ σ) >>= k) wanted := h

/-- The parts of a sequence are recorded one after the other. -/
theorem Traced.bind (hR : Recording R) (h : Traced R s act expected)
    (hk : ∀ a es s', R s es s' → expected a es s' →
      Traced R s' (k a) fun b more s'' => wanted b (es ++ more) s'') :
    Traced R s (act >>= k) wanted := by
  obtain ⟨es, hes, hreturned⟩ := h
  rcases hact : act s with ⟨f | a, s'⟩
  · rw [hact] at hes
    exact .of_error (bind_error hact) hes
  · rw [hact] at hes hreturned
    obtain ⟨more, hmore, hlast⟩ := hk a es s' hes (hreturned a rfl)
    refine ⟨es ++ more, by rw [bind_ok hact]; exact hR.append hes hmore, fun b hb => ?_⟩
    rw [bind_ok hact] at hb ⊢
    exact hlast b hb

/-- The value of an operation may be changed. -/
theorem Traced.map (g : α → β) (h : Traced R s act fun a es s' => wanted (g a) es s') :
    Traced R s (g <$> act) wanted := by
  obtain ⟨es, hes, hreturned⟩ := h
  refine ⟨es, by rw [map_apply]; exact hes, fun b hb => ?_⟩
  rw [map_apply] at hb ⊢
  rcases hact : (act s).1 with f | a
  · rw [hact] at hb
    cases hb
  · rw [hact] at hb
    cases hb
    exact hreturned a hact

end

/-! ## Ways to end -/

/-- If an outcome is a failure, then an expected one. -/
def FailsAs (fails : Failure → Prop) (outcome : Except Failure α) : Prop :=
  ∀ f, outcome = .error f → fails f

section
variable {fails fails' : Failure → Prop} {outcome : Except Failure α}

theorem FailsAs.ok (a : α) : FailsAs fails (.ok a) := fun _ => nofun

theorem FailsAs.error {f : Failure} (h : fails f) : FailsAs fails (.error f : Except Failure α) :=
  fun _ hf => by cases hf; exact h

theorem FailsAs.mono (h : FailsAs fails outcome) (himp : ∀ f, fails f → fails' f) :
    FailsAs fails' outcome := fun f hf => himp f (h f hf)

/-- A sequence fails as its parts do. -/
theorem FailsAs.bind {k : α → Except Failure β} (h : FailsAs fails outcome)
    (hk : ∀ a, outcome = .ok a → FailsAs fails (k a)) : FailsAs fails (outcome >>= k) := by
  cases outcome with
  | ok a => exact hk a rfl
  | error f => exact .error (h f rfl)

end

/-- An operation has ended in a state as it should be: it has returned what is expected, or failed
in an expected way. -/
inductive Ends (I : σ → Prop) (fails : Failure → Prop) (returns : α → Prop) :
    Except Failure α × σ → Prop
  | ok {a : α} {s : σ} (hI : I s) (h : returns a) : Ends I fails returns (.ok a, s)
  | error {f : Failure} {s : σ} (hI : I s) (h : fails f) : Ends I fails returns (.error f, s)

/-- From every state as it should be, an operation ends as expected. -/
structure Meets (I : σ → Prop) (fails : Failure → Prop) (returns : α → Prop) (act : Op σ α) :
    Prop where
  ends : ∀ {s}, I s → Ends I fails returns (act s)

section
variable {I : σ → Prop} {fails fails' : Failure → Prop} {returns returns' : α → Prop}
  {act : Op σ α}

theorem Ends.mono {r : Except Failure α × σ} (h : Ends I fails returns r)
    (hfails : ∀ f, fails f → fails' f) (hreturns : ∀ a, returns a → returns' a) :
    Ends I fails' returns' r := by
  cases h with
  | ok hI ha => exact .ok hI (hreturns _ ha)
  | error hI hf => exact .error hI (hfails _ hf)

theorem Ends.weaken {J : σ → Prop} {r : Except Failure α × σ} (h : Ends I fails returns r)
    (hJ : ∀ s, I s → J s) : Ends J fails returns r := by
  cases h with
  | ok hI ha => exact .ok (hJ _ hI) ha
  | error hI hf => exact .error (hJ _ hI) hf

/-- A sequence ends as its last part does, or as its first part fails. -/
theorem Ends.bind {J : σ → Prop} {s : σ} {k : α → Op σ β} {wanted : β → Prop}
    (h : Ends I fails returns (act s)) (hJ : ∀ s', I s' → J s')
    (hk : ∀ a s', I s' → returns a → Ends J fails wanted (k a s')) :
    Ends J fails wanted ((act >>= k) s) := by
  rcases heq : act s with ⟨outcome, s'⟩
  rw [heq] at h
  cases h with
  | ok hI ha =>
    rw [bind_ok heq]
    exact hk _ _ hI ha
  | error hI hf =>
    rw [bind_error heq]
    exact .error (hJ _ hI) hf

/-- Failures that are answered do not count. -/
theorem Ends.answering {s : σ} {answer : Failure → Option (Op σ α)}
    (h : Ends I fails' returns (act s))
    (hanswer : ∀ f other s', fails' f → answer f = some other → I s' →
      Ends I fails returns (other s'))
    (hrest : ∀ f, fails' f → answer f = none → fails f) :
    Ends I fails returns (Op.answering act answer s) := by
  rcases heq : act s with ⟨outcome, s'⟩
  rw [heq] at h
  cases h with
  | ok hI ha =>
    rw [answering_ok heq]
    exact .ok hI ha
  | @error f _ hI hf =>
    rcases hother : answer f with _ | other
    · rw [answering_none heq hother]
      exact .error hI (hrest f hf hother)
    · rw [answering_some heq hother]
      exact hanswer f other s' hf hother hI

theorem Meets.mono (h : Meets I fails returns act) (hfails : ∀ f, fails f → fails' f)
    (hreturns : ∀ a, returns a → returns' a) : Meets I fails' returns' act :=
  ⟨fun hs => (h.ends hs).mono hfails hreturns⟩

theorem Meets.pure {a : α} (h : returns a) : Meets I fails returns (Pure.pure a : Op σ α) :=
  ⟨fun hs => .ok hs h⟩

theorem Meets.throw {f : Failure} (h : fails f) :
    Meets I fails returns (throw f : Op σ α) :=
  ⟨fun hs => .error hs h⟩

theorem Meets.ofExcept {outcome : Except Failure α} (hfails : FailsAs fails outcome)
    (hreturns : ∀ a, outcome = .ok a → returns a) :
    Meets I fails returns (Op.ofExcept outcome : Op σ α) := by
  cases outcome with
  | ok a => exact .pure (hreturns a rfl)
  | error f => exact .throw (hfails f rfl)

/-- A sequence ends as expected if its parts do. -/
theorem Meets.bind {k : α → Op σ β} {wanted : β → Prop} (h : Meets I fails returns act)
    (hk : ∀ a, returns a → Meets I fails wanted (k a)) : Meets I fails wanted (act >>= k) where
  ends hs := (h.ends hs).bind (fun _ => id) fun a _ hI ha => (hk a ha).ends hI

theorem Meets.map {g : α → β} {wanted : β → Prop}
    (h : Meets I fails (fun a => wanted (g a)) act) : Meets I fails wanted (g <$> act) := by
  have hmap : g <$> act = act >>= fun a => Pure.pure (g a) := rfl
  rw [hmap]
  exact h.bind fun _ ha => .pure ha

/-- An operation that begins by looking at the state. -/
theorem Meets.look {k : σ → Op σ α} (hk : ∀ s, I s → Meets I fails returns (k s)) :
    Meets I fails returns (get >>= k) :=
  ⟨fun hs => (hk _ hs).ends hs⟩

end

/-! ## Pairs -/

/-- Two operations have ended alike: both have returned or both have failed in one way, and the
states are related. Values that were returned are related as well. -/
inductive Paired {σ τ α β : Type} (R : σ → τ → Prop) (Q : α → β → σ → τ → Prop) :
    Except Failure α × σ → Except Failure β × τ → Prop
  | ok {a : α} {b : β} {s : σ} {t : τ} (hR : R s t) (hQ : Q a b s t) :
      Paired R Q (.ok a, s) (.ok b, t)
  | error {s : σ} {t : τ} (hR : R s t) (f : Failure) : Paired R Q (.error f, s) (.error f, t)

section
variable {α' β' : Type} {R : σ → τ → Prop} {Q : α → β → σ → τ → Prop}
  {Q' : α' → β' → σ → τ → Prop} {act : Op σ α} {act' : Op τ β} {s : σ} {t : τ}

theorem Paired.mono {Q' : α → β → σ → τ → Prop} {r : Except Failure α × σ}
    {r' : Except Failure β × τ} (h : Paired R Q r r')
    (himp : ∀ a b s t, R s t → Q a b s t → Q' a b s t) : Paired R Q' r r' := by
  cases h with
  | ok hR hQ => exact .ok hR (himp _ _ _ _ hR hQ)
  | error hR f => exact .error hR f

/-- Operations that end alike with the same value have the same outcome. -/
theorem Paired.same {α : Type} {r : Except Failure α × σ} {r' : Except Failure α × τ}
    (h : Paired R (fun a b _ _ => a = b) r r') : r'.1 = r.1 ∧ R r.2 r'.2 := by
  cases h with
  | ok hR hab => exact ⟨congrArg Except.ok hab.symm, hR⟩
  | error hR f => exact ⟨rfl, hR⟩

/-- Sequences end alike if their parts do. -/
theorem Paired.bind {k : α → Op σ α'} {k' : β → Op τ β'} (h : Paired R Q (act s) (act' t))
    (hk : ∀ a b s' t', R s' t' → Q a b s' t' → Paired R Q' (k a s') (k' b t')) :
    Paired R Q' ((act >>= k) s) ((act' >>= k') t) := by
  rcases hact : act s with ⟨outcome, s'⟩
  rcases hact' : act' t with ⟨outcome', t'⟩
  rw [hact, hact'] at h
  cases h with
  | ok hR hQ =>
    rw [bind_ok hact, bind_ok hact']
    exact hk _ _ _ _ hR hQ
  | error hR f =>
    rw [bind_error hact, bind_error hact']
    exact .error hR f

/-- Operations on parts end alike if they do by themselves. -/
theorem Paired.zoom {ρ : Type} {R' : ρ → ρ → Prop} {Q : α → β → ρ → ρ → Prop}
    {Q' : α → β → σ → σ → Prop} {R : σ → σ → Prop} {get : σ → ρ} {set : ρ → σ → σ}
    {act : Op ρ α} {act' : Op ρ β} {s t : σ} (h : Paired R' Q (act (get s)) (act' (get t)))
    (hR : ∀ {x y : ρ}, R' x y → R (set x s) (set y t))
    (hQ : ∀ {a : α} {b : β} {x y : ρ}, Q a b x y → Q' a b (set x s) (set y t)) :
    Paired R Q' (Op.zoom get set act s) (Op.zoom get set act' t) := by
  rcases hs : act (get s) with ⟨outcome, x⟩
  rcases ht : act' (get t) with ⟨outcome', y⟩
  rw [hs, ht] at h
  rw [zoom_apply hs, zoom_apply ht]
  cases h with
  | ok hxy hab => exact .ok (hR hxy) (hQ hab)
  | error hxy f => exact .error (hR hxy) f

/-- Operations that end alike do so too when their failures are answered alike. -/
theorem Paired.answering {R : σ → σ → Prop} {Q : α → α → σ → σ → Prop} {act act' : Op σ α}
    {answer : Failure → Option (Op σ α)} {s t : σ} (h : Paired R Q (act s) (act' t))
    (hanswer : ∀ f other s' t', answer f = some other → R s' t' →
      Paired R Q (other s') (other t')) :
    Paired R Q (Op.answering act answer s) (Op.answering act' answer t) := by
  rcases hact : act s with ⟨outcome, s'⟩
  rcases hact' : act' t with ⟨outcome', t'⟩
  rw [hact, hact'] at h
  cases h with
  | ok hR hQ =>
    rw [answering_ok hact, answering_ok hact']
    exact .ok hR hQ
  | error hR f =>
    rcases hother : answer f with _ | other
    · rw [answering_none hact hother, answering_none hact' hother]
      exact .error hR f
    · rw [answering_some hact hother, answering_some hact' hother]
      exact hanswer f other s' t' hother hR

end

end ReplDriver.Op
