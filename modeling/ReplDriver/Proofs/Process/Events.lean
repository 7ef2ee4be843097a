import ReplDriver.Proofs.Process.Life

/-!
# The events of a process

Whatever happens at the terminal of a process was to come when the process was started, or comes of
what is written to it, or of an interrupt. If all of that is of one kind, then so is whatever is
still to come at any time of its life. A process works if no read, no write and no interrupt at it
fails.

* `Process.Only.life`: what is still to come stays of one kind.
* `Process.Works.read_error`: reading from a process that works fails only for want of events.
-/

namespace ReplDriver

/-- Whatever the process does, its events are of one kind. -/
structure Behaviour.Only (E : Event → Prop) (b : Behaviour) : Prop where
  banner : ∀ e ∈ b.banner, E e
  respond : ∀ before written events, b.respond before written = .ok events → ∀ e ∈ events, E e
  onInterrupt : ∀ events, b.onInterrupt = .ok events → ∀ e ∈ events, E e

namespace Process

/-- Whatever still happens at the process is of one kind. -/
structure Only (E : Event → Prop) (p : Process) : Prop where
  queue : ∀ e ∈ p.queue, E e
  behaviour : p.behaviour.Only E

variable {E : Event → Prop} {p q : Process}

theorem only_start (launched : Launched) {b : Behaviour} (h : b.Only E) :
    (start launched b).Only E := ⟨h.banner, h⟩

theorem Only.enqueue {events : List Event} (h : p.Only E) (hevents : ∀ e ∈ events, E e) :
    (p.enqueue events).Only E where
  queue e he := by
    rcases List.mem_append.mp he with hold | hnew
    · exact h.queue e hold
    · exact hevents e hnew
  behaviour := h.behaviour

/-- An answer with events of the kind leaves it at that. -/
theorem Only.answered {answer : Except Failure (List Event)} (h : p.Only E)
    (hanswer : ∀ events, answer = .ok events → ∀ e ∈ events, E e) :
    (p.answered answer).2.Only E := by
  cases answer with
  | ok events => exact h.enqueue (hanswer events rfl)
  | error f => exact h

theorem Only.write (h : p.Only E) (s : Text) : (p.write s).2.Only E := by
  have hnoting : (p.noting s).Only E := ⟨h.queue, h.behaviour⟩
  rw [write_eq]
  exact hnoting.answered (h.behaviour.respond _ _)

theorem Only.interrupt (h : p.Only E) : p.interrupt.2.Only E := by
  have hroused : p.roused.Only E := ⟨h.queue, h.behaviour⟩
  rw [interrupt_eq]
  exact hroused.answered h.behaviour.onInterrupt

/-- The next event is of the kind, and so is what is left when it has been taken away. -/
theorem Only.taken {e : Event} {rest : List Event} (h : p.Only E) (hqueue : p.queue = e :: rest) :
    E e ∧ (p.taken rest).Only E := by
  have hqueued := h.queue
  rw [hqueue] at hqueued
  obtain ⟨hnext, hrest⟩ := List.forall_mem_cons.mp hqueued
  exact ⟨hnext, hrest, h.behaviour⟩

/-- A read leaves the events that were behind the next one, and perhaps what is left of a delay. -/
theorem Only.read (h : p.Only E) (hdelays : ∀ t left s, E (.delayed t s) → E (.delayed left s))
    (clock : Clock) (timeout : Double) : (p.read clock timeout).2.1.Only E := by
  obtain ⟨outcome, p', clock', hread, hreads⟩ := read_cases p clock timeout
  rw [hread]
  cases hreads with
  | gone hqueue hdead => exact h
  | blocked hqueue halive hpatience => exact ⟨h.queue, h.behaviour⟩
  | silent hqueue halive hpatience => exact ⟨h.queue, h.behaviour⟩
  | later hqueue hlt =>
    obtain ⟨hnext, htaken⟩ := h.taken hqueue
    exact ⟨List.forall_mem_cons.mpr ⟨hdelays _ _ _ hnext, htaken.queue⟩, h.behaviour⟩
  | exit hqueue => exact ⟨(h.taken hqueue).2.queue, h.behaviour⟩
  | output hqueue | pause hqueue | delayed hqueue hlt | failing hqueue =>
    exact (h.taken hqueue).2

/-- What is still to come stays of one kind all through the life of a process. -/
theorem Only.life {chunks : List Text} (h : p.Only E)
    (hdelays : ∀ t left s, E (.delayed t s) → E (.delayed left s)) (hlife : Life p chunks q) :
    q.Only E := by
  induction hlife with
  | nil => exact h
  | write s _ ih => exact ih.write s
  | read clock timeout _ ih => exact ih.read hdelays clock timeout
  | interrupt _ ih => exact ih.interrupt
  | settle _ ih => exact ⟨ih.queue, ih.behaviour⟩
  | kill _ ih => exact ⟨ih.queue, ih.behaviour⟩
  | close _ ih => exact ⟨ih.queue, ih.behaviour⟩

end Process

/-! ## Processes that work -/

/-- The event is no read that fails. -/
def Event.Works : Event → Prop
  | .failing _ => False
  | _ => True

/-- Nothing that the process does makes a read, a write or an interrupt fail. -/
structure Behaviour.Works (b : Behaviour) : Prop where
  reads : b.Only Event.Works
  writes : ∀ before written f, b.respond before written ≠ .error f
  interrupts : ∀ f, b.onInterrupt ≠ .error f

namespace Process

/-- Reading from the process, writing to it and interrupting it do not fail. -/
structure Works (p : Process) : Prop where
  reads : p.Only Event.Works
  writes : ∀ before written f, p.behaviour.respond before written ≠ .error f
  interrupts : ∀ f, p.behaviour.onInterrupt ≠ .error f

variable {p q : Process}

theorem works_start (launched : Launched) {b : Behaviour} (h : b.Works) :
    (start launched b).Works := ⟨only_start launched h.reads, h.writes, h.interrupts⟩

/-- A process that works goes on working. -/
theorem Works.life {chunks : List Text} (h : p.Works) (hlife : Life p chunks q) : q.Works where
  reads := h.reads.life (fun _ _ _ _ => trivial) hlife
  writes := by
    rw [hlife.sameStart.behaviour]
    exact h.writes
  interrupts := by
    rw [hlife.sameStart.behaviour]
    exact h.interrupts

theorem Works.write_error (h : p.Works) {s : Text} {f : Failure} : p.write s ≠ (.error f, q) := by
  intro hwrite
  rw [write_eq] at hwrite
  exact h.writes _ _ _ (answered_error hwrite)

/-- A read from a process that works fails only if the wait for events would never end. -/
theorem Works.read_error (h : p.Works) {clock clock' : Clock} {timeout : Double} {f : Failure}
    (hread : p.read clock timeout = (.error f, q, clock')) : f = .blocked := by
  cases reads_of_eq hread with
  | blocked hqueue halive hpatience => rfl
  | failing hqueue => exact (h.reads.taken hqueue).1.elim

end Process

end ReplDriver
