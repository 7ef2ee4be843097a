import ReplDriver.Proofs.Process.Steps

/-!
# The life of a process

A process is written to, read from, interrupted, waited for anew, and ended, and nothing else ever
happens to it. Its life so far is told together with the chunks that its reads have handed out, in
reading order.

* `Process.Life.trans`: what is handed out in two stretches of a life is handed out in both
  together.
* `Process.Life.alive`: a process that has ended does not come back.
* `Process.Life.sameStart`: how a process was launched, and what it does, is laid down for its life.
-/

namespace ReplDriver

/-- The chunks that a read hands out: one or none. -/
def Reading.chunks : Except Failure Reading → List Text
  | .ok (.chunk s) => [s]
  | _ => []

namespace Process

variable {p q : Process}

/-- A stretch of the life of a process, and what its reads have handed out. -/
inductive Life (p : Process) : List Text → Process → Prop
  | nil : Life p [] p
  | write {q : Process} {chunks : List Text} (s : Text) (h : Life p chunks q) :
      Life p chunks (q.write s).2
  | read {q : Process} {chunks : List Text} (clock : Clock) (timeout : Double)
      (h : Life p chunks q) :
      Life p (chunks ++ Reading.chunks (q.read clock timeout).1) (q.read clock timeout).2.1
  | interrupt {q : Process} {chunks : List Text} (h : Life p chunks q) :
      Life p chunks q.interrupt.2
  | settle {q : Process} {chunks : List Text} (h : Life p chunks q) : Life p chunks q.settle
  | kill {q : Process} {chunks : List Text} (h : Life p chunks q) : Life p chunks q.kill
  | close {q : Process} {chunks : List Text} (h : Life p chunks q) : Life p chunks q.close

/-- The process after a write that is reported as it went. -/
theorem Life.wrote {s : Text} {outcome : Except Failure Unit} (h : p.write s = (outcome, q)) :
    Life p [] q := by
  have hlife : Life p [] (p.write s).2 := .write s .nil
  rwa [h] at hlife

/-- One stretch after another. -/
theorem Life.trans {r : Process} {chunks more : List Text} (h : Life p chunks q)
    (h' : Life q more r) : Life p (chunks ++ more) r := by
  induction h' with
  | nil => rwa [List.append_nil]
  | write s _ ih => exact .write s ih
  | read clock timeout _ ih =>
    rw [← List.append_assoc]
    exact .read clock timeout ih
  | interrupt _ ih => exact .interrupt ih
  | settle _ ih => exact .settle ih
  | kill _ ih => exact .kill ih
  | close _ ih => exact .close ih

/-- Writing tells nothing about whether the process is there. -/
theorem alive_write (p : Process) (s : Text) : (p.write s).2.alive = p.alive := by
  obtain ⟨queue, h⟩ := answered_frame (p.noting s) (p.behaviour.respond p.written s)
  rw [write_eq, h]
  rfl

/-- Nor does interrupting. -/
theorem alive_interrupt (p : Process) : p.interrupt.2.alive = p.alive := by
  obtain ⟨queue, h⟩ := answered_frame p.roused p.behaviour.onInterrupt
  rw [interrupt_eq, h]
  rfl

/-- A read does not bring a process back. -/
theorem alive_read (clock : Clock) (timeout : Double) (h : p.alive = false) :
    (p.read clock timeout).2.1.alive = false := by
  obtain ⟨outcome, p', clock', hread, hreads⟩ := read_cases p clock timeout
  rw [hread]
  cases hreads with
  | exit hqueue => rfl
  | _ => exact h

/-- A process that has ended does not come back. -/
theorem Life.alive {chunks : List Text} (h : Life p chunks q)
    (hdead : p.alive = false) : q.alive = false := by
  induction h with
  | nil => exact hdead
  | write s _ ih => rw [alive_write]; exact ih
  | read clock timeout _ ih => exact alive_read clock timeout ih
  | interrupt _ ih => rw [alive_interrupt]; exact ih
  | settle _ ih => exact ih
  | kill _ ih => rfl
  | close _ ih => rfl

/-- What is laid down when a process is started: how it was launched, and what it does. -/
structure SameStart (p q : Process) : Prop where
  launched : q.launched = p.launched
  behaviour : q.behaviour = p.behaviour

theorem sameStart_write (p : Process) (s : Text) : SameStart p (p.write s).2 := by
  obtain ⟨queue, h⟩ := answered_frame (p.noting s) (p.behaviour.respond p.written s)
  rw [write_eq, h]
  exact ⟨rfl, rfl⟩

theorem sameStart_interrupt (p : Process) : SameStart p p.interrupt.2 := by
  obtain ⟨queue, h⟩ := answered_frame p.roused p.behaviour.onInterrupt
  rw [interrupt_eq, h]
  exact ⟨rfl, rfl⟩

theorem sameStart_read (p : Process) (clock : Clock) (timeout : Double) :
    SameStart p (p.read clock timeout).2.1 := by
  obtain ⟨queue, silences, alive, h⟩ := read_frame p clock timeout
  rw [h]
  exact ⟨rfl, rfl⟩

theorem SameStart.trans {r : Process} (h : SameStart p q) (h' : SameStart q r) : SameStart p r :=
  ⟨h'.launched.trans h.launched, h'.behaviour.trans h.behaviour⟩

/-- How a process was launched, and what it does, is laid down for its life. -/
theorem Life.sameStart {chunks : List Text} (h : Life p chunks q) : SameStart p q := by
  induction h with
  | nil => exact ⟨rfl, rfl⟩
  | write s _ ih => exact ih.trans (sameStart_write _ s)
  | read clock timeout _ ih => exact ih.trans (sameStart_read _ clock timeout)
  | interrupt _ ih => exact ih.trans (sameStart_interrupt _)
  | settle _ ih => exact ⟨ih.launched, ih.behaviour⟩
  | kill _ ih => exact ⟨ih.launched, ih.behaviour⟩
  | close _ ih => exact ⟨ih.launched, ih.behaviour⟩

end Process

end ReplDriver
