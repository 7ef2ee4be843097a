import Mathlib.Data.List.Forall2
import ReplDriver.Proofs.Process.Steps
import ReplDriver.Terminal.Channel

/-!
# Processes at a channel

A channel is what the driver has of a process at its terminal. What the process prints arrives at
the channel, a long text in pieces, and what is written at the channel is written to the process, an
interrupt as a key. So the channel and the process are two accounts of one conversation: however
writes, interrupts and reads follow each other, a read of the channel gives what the same read of
the process finds, until the end is met.

* `Channel.flatten_pieces`: the pieces of a text make up the text.
* `Channel.Carries.read`: one read of a channel, and of the process that it carries.
* `Channel.conversation_agrees`: so it is with all reads of a conversation, and the channel has sent
  what was written to the process, with the interrupts in between.
-/

namespace ReplDriver

/-! ## What arrives, as events -/

/-- The pieces in which a text is read. -/
def Channel.pieces (s : Text) : List Text :=
  if readLimit < s.length then s.take readLimit :: pieces (s.drop readLimit) else [s]
termination_by s.length
decreasing_by
  simp only [List.length_drop, readLimit] at *
  omega

/-- The pieces of a text make up the text. -/
theorem Channel.flatten_pieces (s : Text) : (pieces s).flatten = s := by
  fun_induction pieces s with
  | case1 s hlong ih => rw [List.flatten_cons, ih, List.take_append_drop]
  | case2 s hshort => exact List.append_nil s

theorem Channel.pieces_long {s : Text} (h : readLimit < s.length) :
    pieces s = s.take readLimit :: pieces (s.drop readLimit) := by
  rw [pieces, if_pos h]

theorem Channel.pieces_short {s : Text} (h : ¬readLimit < s.length) : pieces s = [s] := by
  rw [pieces, if_neg h]

/-- What happens at the process when something arrives. -/
def Arrival.events : Arrival → List Event
  | .text s => (Channel.pieces s).map .output
  | .nothing => [.pause]
  | .ended => [.exit]

/-! ## Conversations -/

/-- A program as its terminal knows it: what arrives when it starts, in answer to what is written
given all that was written before, and in answer to an interrupt. -/
structure Channel.Program where
  banner : List Arrival
  respond : (before : List Text) → (written : Text) → List Arrival
  onInterrupt : List Arrival

/-- What a process does that runs the program. -/
def Channel.Program.behaviour (g : Program) : Behaviour where
  banner := g.banner.flatMap Arrival.events
  respond before written := .ok ((g.respond before written).flatMap Arrival.events)
  onInterrupt := .ok (g.onInterrupt.flatMap Arrival.events)

/-- What the driver does in a conversation. -/
inductive Channel.Use where
  | write (s : Text)
  | interrupt
  | read (timeout : Double)

namespace Process

/-- The process and the clock after a use. -/
def after (p : Process × Clock) : Channel.Use → Process × Clock
  | .write s => (if s.isEmpty then p.1 else (p.1.write s).2, p.2)
  | .interrupt => (p.1.interrupt.2, p.2)
  | .read timeout => (p.1.read p.2 timeout).2

/-- What the reads of a conversation find, up to the end of the process. -/
def readings (p : Process × Clock) : List Channel.Use → List (Except Failure Reading)
  | [] => []
  | .read timeout :: uses =>
    match (p.1.read p.2 timeout).1 with
    | .ok .ended => [.ok .ended]
    | found => found :: readings (after p (.read timeout)) uses
  | use :: uses => readings (after p use) uses

end Process

namespace Channel

/-- More is to arrive. -/
def receive (c : Channel) (arrivals : List Arrival) : Channel :=
  { c with arrivals := c.arrivals ++ arrivals }

/-- A channel, and the texts that were written at it. -/
structure Line where
  channel : Channel
  written : List Text

/-- The line to a program after a use. Writing no text has no answer. -/
def Line.after (g : Program) (l : Line) : Use → Line
  | .write s =>
    let c := l.channel.write s
    if s.isEmpty then ⟨c, l.written⟩
    else ⟨c.receive (g.respond l.written s), l.written ++ [s]⟩
  | .interrupt => ⟨l.channel.interrupt.receive g.onInterrupt, l.written⟩
  | .read _ => ⟨l.channel.read.2, l.written⟩

@[simp] theorem Line.ended_write (g : Program) (l : Line) (s : Text) :
    (l.after g (.write s)).channel.ended = l.channel.ended := by
  cases s <;> rfl

/-- What the reads of a conversation give, up to the end of the process. -/
def Line.reads (g : Program) (l : Line) : List Use → List (Option Text)
  | [] => []
  | .read timeout :: uses =>
    match l.channel.read.1 with
    | none => [none]
    | some s => some s :: reads g (l.after g (.read timeout)) uses
  | use :: uses => reads g (l.after g use) uses

/-! ## One read -/

section
variable {c : Channel} {more : List Arrival} {s : Text}

theorem read_nil (hopen : c.ended = false) (h : c.arrivals = []) : c.read = (some [], c) := by
  simp [Channel.read, hopen, h]

theorem read_nothing (hopen : c.ended = false) (h : c.arrivals = .nothing :: more) :
    c.read = (some [], { c with arrivals := more }) := by
  simp [Channel.read, hopen, h]

theorem read_end (hopen : c.ended = false) (h : c.arrivals = .ended :: more) :
    c.read = (none, { c with arrivals := more, ended := true }) := by
  simp [Channel.read, hopen, h]

theorem read_long (hopen : c.ended = false) (h : c.arrivals = .text s :: more)
    (hlong : readLimit < s.length) :
    c.read =
      (some (s.take readLimit), { c with arrivals := .text (s.drop readLimit) :: more }) := by
  simp [Channel.read, hopen, h, hlong]

theorem read_short (hopen : c.ended = false) (h : c.arrivals = .text s :: more)
    (hshort : ¬readLimit < s.length) : c.read = (some s, { c with arrivals := more }) := by
  simp [Channel.read, hopen, h, hshort]

/-- A read that gives a text has not met the end. -/
theorem ended_of_read (hopen : c.ended = false) (h : c.read.1 = some s) :
    c.read.2.ended = false := by
  rcases harrivals : c.arrivals with _ | ⟨t | _ | _, more⟩
  · rwa [read_nil hopen harrivals]
  · by_cases hlong : readLimit < t.length
    · rwa [read_long hopen harrivals hlong]
    · rwa [read_short hopen harrivals hlong]
  · rwa [read_nothing hopen harrivals]
  · rw [read_end hopen harrivals] at h
    cases h

end

/-! ## One conversation in two accounts -/

/-- A read of the channel gives what a read of the process finds. The channel does not tell a
silence that will never end from any other. -/
inductive Agrees : Option Text → Except Failure Reading → Prop
  | text (s : Text) : Agrees (some s) (.ok (.chunk s))
  | nothing : Agrees (some []) (.ok .idle)
  | silent : Agrees (some []) (.error .blocked)
  | ended : Agrees none (.ok .ended)

/-- The deeds are the texts that were written, with some interrupts in between. -/
inductive Sent : List Deed → List Text → Nat → Prop
  | nothing : Sent [] [] 0
  | text {deeds : List Deed} {written : List Text} {n : Nat} (h : Sent deeds written n) (s : Text) :
      Sent (deeds ++ [.wrote s]) (written ++ [s]) n
  | interrupt {deeds : List Deed} {written : List Text} {n : Nat} (h : Sent deeds written n) :
      Sent (deeds ++ [.wrote [Terminal.interruptKey]]) written (n + 1)

/-- The line carries the process to the driver: what is to come of the process is what is to arrive,
and what was sent is what was written to it. -/
structure Carries (g : Program) (l : Line) (p : Process) : Prop where
  behaviour : p.behaviour = g.behaviour
  queue : p.queue = l.channel.arrivals.flatMap Arrival.events
  alive : p.alive = l.channel.isAlive
  running : l.channel.running = true
  written : p.written = l.written
  sent : Sent l.channel.deeds p.written p.interrupts

variable {g : Program} {l : Line} {p : Process} {rest : List Event} {arrivals : List Arrival}

/-- A channel that is started carries the process that is started. -/
theorem carries_start {arguments : List Text} {refusal : Option Text} {c : Channel}
    (h : start arguments refusal g.banner = .ok c) (launched : Launched) :
    Carries g ⟨c, []⟩ (.start launched g.behaviour) ∧ c.ended = false := by
  unfold start at h
  split at h
  · cases h
  · cases h
  · cases h
    exact ⟨⟨rfl, rfl, rfl, rfl, rfl, .nothing⟩, rfl⟩

/-- What arrives as an answer is what comes of the answer of the process. -/
theorem Carries.receive (h : Carries g l p) (arrivals : List Arrival) :
    Carries g ⟨l.channel.receive arrivals, l.written⟩
      (p.answered (.ok (arrivals.flatMap Arrival.events))).2 := by
  refine ⟨h.behaviour, ?_, h.alive, h.running, h.written, h.sent⟩
  show p.queue ++ _ = List.flatMap _ (l.channel.arrivals ++ _)
  rw [List.flatMap_append, h.queue]

theorem Carries.write (h : Carries g l p) (s : Text) (clock : Clock) :
    Carries g (l.after g (.write s)) (Process.after (p, clock) (.write s)).1 := by
  rcases s with _ | ⟨a, s⟩
  · exact h
  · have hrespond : p.behaviour.respond p.written (a :: s) =
        .ok ((g.respond l.written (a :: s)).flatMap Arrival.events) := by
      rw [h.behaviour, h.written]
      rfl
    have hwritten : p.written ++ [a :: s] = l.written ++ [a :: s] := by rw [h.written]
    have hnoting : Carries g ⟨l.channel.write (a :: s), l.written ++ [a :: s]⟩
        (p.noting (a :: s)) :=
      ⟨h.behaviour, h.queue, h.alive, h.running, hwritten, h.sent.text (a :: s)⟩
    show Carries g _ (p.write (a :: s)).2
    rw [Process.write_eq, hrespond]
    exact hnoting.receive _

theorem Carries.interrupt (h : Carries g l p) (clock : Clock) :
    Carries g (l.after g .interrupt) (Process.after (p, clock) .interrupt).1 := by
  have hanswer : p.behaviour.onInterrupt = .ok (g.onInterrupt.flatMap Arrival.events) := by
    rw [h.behaviour]
    rfl
  have hroused : Carries g ⟨l.channel.interrupt, l.written⟩ p.roused :=
    ⟨h.behaviour, h.queue, h.alive, h.running, h.written, h.sent.interrupt⟩
  show Carries g _ p.interrupt.2
  rw [Process.interrupt_eq, hanswer]
  exact hroused.receive _

/-- When the next event has been read, the line carries what is left. -/
theorem Carries.taken (h : Carries g l p) (hrest : rest = arrivals.flatMap Arrival.events) :
    Carries g ⟨{ l.channel with arrivals }, l.written⟩ (p.taken rest) :=
  ⟨h.behaviour, hrest, h.alive, h.running, h.written, h.sent⟩

/-- A read of a channel that has not met the end gives what a read of the process finds, and the
channel goes on to carry the process. -/
theorem Carries.read (h : Carries g l p) (hopen : l.channel.ended = false) (clock : Clock)
    (timeout : Double) :
    Agrees l.channel.read.1 (p.read clock timeout).1 ∧
      Carries g (l.after g (.read timeout)) (Process.after (p, clock) (.read timeout)).1 := by
  have hqueue := h.queue
  show _ ∧ Carries g ⟨l.channel.read.2, l.written⟩ (p.read clock timeout).2.1
  rcases harrivals : l.channel.arrivals with _ | ⟨_ | _ | _, more⟩ <;>
    rw [harrivals] at hqueue
  · -- nothing arrives any more: the process is silent, or is given up
    have hsilenced : Carries g l p.silenced :=
      ⟨h.behaviour, h.queue, h.alive, h.running, h.written, h.sent⟩
    have halive : p.alive = true := by
      rw [h.alive, isAlive, hopen, h.running]
      rfl
    rw [read_nil hopen harrivals]
    by_cases hpatience : Process.patience ≤ p.silences + 1
    · rw [(Process.Reads.blocked hqueue halive hpatience).eq]
      exact ⟨.silent, hsilenced⟩
    · rw [(Process.Reads.silent hqueue halive (Nat.lt_of_not_le hpatience)).eq]
      exact ⟨.nothing, hsilenced⟩
  · next s =>
    rw [List.flatMap_cons, Arrival.events] at hqueue
    by_cases hlong : readLimit < s.length
    · -- the rest of a long text is still to arrive
      rw [pieces_long hlong] at hqueue
      rw [read_long hopen harrivals hlong, (Process.Reads.output hqueue).eq]
      exact ⟨.text _, h.taken rfl⟩
    · rw [pieces_short hlong] at hqueue
      rw [read_short hopen harrivals hlong, (Process.Reads.output hqueue).eq]
      exact ⟨.text s, h.taken rfl⟩
  · rw [read_nothing hopen harrivals, (Process.Reads.pause hqueue).eq]
    exact ⟨.nothing, h.taken rfl⟩
  · rw [read_end hopen harrivals, (Process.Reads.exit hqueue).eq]
    exact ⟨.ended, h.behaviour, rfl, rfl, h.running, h.written, h.sent⟩

/-- All reads of a conversation give what is found when the process is read, and as long as the end
is not met, the line goes on to carry the process. -/
theorem Carries.conversation (h : Carries g l p) (hopen : l.channel.ended = false) (clock : Clock)
    (uses : List Use) :
    List.Forall₂ Agrees (l.reads g uses) (Process.readings (p, clock) uses) ∧
      (none ∉ l.reads g uses →
        Carries g (uses.foldl (Line.after g) l) (uses.foldl Process.after (p, clock)).1) := by
  induction uses generalizing l p clock with
  | nil => exact ⟨.nil, fun _ => h⟩
  | cons use uses ih =>
    cases use with
    | write s =>
      exact ih (h.write s clock) ((Line.ended_write g l s).trans hopen) clock
    | interrupt => exact ih (h.interrupt clock) hopen clock
    | read timeout =>
      obtain ⟨hagrees, hcarries⟩ := h.read hopen clock timeout
      have hgoes {s : Text} {found : Except Failure Reading} (hread : l.channel.read.1 = some s)
          (hagrees : Agrees (some s) found) :
          List.Forall₂ Agrees (some s :: (l.after g (.read timeout)).reads g uses)
              (found :: Process.readings (Process.after (p, clock) (.read timeout)) uses) ∧
            (none ∉ some s :: (l.after g (.read timeout)).reads g uses →
              Carries g (uses.foldl (Line.after g) (l.after g (.read timeout)))
                (uses.foldl Process.after (Process.after (p, clock) (.read timeout))).1) := by
        obtain ⟨hrest, hlater⟩ := ih hcarries (ended_of_read hopen hread) _
        exact ⟨.cons hagrees hrest,
          fun hnone => hlater fun hmem => hnone (List.mem_cons_of_mem _ hmem)⟩
      rw [Line.reads, Process.readings]
      generalize hgiven : l.channel.read.1 = given at hagrees ⊢
      generalize (p.read clock timeout).1 = found at hagrees ⊢
      cases hagrees with
      | text s => exact hgoes hgiven (.text s)
      | nothing => exact hgoes hgiven .nothing
      | silent => exact hgoes hgiven .silent
      | ended => exact ⟨.cons .ended .nil, fun hnone => (hnone (List.mem_singleton_self _)).elim⟩

/-- In every conversation with a program that has been started, the reads of the channel give what
the reads of the process find, up to the end. As long as the end is not met, the channel has sent
what was written to the process, with the interrupts in between. -/
theorem conversation_agrees {arguments : List Text} {refusal : Option Text} {c : Channel}
    (hstart : start arguments refusal g.banner = .ok c) (launched : Launched) (clock : Clock)
    (uses : List Use) :
    let l : Line := ⟨c, []⟩
    let p := (Process.start launched g.behaviour, clock)
    List.Forall₂ Agrees (l.reads g uses) (Process.readings p uses) ∧
      (none ∉ l.reads g uses →
        Sent (uses.foldl (Line.after g) l).channel.deeds (uses.foldl Process.after p).1.written
          (uses.foldl Process.after p).1.interrupts) := by
  obtain ⟨hcarries, hopen⟩ := carries_start hstart launched
  obtain ⟨hagrees, hlater⟩ := hcarries.conversation hopen clock uses
  exact ⟨hagrees, fun hnone => (hlater hnone).sent⟩

end Channel

end ReplDriver
