import ReplDriver.Proofs.Process.Work
import ReplDriver.Proofs.Terminal.LastLine
import ReplDriver.Session.Exchange

/-!
# What is read while a reply is awaited

Output is read in rounds. A round is what one pump gives: the text of its chunks, however many
they were and wherever they were cut, and whether the process is still there. A wait is the list
of its rounds, and the first round that ends the wait is the last.

* `Pumps.agree`: from a process and a clock there is only one way on.
* `IsWait.eq_of_begins`: a wait is never the beginning of another wait for the same.
* `Desk.awaitReply_isWait`: waiting for a reply reads the rounds of a wait.
-/

namespace ReplDriver

open Terminal

/-! ## Rounds -/

/-- A process, and the clock by which its reads are timed. -/
abbrev Source := Process × Clock

/-- Waits at most `timeout` seconds for output. -/
def Source.read (c : Source) (timeout : Double) : Except Failure Reading × Source :=
  c.1.read c.2 timeout

/-- What a pump gives: the text of its chunks, and whether the process is still there. -/
structure Round where
  text : Text
  alive : Bool
deriving DecidableEq, Repr

/-- One pump, with `left` seconds to its deadline. It goes on reading until time is up, a read
finds nothing, or the process has ended. -/
inductive Pumped (deadline : Double) : Double → Source → Round → Source → Prop
  | timeUp {left : Double} {c : Source} (hleft : left.isPositive = false) :
      Pumped deadline left c ⟨[], true⟩ c
  | idle {left : Double} {c c' : Source} (hleft : left.isPositive = true)
      (hread : c.read left = (.ok .idle, c')) : Pumped deadline left c ⟨[], true⟩ c'
  | ended {left : Double} {c c' : Source} (hleft : left.isPositive = true)
      (hread : c.read left = (.ok .ended, c')) : Pumped deadline left c ⟨[], false⟩ c'
  | chunk {left : Double} {c c' c'' : Source} {s : Text} {r : Round}
      (hleft : left.isPositive = true) (hread : c.read left = (.ok (.chunk s), c'))
      (hrest : Pumped deadline (c'.2.remaining deadline) c' r c'') :
      Pumped deadline left c ⟨s ++ r.text, r.alive⟩ c''

/-- Pumps one after the other, each of the same length. -/
inductive Pumps (interval : Double) : Source → List Round → Source → Prop
  | nil {c : Source} : Pumps interval c [] c
  | cons {c c' c'' : Source} {r : Round} {rounds : List Round}
      (hfirst : Pumped (c.2.after interval) interval c r c')
      (hrest : Pumps interval c' rounds c'') : Pumps interval c (r :: rounds) c''

/-- A pump can go only one way. -/
theorem Pumped.unique {deadline left : Double} {c c₁ c₂ : Source} {r₁ r₂ : Round}
    (h₁ : Pumped deadline left c r₁ c₁) (h₂ : Pumped deadline left c r₂ c₂) :
    r₁ = r₂ ∧ c₁ = c₂ := by
  induction h₁ generalizing r₂ c₂ with
  | timeUp hleft => cases h₂ <;> simp_all
  | idle hleft hread => cases h₂ <;> simp_all
  | ended hleft hread => cases h₂ <;> simp_all
  | chunk hleft hread hrest ih =>
    cases h₂ with
    | timeUp hleft' => simp_all
    | idle hleft' hread' => simp_all
    | ended hleft' hread' => simp_all
    | chunk hleft' hread' hrest' =>
      rw [hread] at hread'
      cases hread'
      obtain ⟨rfl, rfl⟩ := ih hrest'
      exact ⟨rfl, rfl⟩

/-- Two runs of pumps from the same process and clock agree as far as both go. -/
theorem Pumps.agree {interval : Double} {c c₁ c₂ : Source} {rounds₁ rounds₂ : List Round}
    (h₁ : Pumps interval c rounds₁ c₁) (h₂ : Pumps interval c rounds₂ c₂) :
    rounds₁ <+: rounds₂ ∨ rounds₂ <+: rounds₁ := by
  induction h₁ generalizing rounds₂ with
  | nil => exact .inl List.nil_prefix
  | cons hfirst _ ih =>
    cases h₂ with
    | nil => exact .inr List.nil_prefix
    | cons hfirst' hrest' =>
      obtain ⟨rfl, rfl⟩ := hfirst.unique hfirst'
      rcases ih hrest' with h | h
      · exact .inl (List.cons_prefix_cons.mpr ⟨rfl, h⟩)
      · exact .inr (List.cons_prefix_cons.mpr ⟨rfl, h⟩)

/-- How long the process keeps its reader waiting can be counted. -/
def Source.Counted (c : Source) : Prop := ∀ e ∈ c.1.queue, e.Counted c.2.rounding

/-- Where time is counted, a pump at a process that is still there afterwards takes a text away from
it, and leaves less work if it may last for a unit of time. -/
theorem Pumped.yields {deadline left : Double} {c c' : Source} {r : Round}
    (hpumped : Pumped deadline left c r c') (halive : r.alive = true) (hcounted : c.Counted) :
    c.1.Yields r.text c'.1 ∧ c'.Counted ∧
      (left.isPositive = true → 0 < left.units → c'.1.work < c.1.work) := by
  have hkept {c c' : Source} {timeout : Double} {outcome : Except Failure Reading}
      (hread : c.read timeout = (outcome, c'))
      (hqueue : ∀ e ∈ c'.1.queue, e.Counted c.2.rounding) : c'.Counted := by
    have hrounding := Process.rounding_read c.1 c.2 timeout
    rw [show c.1.read c.2 timeout = (outcome, c') from hread] at hrounding
    intro e he
    rw [show c'.2.rounding = c.2.rounding from hrounding]
    exact hqueue e he
  induction hpumped with
  | timeUp hleft => exact ⟨.refl _, hcounted, fun hpos => absurd hpos (by simp [hleft])⟩
  | idle hleft hread =>
    obtain ⟨hyields, -, hless, hqueue⟩ := Process.read_yields hread nofun hleft hcounted
    exact ⟨hyields, hkept hread hqueue, fun _ => hless⟩
  | ended => cases halive
  | chunk hleft hread hrest ih =>
    obtain ⟨hyields, hsilences, hless, hqueue⟩ := Process.read_yields hread nofun hleft hcounted
    obtain ⟨hyields', hcounted', -⟩ := ih halive (hkept hread hqueue)
    exact ⟨hyields.trans hyields' (hsilences nofun), hcounted',
      fun _ hunits => (hyields'.work (hsilences nofun)).trans_lt (hless hunits)⟩

/-! ## Waits -/

/-- Everything read in some rounds. -/
def captured (rounds : List Round) : Text := rounds.flatMap Round.text

@[simp] theorem captured_append (rounds more : List Round) :
    captured (rounds ++ more) = captured rounds ++ captured more := List.flatMap_append

@[simp] theorem captured_singleton (r : Round) : captured [r] = r.text := by
  simp [captured]

/-- A round ends the wait, given the rounds before it: the process has ended, or nothing was read
and the last line of all that has been read is of the kind that ends it. -/
def EndsWait (ends : Text → Prop) (before : List Round) (r : Round) : Prop :=
  r.alive = false ∨ (r.text = [] ∧ ends (lastLineOf (captured (before ++ [r]))))

/-- A wait that goes on from the rounds `pre`: its last round ends it, and none before does. -/
def IsWait (ends : Text → Prop) (pre rounds : List Round) : Prop :=
  ∃ before last, rounds = before ++ [last] ∧ EndsWait ends (pre ++ before) last ∧
    ∀ earlier r later, before = earlier ++ r :: later → ¬ EndsWait ends (pre ++ earlier) r

section
variable {ends : Text → Prop} {pre rounds : List Round} {r : Round}

/-- Only silence can end the wait for a process that is still there. -/
theorem endsWait_alive {text : Text} :
    EndsWait ends pre ⟨text, true⟩ ↔
      text = [] ∧ ends (lastLineOf (captured (pre ++ [⟨text, true⟩]))) := by
  simp [EndsWait]

/-- A round that ends the wait is all of it. -/
theorem IsWait.last (h : EndsWait ends pre r) : IsWait ends pre [r] := by
  refine ⟨[], r, rfl, by rwa [List.append_nil], ?_⟩
  intro earlier r' later hsplit
  simp at hsplit

/-- A round that does not end the wait goes before the rest of it. -/
theorem IsWait.next (hr : ¬ EndsWait ends pre r) (h : IsWait ends (pre ++ [r]) rounds) :
    IsWait ends pre (r :: rounds) := by
  obtain ⟨before, last, rfl, hlast, hbefore⟩ := h
  refine ⟨r :: before, last, rfl, by simpa using hlast, ?_⟩
  intro earlier r' later hsplit
  cases earlier with
  | nil =>
    obtain ⟨rfl, -⟩ := List.cons.inj hsplit
    rwa [List.append_nil]
  | cons e earlier =>
    obtain ⟨rfl, htail⟩ := List.cons.inj hsplit
    simpa using hbefore earlier r' later htail

/-- Behind a round that does not end the wait comes the rest of it. -/
theorem IsWait.rest (h : IsWait ends pre (r :: rounds)) (hr : ¬ EndsWait ends pre r) :
    IsWait ends (pre ++ [r]) rounds := by
  obtain ⟨before, last, hsplit, hlast, hbefore⟩ := h
  cases before with
  | nil =>
    obtain ⟨rfl, -⟩ := List.cons.inj hsplit
    rw [List.append_nil] at hlast
    exact absurd hlast hr
  | cons first before =>
    obtain ⟨rfl, hrounds⟩ := List.cons.inj hsplit
    refine ⟨before, last, hrounds, by simpa using hlast, ?_⟩
    intro earlier r' later hlater
    simpa using hbefore (r :: earlier) r' later (by rw [hlater]; rfl)

/-- A wait is never the beginning of another. -/
theorem IsWait.eq_of_begins {rounds' : List Round} (h : IsWait ends pre rounds)
    (h' : IsWait ends pre rounds') (hbegins : rounds <+: rounds') : rounds = rounds' := by
  obtain ⟨before, last, rfl, hlast, -⟩ := h
  obtain ⟨before', last', rfl, -, hbefore'⟩ := h'
  obtain ⟨more, hmore⟩ := hbegins
  rcases List.eq_nil_or_concat more with rfl | ⟨more, final, rfl⟩
  · rwa [List.append_nil] at hmore
  · -- the round that ends the shorter wait would stand within the longer one
    have hsplit : (before ++ last :: more) ++ [final] = before' ++ [last'] := by
      simpa using hmore
    obtain ⟨hbefore, -⟩ := List.append_inj' hsplit rfl
    exact absurd hlast (hbefore' before last more hbefore.symm)

/-- A wait is a wait for whatever is the same condition. -/
theorem IsWait.congr {ends' : Text → Prop} (hends : ∀ line, ends line ↔ ends' line)
    (h : IsWait ends pre rounds) : IsWait ends' pre rounds := by
  obtain rfl : ends = ends' := funext fun line => propext (hends line)
  exact h

end

/-! ## Recording -/

namespace Capture

/-- A capture has recorded some more text since it was another. -/
structure Grows (c : Capture) (text : Text) (c' : Capture) : Prop where
  tracks : ∀ {s : Text}, c.Tracks s → c'.Tracks (s ++ text)
  live : c'.live = (c.live || !text.isEmpty)

theorem Grows.nil (c : Capture) : Grows c [] c :=
  ⟨fun h => by rwa [List.append_nil], by simp⟩

/-- A chunk is recorded before what comes after it, whether it is empty or not. -/
theorem Grows.chunk {c c' : Capture} {chunk text : Text}
    (h : Grows (if chunk.isEmpty then c else c.feed chunk) text c') :
    Grows c (chunk ++ text) c' := by
  cases chunk with
  | nil => exact h
  | cons a chunk =>
    refine ⟨fun htracks => ?_, by simpa [feed] using h.live⟩
    rw [← List.append_assoc]
    exact h.tracks (htracks.feed _)

end Capture

namespace Desk

/-- The process at a desk, and its clock. -/
def source (d : Desk) : Source := (d.session.process, d.clock)

/-- What reading and writing leave as it is while output is captured: the transcript, the marker,
the cached candidates and the hold on the session. Output still goes to a capture afterwards. -/
structure Captures (d d' : Desk) : Prop where
  name : d'.session.name = d.session.name
  transcript : d'.session.transcript = d.session.transcript
  marker : d'.session.marker = d.session.marker
  cache : d'.session.cache = d.session.cache
  exchangeOpen : d'.session.exchangeOpen = d.session.exchangeOpen
  sink : ∃ c, d'.session.sink = .capture c

theorem Captures.trans {d d' d'' : Desk} (h : Captures d d') (h' : Captures d' d'') :
    Captures d d'' where
  name := h'.name.trans h.name
  transcript := h'.transcript.trans h.transcript
  marker := h'.marker.trans h.marker
  cache := h'.cache.trans h.cache
  exchangeOpen := h'.exchangeOpen.trans h.exchangeOpen
  sink := h'.sink

/-- A read moves the process and the clock, and nothing else. -/
theorem read_eq {d d' : Desk} {timeout : Double} {outcome : Except Failure Reading}
    (h : d.read timeout = (outcome, d')) :
    d.source.read timeout = (outcome, d'.source) ∧
      d' = { d with
        session := { d.session with process := d'.session.process }
        clock := d'.clock } := by
  unfold read at h
  cases h
  exact ⟨rfl, rfl⟩

/-- The desk when a chunk has been taken in; an empty one does not count as output. -/
def takeIn (d : Desk) (s : Text) : Desk :=
  if s.isEmpty then d else { d with session := d.session.accept s }

theorem captures_read {d d' : Desk} {c : Capture} {timeout : Double}
    {outcome : Except Failure Reading} (hc : d.session.sink = .capture c)
    (h : d.read timeout = (outcome, d')) : Captures d d' ∧ d'.session.sink = .capture c := by
  obtain ⟨-, hd'⟩ := read_eq h
  rw [hd']
  exact ⟨⟨rfl, rfl, rfl, rfl, rfl, c, hc⟩, hc⟩

/-- Seeing the end closes the session, and leaves the process, the clock and the capture. -/
theorem sawEnd_eq (d : Desk) :
    d.sawEnd.session.closed = true ∧ d.sawEnd.source = d.source ∧
      d.sawEnd.session.sink = d.session.sink := by
  unfold sawEnd
  split
  · next h => exact ⟨h, rfl, rfl⟩
  · exact ⟨rfl, rfl, rfl⟩

theorem captures_sawEnd {d : Desk} {c : Capture} (hc : d.session.sink = .capture c) :
    Captures d d.sawEnd := by
  unfold sawEnd
  split <;> exact ⟨rfl, rfl, rfl, rfl, rfl, c, hc⟩

theorem captures_takeIn {d : Desk} {c : Capture} (hc : d.session.sink = .capture c) (s : Text) :
    Captures d (d.takeIn s) := by
  unfold takeIn
  split
  · exact ⟨rfl, rfl, rfl, rfl, rfl, c, hc⟩
  · rw [Session.accept, hc]
    exact ⟨rfl, rfl, rfl, rfl, rfl, _, rfl⟩

theorem sink_takeIn {d : Desk} {c : Capture} (hc : d.session.sink = .capture c) (s : Text) :
    (d.takeIn s).session.sink = .capture (if s.isEmpty then c else c.feed s) := by
  unfold takeIn
  split
  · exact hc
  · rw [Session.accept, hc]

theorem source_takeIn {d : Desk} {c : Capture} (hc : d.session.sink = .capture c) (s : Text) :
    (d.takeIn s).source = d.source := by
  unfold takeIn
  split
  · rfl
  · rw [Session.accept, hc]
    rfl

/-- A pump goes on capturing, whatever it meets. -/
theorem pumpUntil_captures {deadline left : Double} {d : Desk} {c : Capture}
    (hc : d.session.sink = .capture c) : Captures d (pumpUntil deadline left d).2 := by
  fun_induction pumpUntil deadline left d generalizing c with
  | case1 left d hleft f d' hread => exact (captures_read hc hread).1
  | case2 left d hleft d' hread =>
    obtain ⟨hcaptures, hc'⟩ := captures_read hc hread
    exact hcaptures.trans (captures_sawEnd hc')
  | case3 left d hleft d' hread => exact (captures_read hc hread).1
  | case4 left d hleft s d₁ hread d₂ =>
    rename_i ih
    obtain ⟨hcaptures, hc₁⟩ := captures_read hc hread
    exact (hcaptures.trans (captures_takeIn hc₁ s)).trans (ih (sink_takeIn hc₁ s))
  | case5 left d hleft => exact ⟨rfl, rfl, rfl, rfl, rfl, c, hc⟩

/-- A pump that answers gives a round: the capture has recorded its text, and the answer says
whether the process is still there. -/
theorem pumpUntil_pumped {deadline left : Double} {d d' : Desk} {c : Capture} {alive : Bool}
    (hc : d.session.sink = .capture c) (h : pumpUntil deadline left d = (.ok alive, d')) :
    ∃ (text : Text) (c' : Capture), Pumped deadline left d.source ⟨text, alive⟩ d'.source ∧
      d'.session.sink = .capture c' ∧ c.Grows text c' ∧
      (alive = false → d'.session.closed = true) := by
  fun_induction pumpUntil deadline left d generalizing c with
  | case1 left d hleft f d' hread => cases h
  | case2 left d hleft d₁ hread =>
    cases h
    obtain ⟨hsource, -⟩ := read_eq hread
    obtain ⟨hclosed, hsource', hsink⟩ := sawEnd_eq d₁
    refine ⟨[], c, ?_, hsink.trans (captures_read hc hread).2, .nil c, fun _ => hclosed⟩
    rw [hsource']
    exact .ended hleft hsource
  | case3 left d hleft d₁ hread =>
    cases h
    obtain ⟨hsource, -⟩ := read_eq hread
    exact ⟨[], c, .idle hleft hsource, (captures_read hc hread).2, .nil c, nofun⟩
  | case4 left d hleft s d₁ hread d₂ =>
    rename_i ih
    obtain ⟨hsource, -⟩ := read_eq hread
    obtain ⟨-, hc₁⟩ := captures_read hc hread
    obtain ⟨text, c', hpumped, hsink, hgrows, hclosed⟩ := ih (sink_takeIn hc₁ s) h
    -- taking the chunk in moves neither the process nor the clock
    have hsource' : d₂.source = d₁.source := source_takeIn hc₁ s
    have hclock : d₂.clock = d₁.source.2 := congrArg Prod.snd hsource'
    rw [hsource', hclock] at hpumped
    exact ⟨s ++ text, c', .chunk hleft hsource hpumped, hsink, hgrows.chunk, hclosed⟩
  | case5 left d hleft =>
    cases h
    exact ⟨[], c, .timeUp (by simpa using hleft), hc, .nil c, nofun⟩

/-- A round that the process hands over is what a pump gives. -/
theorem pumpUntil_of_pumped {deadline left : Double} {d : Desk} {c : Capture} {r : Round}
    {s : Source} (hc : d.session.sink = .capture c) (h : Pumped deadline left d.source r s) :
    (pumpUntil deadline left d).1 = .ok r.alive := by
  fun_induction pumpUntil deadline left d generalizing c r with
  | case1 left d hleft f d' hread =>
    obtain ⟨hsource, -⟩ := read_eq hread
    cases h with
    | timeUp hleft' => simp [hleft] at hleft'
    | idle _ hread' => cases hsource.symm.trans hread'
    | ended _ hread' => cases hsource.symm.trans hread'
    | chunk _ hread' => cases hsource.symm.trans hread'
  | case2 left d hleft d' hread =>
    obtain ⟨hsource, -⟩ := read_eq hread
    cases h with
    | timeUp hleft' => simp [hleft] at hleft'
    | idle _ hread' => cases hsource.symm.trans hread'
    | ended _ hread' => rfl
    | chunk _ hread' => cases hsource.symm.trans hread'
  | case3 left d hleft d' hread =>
    obtain ⟨hsource, -⟩ := read_eq hread
    cases h with
    | timeUp hleft' => rfl
    | idle _ hread' => rfl
    | ended _ hread' => cases hsource.symm.trans hread'
    | chunk _ hread' => cases hsource.symm.trans hread'
  | case4 left d hleft s d₁ hread d₂ =>
    rename_i ih
    obtain ⟨hsource, -⟩ := read_eq hread
    obtain ⟨-, hc₁⟩ := captures_read hc hread
    cases h with
    | timeUp hleft' => simp [hleft] at hleft'
    | idle _ hread' => cases hsource.symm.trans hread'
    | ended _ hread' => cases hsource.symm.trans hread'
    | chunk _ hread' hrest =>
      cases hsource.symm.trans hread'
      -- taking the chunk in moves neither the process nor the clock
      have hsource' : d₂.source = d₁.source := source_takeIn hc₁ s
      rw [← hsource'] at hrest
      have hanswer := ih (sink_takeIn hc₁ s) hrest
      exact hanswer
  | case5 left d hleft =>
    cases h with
    | timeUp _ => rfl
    | idle hleft' => exact absurd hleft' hleft
    | ended hleft' => exact absurd hleft' hleft
    | chunk hleft' => exact absurd hleft' hleft

/-- The desk before a pump of a wait: the next arrival of output will show. -/
def hush (d : Desk) : Desk := { d with session := d.session.quiet }

theorem sink_hush {d : Desk} {c : Capture} (hc : d.session.sink = .capture c) :
    d.hush.session.sink = .capture c.quiet := by
  rw [hush, Session.quiet, hc]

theorem captures_hush {d : Desk} {c : Capture} (hc : d.session.sink = .capture c) :
    Captures d d.hush ∧ d.hush.source = d.source := by
  rw [hush, Session.quiet, hc]
  exact ⟨⟨rfl, rfl, rfl, rfl, rfl, _, rfl⟩, rfl⟩

/-- A pump of a wait goes on capturing. -/
theorem pump_captures {interval : Double} {d d' : Desk} {c : Capture}
    {outcome : Except Failure Bool} (hc : d.session.sink = .capture c)
    (h : pump interval d.hush = (outcome, d')) : Captures d d' := by
  have hd' : (pumpUntil (d.clock.after interval) interval d.hush).2 = d' := congrArg Prod.snd h
  rw [← hd']
  exact (captures_hush hc).1.trans (pumpUntil_captures (sink_hush hc))

/-- A pump of a wait that answers gives a round, and the capture tells whether it held text. -/
theorem pump_pumped {interval : Double} {d d' : Desk} {c : Capture} {alive : Bool}
    (hc : d.session.sink = .capture c) (h : pump interval d.hush = (.ok alive, d')) :
    ∃ (text : Text) (c' : Capture),
      Pumped (d.clock.after interval) interval d.source ⟨text, alive⟩ d'.source ∧
        d'.session.sink = .capture c' ∧ (∀ {s}, c.Tracks s → c'.Tracks (s ++ text)) ∧
        c'.live = !text.isEmpty ∧ (alive = false → d'.session.closed = true) := by
  obtain ⟨text, c', hpumped, hsink, hgrows, hclosed⟩ := pumpUntil_pumped (sink_hush hc) h
  rw [(captures_hush hc).2] at hpumped
  exact ⟨text, c', hpumped, hsink, fun htracks => hgrows.tracks htracks.quiet, hgrows.live, hclosed⟩

/-- After a round that leaves less work, the wait returns or goes on. -/
theorem awaitReply_round {interval : Double} {complete : Text → Bool} {d d' : Desk}
    (hpump : pump interval d.hush = (.ok true, d'))
    (hwork : d'.session.process.work < d.session.process.work) :
    awaitReply interval complete d =
      if !d'.session.captured.live && complete d'.session.captured.lastLine then (.ok (), d')
      else awaitReply interval complete d' := by
  rw [awaitReply, show pump interval { d with session := d.session.quiet } = _ from hpump]
  simp only [if_pos hwork]

/-- A pump that fails ends the wait. -/
theorem awaitReply_error {interval : Double} {complete : Text → Bool} {d : Desk} {f : Failure}
    (hpump : (pump interval d.hush).1 = .error f) :
    (awaitReply interval complete d).1 = .error f := by
  rcases hresult : pump interval d.hush with ⟨outcome, d'⟩
  rw [hresult] at hpump
  obtain rfl : outcome = .error f := hpump
  rw [awaitReply, show pump interval { d with session := d.session.quiet } = _ from hresult]

/-- Waiting for a reply goes on capturing, whatever it meets. -/
theorem awaitReply_captures {interval : Double} {complete : Text → Bool} {d : Desk} {c : Capture}
    (hc : d.session.sink = .capture c) : Captures d (awaitReply interval complete d).2 := by
  fun_induction awaitReply interval complete d generalizing c with
  | case1 d f d' hpump => exact pump_captures hc hpump
  | case2 d d' hpump => exact pump_captures hc hpump
  | case3 d d' hpump hends => exact pump_captures hc hpump
  | case4 d d' hpump hends hwork ih =>
    have hcaptures := pump_captures hc hpump
    obtain ⟨c', hc'⟩ := hcaptures.sink
    exact hcaptures.trans (ih hc')
  | case5 d d' hpump hends hwork => exact pump_captures hc hpump

/-- Waiting for a reply reads the rounds of a wait, and the capture records them. -/
theorem awaitReply_isWait {interval : Double} {complete : Text → Bool} {d d' : Desk} {c : Capture}
    {pre : List Round} (hc : d.session.sink = .capture c) (htracks : c.Tracks (captured pre))
    (h : awaitReply interval complete d = (.ok (), d')) :
    ∃ rounds, Pumps interval d.source rounds d'.source ∧
      IsWait (fun line => complete line = true) pre rounds ∧
      d'.session.captured.Tracks (captured (pre ++ rounds)) ∧
      ((∃ r ∈ rounds, r.alive = false) → d'.session.closed = true) := by
  fun_induction awaitReply interval complete d generalizing c pre with
  | case1 d f d' hpump => cases h
  | case2 d d₁ hpump =>
    cases h
    obtain ⟨text, c', hpumped, hsink, hgrows, -, hclosed⟩ := pump_pumped hc hpump
    refine ⟨[⟨text, false⟩], .cons hpumped .nil, .last (.inl rfl), ?_, fun _ => hclosed rfl⟩
    rw [Session.captured, hsink, captured_append, captured_singleton]
    exact hgrows htracks
  | case3 d d₁ hpump hends =>
    cases h
    obtain ⟨text, c', hpumped, hsink, hgrows, hlive, -⟩ := pump_pumped hc hpump
    have htracks' : c'.Tracks (captured (pre ++ [⟨text, true⟩])) := by
      rw [captured_append, captured_singleton]
      exact hgrows htracks
    rw [Session.captured, hsink, htracks'.lastLine, hlive, Bool.not_not, Bool.and_eq_true,
      List.isEmpty_iff] at hends
    refine ⟨[⟨text, true⟩], .cons hpumped .nil, .last (endsWait_alive.mpr hends), ?_, by simp⟩
    rwa [Session.captured, hsink]
  | case4 d d₁ hpump hends hwork ih =>
    obtain ⟨text, c', hpumped, hsink, hgrows, hlive, -⟩ := pump_pumped hc hpump
    have htracks' : c'.Tracks (captured (pre ++ [⟨text, true⟩])) := by
      rw [captured_append, captured_singleton]
      exact hgrows htracks
    rw [Session.captured, hsink, htracks'.lastLine, hlive, Bool.not_not, Bool.and_eq_true,
      List.isEmpty_iff] at hends
    -- the wait goes on, from a capture that tracks one more round
    obtain ⟨rounds, hpumps, hwait, hcaptured, hclosed⟩ := ih hsink htracks' h
    refine ⟨⟨text, true⟩ :: rounds, .cons hpumped hpumps,
      .next (fun hround => hends (endsWait_alive.mp hround)) hwait, ?_, ?_⟩
    · simpa using hcaptured
    · simpa using hclosed
  | case5 d d₁ hpump hends hwork => cases h

/-- Where time is counted, a wait whose rounds the process hands over returns. -/
theorem awaitReply_returns {interval : Double} {complete : Text → Bool} {d : Desk} {c : Capture}
    {pre rounds : List Round} {s : Source} (hc : d.session.sink = .capture c)
    (htracks : c.Tracks (captured pre)) (hpumps : Pumps interval d.source rounds s)
    (hwait : IsWait (fun line => complete line = true) pre rounds) (hcounted : d.source.Counted)
    (hunits : 0 < interval.units) : (awaitReply interval complete d).1 = .ok () := by
  induction rounds generalizing d c pre with
  | nil =>
    obtain ⟨before, last, hsplit, -⟩ := hwait
    simp at hsplit
  | cons r rounds ih =>
    cases hpumps with
    | @cons _ s₁ _ _ _ hfirst hrest =>
      obtain ⟨text, alive⟩ := r
      have hround : Pumped (d.clock.after interval) interval d.hush.source ⟨text, alive⟩ s₁ := by
        rw [(captures_hush hc).2]
        exact hfirst
      have hpump : (pump interval d.hush).1 = .ok alive :=
        pumpUntil_of_pumped (sink_hush hc) hround
      rcases hresult : pump interval d.hush with ⟨outcome, d'⟩
      obtain rfl : outcome = .ok alive := (congrArg Prod.fst hresult).symm.trans hpump
      obtain ⟨text', c', hpumped, hsink, hrecorded, hlive, -⟩ := pump_pumped hc hresult
      obtain ⟨hsame, rfl⟩ := hfirst.unique hpumped
      cases hsame
      cases alive with
      | false =>
        rw [awaitReply, show pump interval { d with session := d.session.quiet } = _ from hresult]
      | true =>
        obtain ⟨-, hcounted', hless⟩ := hfirst.yields rfl hcounted
        have htracks' : c'.Tracks (captured (pre ++ [⟨text, true⟩])) := by
          rw [captured_append, captured_singleton]
          exact hrecorded htracks
        rw [awaitReply_round hresult (hless (Double.isPositive_of_units hunits) hunits),
          Session.captured, hsink, htracks'.lastLine, hlive, Bool.not_not]
        split
        · rfl
        · next hgoes =>
          have hnot : ¬ EndsWait (fun line => complete line = true) pre ⟨text, true⟩ := by
            intro hends
            obtain ⟨hempty, hline⟩ := endsWait_alive.mp hends
            refine hgoes (Bool.and_eq_true_iff.mpr ⟨List.isEmpty_iff.mpr hempty, hline⟩)
          exact ih hsink htracks' hrest (hwait.rest hnot) hcounted'

end Desk

end ReplDriver
