import ReplDriver.Completion.Engine
import ReplDriver.Proofs.Process.Life
import ReplDriver.Proofs.Session.Transaction

/-!
# Episodes at a session

Whatever is done with a session comes down to a few episodes: exchanges, which capture the chunks
that the process hands out and deliver them or not, interrupts, clearing the transcript, and the
end. What operations do is told by the list of their episodes, in order. The list accounts for
every chunk that the process has handed out, and for the transcript.

* `Desk.does_call`: a call is one exchange, answered or broken off.
* `Completion.does_complete`: a completion that the cache does not answer is three exchanges that
  deliver nothing.
-/

namespace ReplDriver

/-- Something that is done with a session. -/
inductive Episode where
  /-- The first wait for the prompt, with what the process printed before it. -/
  | started (chunks : List Text)
  /-- A start that failed during the first wait. -/
  | givenUp (chunks : List Text)
  /-- An exchange that was answered, delivered or not. -/
  | exchanged (delivered : Bool) (chunks : List Text)
  /-- An exchange that failed. -/
  | broken (chunks : List Text)
  | interrupted
  | cleared
  | ended
deriving DecidableEq, Repr

namespace Episode

/-- The chunks that the process handed out meanwhile. -/
def chunks : Episode → List Text
  | started cs | givenUp cs | exchanged _ cs | broken cs => cs
  | _ => []

/-- The transcript after an episode, given the one before. -/
def amend (transcript : Text) : Episode → Text
  | started cs | exchanged true cs => transcript ++ cs.flatten
  | cleared => []
  | _ => transcript

end Episode

/-- The transcript that some episodes leave, from an empty one. -/
def transcriptOf (episodes : List Episode) : Text := episodes.foldl Episode.amend []

namespace Desk

/-! ## Listening -/

/-- Output is captured while the process hands out some chunks: the capture grows by all of them,
in order. -/
structure Hears (d : Desk) (chunks : List Text) (d' : Desk) : Prop where
  life : d.session.process.Life chunks d'.session.process
  output : d'.session.captured.output = d.session.captured.output ++ chunks.flatten

theorem Hears.nil (d : Desk) : Hears d [] d := ⟨.nil, by simp⟩

theorem Hears.trans {d d' d'' : Desk} {chunks more : List Text} (h : Hears d chunks d')
    (h' : Hears d' more d'') : Hears d (chunks ++ more) d'' where
  life := h.life.trans h'.life
  output := by rw [h'.output, h.output]; simp

/-- A read that hands nothing out leaves the capture as it is. -/
theorem hears_read {d d' : Desk} {timeout : Double} {outcome : Except Failure Reading}
    (h : d.read timeout = (outcome, d')) (hnone : Reading.chunks outcome = []) :
    Hears d [] d' := by
  obtain ⟨hsource, hd'⟩ := read_eq h
  have hlife := Process.Life.read d.clock timeout (p := d.session.process) .nil
  rw [show d.session.process.read d.clock timeout = (outcome, d'.source) from hsource, hnone]
    at hlife
  exact ⟨hlife, by rw [hd']; simp [Session.captured]⟩

/-- A chunk that is handed out is captured. -/
theorem hears_chunk {d d' : Desk} {timeout : Double} {s : Text} {c : Capture}
    (hc : d.session.sink = .capture c) (h : d.read timeout = (.ok (.chunk s), d')) :
    Hears d [s] (d'.takeIn s) := by
  obtain ⟨hsource, -⟩ := read_eq h
  have hc' := (captures_read hc h).2
  have hlife := Process.Life.read d.clock timeout (p := d.session.process) .nil
  rw [show d.session.process.read d.clock timeout = (.ok (.chunk s), d'.source) from hsource]
    at hlife
  constructor
  · have hprocess := congrArg Prod.fst (source_takeIn hc' s)
    rw [show (d'.takeIn s).session.process = d'.session.process from hprocess]
    exact hlife
  · rw [Session.captured, Session.captured, sink_takeIn hc' s, hc]
    cases s <;> simp

theorem hears_sawEnd (d : Desk) : Hears d [] d.sawEnd := by
  unfold sawEnd
  split
  · exact .nil d
  · exact ⟨.nil, by simp [Session.captured]⟩

theorem hears_hush (d : Desk) : Hears d [] d.hush := by
  refine ⟨?_, ?_⟩
  · rw [hush, Session.quiet]
    split <;> exact .nil
  · rw [hush, Session.quiet, Session.captured, Session.captured]
    cases hsink : d.session.sink <;> simp [hsink]

/-- A pump captures the chunks that it is handed out, whatever else it meets. -/
theorem pumpUntil_hears {deadline left : Double} {d : Desk} {c : Capture}
    (hc : d.session.sink = .capture c) :
    ∃ chunks, Hears d chunks (pumpUntil deadline left d).2 := by
  fun_induction pumpUntil deadline left d generalizing c with
  | case1 left d hleft f d' hread => exact ⟨[], hears_read hread rfl⟩
  | case2 left d hleft d' hread => exact ⟨[], (hears_read hread rfl).trans (hears_sawEnd d')⟩
  | case3 left d hleft d' hread => exact ⟨[], hears_read hread rfl⟩
  | case4 left d hleft s d' hread d'' =>
    rename_i ih
    obtain ⟨chunks, hrest⟩ := ih (sink_takeIn (captures_read hc hread).2 s)
    exact ⟨s :: chunks, (hears_chunk hc hread).trans hrest⟩
  | case5 left d hleft => exact ⟨[], .nil d⟩

theorem pump_hears {interval : Double} {d d' : Desk} {c : Capture}
    {outcome : Except Failure Bool} (hc : d.session.sink = .capture c)
    (h : pump interval d.hush = (outcome, d')) : ∃ chunks, Hears d chunks d' := by
  have hd' : (pumpUntil (d.clock.after interval) interval d.hush).2 = d' := congrArg Prod.snd h
  obtain ⟨chunks, hpump⟩ := pumpUntil_hears (sink_hush hc)
  rw [hd'] at hpump
  exact ⟨chunks, (hears_hush d).trans hpump⟩

/-- Waiting for a reply captures the chunks that are handed out, however the wait ends. -/
theorem awaitReply_hears (interval : Double) (complete : Text → Bool) {d : Desk} {c : Capture}
    (hc : d.session.sink = .capture c) :
    ∃ chunks, Hears d chunks (awaitReply interval complete d).2 := by
  fun_induction awaitReply interval complete d generalizing c with
  | case1 d f d' hpump => exact pump_hears hc hpump
  | case2 d d' hpump => exact pump_hears hc hpump
  | case3 d d' hpump hends => exact pump_hears hc hpump
  | case4 d d' hpump hends hwork ih =>
    obtain ⟨chunks, hfirst⟩ := pump_hears hc hpump
    obtain ⟨c', hc'⟩ := (pump_captures hc hpump).sink
    obtain ⟨more, hrest⟩ := ih hc'
    exact ⟨chunks ++ more, hfirst.trans hrest⟩
  | case5 d d' hpump hends hwork => exact pump_hears hc hpump

/-- Writing a text and waiting for the reply captures the chunks that are handed out. -/
theorem converse_hears (rules : ReplyRules) (text : Text) (complete : Text → Bool) {d : Desk}
    {c : Capture} (hc : d.session.sink = .capture c) :
    ∃ chunks, Hears d chunks (converse rules text complete d).2 := by
  obtain ⟨p, notes, ⟨hwrote, h⟩ | ⟨f, hwrite, h⟩⟩ := converse_cases rules text complete d
  · rw [h]
    have hlife : d.session.process.Life [] p := by
      rcases hwrote with ⟨-, rfl⟩ | ⟨-, hwrite⟩
      · exact .nil
      · exact .wrote hwrite
    have hwritten : Hears d [] { d with session := { d.session with process := p }, notes } :=
      ⟨hlife, by simp [Session.captured]⟩
    obtain ⟨chunks, hwait⟩ := awaitReply_hears rules.interval complete
      (d := { d with session := { d.session with process := p }, notes }) hc
    exact ⟨chunks, hwritten.trans hwait⟩
  · rw [h]
    exact ⟨[], .wrote hwrite, by simp [Session.captured]⟩

/-! ## Episodes -/

/-- Some episodes lead from one desk to another. The session is still the same one, the process has
handed out the chunks of the episodes, and the transcript is the one that they leave. -/
structure Does (d : Desk) (episodes : List Episode) (d' : Desk) : Prop where
  name : d'.session.name = d.session.name
  life : d.session.process.Life (episodes.flatMap Episode.chunks) d'.session.process
  output : d'.session.output = episodes.foldl Episode.amend d.session.output

theorem Does.nil (d : Desk) : Does d [] d := ⟨rfl, .nil, rfl⟩

theorem Does.trans {d d' d'' : Desk} {episodes more : List Episode} (h : Does d episodes d')
    (h' : Does d' more d'') : Does d (episodes ++ more) d'' where
  name := h'.name.trans h.name
  life := by
    rw [List.flatMap_append]
    exact h.life.trans h'.life
  output := by rw [List.foldl_append, h'.output, h.output]

theorem recording : Op.Recording Does := ⟨Does.nil, Does.trans⟩

/-- What is no episode leaves the name, the process and the transcript alone. -/
theorem Does.aside {d d' : Desk} (hname : d'.session.name = d.session.name)
    (hprocess : d'.session.process = d.session.process)
    (htranscript : d'.session.transcript = d.session.transcript) : Does d [] d' := by
  refine ⟨hname, ?_, ?_⟩
  · rw [hprocess]
    exact .nil
  · rw [Session.output, htranscript]
    rfl

/-- A call is one exchange: it is answered by the chunks that were handed out meanwhile, or it
fails and they are lost. -/
theorem does_call (rules : ReplyRules) (call : Call) (d : Desk) :
    ∃ chunks,
      ((call.run rules d).1 = .ok chunks.flatten ∧
        Does d [.exchanged call.delivered chunks] (call.run rules d).2) ∨
      ∃ f, (call.run rules d).1 = .error f ∧ Does d [.broken chunks] (call.run rules d).2 := by
  have hway := Desk.run_way rules call.text (call.complete rules.prompt) call.delivered d
  have htransacts := call.transacts rules d
  rw [← Call.run_eq] at hway
  generalize (call.run rules d).1 = outcome at hway htransacts ⊢
  generalize (call.run rules d).2 = d' at hway htransacts ⊢
  -- what happens between the brackets
  obtain ⟨chunks, hears⟩ :=
    converse_hears rules call.text (call.complete rules.prompt) (d := d.opened) rfl
  have hkept : Captures d.opened
      (converse rules call.text (call.complete rules.prompt) d.opened).2 := converse_captures rfl
  cases hway with
  | refused hopen => exact ⟨[], .inr ⟨_, rfl, rfl, .nil, rfl⟩⟩
  | failed hfree hinside =>
    rename_i f inside
    rw [hinside] at hears hkept
    refine ⟨chunks, .inr ⟨f, rfl, hkept.name, ?_, ?_⟩⟩
    · rw [List.flatMap_singleton]
      exact hears.life
    · rw [Session.output, (htransacts.failed f rfl).1]
      rfl
  | answered hfree hinside =>
    rename_i inside
    rw [hinside] at hears hkept
    have houtput : inside.session.captured.output = chunks.flatten := hears.output
    have hprocess : (d.answered inside call.delivered).session.process = inside.session.process :=
      congrArg Prod.fst (source_answered d inside call.delivered).1
    refine ⟨chunks, .inl ⟨by rw [houtput], ?_, ?_, ?_⟩⟩
    · rw [← show inside.session.name = d.session.name from hkept.name]
      rcases hdelivered : call.delivered with _ | _
      · rfl
      · rw [session_answered]
        rfl
    · rw [hprocess, List.flatMap_singleton]
      exact hears.life
    -- only a reply that is delivered shows in the transcript
    · rcases hdelivered : call.delivered with _ | _
      · rw [hdelivered] at htransacts
        rw [Session.output, (htransacts.kept _ rfl hdelivered).1]
        rfl
      · rw [hdelivered] at htransacts
        rw [Session.output, (htransacts.delivered _ rfl hdelivered).1, houtput]
        show _ = d.session.output ++ chunks.flatten
        rw [List.flatten_append, Session.output]
        split
        · next hnone => simp [hnone]
        · simp

/-- A call that returns is one exchange, and returns what the process has handed out. -/
theorem traced_call (rules : ReplyRules) (call : Call) (d : Desk) :
    Op.Traced Does d (call.run rules) fun o episodes _ =>
      ∃ chunks, o = chunks.flatten ∧ episodes = [.exchanged call.delivered chunks] := by
  obtain ⟨chunks, ⟨houtcome, hdoes⟩ | ⟨f, houtcome, hdoes⟩⟩ := does_call rules call d
  · refine ⟨_, hdoes, fun o ho => ?_⟩
    rw [houtcome] at ho
    cases ho
    exact ⟨chunks, rfl, rfl⟩
  · refine ⟨_, hdoes, fun o ho => ?_⟩
    rw [houtcome] at ho
    cases ho

/-- The interrupt is noted, and how it goes is up to the process. -/
theorem interrupt_eq (d : Desk) :
    Desk.interrupt d = (d.session.process.interrupt.1,
      { d with
        session := { d.session with process := d.session.process.interrupt.2 }
        notes := .interrupting d.session.name :: d.notes }) := rfl

/-- The process is interrupted, and nothing is read. -/
theorem does_interrupt (d : Desk) : Does d [.interrupted] (Desk.interrupt d).2 :=
  ⟨rfl, .interrupt .nil, rfl⟩

/-- The transcript is cleared, and the process is left alone. -/
theorem does_clear (d : Desk) : Does d [.cleared] (Desk.onSession Session.clear d).2 :=
  ⟨rfl, .nil, rfl⟩

end Desk

/-! ## Completions -/

namespace Completion

/-- The candidates that a reply to a probe shows. -/
def shown (token : Text) (inModulePath : Bool) (reply : Text) : List Text :=
  let found := candidates reply (probeText token inModulePath)
  if inModulePath then found.map withoutLead else found

/-- The episodes of a completion that returns, by what it found: none if the cache answers, and
otherwise three exchanges that deliver nothing. What the first two have captured shows the
candidates; the third erases the probe. -/
inductive Probing (token : Text) (inModulePath : Bool) : List Text → List Episode → Prop
  | cached (found : List Text) : Probing token inModulePath found []
  | probed (first second third : List Text) :
      Probing token inModulePath (shown token inModulePath (first.flatten ++ second.flatten))
        [.exchanged false first, .exchanged false second, .exchanged false third]

/-- Typing a probe is three exchanges that deliver nothing. -/
theorem does_probe (rules : ReplyRules) (text : Text) (d : Desk) :
    Op.Traced Desk.Does d (probe rules text) fun reply episodes _ =>
      ∃ first second third, reply = first.flatten ++ second.flatten ∧
        episodes = [.exchanged false first, .exchanged false second, .exchanged false third] := by
  have hprobe : probe rules text =
      Call.run rules (.probe (text ++ Terminal.tab)) >>= fun first =>
        Call.run rules (.exchange Terminal.tab false) >>= fun second =>
          Call.run rules (.exchange Terminal.lineClear false) >>= fun _ =>
            pure (first ++ second) := rfl
  rw [hprobe]
  refine .bind Desk.recording (Desk.traced_call rules _ d) ?_
  rintro _ _ d₁ - ⟨first, rfl, rfl⟩
  refine .bind Desk.recording (Desk.traced_call rules _ d₁) ?_
  rintro _ _ d₂ - ⟨second, rfl, rfl⟩
  refine .bind Desk.recording (Desk.traced_call rules _ d₂) ?_
  rintro _ _ d₃ - ⟨third, rfl, rfl⟩
  exact .returns Desk.recording rfl ⟨first, second, third, rfl, rfl⟩

/-- A completion is answered by the cache, or by three exchanges that deliver nothing. -/
theorem does_complete (rules : ReplyRules) (token : Text) (inModulePath : Bool) (d : Desk) :
    Op.Traced Desk.Does d (complete rules token inModulePath) fun found episodes _ =>
      Probing token inModulePath found episodes := by
  refine .look ?_
  split
  · exact ⟨[], .aside rfl rfl rfl, fun _ _ => .cached _⟩
  · refine .bind Desk.recording (does_probe rules _ d) ?_
    rintro _ _ d' - ⟨first, second, third, rfl, rfl⟩
    refine ⟨[], .aside rfl rfl rfl, fun found hfound => ?_⟩
    cases hfound
    exact .probed first second third

/-- So is a completion at the cursor. -/
theorem does_completeAt (rules : ReplyRules) (text : Text) (point : Int) (d : Desk) :
    Op.Traced Desk.Does d (completeAt rules text point) fun found episodes _ =>
      Probing (contextAt text point).token (contextAt text point).inModulePath found.2
        episodes := by
  have hmap : completeAt rules text point = (fun found => (contextAt text point, found)) <$>
      complete rules (contextAt text point).token (contextAt text point).inModulePath := rfl
  rw [hmap]
  exact .map _ (does_complete rules _ _ d)

end Completion

end ReplDriver
