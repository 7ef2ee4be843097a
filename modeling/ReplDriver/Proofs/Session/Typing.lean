import ReplDriver.Proofs.Session.Failing

/-!
# What is typed

Reading writes nothing, and a call writes its text once, whatever comes of it. A call that delivers
nothing leaves the transcript, the marker and the cached candidates as they were. So what a
completion does to a session is what it has typed, and the candidates that it stores.

* `Desk.written_call`: what a call writes.
* `Desk.types_call`: a call that delivers nothing only types.
* `Completion.probe_types`: a probe types a beginning of three texts, and all of them if it returns.
* `Completion.complete_way`: a completion is answered by the cache, or types a probe.
-/

namespace ReplDriver

open Terminal

namespace Process

theorem written_write (p : Process) (s : Text) : (p.write s).2.written = p.written ++ [s] := by
  obtain ⟨queue, h⟩ := answered_frame (p.noting s) (p.behaviour.respond p.written s)
  rw [write_eq, h]
  rfl

theorem written_read (p : Process) (clock : Clock) (timeout : Double) :
    (p.read clock timeout).2.1.written = p.written := by
  obtain ⟨queue, silences, alive, h⟩ := read_frame p clock timeout
  rw [h]

end Process

namespace Desk

/-! ## Reading writes nothing -/

/-- What has been written to the process of the session. -/
def written (d : Desk) : List Text := d.session.process.written

theorem written_of_read {d d' : Desk} {timeout : Double} {outcome : Except Failure Reading}
    (h : d.read timeout = (outcome, d')) : d'.written = d.written := by
  obtain ⟨hsource, -⟩ := read_eq h
  have hread := d.session.process.written_read d.clock timeout
  rwa [show d.session.process.read d.clock timeout = (outcome, d'.source) from hsource] at hread

theorem written_pumpUntil {deadline left : Double} {d : Desk} {c : Capture}
    (hc : d.session.sink = .capture c) : (pumpUntil deadline left d).2.written = d.written := by
  fun_induction pumpUntil deadline left d generalizing c with
  | case1 left d hleft f d' hread => exact written_of_read hread
  | case2 left d hleft d' hread =>
    have hprocess := congrArg Prod.fst (sawEnd_eq d').2.1
    rw [written, show d'.sawEnd.session.process = d'.session.process from hprocess]
    exact written_of_read hread
  | case3 left d hleft d' hread => exact written_of_read hread
  | case4 left d hleft s d' hread d'' =>
    rename_i ih
    have hc' := (captures_read hc hread).2
    have hprocess := congrArg Prod.fst (source_takeIn hc' s)
    rw [ih (sink_takeIn hc' s), written,
      show d''.session.process = d'.session.process from hprocess]
    exact written_of_read hread
  | case5 left d hleft => rfl

theorem written_pump {interval : Double} {d d' : Desk} {c : Capture}
    {outcome : Except Failure Bool} (hc : d.session.sink = .capture c)
    (h : pump interval d.hush = (outcome, d')) : d'.written = d.written := by
  have hd' : (pumpUntil (d.clock.after interval) interval d.hush).2 = d' := congrArg Prod.snd h
  have hprocess := congrArg Prod.fst (captures_hush hc).2
  rw [← hd', written_pumpUntil (sink_hush hc), written,
    show d.hush.session.process = d.session.process from hprocess]
  rfl

theorem written_awaitReply {interval : Double} {complete : Text → Bool} {d : Desk} {c : Capture}
    (hc : d.session.sink = .capture c) :
    (awaitReply interval complete d).2.written = d.written := by
  fun_induction awaitReply interval complete d generalizing c with
  | case1 d f d' hpump => exact written_pump hc hpump
  | case2 d d' hpump => exact written_pump hc hpump
  | case3 d d' hpump hends => exact written_pump hc hpump
  | case4 d d' hpump hends hwork ih =>
    obtain ⟨c', hc'⟩ := (pump_captures hc hpump).sink
    rw [ih hc', written_pump hc hpump]
  | case5 d d' hpump hends hwork => exact written_pump hc hpump

/-! ## Calls -/

/-- The texts that are written for a text: an empty one is not written at all. -/
def typed (text : Text) : List Text := if text = [] then [] else [text]

/-- Between the brackets, the text is written, whatever comes of it. -/
theorem written_converse (rules : ReplyRules) (text : Text) (complete : Text → Bool) {d : Desk}
    {c : Capture} (hc : d.session.sink = .capture c) :
    (converse rules text complete d).2.written = d.written ++ typed text := by
  by_cases htext : text = []
  · subst htext
    show (awaitReply rules.interval complete d).2.written = _
    rw [written_awaitReply hc, typed, if_pos rfl, List.append_nil]
  · have hwritten {outcome : Except Failure Unit} {p : Process}
        (hwrite : d.session.process.write text = (outcome, p)) :
        p.written = d.written ++ typed text := by
      have happend := d.session.process.written_write text
      rw [hwrite] at happend
      rw [typed, if_neg htext]
      exact happend
    obtain ⟨p, notes, ⟨⟨hempty, -⟩ | ⟨-, hwrite⟩, h⟩ | ⟨f, hwrite, h⟩⟩ :=
      converse_cases rules text complete d
    · exact absurd hempty htext
    · rw [h]
      exact (written_awaitReply (d := ⟨{ d.session with process := p }, d.clock, notes⟩) hc).trans
        (hwritten hwrite)
    · rw [h]
      exact hwritten hwrite

/-- A call on a session that is free writes its text, whatever comes of it. -/
theorem written_call (rules : ReplyRules) (call : Call) {d : Desk}
    (hfree : d.session.exchangeOpen = false) :
    (call.run rules d).2.written = d.written ++ typed call.text := by
  have hconverse : (converse rules call.text (call.complete rules.prompt) d.opened).2.written =
      d.written ++ typed call.text := written_converse _ _ _ rfl
  have hway := run_way rules call.text (call.complete rules.prompt) call.delivered d
  rw [← Call.run_eq] at hway
  generalize (call.run rules d).1 = outcome at hway
  generalize (call.run rules d).2 = d' at hway ⊢
  cases hway with
  | refused hopen =>
    rw [hfree] at hopen
    cases hopen
  | failed _ hinside =>
    rw [hinside] at hconverse
    exact hconverse
  | answered _ hinside =>
    rw [hinside] at hconverse
    rw [written, show (d.answered _ call.delivered).session.process = _ from
      congrArg Prod.fst (source_answered d _ call.delivered).1]
    exact hconverse

/-- The session is free, and its process works. -/
structure Ready (d : Desk) : Prop where
  works : d.Works
  free : d.session.exchangeOpen = false

/-- Where the session is free and the process works, a call fails only if its wait never ends. -/
theorem meets_ready_call (rules : ReplyRules) (call : Call) :
    Op.Meets Ready (· = .blocked) (fun _ => True) (call.run rules) where
  ends {d} h := by
    have hfree := (call.transacts rules d).released h.free
    have hends := (meets_call rules call).ends h.works
    rcases hcall : call.run rules d with ⟨f | reply, d'⟩ <;> rw [hcall] at hfree hends
    · have hworks : d'.Works := by
        cases hends with
        | error hworks => exact hworks
      exact .error ⟨hworks, hfree⟩ (h.works.call_blocked h.free (congrArg Prod.fst hcall))
    · have hworks : d'.Works := by
        cases hends with
        | ok hworks => exact hworks
      exact .ok ⟨hworks, hfree⟩ trivial

/-- Some texts have been typed, and nothing of it shows at the session. -/
structure Types (d : Desk) (texts : List Text) (d' : Desk) : Prop where
  written : d'.written = d.written ++ texts
  transcript : d'.session.transcript = d.session.transcript
  marker : d'.session.marker = d.session.marker
  cache : d'.session.cache = d.session.cache
  free : d.session.exchangeOpen = false → d'.session.exchangeOpen = false

theorem Types.nil (d : Desk) : Types d [] d := ⟨by simp, rfl, rfl, rfl, id⟩

theorem Types.trans {d d' d'' : Desk} {texts more : List Text} (h : Types d texts d')
    (h' : Types d' more d'') : Types d (texts ++ more) d'' where
  written := by rw [h'.written, h.written, List.append_assoc]
  transcript := h'.transcript.trans h.transcript
  marker := h'.marker.trans h.marker
  cache := h'.cache.trans h.cache
  free hfree := h'.free (h.free hfree)

/-- A call that delivers nothing only types, whatever comes of it. -/
theorem types_call (rules : ReplyRules) (call : Call) (hkept : call.delivered = false) {d : Desk}
    (hfree : d.session.exchangeOpen = false) :
    d.Types (typed call.text) (call.run rules d).2 := by
  have htransacts := call.transacts rules d
  obtain ⟨htranscript, hmarker, hcache⟩ :
      (call.run rules d).2.session.transcript = d.session.transcript ∧
        (call.run rules d).2.session.marker = d.session.marker ∧
          (call.run rules d).2.session.cache = d.session.cache := by
    rcases houtcome : (call.run rules d).1 with f | o
    · exact htransacts.failed f houtcome
    · exact htransacts.kept o houtcome hkept
  exact ⟨written_call rules call hfree, htranscript, hmarker, hcache, htransacts.released⟩

end Desk

/-! ## Completions -/

namespace Completion

/-- A probe types its text with a tab, a second tab, and the keys that erase the line. -/
def keys (text : Text) : List Text := [text ++ tab, tab, lineClear]

/-- A probe is three calls. -/
theorem probe_eq (rules : ReplyRules) (text : Text) :
    probe rules text = Call.run rules (.probe (text ++ tab)) >>= fun first =>
      Call.run rules (.exchange tab false) >>= fun second =>
        Call.run rules (.exchange lineClear false) >>= fun _ => pure (first ++ second) := rfl

/-- What a probe has typed when it is over: a beginning of its keys, and all of them if it returns.
At a session that is free something is typed. -/
structure ProbeTypes (text : Text) (d : Desk) (outcome : Except Failure Text) (texts : List Text)
    (d' : Desk) : Prop where
  types : d.Types texts d'
  begun : texts <+: keys text
  some_of_free : d.session.exchangeOpen = false → texts ≠ []
  all_of_ok : ∀ reply, outcome = .ok reply → texts = keys text

/-- Typing a probe leaves no trace at the session, however far it comes. -/
theorem probe_types (rules : ReplyRules) (text : Text) (d : Desk) :
    ∃ texts, ProbeTypes text d (probe rules text d).1 texts (probe rules text d).2 := by
  rw [probe_eq]
  by_cases hopen : d.session.exchangeOpen = true
  · obtain ⟨houtcome, hd'⟩ := (Call.transacts rules (.probe (text ++ tab)) d).refused hopen
    rw [Op.bind_error (Prod.ext houtcome hd')]
    refine ⟨[], .nil d, List.nil_prefix, fun hfree => ?_, nofun⟩
    rw [hopen] at hfree
    cases hfree
  have hfree : d.session.exchangeOpen = false := by simpa using hopen
  have hfirst : Desk.typed (Call.probe (text ++ tab)).text = [text ++ tab] :=
    if_neg (List.append_ne_nil_of_right_ne_nil _ (by decide))
  have htypes₁ := Desk.types_call rules (.probe (text ++ tab)) rfl hfree
  rw [hfirst] at htypes₁
  rcases hcall₁ : Call.run rules (.probe (text ++ tab)) d with ⟨f | first, d₁⟩
    <;> rw [hcall₁] at htypes₁
  · rw [Op.bind_error hcall₁]
    exact ⟨_, htypes₁, ⟨[tab, lineClear], rfl⟩, fun _ => List.cons_ne_nil _ _, nofun⟩
  have htypes₂ := htypes₁.trans
    (Desk.types_call rules (.exchange tab false) rfl (htypes₁.free hfree))
  rw [Op.bind_ok hcall₁]
  rcases hcall₂ : Call.run rules (.exchange tab false) d₁ with ⟨f | second, d₂⟩
    <;> rw [hcall₂] at htypes₂
  · rw [Op.bind_error hcall₂]
    exact ⟨_, htypes₂, ⟨[lineClear], rfl⟩, fun _ => List.cons_ne_nil _ _, nofun⟩
  have htypes₃ := htypes₂.trans
    (Desk.types_call rules (.exchange lineClear false) rfl (htypes₂.free hfree))
  rw [Op.bind_ok hcall₂]
  rcases hcall₃ : Call.run rules (.exchange lineClear false) d₂ with ⟨f | third, d₃⟩
    <;> rw [hcall₃] at htypes₃
  · rw [Op.bind_error hcall₃]
    exact ⟨_, htypes₃, List.prefix_rfl, fun _ => List.cons_ne_nil _ _, nofun⟩
  · rw [Op.bind_ok hcall₃]
    exact ⟨_, htypes₃, List.prefix_rfl, fun _ => List.cons_ne_nil _ _, fun _ _ => rfl⟩

/-- The desk when candidates have been stored for a probe. -/
def stored (d : Desk) (text : Text) (found : List Text) : Desk :=
  { d with session := { d.session with cache := d.session.cache.store text found } }

/-- The ways of a completion. The cache answers it, which is noted; or the probe is typed, and the
candidates are stored; or it is given up when a beginning of the probe has been typed, if anything
could be typed at all. -/
inductive Way (text : Text) (d : Desk) : Except Failure (List Text) → Desk → Prop
  | cached {found : List Text} (hfound : d.session.cache.lookup? text = some found) :
      Way text d (.ok found) { d with notes := .cacheHit text :: d.notes }
  | probed {found : List Text} {d' : Desk} (hmissed : d.session.cache.lookup? text = none)
      (htypes : d.Types (keys text) d') : Way text d (.ok found) (stored d' text found)
  | givenUp {f : Failure} {texts : List Text} {d' : Desk}
      (hmissed : d.session.cache.lookup? text = none) (htypes : d.Types texts d')
      (hbegun : texts <+: keys text) (htyped : d.session.exchangeOpen = false → texts ≠ []) :
      Way text d (.error f) d'

/-- A completion goes one of these ways. -/
theorem complete_way (rules : ReplyRules) (token : Text) (inModulePath : Bool) (d : Desk) :
    Way (probeText token inModulePath) d (complete rules token inModulePath d).1
      (complete rules token inModulePath d).2 := by
  obtain ⟨texts, hprobe⟩ := probe_types rules (probeText token inModulePath) d
  rw [complete, Op.get_bind]
  rcases hlookup : d.session.cache.lookup? (probeText token inModulePath) with _ | found
  · rcases happly : probe rules (probeText token inModulePath) d with ⟨f | reply, d'⟩
      <;> rw [happly] at hprobe
    · simp only
      rw [Op.bind_error happly]
      exact .givenUp hlookup hprobe.types hprobe.begun hprobe.some_of_free
    · obtain rfl := hprobe.all_of_ok reply rfl
      simp only
      rw [Op.bind_ok happly]
      exact .probed hlookup hprobe.types
  · exact .cached hlookup

/-- At the desk of a session that is free and whose process works, a completion fails only if a
wait never ends. -/
theorem meets_ready_complete (rules : ReplyRules) (token : Text) (inModulePath : Bool) :
    Op.Meets Desk.Ready (· = .blocked) (fun _ => True) (complete rules token inModulePath) := by
  have hnote (n : Note) : Op.Meets Desk.Ready (· = .blocked) (fun _ => True) (Desk.note n) :=
    ⟨fun h => .ok ⟨h.works, h.free⟩ trivial⟩
  have hstore (text : Text) (found : List Text) :
      Op.Meets Desk.Ready (· = .blocked) (fun _ => True)
        (Desk.onSession fun s => { s with cache := s.cache.store text found }) :=
    ⟨fun h => .ok ⟨h.works, h.free⟩ trivial⟩
  have hprobe (text : Text) :
      Op.Meets Desk.Ready (· = .blocked) (fun _ => True) (probe rules text) :=
    .bind (Desk.meets_ready_call rules (.probe (text ++ tab))) fun _ _ =>
      .bind (Desk.meets_ready_call rules (.exchange tab false)) fun _ _ =>
        .bind (Desk.meets_ready_call rules (.exchange lineClear false)) fun _ _ => .pure trivial
  refine .look fun d _ => ?_
  split
  · exact .bind (hnote _) fun _ _ => .pure trivial
  · exact .bind (hprobe _) fun _ _ => .bind (hstore _ _) fun _ _ => .pure trivial

end Completion

end ReplDriver
