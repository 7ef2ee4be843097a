import ReplDriver.Proofs.Session.Prompted
import ReplDriver.Proofs.World.Moves
import ReplDriver.Session.Scripted
import ReplDriver.Settings.Check

/-!
# The first prompt of a session

A session is started by starting a process and waiting until its prompt is drawn. Any prompt that
is not empty can be set. A prompt of one line is recognised wherever the output that draws it is
cut. A prompt that holds a line end can never be recognised, since it is looked for on one line of
the output: a session with such a prompt waits for ever for a prompt that is there.

* `Settings.ofJson_prompt`: the prompts that can be set.
* `World.startSession_runs`: the process that a session is started with.
* `World.startSession_prompted`: what comes of waiting for the first prompt.
-/

namespace ReplDriver

open Terminal

/-! ## Prompts that can be set -/

namespace Settings

/-- A check that is passed is followed by the others. -/
theorem ok_of_bind {α β : Type} {x : Except Failure α} {f : α → Except Failure β} {b : β}
    (h : (x >>= f) = .ok b) : ∃ a, x = .ok a ∧ f a = .ok b := by
  cases x with
  | error g => cases h
  | ok a => exact ⟨a, rfl, h⟩

theorem prompt_ne_nil {env : Environment} {members : Json} {root : Option Text} {source : Text}
    {settings : Settings} (h : ofJson env members root source = .ok settings) :
    settings.prompt ≠ [] := by
  obtain ⟨program, -, h⟩ := ok_of_bind h
  obtain ⟨arguments, -, h⟩ := ok_of_bind h
  obtain ⟨version, -, h⟩ := ok_of_bind h
  obtain ⟨prompt, hprompt, h⟩ := ok_of_bind h
  obtain ⟨mode, -, h⟩ := ok_of_bind h
  obtain ⟨paths, -, h⟩ := ok_of_bind h
  obtain ⟨transform, -, h⟩ := ok_of_bind h
  obtain ⟨interval, -, h⟩ := ok_of_bind h
  obtain ⟨sessionName, -, h⟩ := ok_of_bind h
  obtain ⟨debug, -, h⟩ := ok_of_bind h
  obtain ⟨seconds, -, h⟩ := ok_of_bind h
  cases h
  rcases hvalue : nonemptyText? ((members.member? "prompt").getD (.text (default env).prompt))
    with _ | s <;> simp only [hvalue] at hprompt <;> cases hprompt
  obtain ⟨-, hne⟩ := Option.filter_eq_some_iff.mp hvalue
  simpa using hne

/-- A JSON object that sets a prompt, and the mode. -/
def withPrompt (prompt : Text) : Json :=
  .object [("repl-mode", .text "sloppy"), ("prompt", .text prompt)]

theorem ofJson_withPrompt (env : Environment) (root : Option Text) (source : Text)
    {prompt : Text} (hprompt : prompt ≠ []) :
    ofJson env (withPrompt prompt) root source =
      .ok { default env with mode := "sloppy", prompt, projectRoot := root } := by
  obtain ⟨c, r, rfl⟩ := List.exists_cons_of_ne_nil hprompt
  have hpositive : (Double.nearest (mkRat 1 20)).isPositive = true := by decide +kernel
  have hinterval : isInterval (.double (default env).pollInterval) = true := by
    simp [isInterval, default, hpositive]
  have hset : (withPrompt (c :: r)).member? "prompt" = some (.text (c :: r)) := rfl
  have hmode : (withPrompt (c :: r)).member? "repl-mode" = some (.text "sloppy") := rfl
  have hmissing (name : Text) (hname : name ∉ [("repl-mode" : Text), "prompt"]) :
      (withPrompt (c :: r)).member? name = none := by
    simp only [List.mem_cons, not_or] at hname
    simp only [withPrompt, Json.member?, List.lookup_cons, List.lookup_nil,
      beq_eq_false_iff_ne.mpr hname.1, beq_eq_false_iff_ne.mpr hname.2.1]
  simp only [ofJson, bind, Except.bind, hset, hmode]
  repeat rw [hmissing _ (by decide)]
  simp only [Option.getD_none, Option.getD_some, hinterval, if_true]
  rfl

/-- The prompts that can be set are those that are not empty. -/
theorem ofJson_prompt (env : Environment) (root : Option Text) (source prompt : Text) :
    (∃ members settings, ofJson env members root source = .ok settings ∧
      settings.prompt = prompt) ↔ prompt ≠ [] := by
  constructor
  · rintro ⟨members, settings, h, rfl⟩
    exact prompt_ne_nil h
  · exact fun hprompt => ⟨_, _, ofJson_withPrompt env root source hprompt, rfl⟩

end Settings

/-! ## The wait for the first prompt -/

namespace World

variable {name : Text} {settings : Settings} {w : World} {executable : Text} {b : Behaviour}

/-- When the program is found and a process comes of it, a session is added for the process, and
its first prompt awaited. -/
theorem startSession_runs
    (hresolve : (Launch.resolve settings.executable w.machine).1 = .ok executable)
    (hlaunch : w.launch name (w.requested.count name) = .runs b) :
    ∃ w₁, Beside w w₁ ∧ startSession name settings true w =
      welcome (startRules settings)
        (newcomer name executable (launched settings executable w.machine) b)
        { w₁ with requested := name :: w₁.requested } := by
  have hresolved := beside_resolve settings.executable w
  obtain ⟨commands, hmachine⟩ := resolve_machine settings.executable w.machine
  have hexe : onMachine (Launch.resolve settings.executable) w =
      (.ok executable, { w with machine := { w.machine with commands } }) := by
    rw [← hmachine, ← hresolve]
    rfl
  rw [hexe] at hresolved
  refine ⟨_, hresolved.trans (beside_record _ (.starting name executable)), ?_⟩
  have hnote : note (.starting name executable)
      { w with machine := { w.machine with commands } } =
        (.ok (), record { w with machine := { w.machine with commands } }
          (.starting name executable)) := rfl
  rw [startSession, Op.bind_ok hexe, Op.get_bind, Op.bind_ok hnote, Op.modify_bind]
  simp only [hlaunch]
  rfl

/-- Waiting for the first prompt of a session. A process is started that prints a text, in chunks
that are cut anywhere and come at any time, and then is silent. At the end of the text the prompt
is drawn, and more is not kept waiting for during a polling interval where the prompt is drawn
before. If the prompt is one line, the session is there as soon as the text is out, and the text has
been delivered. If it is not, the wait never ends, although such prompts can be set. -/
theorem startSession_prompted {before move : Text}
    (hresolve : (Launch.resolve settings.executable w.machine).1 = .ok executable)
    (hlaunch : w.launch name (w.requested.count name) = .runs b)
    (hinterval : 0 < settings.pollInterval.units)
    (hprints : ∀ e ∈ b.banner, e.Prints w.clock.rounding)
    (hdrawn : printed b.banner = before ++ (promptLead ++ settings.prompt ++ move))
    (hmove : ColumnMove move [])
    (hwaits : WaitsAfter settings.pollInterval
      (fun text => ¬ DrawsPrompt settings.prompt (lastLineOf text)) [] b.banner) :
    ('\n' ∉ settings.prompt → ∃ w' s, startSession name settings true w =
        (.ok w.sessions.length, w') ∧ w'.session? w.sessions.length = some s ∧
      s.transcript = [printed b.banner] ∧ s.marker = (printed b.banner).length ∧
      s.sink = .transcript ∧ s.exchangeOpen = false) ∧
    ('\n' ∈ settings.prompt → (startSession name settings true w).1 = .error .blocked ∧
      ∀ env root source, ∃ members accepted,
        Settings.ofJson env members root source = .ok accepted ∧
          accepted.prompt = settings.prompt) := by
  obtain ⟨w₁, hbeside, hstart⟩ := startSession_runs hresolve hlaunch
  rw [hstart, welcome_apply]
  generalize hw₂ : ({ w₁ with requested := name :: w₁.requested } : World) = w₂
  generalize hs : newcomer name executable (launched settings executable w.machine) b = s
  have hpositive := Double.isPositive_of_units hinterval
  have hbanner : (w₂.desk s).session.process.queue = b.banner := by rw [← hs]; rfl
  have hprinting : (w₂.desk s).Printing := by
    have hrounding : w₂.clock.rounding = w.clock.rounding := by rw [← hw₂, ← hbeside.clock]
    rw [← hrounding] at hprints
    rw [← hs]
    exact ⟨rfl, hprints⟩
  have hfree : (w₂.desk s).session.exchangeOpen = false := by rw [← hs]; rfl
  refine ⟨fun hprompt => ?_, fun hprompt => ?_⟩
  · obtain ⟨d, hwait, htranscript, hmarker, hsink, hfree⟩ := @Desk.awaitPrompt_printing
      _ (startRules settings) hprinting hfree hpositive hinterval
      (Nat.le_of_succ_le (Process.work_of_silences (by rw [← hs]; rfl))) (by
        rw [hbanner, hdrawn]
        exact drawsPrompt_lastLineOf hprompt before hmove) (by rwa [hbanner])
    rw [hbanner] at hwait htranscript hmarker
    have hcount : w₂.sessions.length = w.sessions.length := by rw [← hw₂, ← hbeside.sessions]
    have hthere : (w₂.withNewcomer d).session? w.sessions.length = some d.session := by
      rw [session?, (beside_withNewcomer w₂ d).sessions, ← hcount]
      exact List.getElem?_concat_length
    refine ⟨w₂.withNewcomer d, d.session, by rw [hwait, ← hcount]; rfl, hthere, ?_, ?_, ?_, ?_⟩
    · rw [htranscript, ← hs]
      rfl
    · rw [hmarker, ← hs]
      exact Int.zero_add _
    · rw [hsink, ← hs]
      rfl
    · exact hfree
  · have hblocked : (Desk.awaitPrompt (startRules settings) true (w₂.desk s)).1 =
        .error .blocked :=
      Desk.awaitPrompt_blocked hprinting hfree hpositive hinterval hprompt
    refine ⟨by rw [hblocked]; rfl, fun env root source => ?_⟩
    exact (Settings.ofJson_prompt env root source settings.prompt).mpr (List.ne_nil_of_mem hprompt)

/-- A world with a REPL that greets and draws its prompt in pieces. It takes its time before the
prompt itself, and a moment before it moves the cursor behind it. -/
def greetingWorld (prompt : Text) : World :=
  .initial ⟨⟨[]⟩, ⟨1, []⟩, [], fun _ => .noShell, []⟩ (.withInput [] false false)
    (fun _ _ => .runs (.scripted prompt [.output "Welcome\r\n\x1b[1", .output "G\x1b[0J", .pause,
      .delayed (.finite 2) prompt, .delayed (.finite (mkRat 1 50)) "\x1b[3G"] [] [])) .exact

theorem startSession_prompted_greeting :
    (∃ w' s, startSession "repl" (.default []) true (greetingWorld "> ") = (.ok 0, w') ∧
      w'.session? 0 = some s ∧ s.transcript = ["Welcome\r\n\x1b[1G\x1b[0J> \x1b[3G".toList]) ∧
    (startSession "repl" { Settings.default [] with prompt := "a\n> " } true
      (greetingWorld "a\n> ")).1 = .error .blocked := by
  have hunits : 0 < (Settings.default []).pollInterval.units := by decide +kernel
  have hunits' :
      0 < ({ Settings.default [] with prompt := "a\n> " } : Settings).pollInterval.units := by
    decide +kernel
  have hdigits : ∀ c ∈ ("3" : Text), Text.isDecimal c = true := by
    intro c hc
    rw [List.mem_singleton.mp hc]
    decide +kernel
  have hmove : ColumnMove "\x1b[3G" [] := ⟨"3", by decide, hdigits, rfl⟩
  -- the moment before the last piece is shorter than the polling interval
  have hwaits {prompt : Text} {interval : Double}
      (hmoment : interval.lt (.finite (mkRat 1 50)) = false)
      (hnot : hasPrompt prompt (lastLineOf "Welcome\r\n\x1b[1G\x1b[0J") = false) :
      WaitsAfter interval (fun text => ¬ DrawsPrompt prompt (lastLineOf text)) []
        [.output "Welcome\r\n\x1b[1", .output "G\x1b[0J", .pause, .delayed (.finite 2) prompt,
          .delayed (.finite (mkRat 1 50)) "\x1b[3G"] := by
    have hundrawn : ¬ DrawsPrompt prompt (lastLineOf "Welcome\r\n\x1b[1G\x1b[0J") := fun h =>
      Bool.false_ne_true (hnot.symm.trans (hasPrompt_iff.mpr h))
    exact ⟨fun h => absurd nofun h, fun h => absurd nofun h, fun _ _ => hundrawn,
      fun _ _ => hundrawn, fun h => absurd ⟨nofun, hmoment⟩ h, trivial⟩
  have hprints (prompt : Text) : ∀ e ∈ ([.output "Welcome\r\n\x1b[1", .output "G\x1b[0J", .pause,
      .delayed (.finite 2) prompt, .delayed (.finite (mkRat 1 50)) "\x1b[3G"] : List Event),
        e.Prints (greetingWorld prompt).clock.rounding := by
    intro e he
    simp only [List.mem_cons, List.not_mem_nil, or_false] at he
    rcases he with rfl | rfl | rfl | rfl | rfl
    · trivial
    · trivial
    · trivial
    · exact ⟨rfl, 2, rfl⟩
    · exact ⟨rfl, mkRat 1 50, rfl⟩
  obtain ⟨hone, -⟩ := @startSession_prompted "repl" (.default []) (greetingWorld "> ") _ _
    "Welcome\r\n" _ rfl rfl hunits (hprints _) rfl hmove
    (hwaits (by decide +kernel) (by decide +kernel))
  obtain ⟨-, htwo⟩ := @startSession_prompted "repl" { Settings.default [] with prompt := "a\n> " }
    (greetingWorld "a\n> ") _ _ "Welcome\r\n" _ rfl rfl hunits' (hprints _) rfl hmove
    (hwaits (by decide +kernel) (by decide +kernel))
  obtain ⟨w', s, hstart, hs, htranscript, -⟩ := hone (by decide)
  exact ⟨⟨w', s, hstart, hs, htranscript⟩, (htwo (by decide)).1⟩

end World

end ReplDriver
