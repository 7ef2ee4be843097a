import ReplDriver.Frontend.Basic
import ReplDriver.Proofs.Workspace.Answering
import ReplDriver.Session.Scripted

/-!
# The loop of the terminal frontend

The terminal frontend carries out one line after another. With a REPL that comes to an end of
whatever it is given to do, most lines are survived: an interrupt at the prompt begins a new line,
an interrupted evaluation is aborted, and a file that cannot be opened is reported. Some lines end
the loop early, and the session is left open then: what is typed holds no text; a file holds none,
or its path is none; an interrupt comes while the reply to a file, or the first prompt of a new
session, is awaited; or a second interrupt comes while the REPL has yet to answer the first.

* `Frontend.Handles`, `Frontend.Aborts`: the lines that are survived, and those that are not.
* `Frontend.comes_handle`: every line is one or the other.
* `Frontend.runTerminal_cases`: what comes of a whole input.
-/

namespace ReplDriver

variable {settings : Settings} {rounding : Double.Rounding} {s : Seat}

/-! ## The console -/

/-- A change of what is printed and typed. -/
def Seat.onConsole (f : Console → Console) (s : Seat) : Seat :=
  { s with world := { s.world with console := f s.world.console } }

theorem Seat.Answering.onConsole (h : s.Answering settings rounding) (f : Console → Console) :
    (s.onConsole f).Answering settings rounding :=
  h.beside ⟨rfl, rfl, rfl, rfl, rfl, rfl, rfl, rfl, rfl, fun _ => rfl⟩

namespace Frontend

open Registry Terminal

/-- The seat when a prompt has been shown and a line read; `rest` follows it. -/
def asked (prompt : Text) (rest : List InputLine) (s : Seat) : Seat :=
  s.onConsole fun c => (c.print prompt).consume rest

/-- The seat when what an evaluation printed has been shown. -/
def shown (e : Evaluation) (s : Seat) : Seat :=
  if e.output.isEmpty then s else s.onConsole (·.printLine e.output)

/-- The seat when the frontend has introduced itself. -/
def greeted (s : Seat) : Seat :=
  s.onConsole fun c => ((c.printLine "jsrepl - JavaScript REPL driver").printLine
    "Type .help for help, Ctrl-D or .exit to quit.").printLine []

theorem printResult_eq (e : Evaluation) (s : Seat) : printResult e s = (.ok (), shown e s) := by
  unfold printResult shown
  split <;> rfl

theorem answering_shown (h : s.Answering settings rounding) (e : Evaluation) :
    (shown e s).Answering settings rounding := by
  unfold shown
  split
  · exact h
  · exact h.onConsole _

/-! ## One line -/

/-- Carries out what a line asks for that does not end the loop. -/
def handle : InputLine → Op Seat Unit
  | .interrupt => printLine []
  | .undecodable fault => throw (.encoding fault)
  | .text typed =>
    let line := Console.typed typed
    match Command.ofLine line with
    | .exit => pure ()
    | .help => printLine help
    | .reset => do
      let _ ← Seat.reset
      printLine "Session restarted."
    | .load path => load path
    | .nothing => pure ()
    | .code => do
      match ← send line with
      | some e => printResult e
      | none => pure ()

/-- The input ends here: nothing more is typed, or the end of the input or `.exit` is. -/
inductive AtEnd : List InputLine → Prop
  | nil : AtEnd []
  | endOfInput (rest : List InputLine) : AtEnd (.text [] :: rest)
  | exit {typed : Text} (hline : Command.ofLine (Console.typed typed) = .exit)
      (rest : List InputLine) : AtEnd (.text typed :: rest)

theorem ask_eq (prompt : Text) (rest : List InputLine) (s : Seat) :
    ask prompt rest s = (.ok (), asked prompt rest s) := rfl

/-- At its end the loop returns, and has changed nothing but the console. -/
theorem terminalLoop_end {input : List InputLine} (h : AtEnd input) (prompt : Text)
    (s : Seat) : ∃ f, terminalLoop prompt input s = (.ok (), s.onConsole f) := by
  have hline (rest : List InputLine) : (ask prompt rest >>= fun _ => printLine []) s =
      (.ok (), s.onConsole fun c => ((c.print prompt).consume rest).printLine []) := rfl
  cases h with
  | nil => exact ⟨_, hline []⟩
  | endOfInput rest => exact ⟨_, hline rest⟩
  | @exit typed hexit rest =>
    cases typed with
    | nil => exact ⟨_, hline rest⟩
    | cons c r =>
      rw [terminalLoop, Op.bind_ok (ask_eq prompt rest s)]
      · simp only [hexit]
        exact ⟨_, rfl⟩
      · exact List.cons_ne_nil c r

/-- Before its end the loop shows the prompt, carries out the next line, and goes on. -/
theorem terminalLoop_cons {line : InputLine} {rest : List InputLine}
    (h : ¬ AtEnd (line :: rest)) (prompt : Text) (s : Seat) :
    terminalLoop prompt (line :: rest) s =
      (handle line >>= fun _ => terminalLoop prompt rest) (asked prompt rest s) := by
  cases line with
  | interrupt =>
    rw [terminalLoop, Op.bind_ok (ask_eq prompt rest s)]
    rfl
  | undecodable fault =>
    rw [terminalLoop, Op.bind_ok (ask_eq prompt rest s)]
    rfl
  | text typed =>
    cases typed with
    | nil => exact absurd (.endOfInput rest) h
    | cons c r =>
      rw [terminalLoop, Op.bind_ok (ask_eq prompt rest s)]
      · rcases hline : Command.ofLine (Console.typed (c :: r)) with _ | _ | _ | path | _ | _ <;>
          simp only [handle, hline, bind_assoc, pure_bind]
        · exact absurd (.exit hline rest) h
        · refine congrFun (congrArg (send _ >>= ·) (funext fun result => ?_)) _
          cases result with
          | none => rfl
          | some e => rfl
      · exact List.cons_ne_nil c r

/-! ## The lines that are survived -/

/-- A line that is survived, and the seat it leads to. -/
inductive Handles : InputLine → Seat → Seat → Prop
  /-- An interrupt at the prompt begins a new line. -/
  | newLine (s : Seat) : Handles .interrupt s (s.onConsole (·.printLine []))
  | nothing {typed : Text} (hline : Command.ofLine (Console.typed typed) = .nothing) (s : Seat) :
      Handles (.text typed) s s
  | help {typed : Text} (hline : Command.ofLine (Console.typed typed) = .help) (s : Seat) :
      Handles (.text typed) s (s.onConsole (·.printLine help))
  | reset {typed : Text} {s s₁ : Seat} {session : Nat}
      (hline : Command.ofLine (Console.typed typed) = .reset)
      (hreset : Seat.reset s = (.ok session, s₁)) :
      Handles (.text typed) s (s₁.onConsole (·.printLine "Session restarted."))
  /-- Code is sent, and what it printed is shown. -/
  | sent {typed : Text} {s s₁ : Seat} {e : Evaluation}
      (hline : Command.ofLine (Console.typed typed) = .code)
      (hsend : Seat.sendCode (Console.typed typed) s = (.ok e, s₁)) :
      Handles (.text typed) s (shown e s₁)
  /-- The wait for the reply is interrupted, and then the evaluation. -/
  | interrupted {typed output : Text} {s s₁ s₂ : Seat}
      (hline : Command.ofLine (Console.typed typed) = .code)
      (hsend : Seat.sendCode (Console.typed typed) s = (.error .interrupted, s₁))
      (hinterrupt : Seat.interrupt true (s₁.onConsole (·.printLine [])) = (.ok output, s₂)) :
      Handles (.text typed) s s₂
  /-- A file is sent, and what it printed is shown. -/
  | loaded {typed path : Text} {s s₁ : Seat} {e : Evaluation}
      (hline : Command.ofLine (Console.typed typed) = .load path)
      (hload : Seat.loadFile path s = (.ok e, s₁)) : Handles (.text typed) s (shown e s₁)
  /-- A file cannot be opened, and this is reported. -/
  | reported {typed path : Text} {s : Seat} {fault : FileFault} {given : Text}
      (hline : Command.ofLine (Console.typed typed) = .load path)
      (hread : s.world.machine.readText (s.world.machine.absolute path).text =
        .error (.file fault given)) :
      Handles (.text typed) s
        (s.onConsole (·.printError ("Error: " ++ (Failure.file fault given).message)))

/-- A line that ends the loop early, the failure with which it does, and the seat it leaves. -/
inductive Aborts : InputLine → Seat → Failure → Seat → Prop
  /-- What is typed holds no text. -/
  | undecodable (fault : Utf8.Failure) (s : Seat) :
      Aborts (.undecodable fault) s (.encoding fault) s
  /-- A file holds no text, or its path is none. -/
  | unreadable {typed path : Text} {s : Seat} {f : Failure}
      (hline : Command.ofLine (Console.typed typed) = .load path)
      (hread : s.world.machine.readText (s.world.machine.absolute path).text = .error f)
      (hf : f = .nullInPath ∨ ∃ fault, f = .encoding fault) : Aborts (.text typed) s f s
  /-- The wait for the reply to a file is interrupted. -/
  | loadInterrupted {typed path code : Text} {s s₁ : Seat}
      (hline : Command.ofLine (Console.typed typed) = .load path)
      (hread : s.world.machine.readText (s.world.machine.absolute path).text = .ok code)
      (hload : Seat.loadFile path s = (.error .interrupted, s₁)) :
      Aborts (.text typed) s .interrupted s₁
  /-- The wait for the answer to an interrupt is interrupted. -/
  | interruptedAgain {typed : Text} {s s₁ s₂ : Seat}
      (hline : Command.ofLine (Console.typed typed) = .code)
      (hsend : Seat.sendCode (Console.typed typed) s = (.error .interrupted, s₁))
      (hinterrupt : Seat.interrupt true (s₁.onConsole (·.printLine [])) =
        (.error .interrupted, s₂)) : Aborts (.text typed) s .interrupted s₂
  /-- The wait for the first prompt of a new session is interrupted. -/
  | resetInterrupted {typed : Text} {s s₁ : Seat}
      (hline : Command.ofLine (Console.typed typed) = .reset)
      (hreset : Seat.reset s = (.error .interrupted, s₁)) : Aborts (.text typed) s .interrupted s₁

/-! ## How lines end -/

theorem send_ok {line : Text} {s₁ : Seat} {e : Evaluation}
    (h : Seat.sendCode line s = (.ok e, s₁)) : send line s = (.ok (some e), s₁) := by
  unfold send
  rw [Op.answering_map, h]

/-- An interrupt of the wait for a reply is passed on. -/
theorem send_interrupted {line : Text} {s₁ : Seat}
    (h : Seat.sendCode line s = (.error .interrupted, s₁)) :
    send line s = (Seat.interrupt true >>= fun _ => pure none) (s₁.onConsole (·.printLine [])) := by
  unfold send
  rw [Op.answering_map, h]
  rfl

theorem load_ok {path : Text} {s₁ : Seat} {e : Evaluation}
    (h : Seat.loadFile path s = (.ok e, s₁)) : load path s = (.ok (), shown e s₁) := by
  have hanswered (answer : Failure → Option (Op Seat (Option Evaluation))) :
      Op.answering (some <$> Seat.loadFile path) answer s = (.ok (some e), s₁) := by
    rw [Op.answering_map, h]
  unfold load
  rw [Op.bind_ok (hanswered _)]
  exact printResult_eq e s₁

/-- Of the failures to load a file, those of the system are reported. -/
theorem load_error {path : Text} {s₁ : Seat} {f : Failure}
    (h : Seat.loadFile path s = (.error f, s₁)) :
    load path s = if f.family == .system then
      (.ok (), s₁.onConsole (·.printError ("Error: " ++ f.message))) else (.error f, s₁) := by
  unfold load
  split
  · rename_i hsystem
    refine (Op.bind_ok (a := none) ?_).trans rfl
    rw [Op.answering_map, h]
    simp only [hsystem, if_true]
    rfl
  · rename_i hother
    refine Op.bind_error ?_
    rw [Op.answering_map, h]
    simp only [hother, Bool.false_eq_true, if_false]

/-- What a line comes to: it is survived, or it ends the loop; the session still answers. -/
def Comes (settings : Settings) (rounding : Double.Rounding) (line : InputLine) (s : Seat) :
    Except Failure Unit × Seat → Prop
  | (.ok (), s') => Handles line s s' ∧ s'.Answering settings rounding
  | (.error f, s') => Aborts line s f s' ∧ s'.Answering settings rounding

theorem comes_code (h : s.Answering settings rounding) {typed : Text}
    (hline : Command.ofLine (Console.typed typed) = .code) :
    Comes settings rounding (.text typed) s (handle (.text typed) s) := by
  have hhandle : handle (.text typed) = send (Console.typed typed) >>= fun result =>
      match result with
      | some e => printResult e
      | none => pure () := by
    simp only [handle, hline]
  rw [hhandle]
  obtain ⟨e, s₁, hsend, hs₁⟩ | ⟨s₁, hsend, hs₁⟩ :=
    Seat.ends_cases ((Seat.withstands_sendCode (Console.typed typed)).ends h)
  · rw [Op.bind_ok (send_ok hsend)]
    simp only [printResult_eq]
    exact ⟨.sent hline hsend, answering_shown hs₁ e⟩
  -- the interrupt is passed on, and then it is the answer to it that is awaited
  obtain ⟨output, s₂, hinterrupt, hs₂⟩ | ⟨s₂, hinterrupt, hs₂⟩ :=
    Seat.ends_cases (Seat.withstands_interrupt.ends (hs₁.onConsole (·.printLine [])))
  · rw [Op.bind_ok ((send_interrupted hsend).trans (Op.bind_ok hinterrupt))]
    exact ⟨.interrupted hline hsend hinterrupt, hs₂⟩
  · rw [Op.bind_error ((send_interrupted hsend).trans (Op.bind_error hinterrupt))]
    exact ⟨.interruptedAgain hline hsend hinterrupt, hs₂⟩

theorem comes_load (h : s.Answering settings rounding) {typed path : Text}
    (hline : Command.ofLine (Console.typed typed) = .load path) :
    Comes settings rounding (.text typed) s (handle (.text typed) s) := by
  have hhandle : handle (.text typed) = load path := by
    simp only [handle, hline]
  rw [hhandle]
  obtain ⟨f, hread, hfailed⟩ | ⟨code, hread, hends⟩ := Seat.loadFile_cases h path
  · -- of the faults, only that of a file belongs to the system
    rw [load_error hfailed]
    obtain ⟨fault, rfl⟩ | rfl | ⟨fault, rfl⟩ := Seat.readText_error hread
    · exact ⟨.reported hline hread, h.onConsole _⟩
    · exact ⟨.unreadable hline hread (.inl rfl), h⟩
    · exact ⟨.unreadable hline hread (.inr ⟨fault, rfl⟩), h⟩
  · obtain ⟨e, s₁, hload, hs₁⟩ | ⟨s₁, hload, hs₁⟩ := Seat.ends_cases hends
    · rw [load_ok hload]
      exact ⟨.loaded hline hload, answering_shown hs₁ e⟩
    · rw [load_error hload]
      exact ⟨.loadInterrupted hline hread hload, hs₁⟩

theorem comes_reset (h : s.Answering settings rounding) {typed : Text}
    (hline : Command.ofLine (Console.typed typed) = .reset) :
    Comes settings rounding (.text typed) s (handle (.text typed) s) := by
  have hhandle : handle (.text typed) =
      Seat.reset >>= fun _ => printLine "Session restarted." := by
    simp only [handle, hline]
  rw [hhandle]
  obtain ⟨session, s₁, hreset, hs₁⟩ | ⟨s₁, hreset, hs₁⟩ :=
    Seat.ends_cases (Seat.withstands_reset.ends h)
  · rw [Op.bind_ok hreset]
    exact ⟨.reset hline hreset, hs₁.onConsole (·.printLine "Session restarted.")⟩
  · rw [Op.bind_error hreset]
    exact ⟨.resetInterrupted hline hreset, hs₁⟩

/-- Before the end of the input, every line is either survived or ends the loop. -/
theorem comes_handle (h : s.Answering settings rounding) {line : InputLine}
    {rest : List InputLine} (hmore : ¬ AtEnd (line :: rest)) :
    Comes settings rounding line s (handle line s) := by
  cases line with
  | interrupt => exact ⟨.newLine s, h.onConsole (·.printLine [])⟩
  | undecodable fault => exact ⟨.undecodable fault s, h⟩
  | text typed =>
    rcases hline : Command.ofLine (Console.typed typed) with _ | _ | _ | path | _ | _
    · exact absurd (.exit hline rest) hmore
    · simp only [handle, hline]
      exact ⟨.help hline s, h.onConsole (·.printLine help)⟩
    · exact comes_reset h hline
    · exact comes_load h hline
    · simp only [handle, hline]
      exact ⟨.nothing hline s, h⟩
    · exact comes_code h hline

/-! ## Line after line -/

/-- Lines have been carried out in their order, and all were survived: the input with these lines
and without, and the seats before and after. -/
inductive Survives (prompt : Text) : List InputLine → List InputLine → Seat → Seat → Prop
  | refl (rest : List InputLine) (s : Seat) : Survives prompt rest rest s s
  | line {line : InputLine} {rest rest' : List InputLine} {s s₁ s₂ : Seat}
      (hmore : ¬ AtEnd (line :: rest)) (hline : Handles line (asked prompt rest s) s₁)
      (hrest : Survives prompt rest rest' s₁ s₂) : Survives prompt (line :: rest) rest' s s₂

/-- The loop gets to the end of the input, or to a line that ends it early. -/
theorem terminalLoop_cases (h : s.Answering settings rounding) (prompt : Text)
    (input : List InputLine) :
    ∃ rest s₁, Survives prompt input rest s s₁ ∧
      ((AtEnd rest ∧ s₁.Answering settings rounding ∧
          ∃ f, terminalLoop prompt input s = (.ok (), s₁.onConsole f)) ∨
        ∃ line more f s₂, rest = line :: more ∧ Aborts line (asked prompt more s₁) f s₂ ∧
          s₂.Answering settings rounding ∧ terminalLoop prompt input s = (.error f, s₂)) := by
  -- the induction is on the input; that the session still answers is what carries it
  induction input generalizing s with
  | nil => exact ⟨[], s, .refl [] s, .inl ⟨.nil, h, terminalLoop_end .nil prompt s⟩⟩
  | cons line rest ih =>
    by_cases hend : AtEnd (line :: rest)
    · exact ⟨_, s, .refl _ s, .inl ⟨hend, h, terminalLoop_end hend prompt s⟩⟩
    have hcomes := comes_handle (s := asked prompt rest s) (h.onConsole _) hend
    rcases hhandle : handle line (asked prompt rest s) with ⟨f | ⟨⟩, s₁⟩ <;> rw [hhandle] at hcomes
    · obtain ⟨haborts, hs₁⟩ := hcomes
      refine ⟨_, s, .refl _ s, .inr ⟨line, rest, f, s₁, rfl, haborts, hs₁, ?_⟩⟩
      rw [terminalLoop_cons hend, Op.bind_error hhandle]
    · obtain ⟨hline, hs₁⟩ := hcomes
      obtain ⟨rest', s₂, hsurvives, hends⟩ := ih hs₁
      refine ⟨rest', s₂, .line hend hline hsurvives, ?_⟩
      rw [terminalLoop_cons hend, Op.bind_ok hhandle]
      exact hends

/-- With a session that answers, the frontend carries out line after line. If all are survived, it
returns at the end of the input, and the session has been closed. The first line that is not
survived ends it with its failure, in the state in which it failed, so that nothing is closed. -/
theorem runTerminal_cases (h : s.Answering settings rounding) (prompt : Text) :
    ∃ rest s₁, Survives prompt s.world.console.input rest (greeted s) s₁ ∧
      ((AtEnd rest ∧ ∃ s₂, runTerminal prompt s = (.ok (), s₂) ∧
          find? s₂.world settings.sessionName = none ∧
          ∀ handle t, find? s₁.world settings.sessionName = some handle →
            s₁.world.session? handle = some t → s₂.world.session? handle = some t.close) ∨
        ∃ line more f s₂, rest = line :: more ∧ Aborts line (asked prompt more s₁) f s₂ ∧
          s₂.Answering settings rounding ∧ runTerminal prompt s = (.error f, s₂)) := by
  have hrun : runTerminal prompt s =
      (terminalLoop prompt s.world.console.input >>= fun _ => Seat.close) (greeted s) := rfl
  have hgreeted : (greeted s).Answering settings rounding := h.onConsole _
  obtain ⟨rest, s₁, hsurvives, hends⟩ :=
    terminalLoop_cases hgreeted prompt s.world.console.input
  refine ⟨rest, s₁, hsurvives, ?_⟩
  rw [hrun]
  obtain ⟨hend, hs₁, f, hloop⟩ | ⟨line, more, f, s₂, hrest, haborts, hs₂, hloop⟩ := hends
  · obtain ⟨w, hclose, -, hgone, hclosed⟩ := (hs₁.onConsole f).close
    rw [Op.bind_ok hloop]
    exact .inl ⟨hend, _, hclose, hgone, hclosed⟩
  · rw [Op.bind_error hloop]
    exact .inr ⟨line, more, f, s₂, hrest, haborts, hs₂, rfl⟩

/-- A REPL that is busy with `for (;;);` until it is interrupted, and echoes all other code. -/
def busyRepl : Behaviour :=
  .scripted "> " [.output (drawPrompt "> ")]
    [.output (Behaviour.interruptNotice ++ drawPrompt "> ")]
    [("for (;;);\n", .ok [.failing .interrupted])]

/-- A seat before that REPL. The file `a.js` holds the code that keeps it busy. -/
def busySeat (input : List InputLine) : Seat where
  workspace := .new (.default []) none
  world := .initial
    ⟨⟨[(["a.js".toList], .file (Utf8.encode "for (;;);"))]⟩, ⟨1, []⟩, [], fun _ => .noShell, []⟩
    (.withInput input true false) (fun _ _ => .runs busyRepl) .exact

theorem respond_busyRepl (before : List Text) (written : Text) :
    busyRepl.respond before written = if written = "for (;;);\n" then .ok [.failing .interrupted]
      else .ok (Behaviour.plainAnswer "> " written) := by
  have hlookup : busyRepl.respond before written =
      ([("for (;;);\n".toList, .ok [.failing .interrupted])].lookup written).getD
        (.ok (Behaviour.plainAnswer "> " written)) := rfl
  rw [hlookup]
  by_cases hbusy : written = "for (;;);\n"
  · rw [if_pos hbusy, hbusy]
    rfl
  · rw [if_neg hbusy, List.lookup_cons, beq_eq_false_iff_ne.mpr hbusy]
    rfl

theorem answers_drawPrompt (before : Text) :
    Answers "> " [.output (before ++ drawPrompt "> ")] := by
  refine .inr ⟨before, "\x1b[3G", ?_, columnMove?_eq_some.mp (by decide +kernel)⟩
  rw [printed_cons]
  exact List.append_nil _

theorem answering_busyRepl : busyRepl.Answering "> " .exact := by
  have houtput (s : Text) : (Event.output s).Plays .exact := .inl trivial
  have honly (s : Text) : ∀ e ∈ [Event.output s], e.Plays .exact := by
    intro e he
    rw [List.mem_singleton.mp he]
    exact houtput s
  refine ⟨⟨honly _, fun before written events hrespond => ?_, fun events hanswer => ?_⟩,
    answers_drawPrompt [], fun before code => ?_, _, rfl, answers_drawPrompt _⟩
  · rw [respond_busyRepl] at hrespond
    split at hrespond
    · cases hrespond
      simp [Event.Plays, Event.Stops]
    · cases hrespond
      intro e he
      obtain ⟨s, rfl⟩ := Behaviour.mem_plainAnswer he
      exact houtput s
  · cases hanswer
    exact honly _
  · rw [respond_busyRepl]
    split
    · exact ⟨_, rfl, .inl ⟨_, List.mem_singleton_self _, rfl⟩⟩
    · refine ⟨_, rfl, ?_⟩
      rw [Behaviour.plainAnswer, if_pos (by simpa using frameSubmission_getLast? code)]
      exact answers_drawPrompt _

theorem answering_busySeat (input : List InputLine) :
    (busySeat input).Answering (.default []) .exact := by
  have hrules : (World.startRules (.default [])).Tells := ⟨by decide, by decide +kernel⟩
  have hfree : find? (busySeat input).world (Settings.default []).sessionName = none := rfl
  have hworld : (busySeat input).world.Answering (.default []) .exact :=
    ⟨rfl, fun files commands => ⟨_, rfl⟩, fun n => ⟨_, rfl, answering_busyRepl⟩,
      fun handle hfound => absurd (hfound.symm.trans hfree) (Option.some_ne_none handle)⟩
  exact ⟨rfl, hworld, hrules, hrules⟩

/-- Code is interrupted, then the prompt, and then a file is missing: all this is survived, and the
session is closed at the end. The same interrupt during a file is not survived, and the session
stays registered. -/
theorem runTerminal_cases_busySeat :
    (busySeat []).Answering (.default []) .exact ∧
    (∃ s, runTerminal "js> " (busySeat [.text "for (;;);\n", .interrupt, .text ".load c.js\n",
        .text ".exit\n"]) = (.ok (), s) ∧ find? s.world "javascript" = none) ∧
    ∃ f s, runTerminal "js> " (busySeat [.text ".load a.js\n", .text ".exit\n"]) = (.error f, s) ∧
      s.Answering (.default []) .exact ∧ find? s.world "javascript" = some 0 := by
  have hsurvived : (runTerminal "js> " (busySeat [.text "for (;;);\n", .interrupt,
      .text ".load c.js\n", .text ".exit\n"])).1.toOption = some () := by decide +kernel
  have haborted : (runTerminal "js> " (busySeat [.text ".load a.js\n",
      .text ".exit\n"])).1.toOption = none := by decide +kernel
  have hregistered : find? (runTerminal "js> " (busySeat [.text ".load a.js\n",
      .text ".exit\n"])).2.world "javascript" = some 0 := by decide +kernel
  refine ⟨answering_busySeat [], ?_, ?_⟩
  · obtain ⟨rest, s₁, -, ⟨-, s₂, hrun, hgone, -⟩ | ⟨line, more, f, s₂, -, -, -, hrun⟩⟩ :=
      runTerminal_cases (answering_busySeat [.text "for (;;);\n", .interrupt, .text ".load c.js\n",
        .text ".exit\n"]) "js> "
    · exact ⟨s₂, hrun, hgone⟩
    · rw [hrun] at hsurvived
      cases hsurvived
  · obtain ⟨rest, s₁, -, ⟨-, s₂, hrun, -⟩ | ⟨line, more, f, s₂, -, -, hanswering, hrun⟩⟩ :=
      runTerminal_cases (answering_busySeat [.text ".load a.js\n", .text ".exit\n"]) "js> "
    · rw [hrun] at haborted
      cases haborted
    · rw [hrun] at hregistered
      exact ⟨f, s₂, hrun, hanswering, hregistered⟩

end Frontend

end ReplDriver
