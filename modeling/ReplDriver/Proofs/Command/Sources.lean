import ReplDriver.Command.Run
import ReplDriver.Proofs.Frontend.Terminal

/-!
# Commands that work on a source

Three commands read a source and work on it: one sends it, one looks for the expression before a
point, and one turns it into a script. Not every failure to read the source is reported. Where the
expression before a point is asked for, none is. The other two commands report a file that cannot be
opened; a file or an input that holds no text, a path that is none, and an interrupt at the input
end the program. What is asked of a text that was read is always answered, or reported. Settings are
looked for before anything else, and only by the command that needs them.

* `Command.Ends`: the ways in which such a command ends.
* `Command.Ends.failed`: what is printed when the status is one.
* `Command.run_ends`: such a command ends in one of these ways, unless diagnostics cannot be turned
  on.
-/

namespace ReplDriver.Command

open World Registry

/-! ## Reporting -/

/-- The world when a line was printed to its error output. -/
def complained (line : Text) (w : World) : World := { w with console := w.console.printError line }

section
variable {α : Type} {report : Failure → Option Text} {f : Failure}

/-- An operation returns, or its failure is reported, or it escapes. -/
theorem reporting_eq (report : Failure → Option Text) (act : Op World α) (w : World) :
    reporting report act w = match act w with
      | (.ok a, w') => (.ok (some a), w')
      | (.error f, w') => match report f with
        | some line => (.ok none, complained line w')
        | none => (.error f, w') := by
  unfold reporting
  rw [Op.answering_map]
  rcases act w with ⟨f | a, w'⟩
  · simp only
    rcases report f with _ | line <;> rfl
  · rfl

theorem reportingAt_eq (report : Failure → Option Text) (act : Op Seat α) (s : Seat) :
    reportingAt report act s = match act s with
      | (.ok a, s') => (.ok (some a), s')
      | (.error f, s') => match report f with
        | some line => (.ok none, { s' with world := complained line s'.world })
        | none => (.error f, s') := by
  unfold reportingAt
  rw [Op.answering_map]
  rcases act s with ⟨f | a, s'⟩
  · simp only
    rcases report f with _ | line <;> rfl
  · rfl

theorem onWorld_apply {act : Op World α} {outcome : Except Failure α} {s : Site} {w : World}
    (h : act s.world = (outcome, w)) : Site.onWorld act s = (outcome, { s with world := w }) :=
  Op.zoom_apply h

/-- An outcome is shown, which gives the status zero; one that was reported gives the status one. -/
theorem showing_apply {display : α → Op World Unit} {a : α} {s : Site} {w : World}
    (h : display a s.world = (.ok (), w)) :
    showing (some a) display s = (.ok 0, { s with world := w }) := by
  show (Site.onWorld (display a) >>= fun _ => pure 0) s = _
  rw [Op.bind_ok (onWorld_apply h)]
  rfl

end

/-! ## How the commands end -/

/-- The commands that work on a source. -/
inductive OnSource : Name → Prop
  | load : OnSource .load
  | boundary : OnSource .boundary
  | transform : OnSource .transform

/-- Turns diagnostics on, if the command line asks for that. -/
def diagnose (a : Arguments) : Op World Unit :=
  if a.debug || a.log.any fun p => !p.isEmpty then enableDiagnostics a.log else pure ()

/-- The source of a command: what is read from a file or the input, or a text that is given. -/
def source (name : Name) (a : Arguments) : Op World Text :=
  match name with
  | .load => do
    let machine := (← get).machine
    Op.ofExcept (machine.readText (machine.absolute (a.operand.getD [])).text)
  | .boundary =>
    match a.operand with
    | some text => pure text
    | none => readSource a.file
  | _ => readSource a.operand

/-- The settings have been found, if the command needs any. -/
def Settled (name : Name) (a : Arguments) (w : World) : Prop :=
  name = .load → ∃ settings, Settings.loadOrDefault w.machine a.config = .ok settings

/-- The ways in which a command ends: its outcome, and what has been printed then. -/
inductive Ends (name : Name) (a : Arguments) (w : World) : Except Failure Nat → Console → Prop
  /-- The source is not read, and the command reports that. -/
  | unread {f : Failure} {w' : World} (hsettled : Settled name a w)
      (hread : source name a w = (.error f, w')) (hname : name ≠ .boundary)
      (hfamily : f.family = .system) :
      Ends name a w (.ok 1)
        (w'.console.printError ("Error reading " ++ a.operand.getD [] ++ ": " ++ f.message))
  /-- The source is not read, and the failure ends the program. -/
  | escaped {f : Failure} {w' : World} (hsettled : Settled name a w)
      (hread : source name a w = (.error f, w'))
      (hrest : name = .boundary ∨ f.family ≠ .system) : Ends name a w (.error f) w'.console
  /-- The point lies outside the text, or no expression ends there. -/
  | noExpression {text : Text} {f : Failure} {w' : World} (hname : name = .boundary)
      (hread : source name a w = (.ok text, w'))
      (hlast : Expression.last text (pointIn text a.point) = .error f) :
      Ends name a w (.ok 1) (w'.console.printError ("Error: " ++ f.message))
  | expression {text found : Text} {start : Nat} {w' : World} (hname : name = .boundary)
      (hread : source name a w = (.ok text, w'))
      (hlast : Expression.last text (pointIn text a.point) = .ok (start, found)) :
      Ends name a w (.ok 0) ((w'.console.printLine (Text.ofNat start)).printLine found)
  | transformed {text : Text} {w' : World} (hname : name = .transform)
      (hread : source name a w = (.ok text, w')) :
      Ends name a w (.ok 0) (w'.console.print (Module.transform text))
  | loaded {text : Text} {w' : World} (hname : name = .load) (hsettled : Settled name a w)
      (hread : source name a w = (.ok text, w')) (c : Console) : Ends name a w (.ok 0) c
  /-- The person at the keyboard interrupts the wait for the REPL. -/
  | interrupted {text : Text} {w' : World} (hname : name = .load) (hsettled : Settled name a w)
      (hread : source name a w = (.ok text, w')) (hworks : ¬ w.Works) (c : Console) :
      Ends name a w (.error .interrupted) c
  /-- The settings are found wrong, and no REPL is started. -/
  | misconfigured {f : Failure} (hname : name = .load)
      (hsettings : Settings.loadOrDefault w.machine a.config = .error f)
      (hfamily : f.family = .value) :
      Ends name a w (.ok 1) (w.console.printError ("Error in configuration: " ++ f.message))
  /-- The settings are not read, and the failure ends the program. -/
  | unsettled {f : Failure} (hname : name = .load)
      (hsettings : Settings.loadOrDefault w.machine a.config = .error f)
      (hrest : f.family ≠ .value) : Ends name a w (.error f) w.console

/-- The REPL of some settings answers, and none was started under its name. -/
structure Ready (settings : Settings) (w : World) : Prop where
  answering : w.Answering settings w.clock.rounding
  rules : (startRules settings).Tells
  fresh : find? w settings.sessionName = none

variable {name : Name} {a : Arguments} {w w' : World} {s : Site} {settings : Settings}

/-- Diagnostics have no part in that. -/
theorem Ready.diagnosed (h : Ready settings w) (files : FileTree) (journal : Journal) :
    Ready settings { w with machine := { w.machine with files }, journal } :=
  ⟨⟨h.answering.clock, h.answering.found, h.answering.launch, h.answering.registered⟩, h.rules,
    h.fresh⟩

/-! ## Reading -/

/-- Reading a source takes something from the input at most. -/
theorem source_snd (name : Name) (a : Arguments) (w : World) :
    ∃ input, (source name a w).2 = { w with console := w.console.consume input } := by
  have hread (path : Option Text) :
      ∃ input, (readSource path w).2 = { w with console := w.console.consume input } := by
    unfold readSource
    rcases path.filter (· != "-".toList) with _ | p
    · refine ⟨[], ?_⟩
      simp only [readInput]
      rw [Op.get_bind, Op.modify_bind]
      rcases w.console.input.mapM InputLine.read with _ | lines <;> rfl
    · exact ⟨w.console.input, rfl⟩
  unfold source
  split
  · exact ⟨w.console.input, rfl⟩
  · rcases a.operand with _ | text
    · exact hread _
    · exact ⟨w.console.input, rfl⟩
  · exact hread _

/-- Where the status is one, nothing was printed but a line to the error output, which begins with
`Error`. -/
theorem Ends.failed {c : Console} (h : Ends name a w (.ok 1) c) :
    c.output = w.console.output ∧
      ∃ line, c.errors = w.console.errors ++ line ++ "\n" ∧ "Error".toList <+: line := by
  have hprints {w' : World} {outcome : Except Failure Text} {lead rest : Text}
      (hread : source name a w = (outcome, w')) (hlead : "Error".toList <+: lead) :
      (w'.console.printError (lead ++ rest)).output = w.console.output ∧
        ∃ line, (w'.console.printError (lead ++ rest)).errors = w.console.errors ++ line ++ "\n" ∧
          "Error".toList <+: line := by
    obtain ⟨input, hinput⟩ := source_snd name a w
    rw [hread] at hinput
    obtain rfl : w' = _ := hinput
    exact ⟨rfl, _, rfl, hlead.trans (List.prefix_append lead rest)⟩
  cases h with
  | unread _ hread =>
    rw [List.append_assoc, List.append_assoc]
    exact hprints hread (by decide)
  | noExpression _ hread => exact hprints hread (by decide)
  | misconfigured =>
    exact ⟨rfl, _, rfl, .trans (by decide) (List.prefix_append "Error in configuration: ".toList _)⟩

/-! ## The commands -/

/-- What is reported where no expression is found. -/
def expressionReport (f : Failure) : Option Text :=
  if f.family == .driver || f.family == .value then some ("Error: " ++ f.message) else none

/-- What is reported where a source is not read. -/
def sourceReport (path : Option Text) (f : Failure) : Option Text :=
  if f.family == .system then some ("Error reading " ++ path.getD [] ++ ": " ++ f.message)
  else none

/-- Prints where an expression begins, and the expression. -/
def printFound (found : Nat × Text) : Op World Unit := do
  World.printLine (Text.ofNat found.1)
  World.printLine found.2

theorem printBoundary_eq (a : Arguments) :
    printBoundary a = Site.onWorld (source .boundary a) >>= fun text =>
      Site.onWorld (reporting expressionReport
        (Op.ofExcept (Expression.last text (pointIn text a.point)))) >>= fun outcome =>
      showing outcome printFound := by
  unfold printBoundary source
  rcases a.operand with _ | text <;> rfl

/-- No expression may be found, and every such failure is reported. -/
theorem expressionReport_last {text : Text} {point : Int} {f : Failure}
    (h : Expression.last text point = .error f) :
    expressionReport f = some ("Error: " ++ f.message) := by
  have hfamily : f.family = .driver ∨ f.family = .value := by
    unfold Expression.last Expression.boundary at h
    split at h
    · cases h
      exact .inr rfl
    · split at h
      · cases h
      · cases h
        exact .inl rfl
  rcases hfamily with hdriver | hvalue
  · simp [expressionReport, hdriver]
  · simp [expressionReport, hvalue]

/-- A boundary is printed, or the failure to find one is reported. A source that is not read ends
the program. -/
theorem printBoundary_ends (a : Arguments) (s : Site) :
    ∃ outcome w, printBoundary a s = (outcome, { s with world := w }) ∧
      Ends .boundary a s.world outcome w.console := by
  rw [printBoundary_eq]
  rcases hread : source .boundary a s.world with ⟨f | text, w⟩
  · rw [Op.bind_error (onWorld_apply hread)]
    exact ⟨_, w, rfl, .escaped nofun hread (.inl rfl)⟩
  rw [Op.bind_ok (onWorld_apply hread)]
  have hreport := reporting_eq expressionReport
    (Op.ofExcept (Expression.last text (pointIn text a.point))) w
  rcases hlast : Expression.last text (pointIn text a.point) with f | ⟨start, found⟩
  · rw [hlast] at hreport
    simp only [Op.ofExcept, expressionReport_last hlast] at hreport
    rw [Op.bind_ok (onWorld_apply hreport)]
    exact ⟨_, _, rfl, .noExpression rfl hread hlast⟩
  · rw [hlast] at hreport
    rw [Op.bind_ok (onWorld_apply hreport)]
    exact ⟨_, _, rfl, .expression rfl hread hlast⟩

/-- A script is printed, or the failure to open its source is reported. Another failure to read it
ends the program. -/
theorem printTransformed_ends (a : Arguments) (s : Site) :
    ∃ outcome w, printTransformed a.operand s = (outcome, { s with world := w }) ∧
      Ends .transform a s.world outcome w.console := by
  have hcommand : printTransformed a.operand =
      Site.onWorld (reporting (sourceReport a.operand) (source .transform a)) >>= fun outcome =>
        showing outcome fun text => World.print (Module.transform text) := rfl
  have hreport := reporting_eq (sourceReport a.operand) (source .transform a) s.world
  rw [hcommand]
  rcases hread : source .transform a s.world with ⟨f | text, w⟩
  · rw [hread] at hreport
    by_cases hfamily : f.family = .system
    · have hline : sourceReport a.operand f =
          some ("Error reading " ++ a.operand.getD [] ++ ": " ++ f.message) := by
        simp [sourceReport, hfamily]
      simp only [hline] at hreport
      rw [Op.bind_ok (onWorld_apply hreport)]
      exact ⟨_, _, rfl, .unread nofun hread nofun hfamily⟩
    · have hnone : sourceReport a.operand f = none := by simp [sourceReport, hfamily]
      simp only [hnone] at hreport
      rw [Op.bind_error (onWorld_apply hreport)]
      exact ⟨_, _, rfl, .escaped nofun hread (.inr hfamily)⟩
  · rw [hread] at hreport
    rw [Op.bind_ok (onWorld_apply hreport)]
    exact ⟨_, _, rfl, .transformed rfl hread⟩

/-- A file that cannot be opened is reported; whatever else keeps it from being read is not. -/
theorem fileReport_readText {m : Machine} {place path : Text} {f : Failure}
    (h : m.readText place = .error f) :
    fileReport path f = if f.family = .system then
      some ("Error reading " ++ path ++ ": " ++ f.message) else none := by
  rcases Seat.readText_error h with ⟨fault, rfl⟩ | rfl | ⟨fault, rfl⟩ <;> rfl

/-- Nothing is ended where nothing was started. -/
theorem close_apply {seat : Seat}
    (hfree : find? seat.world seat.workspace.settings.sessionName = none) :
    Seat.close seat = (.ok (), seat) := Seat.close_apply (Registry.remove_none hfree)

/-- What an operation in a new workspace gives is what it gives before the session is closed. -/
theorem once_apply {α : Type} {report : Failure → Option Text} {act : Op Seat α}
    {outcome : Except Failure (Option α)} {seat seat' : Seat}
    (hact : reportingAt report act ⟨Workspace.new settings none, s.world⟩ = (outcome, seat))
    (hclose : Seat.close seat = (.ok (), seat')) :
    once settings report act s = (outcome, { s with world := seat'.world }) := by
  unfold once Site.inWorkspace Op.ensuring
  simp only [hact, hclose]

theorem printOutput_apply (e : Evaluation) (w : World) : ∃ w', printOutput e w = (.ok (), w') := by
  unfold printOutput
  split
  · exact ⟨_, rfl⟩
  · exact ⟨_, rfl⟩

/-- A file is sent to a REPL that answers, or the failure to open it is reported. -/
theorem sendFile_ends {journal : Journal} (a : Arguments) (s : Site)
    (hworld : s.world = { w with journal }) (h : Ready settings s.world)
    (hsettled : Settled .load a w) :
    ∃ outcome w', sendFile (a.operand.getD []) settings s = (outcome, { s with world := w' }) ∧
      Ends .load a w outcome w'.console := by
  generalize hpath : a.operand.getD [] = path
  have hseat : Seat.Answering settings s.world.clock.rounding
      ⟨Workspace.new settings none, s.world⟩ := ⟨rfl, h.answering, h.rules, h.rules⟩
  have hsource : source .load a w =
      (s.world.machine.readText (s.world.machine.absolute path).text, w) := by
    rw [← hpath, hworld]
    rfl
  have hconsole : s.world.console = w.console := by rw [hworld]
  have hreport := reportingAt_eq (fileReport path) (Seat.loadFile path)
    ⟨Workspace.new settings none, s.world⟩
  unfold sendFile
  obtain ⟨f, hread, hload⟩ | ⟨text, hread, hends⟩ := Seat.loadFile_cases hseat path
  · -- nothing has been started, so there is nothing to be closed
    rw [hread] at hsource
    simp only [hload, fileReport_readText hread] at hreport
    by_cases hfamily : f.family = .system
    · rw [if_pos hfamily] at hreport
      rw [Op.bind_ok (once_apply hreport (close_apply h.fresh))]
      refine ⟨_, _, rfl, ?_⟩
      rw [← hpath, complained, hconsole]
      exact .unread hsettled hsource nofun hfamily
    · rw [if_neg hfamily] at hreport
      rw [Op.bind_error (once_apply hreport (close_apply h.fresh))]
      refine ⟨_, _, rfl, ?_⟩
      rw [hconsole]
      exact .escaped hsettled hsource (.inr hfamily)
  · rw [hread] at hsource
    obtain ⟨e, seat, hload, hanswering⟩ | ⟨seat, hload, hanswering⟩ := Seat.ends_cases hends
    · obtain ⟨w₁, hclose, -⟩ := hanswering.close
      rw [hload] at hreport
      rw [Op.bind_ok (once_apply hreport hclose)]
      obtain ⟨w₂, hprint⟩ := printOutput_apply e w₁
      exact ⟨_, _, showing_apply hprint, .loaded rfl hsettled hsource _⟩
    · obtain ⟨w₁, hclose, -⟩ := hanswering.close
      rw [hload] at hreport
      rw [Op.bind_error (once_apply hreport hclose)]
      refine ⟨_, _, rfl, .interrupted rfl hsettled hsource (fun hworks => ?_) _⟩
      -- a REPL that works interrupts no wait
      have hseatWorks : Seat.Works ⟨Workspace.new settings none, s.world⟩ := by
        rw [Seat.Works, hworld]
        exact ⟨hworks.sound, hworks.launch, hworks.processes⟩
      have hfails := (Seat.meets_loadFile path).ends hseatWorks
      rw [hload] at hfails
      cases hfails with
      | error _ hf =>
        rcases hf with hf | hf
        · cases hf
        · exact absurd hf (by decide)

/-- The settings that are found are those of the command, and diagnostics are turned on if they ask
for that. Settings that are wrong are reported. -/
theorem loadSettings_cases (a : Arguments) (w : World) :
    (∃ settings journal, Settings.loadOrDefault w.machine a.config = .ok settings ∧
        loadSettings a w = (.ok (some (override settings a)), { w with journal })) ∨
      ∃ f, Settings.loadOrDefault w.machine a.config = .error f ∧
        loadSettings a w =
          if f.family = .value then
            (.ok none, complained ("Error in configuration: " ++ f.message) w)
          else (.error f, w) := by
  unfold loadSettings
  rw [Op.get_bind]
  simp only
  rcases hload : Settings.loadOrDefault w.machine a.config with f | settings
  · refine .inr ⟨f, rfl, ?_⟩
    by_cases hfamily : f.family = .value
    · rw [if_pos hfamily, Op.bind_ok (a := none)]
      · rfl
      · rw [reporting_eq]
        simp [Op.ofExcept, hfamily]
    · rw [if_neg hfamily, Op.bind_error]
      rw [reporting_eq]
      simp [Op.ofExcept, hfamily]
  · rw [Op.bind_ok (a := some settings)]
    · simp only
      rcases (override settings a).debug with _ | _
      · exact .inl ⟨settings, w.journal, rfl, rfl⟩
      · exact .inl ⟨settings, { w.journal with enabled := true }, rfl, rfl⟩
    · rw [reporting_eq]
      rfl

/-- A file is sent if settings are found. -/
theorem load_ends (a : Arguments) (s : Site)
    (h : ∀ settings, Settings.loadOrDefault s.world.machine a.config = .ok settings →
      Ready (override settings a) s.world) :
    ∃ outcome w, withSettings a (sendFile (a.operand.getD [])) s =
        (outcome, { s with world := w }) ∧ Ends .load a s.world outcome w.console := by
  unfold withSettings
  obtain ⟨settings, journal, hsettings, hload⟩ | ⟨f, hsettings, hload⟩ :=
    loadSettings_cases a s.world
  · have hready := h settings hsettings
    rw [Op.bind_ok (onWorld_apply hload)]
    exact sendFile_ends a { s with world := { s.world with journal } } rfl
      (hready.diagnosed s.world.machine.files journal) fun _ => ⟨settings, hsettings⟩
  · by_cases hfamily : f.family = .value
    · rw [if_pos hfamily] at hload
      rw [Op.bind_ok (onWorld_apply hload)]
      exact ⟨_, _, rfl, .misconfigured rfl hsettings hfamily⟩
    · rw [if_neg hfamily] at hload
      rw [Op.bind_error (onWorld_apply hload)]
      exact ⟨_, _, rfl, .unsettled rfl hsettings hfamily⟩

/-! ## Command lines -/

/-- Turning diagnostics on changes the journal and the files. -/
theorem diagnose_snd (a : Arguments) (w : World) :
    ∃ files journal, (diagnose a w).2 =
      { w with machine := { w.machine with files }, journal } := by
  have henable (path : Option Text) : ∃ files journal, (enableDiagnostics path w).2 =
      { w with machine := { w.machine with files }, journal } := by
    unfold enableDiagnostics
    rw [Op.modify_bind]
    generalize path.filter (fun p => !p.isEmpty) = path
    cases path with
    | none => exact ⟨w.machine.files, _, rfl⟩
    | some p =>
      simp only
      rw [Op.get_bind]
      simp only
      rcases hopened : Machine.opened p (w.machine.files.openForWriting w.machine.cwd.parts p) with
        f | ⟨place, content⟩
      · exact ⟨w.machine.files, _, rfl⟩
      · exact ⟨w.machine.files.writeAt place content, _, rfl⟩
  unfold diagnose
  split
  · exact henable a.log
  · exact ⟨w.machine.files, w.journal, rfl⟩

/-- A command line whose command works on a source ends in one of the ways in which such a command
ends, unless the file for diagnostics cannot be opened; that ends the program. -/
theorem run_ends {line : List Text} (hparse : parse line = .ok (name, a)) (hname : OnSource name)
    (hready : ∀ w settings, name = .load → diagnose a s.world = (.ok (), w) →
      Settings.loadOrDefault w.machine a.config = .ok settings →
        Ready (override settings a) s.world) :
    (∃ f w, diagnose a s.world = (.error f, w) ∧ run line s = (.error f, { s with world := w })) ∨
      ∃ w outcome w', diagnose a s.world = (.ok (), w) ∧
        run line s = (outcome, { s with world := w' }) ∧ Ends name a w outcome w'.console := by
  have hrun : run line = Site.onWorld (diagnose a) >>= fun _ => perform name a := by
    unfold run diagnose
    rw [hparse]
    simp only
    split <;> rfl
  rw [hrun]
  rcases hdiagnose : diagnose a s.world with ⟨f | ⟨⟩, w⟩
  · exact .inl ⟨f, w, rfl, Op.bind_error (onWorld_apply hdiagnose)⟩
  · rw [Op.bind_ok (onWorld_apply hdiagnose)]
    obtain ⟨files, journal, hw⟩ : ∃ files journal,
        w = { s.world with machine := { s.world.machine with files }, journal } := by
      have hsnd := diagnose_snd a s.world
      rwa [hdiagnose] at hsnd
    obtain ⟨outcome, w', hperform, hends⟩ : ∃ outcome w',
        perform name a { s with world := w } = (outcome, { s with world := w' }) ∧
          Ends name a w outcome w'.console := by
      cases hname with
      | load =>
        refine load_ends a { s with world := w } fun settings hsettings => ?_
        show Ready (override settings a) w
        rw [hw]
        exact (hready w settings rfl hdiagnose hsettings).diagnosed files journal
      | boundary => exact printBoundary_ends a { s with world := w }
      | transform => exact printTransformed_ends a { s with world := w }
    exact .inr ⟨w, outcome, w', rfl, hperform, hends⟩

/-- A REPL that is there, a file that holds code, and one that holds no text. -/
def sourceSite : Site where
  world := { (Frontend.busySeat []).world with
    machine := { (Frontend.busySeat []).world.machine with
      files := ⟨[(["a.js".toList], .file (Utf8.encode "1")), (["b.js".toList], .file [0xff])]⟩ } }
  network :=
    { peer := [], clients := [], ending := .failed [], identifier := Text.ofNat, refusal := none
      packets := [], sent := [], calls := [] }

theorem ready_sourceSite : Ready (.default []) sourceSite.world := by
  have hseat := Frontend.answering_busySeat []
  have hready : Ready (.default []) (Frontend.busySeat []).world :=
    ⟨hseat.world, hseat.startRules, rfl⟩
  exact hready.diagnosed _ _

/-- The kind of the failure that ends the program, if one does. -/
def escapedKind : Except Failure Nat → Text
  | .ok _ => []
  | .error f => f.kind

/-- Sending a file that holds code gives the status zero. Sending one that holds no text ends the
program, and so does asking for the expression before a point of a file that is missing. -/
theorem run_ends_sourceSite :
    (∃ w, run ["load", "a.js"] sourceSite = (.ok 0, { sourceSite with world := w })) ∧
    (∃ f w, run ["load", "b.js"] sourceSite = (.error f, { sourceSite with world := w }) ∧
      f.kind = "UnicodeDecodeError") ∧
    ∃ f w, run ["boundary", "--file", "c.js"] sourceSite =
      (.error f, { sourceSite with world := w }) ∧ f.kind = "FileNotFoundError" := by
  have hdefault : Settings.loadOrDefault sourceSite.world.machine none = .ok (.default []) := by
    rfl
  have hoverride (settings : Settings) (file : Text) :
      override settings { Arguments.initial with operand := some file } = settings := by
    simp [override, Arguments.initial]
  have hload (file : Text)
      (hparse : parse ["load", file] =
        .ok (.load, { Arguments.initial with operand := some file })) :
      ∃ outcome w, run ["load", file] sourceSite = (outcome, { sourceSite with world := w }) := by
    obtain ⟨f, w, hdiagnose, -⟩ | ⟨-, outcome, w, -, hrun, -⟩ :=
      run_ends (s := sourceSite) hparse .load fun w settings _ hdiagnose hsettings => by
        cases hdiagnose
        cases hdefault.symm.trans hsettings
        rw [hoverride]
        exact ready_sourceSite
    · cases hdiagnose
    · exact ⟨outcome, w, hrun⟩
  refine ⟨?_, ?_, ?_⟩
  · obtain ⟨outcome, w, hrun⟩ := hload "a.js" (by with_unfolding_all rfl)
    have hstatus : (run ["load", "a.js"] sourceSite).1.toOption = some 0 := by decide +kernel
    rcases outcome with f | status <;> rw [hrun] at hstatus <;> cases hstatus
    exact ⟨w, hrun⟩
  · obtain ⟨outcome, w, hrun⟩ := hload "b.js" (by with_unfolding_all rfl)
    have hkind : escapedKind (run ["load", "b.js"] sourceSite).1 = "UnicodeDecodeError" := by
      decide +kernel
    rcases outcome with f | status <;> rw [hrun] at hkind
    · exact ⟨f, w, hrun, hkind⟩
    · cases hkind
  · have hparse : parse ["boundary", "--file", "c.js"] =
        .ok (.boundary, { Arguments.initial with file := some "c.js" }) := by
      with_unfolding_all rfl
    obtain ⟨f, w, hdiagnose, -⟩ | ⟨-, outcome, w, -, hrun, -⟩ :=
      run_ends (s := sourceSite) hparse .boundary fun w settings hload => by cases hload
    · cases hdiagnose
    have hkind : escapedKind (run ["boundary", "--file", "c.js"] sourceSite).1 =
        "FileNotFoundError" := by decide +kernel
    rcases outcome with f | status <;> rw [hrun] at hkind
    · exact ⟨f, w, hrun, hkind⟩
    · cases hkind

end ReplDriver.Command
