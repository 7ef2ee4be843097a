import ReplDriver.Settings.Basic

/-!
# Settings from JSON

Every field is optional and is checked on its own, in the order of the record. The first field that
is wrong is reported.
-/

namespace ReplDriver.Settings

/-- The text of a value, if it is a text. -/
def text? : Json → Option Text
  | .text s => some s
  | _ => none

/-- A text that is not empty. -/
def nonemptyText? (v : Json) : Option Text := (text? v).filter fun s => !s.isEmpty

/-- A list of texts. -/
def texts? : Json → Option (List Text)
  | .list items => items.mapM text?
  | _ => none

/-- A truth value. -/
def bool? : Json → Option Bool
  | .bool b => some b
  | _ => none

/-- The version of the program: a text, or null for none. -/
def checkVersion : Json → Except SettingFault (Option Text)
  | .null => .ok none
  | .text s => .ok (some s)
  | v => .error (.nodeVersion v.kindName)

/-- One of the two modes. -/
def checkMode (v : Json) : Except SettingFault Text :=
  match v with
  | .text s => if s == "sloppy".toList || s == "strict".toList then .ok s else .error (.mode v)
  | _ => .error (.mode v)

/-- Whether a value is a number that is not at most zero, as is one that has no order. -/
def isInterval : Json → Bool
  | .int n => 0 < n
  | .double x => x == .nan || x.isPositive
  | _ => false

/-- The double of an interval; an integer may be beyond all doubles. -/
def intervalValue : Json → Except Failure Double
  | .int n => match Double.ofInt? n with
    | some x => .ok x
    | none => .error .integerTooLarge
  | .double x => .ok x
  | v => .error (.wrongType (.notDouble v.kindName))

/-- How a fault is told; one that shows an integer of too many digits is not. -/
def refusal (source : Text) : SettingFault → Failure
  | .mode found => if found.isDisplayable then .setting source (.mode found) else .integerNotShown
  | fault => .setting source fault

/-- The settings in a JSON object, what is missing being default. `source` is named in the failure
of a check. -/
def ofJson (env : Environment) (members : Json) (root : Option Text) (source : Text) :
    Except Failure Settings := do
  let base := default env
  let field (name : Text) (missing : Json) : Json := (members.member? name).getD missing
  let require {α : Type} (fault : SettingFault) : Option α → Except Failure α
    | some a => .ok a
    | none => .error (refusal source fault)
  let checked {α : Type} : Except SettingFault α → Except Failure α
    | .ok a => .ok a
    | .error fault => .error (refusal source fault)
  let program ← require .program (nonemptyText? (field "program" (.text base.program)))
  let programArguments ← require .programArguments (texts? (field "program-arguments" (.list [])))
  let nodeVersion ← checked (checkVersion (field "node-version" .null))
  let prompt ← require .prompt (nonemptyText? (field "prompt" (.text base.prompt)))
  let mode ← checked (checkMode (field "repl-mode" (.text base.mode)))
  let modulePaths ← require .modulePaths (texts? (field "module-paths" (.list [])))
  let transformModules ←
    require .transformModules (bool? (field "transform-modules" (.bool base.transformModules)))
  let interval := field "poll-interval" (.double base.pollInterval)
  let interval ← require .pollInterval (if isInterval interval then some interval else none)
  let sessionName ←
    require .sessionName (nonemptyText? (field "session-name" (.text base.sessionName)))
  let debug ← require .debug (bool? (field "debug" (.bool base.debug)))
  let pollInterval ← intervalValue interval
  return {
    program, programArguments, nodeVersion, prompt, mode, modulePaths, transformModules
    pollInterval, sessionName, debug, projectRoot := root }

end ReplDriver.Settings
