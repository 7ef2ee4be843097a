import ReplDriver.Files.Tree
import ReplDriver.Json.Reader
import ReplDriver.Json.Writer
import ReplDriver.Text.Utf8

/-!
# Failures

An operation that is given up tells why by a `Failure`. What the evaluated code itself reports is
never a failure; it is part of the captured output. `Failure.message` gives the words of a failure,
`Failure.kind` the kind under which editors are told of it, and `Failure.family` says which callers
answer it.
-/

namespace ReplDriver

/-- What is wrong with the value of one setting. -/
inductive SettingFault where
  | program
  | programArguments
  | nodeVersion (kind : Text)
  | prompt
  | mode (found : Json)
  | modulePaths
  | transformModules
  | pollInterval
  | sessionName
  | debug

/-- Where no settings file was found. -/
inductive SearchFault where
  | fromHere
  | fromFile (path : Text)
  | fromDirectory (path : Text)
  | noSuchPath (path : Text)

/-- The name of the file that holds a project's settings. -/
def settingsFile : Text := ".jsrepl.json"

/-- The words for a fault of one setting. -/
def SettingFault.message : SettingFault → Text
  | .program => "program must be a non-empty string"
  | .programArguments => "program-arguments must be a list of strings"
  | .nodeVersion kind => "node-version must be a string, got " ++ kind
  | .prompt => "prompt must be a non-empty string"
  | .mode found =>
    "repl-mode must be \x22sloppy\x22 or \x22strict\x22, got " ++ found.display
  | .modulePaths => "module-paths must be a list of strings"
  | .transformModules => "transform-modules must be true or false"
  | .pollInterval => "poll-interval must be a positive number"
  | .sessionName => "session-name must be a non-empty string"
  | .debug => "debug must be true or false"

/-- The words for a search that found no settings file. -/
def SearchFault.message : SearchFault → Text
  | .fromHere =>
    "Could not find " ++ settingsFile ++ " in current directory or any parent directory"
  | .fromFile path => "Could not find " ++ settingsFile ++ " starting from " ++ path
  | .fromDirectory path =>
    "Could not find " ++ settingsFile ++ " in " ++ path ++ " or any parent directory"
  | .noSuchPath path => "Path does not exist: " ++ path

/-- The number and words that the system has for a fault. -/
def FileFault.words : FileFault → Nat × Text
  | .missing => (2, "No such file or directory")
  | .notDirectory => (20, "Not a directory")
  | .isDirectory => (21, "Is a directory")
  | .nameTooLong => (36, "File name too long")

/-- The words for a file that is not opened, the path between quotes. -/
def FileFault.message (fault : FileFault) (path : Text) : Text :=
  let (number, words) := fault.words
  "[Errno " ++ Text.ofNat number ++ "] " ++ words ++ ": " ++ path.quoted

/-- What was done with a value whose kind does not allow it. Kinds are given by the names that
messages show them under. -/
inductive TypeFault where
  /-- It was searched for a pattern. -/
  | notText (kind : Text)
  | notPath (kind : Text)
  | notInteger (kind : Text)
  | notDouble (kind : Text)
  | noLength (kind : Text)
  /-- It was cut, or asked for a member. -/
  | noParts (kind : Text)
  | listIndex (kind : Text)
  | textIndex (kind : Text)
  /-- It was looked up in a table. -/
  | noKey (kind : Text)
  /-- A text was searched for it. -/
  | notPartOfText (kind : Text)
  /-- It was searched for a member. -/
  | noMembers (kind : Text)
  /-- A value of another kind was appended to it. -/
  | notAppended (kind other : Text)
  | notAdded (left right : Text)

/-- The words for a value of the wrong kind. -/
def TypeFault.message : TypeFault → Text
  | .notText kind => "expected string or bytes-like object, got '" ++ kind ++ "'"
  | .notPath kind => "expected str, bytes or os.PathLike object, not " ++ kind
  | .notInteger kind =>
    "int() argument must be a string, a bytes-like object or a real number, not '" ++ kind ++ "'"
  | .notDouble kind => "float() argument must be a string or a real number, not '" ++ kind ++ "'"
  | .noLength kind => "object of type '" ++ kind ++ "' has no len()"
  | .noParts kind => "'" ++ kind ++ "' object is not subscriptable"
  | .listIndex kind => "list indices must be integers or slices, not " ++ kind
  | .textIndex kind => "string indices must be integers, not '" ++ kind ++ "'"
  | .noKey kind => "unhashable type: '" ++ kind ++ "'"
  | .notPartOfText kind => "'in <string>' requires string as left operand, not " ++ kind
  | .noMembers kind => "argument of type '" ++ kind ++ "' is not iterable"
  | .notAppended kind other =>
    "can only concatenate " ++ kind ++ " (not \x22" ++ other ++ "\x22) to " ++ kind
  | .notAdded left right =>
    "unsupported operand type(s) for +: '" ++ left ++ "' and '" ++ right ++ "'"

/-- Why an operation was given up. -/
inductive Failure where
  /-- No expression ends at an offset. -/
  | noExpression (point : Int)
  /-- The program of a session cannot be found or started. -/
  | executable (why : Text)
  /-- A second exchange was begun on a session. -/
  | exchangeOpen (session : Text)
  | file (fault : FileFault) (path : Text)
  | settingsMissing (fault : SearchFault)
  /-- The device behind a process or a connection refused. -/
  | device (why : Text)
  | encoding (fault : Utf8.Failure)
  | json (fault : Json.ReadFailure)
  | pointOutside (point : Int) (length : Nat)
  | setting (source : Text) (fault : SettingFault)
  | settingsNotObject (path found : Text)
  | settingsNotJson (path : Text) (fault : Json.ReadFailure)
  /-- A text that should write an integer. -/
  | notInteger (shown : Text)
  | integerTooLong (digits : Nat)
  /-- An integer of too many digits should be shown. -/
  | integerNotShown
  | nestedTooDeep (innermost : Json.Container)
  | nanToInteger
  /-- A path that holds the character NUL. -/
  | nullInPath
  | unknownMode (mode : Text)
  /-- No arguments to start a process with. -/
  | noProgram
  | missingKey (key : Json)
  /-- A value of a kind that the operation cannot take. -/
  | wrongType (fault : TypeFault)
  /-- A value whose kind has no operation of that name. -/
  | noSuchMember (kind name : Text)
  | infinityToInteger
  | integerTooLarge
  /-- Given up for any other reason, in its own words. -/
  | stopped (why : Text)
  /-- The person at the keyboard interrupted. -/
  | interrupted
  /-- The wait can never end: the process stays silent for good. -/
  | blocked

namespace Failure

/-! ## Families -/

/-- Callers answer failures by family. Interruptions and endless waits, the family `signal`, are
answered by none but those that name them. -/
inductive Family where
  | driver
  | system
  | value
  | key
  | type
  | member
  | overflow
  | stopped
  | signal
deriving DecidableEq, Repr

/-- The family of a failure. -/
def family : Failure → Family
  | noExpression _ | executable _ | exchangeOpen _ => .driver
  | file _ _ | settingsMissing _ | device _ => .system
  | encoding _ | json _ | pointOutside _ _ | setting _ _ | settingsNotObject _ _
  | settingsNotJson _ _ | notInteger _ | integerTooLong _ | integerNotShown | nanToInteger
  | nullInPath | unknownMode _ | noProgram => .value
  | missingKey _ => .key
  | wrongType _ => .type
  | noSuchMember _ _ => .member
  | infinityToInteger | integerTooLarge => .overflow
  | stopped _ | nestedTooDeep _ => .stopped
  | interrupted | blocked => .signal

/-! ## Words -/

/-- The words of a failure. -/
def message : Failure → Text
  | noExpression point => "no expression ends at offset " ++ Text.ofInt point
  | executable why => why
  | exchangeOpen session => "session " ++ session.quoted ++ " already has an open exchange"
  | file fault path => fault.message path
  | settingsMissing fault => fault.message
  | device why => why
  | encoding fault => fault.message
  | json fault => fault.message
  | pointOutside point length =>
    "point " ++ Text.ofInt point ++ " is outside the text (length " ++ Text.ofNat length ++ ")"
  | setting source fault => source ++ ": " ++ fault.message
  | settingsNotObject path found => path ++ " must contain an object, got " ++ found
  | settingsNotJson path fault => "Failed to parse " ++ path ++ ": " ++ fault.message
  | notInteger shown => "invalid literal for int() with base 10: " ++ shown
  | nestedTooDeep innermost => (Json.ReadFailure.tooDeep innermost).message
  | integerTooLong digits => (Json.ReadFailure.tooLong digits).message
  | integerNotShown =>
    "Exceeds the limit (" ++ Text.ofNat Text.digitLimit ++
      " digits) for integer string conversion; use sys.set_int_max_str_digits() to increase the " ++
      "limit"
  | nanToInteger => "cannot convert float NaN to integer"
  | nullInPath => "embedded null byte"
  | unknownMode mode => "Unknown REPL mode: " ++ mode
  | noProgram => "argv must name an executable"
  | missingKey key => key.display
  | wrongType fault => fault.message
  | noSuchMember kind name => "'" ++ kind ++ "' object has no attribute '" ++ name ++ "'"
  | infinityToInteger => "cannot convert float infinity to integer"
  | integerTooLarge => "int too large to convert to float"
  | stopped why => why
  | interrupted => ""
  | blocked => "no reply will ever come"

/-- The kind of a failure, as editors are told it. -/
def kind : Failure → Text
  | noExpression _ => "NoExpressionFound"
  | executable _ => "ExecutableNotFound"
  | exchangeOpen _ => "ExchangeInProgress"
  | file .missing _ | settingsMissing _ => "FileNotFoundError"
  | file .isDirectory _ => "IsADirectoryError"
  | file .notDirectory _ => "NotADirectoryError"
  | file .nameTooLong _ | device _ => "OSError"
  | encoding _ => "UnicodeDecodeError"
  | json (.at _ _ _ _) => "JSONDecodeError"
  | json (.tooDeep _) | nestedTooDeep _ => "RecursionError"
  | json (.tooLong _) | pointOutside _ _ | setting _ _ | settingsNotObject _ _
  | settingsNotJson _ _ | notInteger _ | integerTooLong _ | integerNotShown | nanToInteger
  | nullInPath | unknownMode _ | noProgram => "ValueError"
  | missingKey _ => "KeyError"
  | wrongType _ => "TypeError"
  | noSuchMember _ _ => "AttributeError"
  | infinityToInteger | integerTooLarge => "OverflowError"
  | stopped _ => "RuntimeError"
  | interrupted => "KeyboardInterrupt"
  | blocked => "Blocked"

/-- Whether this is a failure to find a file. -/
def isMissingFile : Failure → Bool
  | file .missing _ | settingsMissing _ => true
  | _ => false

end Failure

/-! ## Operations -/

/-- An operation on a state either gives a value or fails; the state it leaves is there in both
cases. -/
abbrev Op (σ α : Type) := ExceptT Failure (StateM σ) α

namespace Op

variable {σ τ α : Type}

/-- The operation as a function: the outcome and the state it leaves. -/
def exec (act : Op σ α) (s : σ) : Except Failure α × σ := act s

/-- An outcome as an operation that touches nothing. -/
def ofExcept (outcome : Except Failure α) : Op σ α := fun s => (outcome, s)

/-- An operation on a part of the state. -/
def zoom (get : σ → τ) (set : τ → σ → σ) (act : Op τ α) : Op σ α := fun s =>
  let (outcome, part) := act (get s)
  (outcome, set part s)

/-- The outcome of an operation as a value. -/
def attempt (act : Op σ α) : Op σ (Except Failure α) := fun s =>
  let (outcome, s') := act s
  (.ok outcome, s')

/-- An operation followed by another that is run however the first one ends. -/
def ensuring (act : Op σ α) (after : Op σ Unit) : Op σ α := fun s =>
  let (outcome, s') := act s
  match after s' with
  | (.ok _, s'') => (outcome, s'')
  | (.error e, s'') => (.error e, s'')

/-- An operation with an answer to some of its failures. -/
def answering (act : Op σ α) (answer : Failure → Option (Op σ α)) : Op σ α := fun s =>
  match act s with
  | (.ok a, s') => (.ok a, s')
  | (.error e, s') => match answer e with
    | some other => other s'
    | none => (.error e, s')

@[simp] theorem ensuring_pure (act : Op σ α) (s : σ) :
    ensuring act (pure ()) s = act s := by
  simp only [ensuring]
  rcases act s with ⟨_ | _, _⟩ <;> rfl

end Op

end ReplDriver
