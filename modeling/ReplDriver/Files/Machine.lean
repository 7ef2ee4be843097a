import ReplDriver.Failure

/-!
# The machine around the driver

The files, the working directory, the environment variables, and the shell that can be asked to run
a command. Opening a file fails with the path as it was given.
-/

namespace ReplDriver

/-- Variables and their values. -/
abbrev Environment := List (Text × Text)

namespace Environment

/-- Sets a variable: one that is there keeps its place, a new one goes last. -/
def set (env : Environment) (name value : Text) : Environment :=
  match env with
  | [] => [(name, value)]
  | (k, v) :: rest => if k = name then (k, value) :: rest else (k, v) :: set rest name value

/-- The value of a variable that is set. -/
def value? (env : Environment) (name : Text) : Option Text := env.lookup name

/-- The value of a variable that is set and not empty. -/
def nonempty? (env : Environment) (name : Text) : Option Text :=
  (env.value? name).filter fun value => !value.isEmpty

end Environment

/-- What comes of a command that the shell is asked to run. -/
inductive ShellOutcome where
  /-- There is no shell. -/
  | noShell
  /-- The exit status, negative for a signal, and what was written. -/
  | finished (status : Int) (output : Text) (errors : Option Text)

/-- The machine that the driver runs on. `commands` holds the commands that the shell was asked to
run, in order. -/
structure Machine where
  files : FileTree
  cwd : Path
  environment : Environment
  shell : List Text → ShellOutcome
  commands : List (List Text)

namespace Machine

/-- Whether a path leads to a file. -/
def isFile (m : Machine) (path : Text) : Bool := m.files.isFile m.cwd.parts path

/-- Whether a path leads to a directory. -/
def isDirectory (m : Machine) (path : Text) : Bool := m.files.isDirectory m.cwd.parts path

/-- The normal form of a path, starting from the working directory if it is relative. -/
def absolute (m : Machine) (path : Text) : Path := Path.absolute m.cwd.text path

/-- The failure to open a path. -/
def opened {α : Type} (path : Text) (r : Except FileFault α) : Except Failure α :=
  if path.contains '\x00' then .error .nullInPath
  else match r with
    | .ok a => .ok a
    | .error fault => .error (.file fault path)

/-- The text of a file. -/
def readText (m : Machine) (path : Text) : Except Failure Text := do
  let bytes ← opened path (m.files.read m.cwd.parts path)
  match Utf8.decode bytes with
  | .ok s => return Utf8.unifyNewlines s
  | .error fault => throw (.encoding fault)

/-- Replaces what a file holds. -/
def writeText (m : Machine) (path content : Text) : Except Failure Machine := do
  let (place, _) ← opened path (m.files.openForWriting m.cwd.parts path)
  return { m with files := m.files.writeAt place (Utf8.encode content) }

end Machine

end ReplDriver
