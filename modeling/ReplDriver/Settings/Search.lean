import ReplDriver.Settings.Check

/-!
# The settings file of a project

The settings of a project lie in a file at its root. The nearest such file at or above a place
governs it.
-/

namespace ReplDriver.Settings

/-- A directory and all directories above it, the nearest first. -/
def ancestors (p : Path) : List Path :=
  (List.range (p.parts.length + 1)).map fun n =>
    { p with parts := p.parts.take (p.parts.length - n) }

/-- The path of the settings file in a directory. -/
def fileIn (directory : Path) : Text := Path.joinText directory.text settingsFile

/-- Where the search for a settings file begins: at the directory of a file, at any other path
itself, at the working directory where no path is given. -/
def searchStart (m : Machine) : Option Text → Path
  | none => m.cwd
  | some path => if m.isFile path then (m.absolute path).parent else m.absolute path

/-- The root of the project that a path belongs to. -/
def findRoot? (m : Machine) (path : Option Text) : Option Path :=
  (ancestors (searchStart m path)).find? fun directory => m.isFile (fileIn directory)

/-- The root of the project that settings are asked for. The path may lead to a settings file, to
another file, or to a directory. -/
def rootFor (m : Machine) (path : Option Text) : Except Failure Path :=
  let found (fault : SearchFault) : Except Failure Path :=
    match findRoot? m path with
    | some root => .ok root
    | none => .error (.settingsMissing fault)
  match path with
  | none => found .fromHere
  | some p =>
    if m.isFile p then
      if Path.baseName p == settingsFile then .ok (m.absolute p).parent else found (.fromFile p)
    else if m.isDirectory p then found (.fromDirectory p)
    else .error (.settingsMissing (.noSuchPath p))

/-- The value in the text of a settings file, an empty object if nothing is written there. -/
def parseFile (file content : Text) : Except Failure Json :=
  if Text.isBlankText content then .ok (.object [])
  else
    match Json.read content with
    | .ok (.object members) => .ok (.object members)
    | .ok v => .error (.settingsNotObject file v.kindName)
    | .error (.tooLong digits) => .error (.integerTooLong digits)
    | .error (.tooDeep innermost) => .error (.nestedTooDeep innermost)
    | .error fault => .error (.settingsNotJson file fault)

/-- The settings that govern a path. -/
def load (m : Machine) (path : Option Text) : Except Failure Settings := do
  let root ← rootFor m path
  let file := fileIn root
  let content ← m.readText file
  let members ← parseFile file content
  ofJson m.environment members (some root.text) file

/-- The settings that govern a path, the defaults if no file does. -/
def loadOrDefault (m : Machine) (path : Option Text) : Except Failure Settings :=
  match load m path with
  | .ok s => .ok s
  | .error f => if f.isMissingFile then .ok (default m.environment) else .error f

end ReplDriver.Settings
