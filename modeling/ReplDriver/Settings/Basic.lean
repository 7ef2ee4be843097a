import ReplDriver.Files.Machine
import ReplDriver.Text.LetterCase

/-!
# Settings

Everything that is needed to start a REPL and to talk to it. Settings come from a project's file,
from the command line, or are the defaults.
-/

namespace ReplDriver

/-- The settings of one REPL session. -/
structure Settings where
  /-- The program to run where no version is asked for. -/
  program : Text
  /-- Arguments before the startup script. -/
  programArguments : List Text
  /-- The version to look up when a session starts. -/
  nodeVersion : Option Text
  /-- The prompt that the REPL is given, which also marks the end of a reply. -/
  prompt : Text
  mode : Text
  /-- Directories in which the REPL looks for modules. -/
  modulePaths : List Text
  /-- Whether modules are turned into scripts before they are sent. -/
  transformModules : Bool
  /-- Seconds of silence after which a reply is looked at. -/
  pollInterval : Double
  sessionName : Text
  debug : Bool
  /-- The directory of the settings file, if there is one. -/
  projectRoot : Option Text

namespace Settings

/-- The mode that the environment asks for, sloppy if it asks for none. -/
def defaultMode (env : Environment) : Text :=
  Text.lower ((env.nonempty? "NODE_REPL_MODE").getD "sloppy")

/-- The settings without any file. -/
def default (env : Environment) : Settings where
  program := "node"
  programArguments := []
  nodeVersion := none
  prompt := "> "
  mode := defaultMode env
  modulePaths := []
  transformModules := true
  pollInterval := Double.nearest (mkRat 1 20)
  sessionName := "javascript"
  debug := false
  projectRoot := none

/-- The module paths from the root of the project, or from the working directory. -/
def absoluteModulePaths (s : Settings) (cwd : Path) : List Text :=
  let base := (s.projectRoot.filter fun r => !r.isEmpty).getD cwd.text
  s.modulePaths.map fun p => (Path.ofText (Path.joinText base p)).text

/-- Adds a module path that is not there yet. -/
def addModulePath (s : Settings) (path : Text) : Settings :=
  if s.modulePaths.contains path then s else { s with modulePaths := s.modulePaths ++ [path] }

/-- Takes away the first occurrence of a module path. -/
def removeModulePath (s : Settings) (path : Text) : Settings :=
  { s with modulePaths := s.modulePaths.erase path }

/-- How the program of a session is found. -/
inductive Executable where
  | literal (path : Text)
  | version (version : Text)

/-- A version that is asked for goes before the program. -/
def executable (s : Settings) : Executable :=
  match s.nodeVersion with
  | some v => if v.isEmpty then .literal s.program else .version v
  | none => .literal s.program

end Settings

end ReplDriver
