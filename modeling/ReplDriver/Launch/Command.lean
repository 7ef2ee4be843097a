import ReplDriver.Settings.Basic

/-!
# The command that starts a REPL

The program runs a startup script that makes a REPL on the global context. Previews are off, so
that no dimmed result is drawn under the input after a keystroke.
-/

namespace ReplDriver.Launch

/-- The script that starts the REPL. -/
def startupScript (prompt mode : Text) : Text :=
  "require('repl').start(\x7bprompt: " ++ Json.renderText prompt ++
    ", useGlobal: true, preview: false, replMode: require('repl')['REPL_MODE_" ++
    Text.upper mode ++ "']\x7d)"

/-- The program and its arguments. -/
def arguments (executable : Text) (s : Settings) : List Text :=
  executable :: s.programArguments ++ ["-e".toList, startupScript s.prompt s.mode]

/-- The environment of the process: the module paths follow those that are there already. -/
def environment (modulePaths : List Text) (base : Environment) : Environment :=
  if modulePaths.isEmpty then base
  else
    let before := (base.nonempty? "NODE_PATH").toList
    base.set "NODE_PATH" (Text.join ":" (before ++ modulePaths))

end ReplDriver.Launch
