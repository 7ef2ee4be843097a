import ReplDriver.Command.Run

/-!
# The command line program

The arguments, the environment and the input are handed to `Command.run`, and what it printed is
printed. The program itself opens no files, no processes and no network: commands that need them
report that there are none.
-/

namespace ReplDriver.Main

/-- The variables that commands look at. -/
def variableNames : List String :=
  ["HOME", "JSREPL_DEBUG", "NODE_PATH", "NODE_REPL_MODE", "NVM_DIR"]

/-- The environment, as far as commands look at it. -/
def readEnvironment : IO Environment := do
  let values ← variableNames.mapM fun name => do
    return (← IO.getEnv name).map fun value => (name.toList, value.toList)
  return values.filterMap id

/-- What is left of the input, up to its end. -/
partial def readBytes (input : IO.FS.Stream) (seen : List UInt8) : IO (List UInt8) := do
  let bytes ← input.read 4096
  if bytes.isEmpty then return seen else readBytes input (seen ++ bytes.toList)

/-- The lines that some bytes hold, each with its line end. They are decoded before the first line
is read. -/
def inputLines (bytes : List UInt8) : List InputLine :=
  match Utf8.decode bytes with
  | .error fault => [.undecodable fault]
  | .ok s =>
    let pieces := Text.splitOn '\n' s
    let last := pieces.getLast?.filter fun piece => !piece.isEmpty
    pieces.dropLast.map (fun piece => .text (piece ++ "\n")) ++ last.toList.map .text

/-- Why no process and no connection is there. -/
def nothingThere : Text := "not available to this program"

/-- The variable that switches diagnostics on. -/
def debugVariable : Text := "JSREPL_DEBUG"

/-- The world and the network that the program has. -/
def site (environment : Environment) (cwd : Path) (console : Console) : Command.Site where
  world :=
    { World.initial ⟨⟨[(cwd.parts, .directory)]⟩, cwd, environment, fun _ => .noShell, []⟩
        console (fun _ _ => .refused nothingThere) .toDouble with
      journal := ⟨(environment.nonempty? debugVariable).isSome, none⟩ }
  network :=
    { peer := [], clients := [], ending := .failed nothingThere, identifier := Text.ofNat
      refusal := some nothingThere, packets := [], sent := [], calls := [] }

/-- Whether a command line reads the input. -/
def readsInput (line : List Text) : Bool :=
  match Command.parse line with
  | .ok (name, a) => Command.readsInput name a
  | .error _ => false

/-- Runs a command line; the answer is the status to end with. -/
def run (line : List Text) : IO UInt32 := do
  let input ← IO.getStdin
  let bytes ← if readsInput line then readBytes input [] else pure []
  let console := Console.withInput (inputLines bytes) (← input.isTty) false
  let cwd := Path.ofText (((← IO.getEnv "PWD").getD "/").toList)
  let (outcome, after) := (Command.run line).exec (site (← readEnvironment) cwd console)
  IO.print (String.ofList after.world.console.output)
  IO.eprint (String.ofList after.world.console.errors)
  match outcome with
  | .ok status => return status.toUInt32
  | .error f => do
    IO.eprintln (String.ofList (f.kind ++ ": " ++ f.message))
    return 1

end ReplDriver.Main

/-- The program. -/
def main (arguments : List String) : IO UInt32 :=
  ReplDriver.Main.run (arguments.map (·.toList))
