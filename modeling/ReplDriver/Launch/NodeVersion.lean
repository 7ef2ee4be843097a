import ReplDriver.Settings.Basic

/-!
# Finding a version of the program

A version manager is asked, through the shell, which program belongs to a version.
-/

namespace ReplDriver.Launch

/-! ## The fate of a command -/

/-- The names of the signals that end a process. -/
def signalNames : List (Nat × String) :=
  [(1, "HUP"), (2, "INT"), (3, "QUIT"), (4, "ILL"), (5, "TRAP"), (6, "ABRT"), (7, "BUS"),
   (8, "FPE"), (9, "KILL"), (10, "USR1"), (11, "SEGV"), (12, "USR2"), (13, "PIPE"), (14, "ALRM"),
   (15, "TERM"), (16, "STKFLT"), (17, "CHLD"), (18, "CONT"), (19, "STOP"), (20, "TSTP"),
   (21, "TTIN"), (22, "TTOU"), (23, "URG"), (24, "XCPU"), (25, "XFSZ"), (26, "VTALRM"),
   (27, "PROF"), (28, "WINCH"), (29, "IO"), (30, "PWR"), (31, "SYS"), (34, "RTMIN"),
   (64, "RTMAX")]

/-- How a command ended that did not end well. -/
def statusMessage (command : List Text) (status : Int) : Text :=
  let shown := "Command '" ++ (Json.texts command).display ++ "' "
  if status < 0 then
    let signal := status.natAbs
    match signalNames.lookup signal with
    | some name =>
      shown ++ "died with <Signals.SIG" ++ name ++ ": " ++ Text.ofNat signal ++ ">."
    | none => shown ++ "died with unknown signal " ++ Text.ofNat signal ++ "."
  else shown ++ "returned non-zero exit status " ++ Text.ofInt status ++ "."

/-! ## The version manager -/

/-- The directory of the version manager: the one given, the one the environment names, or the one
in the home directory. -/
def managerDirectory (given : Option Text) (env : Environment) : Text :=
  ((given.filter fun d => !d.isEmpty) <|> env.nonempty? "NVM_DIR").getD
    (match env.value? "HOME" with
      | some home => Text.dropRightWhile (· == '/') home ++ "/.nvm"
      | none => "~/.nvm")

/-- The characters that end a line. -/
def endsLine (c : Char) : Bool :=
  (0x0a ≤ c.toNat && c.toNat ≤ 0x0d) || (0x1c ≤ c.toNat && c.toNat ≤ 0x1e) || c.toNat == 0x85 ||
    c.toNat == 0x2028 || c.toNat == 0x2029

/-- The last line that is not blank, if there is one. -/
def lastLine? (s : Text) : Option Text :=
  let s := Text.trim s
  if s.isEmpty then none else some (Text.trim (Text.takeRightWhile (fun c => !endsLine c) s))

/-- The command that asks for the program of a version. -/
def versionCommand (script version : Text) : List Text :=
  ["bash", "-c",
    ". " ++ Text.shellWord script ++ " >/dev/null && nvm which " ++ Text.shellWord version]

/-- The program of a version. -/
def findVersion (version : Text) (directory : Option Text) : Op Machine Text := do
  let m ← get
  let script := Path.joinText (managerDirectory directory m.environment) "nvm.sh"
  if !m.isFile script then throw (.executable ("nvm not found at " ++ script))
  let command := versionCommand script version
  set { m with commands := m.commands ++ [command] }
  match m.shell command with
  | .noShell => throw (.executable "bash is required to query nvm")
  | .finished status output errors =>
    if status == 0 then
      match lastLine? output with
      | some path => return path
      | none => throw (.executable ("nvm returned no path for node " ++ version))
    else
      let why := match errors.filter fun e => !e.isEmpty with
        | some e => Text.trim e
        | none => statusMessage command status
      throw (.executable ("nvm could not resolve node " ++ version ++ ": " ++ why))

/-- The answer of a resolver, which has to name something. -/
def named (path : Option Text) : Except Failure Text :=
  match path.filter fun p => !p.isEmpty with
  | some p => .ok p
  | none => .error (.executable "executable resolver returned nothing")

/-- The program that the settings ask for. -/
def resolve : Settings.Executable → Op Machine Text
  | .literal path => return path
  | .version v => do Op.ofExcept (named (some (← findVersion v none)))

end ReplDriver.Launch
