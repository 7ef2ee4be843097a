import ReplDriver.Server.Basic

/-!
# The arguments of the command line

Which options and operands there are, and what each of them sets. A word before the options of a
command chooses the command.
-/

namespace ReplDriver.Command

/-- The commands. -/
inductive Name where
  | repl
  | eval
  | load
  | complete
  | boundary
  | transform
  | server
  | client
deriving DecidableEq, Repr

/-- The word for a command. -/
def Name.word : Name → Text
  | repl => "repl"
  | eval => "eval"
  | load => "load"
  | complete => "complete"
  | boundary => "boundary"
  | transform => "transform"
  | server => "server"
  | client => "client"

/-- All commands, in the order in which they are listed. -/
def Name.all : List Name :=
  [.repl, .eval, .load, .complete, .boundary, .transform, .server, .client]

/-- The command that a word writes. -/
def Name.ofWord? (s : Text) : Option Name := Name.all.find? fun n => n.word == s

/-- What the command line says. The operand is the code, file or text that a command is about. -/
structure Arguments where
  debug : Bool
  log : Option Text
  config : Option Text
  program : Option Text
  nodeVersion : Option Text
  modulePaths : List Text
  strict : Bool
  noTransform : Bool
  simple : Bool
  operand : Option Text
  point : Option Int
  file : Option Text
  host : Text
  portNumber : Int

/-- What an empty command line says. -/
def Arguments.initial : Arguments where
  debug := false
  log := none
  config := none
  program := none
  nodeVersion := none
  modulePaths := []
  strict := false
  noTransform := false
  simple := false
  operand := none
  point := none
  file := none
  host := Server.defaultHost
  portNumber := Server.defaultPort

/-! ## Options -/

/-- What an option does: ask for help, set something, or set something to its argument, which may
be refused. -/
inductive Effect where
  | help
  | flag (set : Arguments → Arguments)
  | argument (set : Text → Arguments → Except Text Arguments)

/-- An option: the names it goes by, and what it does. -/
structure OptionSpec where
  names : List Text
  effect : Effect

/-- How messages name an option. -/
def OptionSpec.shown (o : OptionSpec) : Text := Text.join "/" o.names

/-- Whether an option takes an argument. -/
def OptionSpec.takesArgument (o : OptionSpec) : Bool :=
  match o.effect with
  | .argument _ => true
  | _ => false

/-- An option that sets something. -/
def flag (name : Text) (set : Arguments → Arguments) : OptionSpec := ⟨[name], .flag set⟩

/-- An option with a text as argument. -/
def textOption (names : List Text) (set : Text → Arguments → Arguments) : OptionSpec :=
  ⟨names, .argument fun s a => .ok (set s a)⟩

/-- An option with an integer as argument. -/
def intOption (name : Text) (set : Int → Arguments → Arguments) : OptionSpec :=
  ⟨[name], .argument fun s a =>
    match Text.toInteger s with
    | .ok n => .ok (set n a)
    | .error _ => .error ("invalid int value: " ++ s.quoted)⟩

/-- The option that every command has. -/
def helpOption : OptionSpec := ⟨["-h".toList, "--help".toList], .help⟩

/-- The options of the commands that use a session. -/
def sessionOptions : List OptionSpec :=
  [textOption ["--config".toList] fun s a => { a with config := some s },
   textOption ["--program".toList] fun s a => { a with program := some s },
   textOption ["--node-version".toList] fun s a => { a with nodeVersion := some s },
   textOption ["--module-path".toList, "-I".toList] fun s a =>
     { a with modulePaths := a.modulePaths ++ [s] },
   flag "--strict" fun a => { a with strict := true },
   flag "--no-transform" fun a => { a with noTransform := true }]

/-- The option for a cursor offset. -/
def pointOption : OptionSpec := intOption "--point" fun n a => { a with point := some n }

/-- The options for an address. -/
def addressOptions : List OptionSpec :=
  [textOption ["--host".toList] fun s a => { a with host := s },
   intOption "--port" fun n a => { a with portNumber := n }]

/-! ## Operands -/

/-- What stands outside options: nothing, one operand, at most one, or a command, to which
everything after it belongs. -/
inductive Operand where
  | none
  | required (name : Text)
  | optional (name : Text)
  | command

/-- What may be written after a program or a command. -/
structure Grammar where
  program : Text
  options : List OptionSpec
  operand : Operand

/-- How an operand is shown. -/
def Operand.usage : Operand → Text
  | .none => []
  | .required name => " " ++ name
  | .optional name => " [" ++ name ++ "]"
  | .command => " [" ++ Text.join " | " (Name.all.map Name.word) ++ "]"

/-- How an option is shown. -/
def OptionSpec.usage (o : OptionSpec) : Text :=
  " [" ++ o.shown ++ (if o.takesArgument then " VALUE".toList else []) ++ "]"

/-- The line that shows what may be written. -/
def Grammar.usage (g : Grammar) : Text :=
  "usage: " ++ g.program ++ (g.options.map OptionSpec.usage).flatten ++ g.operand.usage

/-- The name of the program. -/
def programName : Text := "jsrepl"

/-- What may be written before a command. -/
def mainGrammar : Grammar where
  program := programName
  options := [helpOption, flag "--debug" fun a => { a with debug := true },
    textOption ["--log".toList] fun s a => { a with log := some s }]
  operand := .command

/-- What may be written after a command. -/
def Name.grammar (n : Name) : Grammar :=
  let (options, operand) : List OptionSpec × Operand := match n with
    | .repl => (sessionOptions ++ [flag "--simple" fun a => { a with simple := true }], .none)
    | .eval => (sessionOptions, .required "code")
    | .load => (sessionOptions, .required "file")
    | .complete => (sessionOptions ++ [pointOption], .required "text")
    | .boundary =>
      ([textOption ["--file".toList, "-f".toList] fun s a => { a with file := some s },
        pointOption], .optional "text")
    | .transform => ([], .optional "file")
    | .server => (sessionOptions ++ addressOptions, .none)
    | .client => (addressOptions, .none)
  ⟨programName ++ " " ++ n.word, helpOption :: options, operand⟩

end ReplDriver.Command
