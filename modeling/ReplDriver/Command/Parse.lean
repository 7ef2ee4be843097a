import ReplDriver.Command.Arguments

/-!
# Reading the command line

Options may stand anywhere, may be shortened as long as only one option begins so, and take their
argument from the same word, after an equals sign or, for options of one letter, directly, or from
the next word. After `--` no word is an option. A negative number is no option either.

What stands where no operand is left, and options that do not exist, are refused together once all
the rest has been read.
-/

namespace ReplDriver.Command

/-- Why no command is run: help was asked for, or the command line is wrong. -/
inductive Halt where
  | help (g : Grammar)
  | misuse (g : Grammar) (message : Text)

/-! ## Words -/

/-- An option as it was written: the option, its full name, and an argument in the same word. -/
structure Match where
  option : OptionSpec
  name : Text
  attached : Option Text

/-- What a word of the command line is. -/
inductive Kind where
  | plain
  /-- The end of the options. -/
  | dashes
  | option (m : Match)
  | unknown

/-- A word of the command line. -/
structure Word where
  text : Text
  kind : Kind

/-- Whether a word is no option. -/
def Word.isPlain (w : Word) : Bool :=
  match w.kind with
  | .plain => true
  | _ => false

/-- The options under each of their names. -/
def named (options : List OptionSpec) : List (Text × OptionSpec) :=
  options.flatMap fun o => o.names.map fun n => (n, o)

/-- A text cut at its first equals sign. -/
def cutEquals (s : Text) : Text × Option Text :=
  match s.dropWhile (· != '=') with
  | _ :: r => (s.takeWhile (· != '='), some r)
  | [] => (s, none)

/-- Whether a text is the end of a number: nothing, or one newline. -/
def isNumberEnd (s : Text) : Bool := s.isEmpty || s == "\n".toList

/-- Whether a word is a negative number, with or without a fraction. -/
def isNegativeNumber (s : Text) : Bool :=
  match s with
  | '-' :: r =>
    let digits := r.takeWhile Text.isDecimal
    match r.dropWhile Text.isDecimal with
    | '.' :: fraction =>
      !(fraction.takeWhile Text.isDecimal).isEmpty &&
        isNumberEnd (fraction.dropWhile Text.isDecimal)
    | rest => !digits.isEmpty && isNumberEnd rest
  | _ => false

/-- The options that a word may be short for. -/
def candidates (options : List OptionSpec) (s : Text) : List Match :=
  match s with
  | '-' :: '-' :: _ =>
    let (beginning, argument) := cutEquals s
    (named options).filterMap fun (n, o) =>
      if beginning.isPrefixOf n then some ⟨o, n, argument⟩ else none
  | '-' :: c :: rest =>
    (named options).filterMap fun (n, o) =>
      if n == ['-', c] then some ⟨o, n, some rest⟩
      else if s.isPrefixOf n then some ⟨o, n, none⟩
      else none
  | _ => []

/-- The option that a word names in full. -/
def inFull? (options : List OptionSpec) (s : Text) : Option Match :=
  match (named options).lookup s with
  | some o => some ⟨o, s, none⟩
  | none =>
    match cutEquals s with
    | (name, some argument) => ((named options).lookup name).map (⟨·, name, some argument⟩)
    | (_, none) => none

/-- What a word before `--` is. -/
def classify (g : Grammar) (s : Text) : Except Halt Kind :=
  match s with
  | '-' :: _ :: _ =>
    match inFull? g.options s with
    | some m => .ok (.option m)
    | none =>
      match candidates g.options s with
      | [m] => .ok (.option m)
      | [] => .ok (if isNegativeNumber s || s.contains ' ' then .plain else .unknown)
      | many => .error (.misuse g ("ambiguous option: " ++ s ++ " could match " ++
          Text.join ", " (many.map (·.name))))
  | _ => .ok .plain

/-- What every word of a command line is. -/
def words (g : Grammar) : List Text → Except Halt (List Word)
  | [] => .ok []
  | s :: rest =>
    if s == "--".toList then .ok (⟨s, .dashes⟩ :: rest.map (⟨·, .plain⟩))
    else do
      let kind ← classify g s
      return ⟨s, kind⟩ :: (← words g rest)

/-! ## Options -/

/-- The refusal of an option. -/
def optionMisuse (g : Grammar) (o : OptionSpec) (why : Text) : Halt :=
  .misuse g ("argument " ++ o.shown ++ ": " ++ why)

/-- The options of one word, each with its argument. -/
structure Cluster where
  uses : List (OptionSpec × Option Text)
  /-- Whether the next word is an argument of the last option. -/
  tookNext : Bool

/-- An option at the end of its word. `next` is the next word, if it is no option. -/
def gatherLast (g : Grammar) (next : Option Text) (o : OptionSpec) : Except Halt Cluster :=
  if o.takesArgument then
    match next with
    | some s => .ok ⟨[(o, some s)], true⟩
    | none => .error (optionMisuse g o "expected one argument")
  else .ok ⟨[(o, none)], false⟩

/-- An option, known as a letter or by a long name, and what follows it in its word: the argument,
or more options that are letters. -/
def gather (g : Grammar) (next : Option Text) (o : OptionSpec) (isLetter : Bool)
    (text : Text) : Except Halt Cluster :=
  if o.takesArgument then .ok ⟨[(o, some text)], false⟩
  else
    let refused : Except Halt Cluster :=
      .error (optionMisuse g o ("ignored explicit argument " ++ text.quoted))
    match text with
    | [] => refused
    | c :: rest =>
      match if isLetter then (named g.options).lookup ['-', c] else none with
      | none => refused
      | some later => do
        let cluster ←
          if rest.isEmpty then gatherLast g next later else gather g next later true rest
        return { cluster with uses := (o, none) :: cluster.uses }

/-- The options of the word in which a match was found. -/
def Match.cluster (g : Grammar) (next : Option Text) (m : Match) : Except Halt Cluster :=
  match m.attached with
  | none => gatherLast g next m.option
  | some text => gather g next m.option (m.name.length == 2) text

/-- Lets an option take effect. -/
def applyOption (g : Grammar) (a : Arguments) (use : OptionSpec × Option Text) :
    Except Halt Arguments :=
  match use.1.effect with
  | .help => .error (.help g)
  | .flag set => .ok (set a)
  | .argument set =>
    match set (use.2.getD []) a with
    | .ok a => .ok a
    | .error why => .error (optionMisuse g use.1 why)

/-! ## Command lines -/

/-- What has been read of a command line. -/
structure Progress where
  arguments : Arguments
  /-- What is refused in the end. -/
  extras : List Text
  /-- The operand that has not been met yet. -/
  awaited : Operand
  /-- The command and what belongs to it. -/
  command : Option (Text × List Text)

namespace Progress

/-- Leaves a word to be refused. -/
def refuse (p : Progress) (s : Text) : Progress := { p with extras := p.extras ++ [s] }

/-- Takes a word as the operand. -/
def take (p : Progress) (s : Text) : Progress :=
  { p with arguments := { p.arguments with operand := some s }, awaited := .none }

end Progress

/-- Whether words begin with the end of the options. -/
def startsWithDashes : List Word → Bool
  | ⟨_, .dashes⟩ :: _ => true
  | _ => false

/-- What a word does that is no option, given the words after it. The end of the options next to an
operand belongs to the operand. -/
def readOperand (p : Progress) (w : Word) (rest : List Word) : Progress × List Word :=
  match p.awaited, w.kind with
  | .none, _ => (p.refuse w.text, rest)
  | .required _, .plain | .optional _, .plain =>
    (p.take w.text, if startsWithDashes rest then rest.drop 1 else rest)
  | .command, .plain =>
    ({ p with awaited := .none, command := some (w.text, rest.map (·.text)) }, [])
  | .required _, _ =>
    match rest with
    | v :: after => (p.take v.text, after)
    | [] => (p.refuse w.text, [])
  | .optional _, _ =>
    match rest with
    | v :: after => (p.take v.text, after)
    | [] => ({ p with awaited := .none }, [])
  | .command, _ =>
    match rest with
    | _ :: _ => ({ p with awaited := .none, command := some (w.text, rest.map (·.text)) }, [])
    | [] => (p.refuse w.text, [])

theorem readOperand_length (p : Progress) (w : Word) (rest : List Word) :
    (readOperand p w rest).2.length ≤ rest.length := by
  unfold readOperand
  split
  · simp
  · simp only; split <;> simp
  · simp only; split <;> simp
  · simp
  · split <;> simp
  · split <;> simp
  · split <;> simp

/-- Reads all words. -/
def readWords (g : Grammar) (p : Progress) (ws : List Word) : Except Halt Progress :=
  match ws with
  | [] => .ok p
  | w :: rest =>
    match w.kind with
    | .unknown => readWords g (p.refuse w.text) rest
    | .option m => do
      let next := (rest.head?.filter Word.isPlain).map (·.text)
      let cluster ← m.cluster g next
      let arguments ← cluster.uses.foldlM (applyOption g) p.arguments
      readWords g { p with arguments } (if cluster.tookNext then rest.drop 1 else rest)
    | _ => readWords g (readOperand p w rest).1 (readOperand p w rest).2
termination_by ws.length
decreasing_by
  · simp
  · have hdrop : (rest.drop 1).length ≤ rest.length := by
      rw [List.length_drop]
      exact Nat.sub_le _ _
    rw [List.length_cons]
    split
    · exact Nat.lt_succ_of_le hdrop
    · exact Nat.lt_succ_self _
  · simpa using Nat.lt_succ_of_le (readOperand_length p w rest)

/-- Reads what follows a program or command; an operand that is required has to be there. -/
def readLine (g : Grammar) (a : Arguments) (line : List Text) : Except Halt Progress := do
  let p ← readWords g ⟨a, [], g.operand, none⟩ (← words g line)
  match p.awaited with
  | .required name =>
    throw (.misuse g ("the following arguments are required: " ++ name))
  | _ => return p

/-- The refusal of a word that is no command. -/
def unknownCommand (word : Text) : Halt :=
  .misuse mainGrammar ("argument subcommand: invalid choice: " ++ word.quoted ++ " (choose from " ++
    Text.join ", " (Name.all.map fun n => n.word.quoted) ++ ")")

/-- Reads a command line. Without a command the interactive frontend is meant. -/
def parse (line : List Text) : Except Halt (Name × Arguments) := do
  let p ← readLine mainGrammar .initial line
  let (name, a, extras) ← match p.command with
    | none => pure (Name.repl, p.arguments, p.extras)
    | some (word, rest) =>
      match Name.ofWord? word with
      | none => throw (unknownCommand word)
      | some name => do
        let q ← readLine name.grammar p.arguments rest
        pure (name, q.arguments, p.extras ++ q.extras)
  if extras.isEmpty then return (name, a)
  else throw (.misuse mainGrammar ("unrecognized arguments: " ++ Text.join " " extras))

end ReplDriver.Command
