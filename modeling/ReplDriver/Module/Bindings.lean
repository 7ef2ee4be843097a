import ReplDriver.Json.Writer
import ReplDriver.Text.Word

/-!
# Bindings of an import statement

An import statement binds names of a module: its default export, the module as a whole, and named
exports. `Import.ofClause?` reads the text between `import` and `from`, and `Import.render` writes
the dynamic import that copies every binding to the global object.

A named export that is missing is looked up on the default export, where modules of the older kind
have all their exports.
-/

namespace ReplDriver.Module

open Text (isBlank isIdent isIdentStart)

/-- One named export that is bound, under its own name or another. A binding of a type has no
value at run time. -/
structure Named where
  name : Text
  renamed : Option Text
  typeOnly : Bool
deriving DecidableEq, Repr

/-- The name that is bound. -/
def Named.localName (b : Named) : Text := b.renamed.getD b.name

/-- The bindings of one import statement. -/
structure Import where
  path : Text
  whole : Option Text
  default : Option Text
  named : List Named
  typeOnly : Bool
deriving DecidableEq, Repr

/-- An import for its effects alone. -/
def Import.bare (path : Text) : Import := ⟨path, none, none, [], false⟩

/-! ## Reading a clause -/

/-- Whether a clause imports types only: `type`, blanks, and then anything that bindings begin
with, other than the word `from`. -/
def importsTypes (clause : Text) : Bool :=
  match Text.after? "type" clause with
  | none => false
  | some r =>
    let s := r.dropWhile isBlank
    let isFrom := match Text.after? "from" s with
      | some t => Text.atWordEnd t
      | none => false
    s.length < r.length && !isFrom && s.head?.any fun c => c == '\x7b' || c == '*' || isIdentStart c

/-- One entry between braces, given by its words. A leading `type` marks a type wherever an export
name still follows it. -/
def Named.ofWords? (words : List Text) : Option Named :=
  match words with
  | [a] => if isIdent a then some ⟨a, none, false⟩ else none
  | [a, b] => if a == "type" && isIdent b then some ⟨b, none, true⟩ else none
  | [a, b, c] =>
    if isIdent a && b == "as" && isIdent c then some ⟨a, some c, false⟩ else none
  | [a, b, c, d] =>
    if a == "type" && isIdent b && c == "as" && isIdent d then some ⟨b, some d, true⟩ else none
  | _ => none

/-- The entries between braces; empty ones are skipped. -/
def namedEntries? (content : Text) : Option (List Named) :=
  ((Text.splitOn ',' content).map Text.words).filter (· ≠ []) |>.mapM Named.ofWords?

/-- The first pair of braces without a brace inside: the text before, between and after it. -/
def braces? : Text → Option (Text × Text × Text)
  | [] => none
  | c :: r =>
    let content := r.takeWhile fun d => d != '\x7b' && d != '\x7d'
    if c == '\x7b' && (r.drop content.length).head? == some '\x7d' then
      some ([], content, r.drop (content.length + 1))
    else (braces? r).map fun (before, inside, after) => (c :: before, inside, after)

/-- Adds one part of a clause, given by its words: the whole module or the default export. -/
def Import.addPart? (i : Import) (words : List Text) : Option Import :=
  match words with
  | [] => some i
  | [a] => if isIdent a then some { i with default := some a } else none
  | [a, b] => if a == "*as" && isIdent b then some { i with whole := some b } else none
  | [a, b, c] =>
    if a == "*" && b == "as" && isIdent c then some { i with whole := some c } else none
  | _ => none

/-- The bindings that a clause writes, or none if it has another shape. -/
def Import.ofClause? (clause path : Text) : Option Import := do
  let clause := Text.trim clause
  let i := Import.bare path
  if clause.isEmpty then return i
  if importsTypes clause then return { i with typeOnly := true }
  let (named, rest) ← match braces? clause with
    | some (before, inside, after) => (namedEntries? inside).map (·, before ++ after)
    | none => some ([], clause)
  ((Text.splitOn ',' rest).map Text.words).foldlM Import.addPart? { i with named }

/-! ## Writing the dynamic import -/

/-- The statement that copies one named export of `m` to `g`. -/
def Named.assignment (b : Named) : Text :=
  "g." ++ b.localName ++ " = m." ++ b.name ++ " ?? m.default?." ++ b.name ++ ";"

/-- The statement that copies the default export of `m` to `g`. -/
def defaultAssignment (name : Text) : Text := "g." ++ name ++ " = m.default;"

/-- The statement that makes the whole module a member of `g`. -/
def wholeAssignment (name : Text) : Text := "g." ++ name ++ " = m;"

/-- One statement for each binding that has a value at run time. -/
def Import.assignments (i : Import) : List Text :=
  (i.default.map defaultAssignment).toList ++ (i.whole.map wholeAssignment).toList ++
    (i.named.filter fun b => !b.typeOnly).map Named.assignment

/-- The dynamic import that makes the bindings. -/
def Import.render (i : Import) (attributes : Option Text) : Text :=
  let body : Text := match i.assignments with
    | [] => " "
    | lines => " " ++ Text.join " " lines ++ " "
  let options : Text := match attributes with
    | some a => if a.isEmpty then [] else ", \x7b with: " ++ a ++ " \x7d"
    | none => []
  "((g, m) => \x7b" ++ body ++ "\x7d)(globalThis, await import(" ++ Json.renderText i.path ++
    options ++ "));"

end ReplDriver.Module
