import ReplDriver.Text.Word

/-!
# The text under completion

What is completed is the token that ends at the cursor: a chain of identifiers and dots, or, inside
the quotes of a module path, the part of the path before the cursor. One line end directly before
the cursor is passed over.
-/

namespace ReplDriver.Completion

open Text (isBlank)

/-- A token, the slice of the text that it is, and whether it is part of a module path. -/
structure Context where
  token : Text
  start : Int
  stop : Int
  inModulePath : Bool
deriving DecidableEq, Repr

/-- Characters of a member chain. -/
def isTokenChar (c : Char) : Bool := Text.isIdentChar c || c == '.'

/-- Characters of a module path under completion. -/
def isPathChar (c : Char) : Bool := c != '\x27' && c != '\x22' && c != '\n'

/-- Whether a reversed text ends, when read forwards, with a whole word. -/
def endsWithWord (word before : Text) : Bool :=
  match Text.after? word.reverse before with
  | some r => Text.atWordStart r.head?
  | none => false

/-- Whether a module path begins after this text, given reversed: after `require` or `import` and
an opening parenthesis, or after `from` or `import` and blanks. -/
def asksForModule (before : Text) : Bool :=
  match before.dropWhile isBlank with
  | '(' :: r =>
    let r := r.dropWhile isBlank
    endsWithWord "require" r || endsWithWord "import" r
  | r =>
    r.length < before.length && (endsWithWord "from" r || endsWithWord "import" r)

/-- The part of a module path that ends a line, given reversed. -/
def modulePath? (line : Text) : Option Text :=
  match line.dropWhile isPathChar with
  | q :: r =>
    if q != '\n' && asksForModule r then some (line.takeWhile isPathChar).reverse else none
  | [] => none

/-- The text before the cursor, reversed, without a line end that it may end with. -/
def lineBefore (text : Text) (point : Int) : Text :=
  match (text.upTo point).reverse with
  | '\n' :: r => r
  | r => r

/-- The context at the cursor. -/
def contextAt (text : Text) (point : Int) : Context :=
  let line := lineBefore text point
  match modulePath? line with
  | some path => ⟨path, (line.length - path.length : Nat), point, true⟩
  | none =>
    let token := (line.takeWhile isTokenChar).reverse
    ⟨token, point - token.length, point, false⟩

end ReplDriver.Completion
