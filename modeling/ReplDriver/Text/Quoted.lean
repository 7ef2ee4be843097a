import ReplDriver.Text.Basic
import ReplDriver.Text.Printable

/-!
# Quoted text

Messages and diagnostics show a text between quotes, with every character that would not show
written as an escape. The quotes are single unless the text holds a single quote and no double one.
-/

namespace ReplDriver.Text

/-- The hexadecimal digits of a number, padded with zeros to a width. -/
def hex (width n : Nat) : Text :=
  let digits := Nat.toDigits 16 n
  List.replicate (width - digits.length) '0' ++ digits

/-- How one character is written between quotes `q`. -/
def quoteChar (q c : Char) : Text :=
  if c == q || c == '\\' then ['\\', c]
  else if c == '\n' then "\\n"
  else if c == '\r' then "\\r"
  else if c == '\t' then "\\t"
  else if isPrintable c then [c]
  else if c.toNat < 0x100 then "\\x" ++ hex 2 c.toNat
  else if c.toNat < 0x10000 then "\\u" ++ hex 4 c.toNat
  else "\\U" ++ hex 8 c.toNat

/-- Double quotes are used only where they save escaping a single quote. -/
def quoteMark (s : Text) : Char :=
  if s.contains '\x27' && !s.contains '\x22' then '\x22' else '\x27'

/-- The text between quotes, as messages show it. -/
def quoted (s : Text) : Text :=
  let q := quoteMark s
  [q] ++ s.flatMap (quoteChar q) ++ [q]

/-! ## Shell words -/

/-- The characters that a shell takes as they are. -/
def isShellSafe (c : Char) : Bool := c.isAlphanum || "_@%+=:,./-".toList.contains c

/-- One shell word: a text of safe characters stands as it is, any other between single quotes,
where a single quote is written by closing, a double-quoted one, and opening again. -/
def shellWord (s : Text) : Text :=
  if s.isEmpty then "\x27\x27"
  else if s.all isShellSafe then s
  else "\x27" ++ s.flatMap (fun c => if c == '\x27' then "\x27\x22\x27\x22\x27" else [c]) ++ "\x27"

end ReplDriver.Text
