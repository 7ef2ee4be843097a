import ReplDriver.Json.Value
import ReplDriver.Number.Decimal
import ReplDriver.Text.Quoted

/-!
# Writing JSON values

`render` writes one line of JSON in ASCII, with a space after every comma and colon. `display`
writes the form that messages and diagnostics show.
-/

namespace ReplDriver.Json

/-! ## JSON text -/

/-- One UTF-16 unit as an escape. -/
def escapeUnit (n : Nat) : Text := "\\u" ++ Text.hex 4 n

/-- How a character of a string is written: printable ASCII as it is, the rest escaped, beyond the
first plane by a surrogate pair. -/
def escapeChar (c : Char) : Text :=
  if c == '\x22' then "\\\x22"
  else if c == '\\' then "\\\\"
  else if c == '\n' then "\\n"
  else if c == '\r' then "\\r"
  else if c == '\t' then "\\t"
  else if c == '\x0c' then "\\f"
  else if c == '\x08' then "\\b"
  else if ' ' ≤ c && c ≤ '~' then [c]
  else if c.toNat < 0x10000 then escapeUnit c.toNat
  else
    let n := c.toNat - 0x10000
    escapeUnit (0xd800 + n / 0x400) ++ escapeUnit (0xdc00 + n % 0x400)

/-- A string literal. -/
def renderText (s : Text) : Text := "\x22" ++ s.flatMap escapeChar ++ "\x22"

/-- The values without digits, as JSON text has them. -/
def specialWords : Double.SpecialWords := ⟨"NaN", "Infinity"⟩

mutual

/-- The value as one line of JSON. -/
def render : Json → Text
  | .null => "null"
  | .bool b => if b then "true" else "false"
  | .int n => Text.ofInt n
  | .double x => x.text specialWords
  | .text s => renderText s
  | .list items => "[" ++ renderItems items ++ "]"
  | .object members => "\x7b" ++ renderMembers members ++ "\x7d"

/-- The items of a list, with a comma and a space between each two. -/
def renderItems : List Json → Text
  | [] => []
  | [v] => render v
  | v :: rest => render v ++ ", " ++ renderItems rest

/-- The members of an object, with a comma and a space between each two. -/
def renderMembers : List (Text × Json) → Text
  | [] => []
  | [(k, v)] => renderText k ++ ": " ++ render v
  | (k, v) :: rest => renderText k ++ ": " ++ render v ++ ", " ++ renderMembers rest

end

/-! ## The form for messages -/

/-- The values without digits, as messages show them. -/
def displayWords : Double.SpecialWords := ⟨"nan", "inf"⟩

mutual

/-- The value as messages show it inside another one. -/
def display : Json → Text
  | .null => "None"
  | .bool b => if b then "True" else "False"
  | .int n => Text.ofInt n
  | .double x => x.text displayWords
  | .text s => Text.quoted s
  | .list items => "[" ++ displayItems items ++ "]"
  | .object members => "\x7b" ++ displayMembers members ++ "\x7d"

/-- The items of a list, with a comma and a space between each two. -/
def displayItems : List Json → Text
  | [] => []
  | [v] => display v
  | v :: rest => display v ++ ", " ++ displayItems rest

/-- The members of an object, with a comma and a space between each two. -/
def displayMembers : List (Text × Json) → Text
  | [] => []
  | [(k, v)] => Text.quoted k ++ ": " ++ display v
  | (k, v) :: rest => Text.quoted k ++ ": " ++ display v ++ ", " ++ displayMembers rest

end

mutual

/-- Whether messages can show the value: no integer of more digits than the limit is in it. -/
def isDisplayable : Json → Bool
  | .int n => (Nat.toDigits 10 n.natAbs).length ≤ Text.digitLimit
  | .list items => itemsDisplayable items
  | .object members => membersDisplayable members
  | .null | .bool _ | .double _ | .text _ => true

/-- Whether messages can show all items of a list. -/
def itemsDisplayable : List Json → Bool
  | [] => true
  | v :: rest => isDisplayable v && itemsDisplayable rest

/-- Whether messages can show all members of an object. -/
def membersDisplayable : List (Text × Json) → Bool
  | [] => true
  | (_, v) :: rest => isDisplayable v && membersDisplayable rest

end

/-- The value as a message shows it by itself: a text stands without quotes. -/
def plain : Json → Text
  | .text s => s
  | v => display v

end ReplDriver.Json
