import ReplDriver.Text.Basic
import ReplDriver.Number.Double

/-!
# JSON values

A value is what a JSON text denotes. Integers and numbers in double precision are kept apart, as
they print and count differently. The members of an object keep the order in which their keys were
first set, and every key has one value.
-/

namespace ReplDriver

/-- A JSON value. -/
inductive Json where
  | null
  | bool (b : Bool)
  | int (n : Int)
  | double (x : Double)
  | text (s : Text)
  | list (items : List Json)
  | object (members : List (Text × Json))

namespace Json

instance : Inhabited Json := ⟨.null⟩

/-- Sets one key: a key that is there keeps its place, a new one goes last. -/
def setMember (members : List (Text × Json)) (key : Text) (value : Json) : List (Text × Json) :=
  match members with
  | [] => [(key, value)]
  | (k, v) :: rest => if k = key then (k, value) :: rest else (k, v) :: setMember rest key value

/-- The value of a key of an object. -/
def member? (key : Text) : Json → Option Json
  | .object members => members.lookup key
  | _ => none

/-- Whether a value counts as set: null, false, the zeros and everything empty do not. -/
def isTruthy : Json → Bool
  | .null => false
  | .bool b => b
  | .int n => n != 0
  | .double x => !x.isZero
  | .text s => !s.isEmpty
  | .list items => !items.isEmpty
  | .object members => !members.isEmpty

/-- The name of the kind of value, as messages show it. -/
def kindName : Json → Text
  | .null => "NoneType"
  | .bool _ => "bool"
  | .int _ => "int"
  | .double _ => "float"
  | .text _ => "str"
  | .list _ => "list"
  | .object _ => "dict"

/-- The list of texts, null where a text is missing. -/
def texts (items : List Text) : Json := .list (items.map .text)

/-- A text, or null for none. -/
def optionalText : Option Text → Json
  | some s => .text s
  | none => .null

theorem lookup_setMember (members : List (Text × Json)) (key : Text) (value : Json) :
    (setMember members key value).lookup key = some value := by
  induction members with
  | nil => simp [setMember]
  | cons m rest ih =>
    obtain ⟨k, v⟩ := m
    by_cases h : k = key
    · simp [setMember, h]
    · have : (key == k) = false := by simpa using Ne.symm h
      simp [setMember, h, List.lookup_cons, this, ih]

end Json

end ReplDriver
