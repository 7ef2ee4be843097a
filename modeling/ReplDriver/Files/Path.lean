import ReplDriver.Text.Basic

/-!
# Paths

A path in normal form has no empty and no `.` components, and `..` only at the front of a relative
path. Two leading slashes are kept, as they may name a root of their own; three or more count as
one.
-/

namespace ReplDriver

/-- A path in normal form: the number of leading slashes, and the components. -/
structure Path where
  slashes : Nat
  parts : List Text
deriving DecidableEq, Repr

namespace Path

/-- Whether the text of a path begins at a root. -/
def isAbsoluteText (s : Text) : Bool := s.head? == some '/'

/-- The text of one path followed from another. -/
def joinText (base s : Text) : Text :=
  if isAbsoluteText s then s
  else if base.isEmpty || base.getLast? == some '/' then base ++ s
  else base ++ "/" ++ s

/-- Adds one component to a list of components, last one first: `..` takes the last one away where
there is one to take. -/
def push (rooted : Bool) (done : List Text) (part : Text) : List Text :=
  if part == [] || part == "." then done
  else if part == ".." then
    match done with
    | [] => if rooted then [] else [part]
    | last :: rest => if last == "..".toList then part :: done else rest
  else part :: done

/-- The normal form of the text of a path. -/
def ofText (s : Text) : Path :=
  let leading := (s.takeWhile (· == '/')).length
  let slashes := if leading == 2 then 2 else min leading 1
  ⟨slashes, ((Text.splitOn '/' s).foldl (push (slashes != 0)) []).reverse⟩

/-- The text of a path; the empty relative path is a dot. -/
def text (p : Path) : Text :=
  if p.slashes == 0 && p.parts.isEmpty then "."
  else List.replicate p.slashes '/' ++ Text.join "/" p.parts

/-- The normal form of a path that starts from a working directory if it is relative. -/
def absolute (cwd s : Text) : Path := ofText (joinText cwd s)

/-- The directory that holds the last component. -/
def parent (p : Path) : Path := { p with parts := p.parts.dropLast }

/-- The last component of the text of a path. -/
def baseName (s : Text) : Text := Text.takeRightWhile (· != '/') s

end Path

end ReplDriver
