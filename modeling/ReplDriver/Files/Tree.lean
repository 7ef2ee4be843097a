import ReplDriver.Files.Path

/-!
# The file tree

A tree holds files and directories by their components below the root; every directory on the way
to an entry is there as well. A path is followed component by component, so that each directory it
passes through has to exist.

* `node?_put`: what is put at a place stands there.
-/

namespace ReplDriver

/-- What a path leads to. -/
inductive Node where
  | file (bytes : List UInt8)
  | directory
  /-- A device that holds nothing and keeps nothing of what is written to it. -/
  | void
deriving DecidableEq, Repr

/-- Why a file is not opened. -/
inductive FileFault where
  | missing
  | notDirectory
  | isDirectory
  | nameTooLong
deriving DecidableEq, Repr

/-- The files and directories below the root. -/
structure FileTree where
  entries : List (List Text × Node)

namespace FileTree

/-- What stands at a place: an entry, or a directory because an entry lies below it. -/
def node? (t : FileTree) (parts : List Text) : Option Node :=
  match t.entries.lookup parts with
  | some n => some n
  | none =>
    if parts.isEmpty || t.entries.any fun (p, _) => parts.isPrefixOf p then some .directory
    else none

/-- The most bytes of one component. -/
def nameLimit : Nat := 255

/-- The number of bytes of a text. -/
def byteLength (part : Text) : Nat := part.foldl (fun n c => n + c.utf8Size) 0

/-- Follows components from a place; every place that is left must be a directory. -/
def walk (t : FileTree) (place : List Text) : List Text → Except FileFault (List Text)
  | [] => .ok place
  | part :: rest =>
    match t.node? place with
    | none => .error .missing
    | some (.file _) | some .void => .error .notDirectory
    | some .directory =>
      if part == [] || part == "." then t.walk place rest
      else if part == ".." then t.walk place.dropLast rest
      else if nameLimit < byteLength part then .error .nameTooLong
      else t.walk (place ++ [part]) rest

/-- The most bytes of the text of a path. -/
def pathLimit : Nat := 4095

/-- The place at which the text of a path begins. -/
def origin (cwd : List Text) (s : Text) : List Text := if Path.isAbsoluteText s then [] else cwd

/-- The place that the text of a path leads to from a working directory. -/
def locate (t : FileTree) (cwd : List Text) (s : Text) : Except FileFault (List Text) :=
  if pathLimit < byteLength s then .error .nameTooLong
  else if s.isEmpty then .error .missing
  else t.walk (origin cwd s) (Text.splitOn '/' s)

/-- The text of a path up to its last component, if that is a name with slashes after it. -/
def beforeDirectoryName? (s : Text) : Option Text :=
  let shown := Text.dropRightWhile (· == '/') s
  let name := Path.baseName shown
  let special : List Text := [[], ".".toList, "..".toList]
  if s.length ≤ shown.length || special.contains name then none
  else some (shown.take (shown.length - name.length))

/-- Whether a path leads to something of a kind. No path holds the character NUL. -/
def leadsTo (t : FileTree) (cwd : List Text) (s : Text) (p : Node → Bool) : Bool :=
  !s.contains '\x00' &&
    match t.locate cwd s with
    | .ok place => (t.node? place).any p
    | .error _ => false

/-- Whether a path leads to a file. -/
def isFile (t : FileTree) (cwd : List Text) (s : Text) : Bool :=
  t.leadsTo cwd s fun n => match n with | .file _ => true | _ => false

/-- Whether a path leads to a directory. -/
def isDirectory (t : FileTree) (cwd : List Text) (s : Text) : Bool :=
  t.leadsTo cwd s fun n => match n with | .directory => true | _ => false

/-- The bytes of a file. -/
def read (t : FileTree) (cwd : List Text) (s : Text) : Except FileFault (List UInt8) := do
  match t.node? (← t.locate cwd s) with
  | some (.file bytes) => return bytes
  | some .void => return []
  | some .directory => throw .isDirectory
  | none => throw .missing

/-- The tree with a node at a place. -/
def put (t : FileTree) (place : List Text) (n : Node) : FileTree :=
  ⟨(place, n) :: t.entries.filter fun (p, _) => p != place⟩

/-- The place of a file that may be written, and what it holds so far. A name with a slash after it
can only be a directory, whatever it names. -/
def openForWriting (t : FileTree) (cwd : List Text) (s : Text) :
    Except FileFault (List Text × List UInt8) :=
  match if byteLength s ≤ pathLimit then beforeDirectoryName? s else none with
  | some directory => do
    let _ ← t.walk (origin cwd s) (Text.splitOn '/' directory ++ [[]])
    throw .isDirectory
  | none => do
    let place ← t.locate cwd s
    match t.node? place with
    | some (.file bytes) => return (place, bytes)
    | some .directory => throw .isDirectory
    | some .void | none => return (place, [])

/-- Bytes written to the file or device at a place, in place of what was there. -/
def writeAt (t : FileTree) (place : List Text) (bytes : List UInt8) : FileTree :=
  match t.node? place with
  | some .void => t
  | _ => t.put place (.file bytes)

/-- Bytes added at the end of the file at a place. -/
def appendAt (t : FileTree) (place : List Text) (bytes : List UInt8) : FileTree :=
  match t.node? place with
  | some (.file old) => t.writeAt place (old ++ bytes)
  | _ => t.writeAt place bytes

@[simp] theorem node?_put (t : FileTree) (place : List Text) (n : Node) :
    (t.put place n).node? place = some n := by
  simp [node?, put]

end FileTree

end ReplDriver
