import ReplDriver.World

/-!
# The registry of sessions

Sessions are found by name. A session is started when it is first asked for; one whose process has
exited is put away and replaced when it is next asked for. A session that fails to start is not
registered.
-/

namespace ReplDriver.Registry

/-- The names of the registered sessions, in the order in which they were registered. -/
def names (w : World) : List Text := w.registered.map (·.1)

/-- The registered session of a name. -/
def find? (w : World) (name : Text) : Option Nat := w.registered.lookup name

/-- The registered sessions without one name. -/
def removeName (registered : List (Text × Nat)) (name : Text) : List (Text × Nat) :=
  registered.filter fun (n, _) => n != name

/-- Takes a session out of the registry and ends it. -/
def remove (name : Text) : Op World Unit := do
  match find? (← get) name with
  | none => return
  | some handle => do
    modify fun w => { w with registered := removeName w.registered name }
    World.atDesk handle Desk.close

/-- The live session of a name; one whose process has exited is put away. -/
def get? (name : Text) : Op World (Option Nat) := do
  let w ← get
  match find? w name with
  | none => return none
  | some handle =>
    if (w.session? handle).any Session.isAlive then return some handle
    else do
      World.note (.removing name)
      remove name
      return none

/-- The live session of a name, started if there is none. -/
def getOrStart (name : Text) (settings : Settings) : Op World Nat := do
  match ← get? name with
  | some handle => return handle
  | none => do
    let handle ← World.startSession name settings true
    modify fun w => { w with registered := removeName w.registered name ++ [(name, handle)] }
    return handle

/-- Ends every registered session. -/
def closeAll : Op World Unit := do
  (names (← get)).forM remove

end ReplDriver.Registry
