import StubForge.Failure
import StubForge.Library.World
import StubForge.Log

set_option autoImplicit false

/-!
The state of a run: the world it changes, the directory it is seen from, and the records made so
far. A run that fails keeps what it did.
-/

namespace StubForge

structure Session where
  world : World := {}
  directory : Place := []
  records : List Record := []

abbrev Run := ExceptT Error (StateM Session)

namespace Run

def say (level : Level) (message : String) : Run Unit :=
  modify fun session => { session with records := session.records ++ [{ level, message }] }

def fail {α : Type} (fault : Fault) : Run α := throw (Error.ofFault fault)

def raise {α : Type} (kind message : String) : Run α := throw (Error.raised kind message)

def disk : Run Disk := do return (← get).world.disk

def setDisk (disk : Disk) : Run Unit :=
  modify fun session => { session with world := { session.world with disk } }

-- Runs what changes the world only; an error in it is given as a value.
def inWorld {α : Type} (block : ExceptT Mishap (StateM World) α) : Run (Except Mishap α) :=
  fun session =>
    let (result, world) := block session.world
    (.ok result, { session with world })

def outcome {α : Type} (block : Run α) : Run (Except Error α) :=
  fun session =>
    let (result, after) := block session
    (.ok result, after)

def failOn {α : Type} (errno : Errno) (path : String) : Run α :=
  raise errno.kind (errno.message path)

end Run

end StubForge
