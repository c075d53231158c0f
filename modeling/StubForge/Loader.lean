import StubForge.Library.Inspect
import StubForge.Session
import StubForge.Source.Block

set_option autoImplicit false

/-!
Loading the types that a class path names. While a loader is open, its roots come first among the
places where modules are looked for; closing it restores these places.
-/

namespace StubForge

namespace Import

def readSource (data : Bytes) : Except Mishap (List Statement) :=
  match Source.read? data with
  | some statements => .ok statements
  | none => .error { kind := "SyntaxError", message := "invalid syntax" }

end Import

structure Loader where
  roots : List String
  savedPath : Option (List String) := none
  -- Which modules could be loaded and which could not be found, as far as they were asked for.
  known : List (String × Bool) := []

namespace Loader

def nulText : String := "embedded null byte"

def ofRoots (directory : Place) (roots : List Path) : Except Error Loader :=
  if roots.any Path.hasNul then .error (.raised "ValueError" nulText)
  else .ok { roots := roots.map fun root => (root.resolve directory).toString }

def setPath (path : List String) : Run Unit :=
  modify fun session => { session with world := { session.world with path } }

def enter (loader : Loader) : Run Loader := do
  let path := (← get).world.path
  setPath (loader.roots.filter (fun root => !path.contains root) ++ path)
  return { loader with savedPath := some path }

def exit (loader : Loader) : Run Loader := do
  match loader.savedPath with
  | none => return loader
  | some path =>
      setPath path
      return { loader with savedPath := none }

def importModule (name : String) : Run (Except Mishap Unit) :=
  Run.inWorld (Import.load Import.readSource name)

-- Loads a module and says whether it could be found. A module that fails while it is run is an error, and is
-- tried again when it is asked for again.
def loadModule (loader : Loader) (name : String) : Run (Bool × Loader) := do
  match loader.known.find? fun entry => entry.1 == name with
  | some (_, found) => return (found, loader)
  | none =>
      match ← importModule name with
      | .ok () => return (true, { loader with known := loader.known ++ [(name, true)] })
      | .error mishap =>
          if isErrorOf mishap.kind "ImportError" then
            Run.say .debug ("Cannot import " ++ name ++ ": " ++ mishap.message)
            return (false, { loader with known := loader.known ++ [(name, false)] })
          else if isErrorOf mishap.kind "Exception" then
            Run.fail (.classpath (.brokenModule name mishap.message))
          else throw (Error.mishap mishap)

def memberOfModule (world : World) (module name : String) : Option Object :=
  (world.module? module).bind fun record => World.lookup name record.globals

def load (loader : Loader) (typeName : String) : Run (Option ClassId × Loader) := do
  let module := Name.parent typeName
  if module = "" then return (none, loader)
  else
    let (found, loader) ← loader.loadModule module
    if !found then return (none, loader)
    else
      match memberOfModule (← get).world module (Name.last typeName) with
      | some (.cls id) => return (some id, loader)
      | _ =>
          Run.say .debug (typeName ++ " does not resolve to a class")
          return (none, loader)

def resolveDotted (path : String) : Run Object := do
  let module := Name.parent path
  if module = "" then Run.fail (.classpath (.notDotted path))
  else
    let result ← Run.inWorld (do
      Import.load Import.readSource module
      Exec.memberOf (.module module) (Name.last path))
    match result with
    | .ok value => return value
    | .error mishap =>
        if isErrorOf mishap.kind "ImportError" || isErrorOf mishap.kind "AttributeError" then
          Run.fail (.classpath (.unresolved path mishap.message))
        else throw (Error.mishap mishap)

end Loader

end StubForge
