import StubForge.ClassPath
import StubForge.Command
import StubForge.Loader

set_option autoImplicit false

/-!
Finding the commands of a library: the concrete classes below some packages that have a capability.
-/

namespace StubForge

namespace Discovery

def closedProtocolText : String :=
  "Instance and class checks can only be used with @runtime_checkable protocols"

-- The class has the capability and is neither a protocol nor abstract nor an enumeration.
def isCommand (world : World) (capability id : ClassId) : Bool :=
  world.isSubclass id capability
    && !world.isProtocol id && !world.isAbstract id && !world.isEnumeration id

-- The command of a type name: it lies below one of the packages, can be loaded as a class, and the class is a
-- command.
def classify (packages : List String) (capability : ClassId) (loader : Loader) (typeName : String) :
    Run (Option Command × Loader) := do
  if !Name.inPackages typeName packages then return (none, loader)
  else
    let (loaded, loader) ← loader.load typeName
    match loaded with
    | none => return (none, loader)
    | some id =>
        let world := (← get).world
        if world.isClosedProtocol capability then Run.raise "TypeError" closedProtocolText
        else if isCommand world capability id then
          Run.say .info ("    " ++ typeName)
          return (some (world.command typeName id), loader)
        else return (none, loader)

def classifyAll (packages : List String) (capability : ClassId) :
    Loader → List Command → List String → Run (List Command)
  | _, found, [] => return found
  | loader, found, typeName :: rest => do
      let (command, loader) ← classify packages capability loader typeName
      let found := match command with
        | some command => Command.addNew found command
        | none => found
      classifyAll packages capability loader found rest

inductive Capability where
  | known (id : ClassId)
  | named (path : String)

def resolveCapability : Capability → Run ClassId
  | .known id => return id
  | .named path => do
      match ← Loader.resolveDotted path with
      | .cls id => return id
      | value => do
          let world := (← get).world
          Run.fail (.classpath (.notAClass (world.valueText value)))

def withLoader {α : Type} (loader : Loader) (block : Loader → Run α) : Run α := do
  let opened ← loader.enter
  let result ← Run.outcome (block opened)
  let _ ← opened.exit
  match result with
  | .ok value => return value
  | .error error => throw error

def discover (roots : List Path) (packages : List String) (capability : Capability) :
    Run (List Command) := do
  let typeNames ← ClassPath.scan roots (some packages)
  let directory := (← get).directory
  match Loader.ofRoots directory roots with
  | .error error => throw error
  | .ok loader =>
      withLoader loader fun opened => do
        let capability ← resolveCapability capability
        classifyAll packages capability opened [] typeNames

end Discovery

end StubForge
