import StubForge.Disk
import StubForge.Command

set_option autoImplicit false

/-!
The classes and modules that running a library brings about. Classes are known by number; the first
numbers belong to the classes that every module finds defined.
-/

namespace StubForge

abbrev ClassId := Nat

inductive Object where
  | constant (value : Json)
  | cls (id : ClassId)
  | module (name : String)
  | function (isAbstract : Bool)
  -- A value of which only the type's name matters.
  | instance (typeName : String)
  deriving BEq, Repr

-- What makes the class itself: it decides whether abstract methods count and whether other classes can be
-- registered as virtual subclasses.
inductive Metaclass where
  | plain
  | abstractBase
  | protocolBase
  | enumeration
  deriving DecidableEq, Repr

abbrev Bindings := List (String × Object)

structure ClassRecord where
  name : String
  qualifiedName : String
  module : String
  bases : List ClassId := []
  -- The class and its ancestors in the order in which attributes are looked up.
  order : List ClassId := []
  metaclass : Metaclass := .plain
  members : Bindings := []
  abstractNames : List String := []
  marked : Bool := false
  tags : List Tag := []
  virtuals : List ClassId := []

structure ModuleRecord where
  name : String
  globals : Bindings := []
  file : Option String := none
  -- Where to look for submodules, for packages only.
  searchPath : Option (List String) := none
  initializing : Bool := false

structure World where
  disk : Disk := {}
  classes : Array ClassRecord := #[]
  modules : List (String × ModuleRecord) := []
  path : List String := []
  -- Class bodies that are being run, innermost first.
  scopes : List Bindings := []
  tagsMade : Nat := 0

namespace World

def objectId : ClassId := 0
def abcId : ClassId := 1
def enumId : ClassId := 2
def genericId : ClassId := 3
def protocolId : ClassId := 4
def commandId : ClassId := 5
def tagId : ClassId := 6
def groupId : ClassId := 7

def familyIds : List (TagFamily × ClassId) := [
  (.description, 8), (.deprecated, 9), (.param, 10), (.params, 11), (.thrown, 12), (.throws, 13),
  (.returned, 14), (.returns, 15)]

-- With the type that only the groups are derived from, which a module does not find defined.
def tagTypeIds : List (TagFamily × ClassId) := familyIds ++ [(.anyGroup, groupId)]

def bundledClasses : List ClassRecord := [
  { name := "object", qualifiedName := "object", module := "builtins", order := [0] },
  { name := "ABC", qualifiedName := "ABC", module := "abc", bases := [0], order := [1, 0],
    metaclass := .abstractBase },
  { name := "Enum", qualifiedName := "Enum", module := "enum", bases := [0], order := [2, 0],
    metaclass := .enumeration },
  { name := "Generic", qualifiedName := "Generic", module := "typing", bases := [0],
    order := [3, 0] },
  { name := "Protocol", qualifiedName := "Protocol", module := "typing", bases := [3],
    order := [4, 3, 0], metaclass := .protocolBase,
    members := [("_is_protocol", .constant (.bool true))] },
  { name := "IpcCommand", qualifiedName := "IpcCommand", module := "ipcstub.ipc", bases := [1],
    order := [5, 1, 0], metaclass := .abstractBase, members := [("execute", .function true)],
    abstractNames := ["execute"] },
  { name := "Tag", qualifiedName := "Tag", module := "ipcstub.ipc", bases := [0],
    order := [6, 0] },
  { name := "_Group", qualifiedName := "_Group", module := "ipcstub.ipc", bases := [6],
    order := [7, 6, 0] }]
  ++ familyIds.map fun (family, id) =>
    { name := family.name, qualifiedName := family.name, module := "ipcstub.ipc"
      bases := [if family.itemFamily.isSome then 7 else 6]
      order := if family.itemFamily.isSome then [id, 7, 6, 0] else [id, 6, 0] }

def headerBindings : Bindings :=
  [("ABC", .cls abcId), ("Enum", .cls enumId), ("Protocol", .cls protocolId),
    ("IpcCommand", .cls commandId), ("Tag", .cls tagId)]
  ++ familyIds.map fun (family, id) => (family.name, .cls id)

def bundledModules : List (String × ModuleRecord) :=
  [{ name := "builtins", globals := [("object", .cls objectId)] },
    { name := "abc", globals := [("ABC", .cls abcId), ("abstractmethod", .function false)],
      file := some "abc.py" },
    { name := "enum", globals := [("Enum", .cls enumId)], file := some "enum.py" },
    { name := "typing", globals := [("Protocol", .cls protocolId), ("Generic", .cls genericId)],
      file := some "typing.py" },
    { name := "ipcstub", globals := [("ipc", .module "ipcstub.ipc")], searchPath := some [] },
    { name := "ipcstub.ipc", file := some "ipc.py"
      globals := [("IpcCommand", Object.cls commandId), ("Tag", .cls tagId), ("_Group", .cls groupId),
          ("TAGS_ATTRIBUTE", .constant (.string "__ipc_tags__")),
          ("META_ATTRIBUTE", .constant (.string "__ipc_meta__")),
          ("is_meta_tag", .function false), ("get_tags", .function false),
          ("get_tag", .function false)]
        ++ familyIds.map fun (family, id) => (family.name, .cls id) }].map
    fun (record : ModuleRecord) => (record.name, record)

def initial (disk : Disk) : World :=
  { disk, classes := bundledClasses.toArray, modules := bundledModules }

def class? (world : World) (id : ClassId) : Option ClassRecord := world.classes[id]?

def module? (world : World) (name : String) : Option ModuleRecord :=
  (world.modules.find? fun entry => entry.1 == name).map (·.2)

def orderOf (world : World) (id : ClassId) : List ClassId := ((world.class? id).map (·.order)).getD []

def metaclassOf (world : World) (id : ClassId) : Metaclass :=
  ((world.class? id).map (·.metaclass)).getD .plain

def lookup (name : String) (bindings : Bindings) : Option Object :=
  (bindings.find? fun entry => entry.1 == name).map (·.2)

def attribute? (world : World) (id : ClassId) (name : String) : Option Object :=
  (world.orderOf id).findSome? fun ancestor => (world.class? ancestor).bind fun record =>
    lookup name record.members

def isSubtype (world : World) (id ancestor : ClassId) : Bool := (world.orderOf id).contains ancestor

def setModule (world : World) (record : ModuleRecord) : World :=
  { world with modules := Json.setMember record.name record world.modules }

def modifyModule (world : World) (name : String) (change : ModuleRecord → ModuleRecord) : World :=
  match world.module? name with
  | some record => world.setModule (change record)
  | none => world

def forgetModule (world : World) (name : String) : World :=
  { world with modules := world.modules.filter fun entry => entry.1 != name }

def modifyClass (world : World) (id : ClassId) (change : ClassRecord → ClassRecord) : World :=
  { world with classes := world.classes.modify id change }

def classPath (record : ClassRecord) : String := record.module ++ "." ++ record.qualifiedName

def classText (world : World) (id : ClassId) : String :=
  match world.class? id with
  | none => ""
  | some record =>
      let path := if record.module = "builtins" then record.qualifiedName else classPath record
      if record.metaclass = .enumeration then "<enum " ++ Text.quoted record.name ++ ">"
      else "<class " ++ Text.quoted path ++ ">"

def moduleText (world : World) (name : String) : String :=
  match (world.module? name).bind (·.file) with
  | some file => "<module " ++ Text.quoted name ++ " from " ++ Text.quoted file ++ ">"
  | none => "<module " ++ Text.quoted name ++ " (built-in)>"

def valueText (world : World) : Object → String
  | .constant value => Literal.shown value
  | .cls id => world.classText id
  | .module name => world.moduleText name
  | .function _ => "<function>"
  | .instance typeName => "<" ++ typeName ++ ">"

def typeName (world : World) : Object → String
  | .constant value => Literal.typeName value
  | .cls id =>
      match world.metaclassOf id with
      | .plain => "type"
      | .abstractBase => "ABCMeta"
      | .protocolBase => "_ProtocolMeta"
      | .enumeration => "EnumType"
  | .module _ => "module"
  | .function _ => "function"
  | .instance name => name

end World

end StubForge
