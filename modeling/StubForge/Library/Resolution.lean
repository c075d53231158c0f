import StubForge.Library.World

set_option autoImplicit false

/-!
How classes relate: the order in which ancestors are searched, and which class counts as a subclass
of which, registered ones included.
-/

namespace StubForge

namespace Resolution

def nextHead (lists : List (List ClassId)) : Option ClassId :=
  (lists.filterMap List.head?).find? fun head => lists.all fun list => !(list.drop 1).contains head

def dropHead (head : ClassId) (list : List ClassId) : List ClassId :=
  if list.head? = some head then list.drop 1 else list

-- Merges lists so that each keeps its order; the lists that are left on failure are the error.
def merge : Nat → List (List ClassId) → Except (List (List ClassId)) (List ClassId)
  | 0, lists => .error lists
  | fuel + 1, lists =>
      let lists := lists.filter (! ·.isEmpty)
      if lists.isEmpty then .ok []
      else
        match nextHead lists with
        | none => .error lists
        | some head => (merge fuel (lists.map (dropHead head))).map (head :: ·)

def firstRepeated : List ClassId → Option ClassId
  | [] => none
  | base :: rest => if rest.contains base then some base else firstRepeated rest

end Resolution

namespace World

inductive OrderFault where
  | repeatedBase (name : String)
  | inconsistent (names : List String)
  deriving DecidableEq, Repr

def OrderFault.message : OrderFault → String
  | .repeatedBase name => "duplicate base class " ++ name
  | .inconsistent names =>
      "Cannot create a consistent method resolution\norder (MRO) for bases " ++ Text.join ", " names

def nameOf (world : World) (id : ClassId) : String := ((world.class? id).map (·.name)).getD ""

def ancestorOrder (world : World) (bases : List ClassId) : Except OrderFault (List ClassId) :=
  match Resolution.firstRepeated bases with
  | some base => .error (.repeatedBase (world.nameOf base))
  | none =>
      let lists := bases.map world.orderOf ++ [bases]
      match Resolution.merge (lists.flatten.length + 1) lists with
      | .ok order => .ok order
      | .error left => .error (.inconsistent ((left.filterMap List.head?).eraseDups.map world.nameOf))

def subclassesOf (world : World) (id : ClassId) : List ClassId :=
  (List.range world.classes.size).filter fun k =>
    match world.class? k with
    | some record => record.bases.contains id
    | none => false

-- A protocol that has not been opened for checks cannot be asked for its subclasses.
def isClosedProtocol (world : World) (id : ClassId) : Bool :=
  world.metaclassOf id == .protocolBase && id != protocolId
    && match (world.class? id).bind (fun record => lookup "_is_protocol" record.members) with
      | some (.constant (.bool true)) => true
      | _ => false

-- The subclass relation with registered classes: through the class itself, through a registered class, or
-- through a subclass.
def isSubclassFrom (world : World) : Nat → ClassId → ClassId → Bool
  | 0, id, ancestor => world.isSubtype id ancestor
  | fuel + 1, id, ancestor =>
      let registers := world.metaclassOf ancestor == .abstractBase || world.metaclassOf ancestor == .protocolBase
      let registered := ((world.class? ancestor).map (·.virtuals)).getD []
      world.isSubtype id ancestor
        || registers && (registered ++ world.subclassesOf ancestor).any (world.isSubclassFrom fuel id)

def isSubclass (world : World) (id ancestor : ClassId) : Bool :=
  world.isSubclassFrom (world.classes.size + 1) id ancestor

def isAbstract (world : World) (id : ClassId) : Bool :=
  match world.class? id with
  | some record =>
      (record.metaclass == .abstractBase || record.metaclass == .protocolBase)
        && !record.abstractNames.isEmpty
  | none => false

def isTruthy : Object → Bool
  | .constant .null => false
  | .constant (.bool b) => b
  | .constant (.int n) => n != 0
  | .constant (.float x) => !x.isZero
  | .constant (.string s) => s != ""
  | .constant (.array items) => !items.isEmpty
  | .constant (.object members) => !members.isEmpty
  | _ => true

def isProtocol (world : World) (id : ClassId) : Bool :=
  world.metaclassOf id == .protocolBase
    && ((world.attribute? id "_is_protocol").map isTruthy).getD false

def isEnumeration (world : World) (id : ClassId) : Bool := world.isSubtype id enumId

end World

end StubForge
