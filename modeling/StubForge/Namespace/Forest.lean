import StubForge.Command

set_option autoImplicit false

/-!
Forests of namespaces. The nodes of a forest lie in slots and refer to each other by slot number;
creating a node and linking it below its parent are two steps.
-/

namespace StubForge

structure Slot where
  fullName : String
  parent : Option Nat
  children : List Nat := []
  commands : List Command := []

structure Forest where
  slots : List Slot := []
  roots : List Nat := []

namespace Forest

def size (forest : Forest) : Nat := forest.slots.length

def slot? (forest : Forest) (node : Nat) : Option Slot := forest.slots[node]?

def fullName (forest : Forest) (node : Nat) : String := ((forest.slot? node).map (·.fullName)).getD ""

def name (forest : Forest) (node : Nat) : String := Name.last (forest.fullName node)

def depth (forest : Forest) (node : Nat) : Nat := Name.depth (forest.fullName node)

def parent? (forest : Forest) (node : Nat) : Option Nat := (forest.slot? node).bind (·.parent)

def children (forest : Forest) (node : Nat) : List Nat := ((forest.slot? node).map (·.children)).getD []

def commands (forest : Forest) (node : Nat) : List Command :=
  ((forest.slot? node).map (·.commands)).getD []

-- Creates a node, which is not yet linked below its parent; its number is the old size.
def addNode (forest : Forest) (fullName : String) (parent : Option Nat) : Forest :=
  { forest with slots := forest.slots ++ [{ fullName, parent }] }

def addOnce (node : Nat) (nodes : List Nat) : List Nat :=
  if nodes.contains node then nodes else nodes ++ [node]

-- Links a node below a parent, or as a root, unless it is linked there already.
def attachChild (forest : Forest) (parent : Option Nat) (child : Nat) : Forest :=
  match parent with
  | none => { forest with roots := addOnce child forest.roots }
  | some node =>
      { forest with
        slots := forest.slots.modify node fun slot =>
          { slot with children := addOnce child slot.children } }

def addCommand (forest : Forest) (node : Nat) (command : Command) : Forest :=
  { forest with
    slots := forest.slots.modify node fun slot =>
      { slot with commands := Command.addNew slot.commands command } }

def find? (forest : Forest) (fullName : String) : Option Nat :=
  forest.slots.findIdx? fun slot => slot.fullName == fullName

-- A node and all nodes below it, parents first; `levels` bounds how deep the walk goes.
def walkFrom (forest : Forest) : Nat → Nat → List Nat
  | 0, node => [node]
  | levels + 1, node => node :: (forest.children node).flatMap (walkFrom forest levels)

def walk (forest : Forest) (node : Nat) : List Nat := forest.walkFrom forest.size node

def nodes (forest : Forest) : List Nat := forest.roots.flatMap forest.walk

def allCommands (forest : Forest) : List Command := forest.nodes.flatMap forest.commands

def nodeText (forest : Forest) (node : Nat) : String :=
  "NamespaceNode(" ++ Text.quoted (forest.fullName node) ++ ")"

@[simp] theorem size_add_node (forest : Forest) (fullName : String) (parent : Option Nat) :
    (forest.addNode fullName parent).size = forest.size + 1 := by
  simp [addNode, size]

@[simp] theorem size_attach_child (forest : Forest) (parent : Option Nat) (child : Nat) :
    (forest.attachChild parent child).size = forest.size := by
  cases parent <;> simp [attachChild, size]

@[simp] theorem size_add_command (forest : Forest) (node : Nat) (command : Command) :
    (forest.addCommand node command).size = forest.size := by
  simp [addCommand, size]

end Forest

end StubForge
