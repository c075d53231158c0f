import StubForge.Namespace.Grove

set_option autoImplicit false

/-!
Calls on a grove, one effect after the other: which slots a call reads, where it refuses nodes of other
forests, and what it changes. What a call has changed when it fails stays changed.
-/

namespace StubForge.Grove

abbrev Tending := ExceptT Error (StateM Grove)

namespace Tending

def slot (ref : NodeRef) : Tending Slot := do
  match ((← get).forest ref.forest).slot? ref.node with
  | some slot => return slot
  | none => throw (.raised "IndexError" "list index out of range")

-- The number of a node in its own forest. A refusal tells the name of the node, which is read from its slot.
def own (number : Nat) (ref : NodeRef) : Tending Nat := do
  if ref.forest = number then return ref.node
  else
    let slot ← slot ref
    throw (GroveFault.foreignNode slot.fullName).toError

def ownParent (number : Nat) : Option NodeRef → Tending (Option Nat)
  | none => return none
  | some ref => return some (← own number ref)

-- What is linked below a node, or the roots.
def linked (number : Nat) : Option Nat → Tending (List Nat)
  | none => return ((← get).forest number).roots
  | some node => return (← slot ⟨number, node⟩).children

def change (number : Nat) (step : Forest → Forest) : Tending Unit :=
  modify fun grove => grove.modify number step

def addNode (number : Nat) (fullName : String) (parent : Option NodeRef) : Tending NodeRef := do
  let parent ← ownParent number parent
  change number (·.addNode fullName parent)
  return ⟨number, ((← get).forest number).size - 1⟩

-- The links are read after the parent was looked at and before the child is.
def attachChild (number : Nat) (parent : Option NodeRef) (child : NodeRef) : Tending Unit := do
  let parent ← ownParent number parent
  let siblings ← linked number parent
  let child ← own number child
  unless siblings.contains child do
    change number (·.attachChild parent child)

def addCommand (number : Nat) (ref : NodeRef) (command : Command) : Tending Unit := do
  let node ← own number ref
  let held ← slot ⟨number, node⟩
  unless held.commands.any (·.fullName == command.fullName) do
    change number (·.addCommand node command)

end Tending

-- The nodes that do not belong to a forest.
def strangersAmong (number : Option Nat) (refs : List NodeRef) : List NodeRef :=
  refs.filter fun ref => some ref.forest ≠ number

inductive Call where
  | plant
  | addNode (number : Nat) (fullName : String) (parent : Option NodeRef)
  | attachChild (number : Nat) (parent : Option NodeRef) (child : NodeRef)
  | addCommand (number : Nat) (ref : NodeRef) (command : Command)

namespace Call

-- The forest that the call is made on; planting a new one needs none.
def number? : Call → Option Nat
  | .plant => none
  | .addNode number _ _ => some number
  | .attachChild number _ _ => some number
  | .addCommand number _ _ => some number

-- The nodes that the call is given, in the order in which it looks at them.
def refs : Call → List NodeRef
  | .plant => []
  | .addNode _ _ parent => parent.toList
  | .attachChild _ parent child => parent.toList ++ [child]
  | .addCommand _ ref _ => [ref]

-- Nodes of other forests that the call is given.
def strangers (call : Call) : List NodeRef := strangersAmong call.number? call.refs

-- The new node, if the call makes one.
def perform : Call → Tending (Option NodeRef)
  | .plant => do
      modify (·.plant {})
      return none
  | .addNode number fullName parent => do
      let ref ← Tending.addNode number fullName parent
      return some ref
  | .attachChild number parent child => do
      Tending.attachChild number parent child
      return none
  | .addCommand number ref command => do
      Tending.addCommand number ref command
      return none

end Call

end StubForge.Grove
