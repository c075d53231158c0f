import StubForge.Namespace.Build

set_option autoImplicit false

/-!
Several forests side by side. A node is known together with the forest it belongs to, and a forest
refuses nodes of another one.
-/

namespace StubForge

structure NodeRef where
  forest : Nat
  node : Nat
  deriving DecidableEq, Repr

inductive GroveFault where
  | foreignNode (fullName : String)
  | naming (fault : NamespaceFault)
  deriving DecidableEq, Repr

def GroveFault.toError : GroveFault → Error
  | .foreignNode fullName => .raised "ValueError" ("node " ++ fullName ++ " belongs to another tree")
  | .naming fault => .ofFault (.naming fault)

abbrev Grove := List Forest

namespace Grove

def forest (grove : Grove) (number : Nat) : Forest := (grove[number]?).getD {}

def fullName (grove : Grove) (ref : NodeRef) : String := (grove.forest ref.forest).fullName ref.node

def plant (grove : Grove) (forest : Forest) : Grove := grove ++ [forest]

def own (grove : Grove) (number : Nat) (ref : NodeRef) : Except GroveFault Nat :=
  if ref.forest = number then .ok ref.node else .error (.foreignNode (grove.fullName ref))

def ownParent (grove : Grove) (number : Nat) : Option NodeRef → Except GroveFault (Option Nat)
  | none => .ok none
  | some ref => (grove.own number ref).map some

def addNode (grove : Grove) (number : Nat) (fullName : String) (parent : Option NodeRef) :
    Except GroveFault (Grove × NodeRef) := do
  let parent ← grove.ownParent number parent
  let node := (grove.forest number).size
  return (grove.modify number (·.addNode fullName parent), ⟨number, node⟩)

def attachChild (grove : Grove) (number : Nat) (parent : Option NodeRef) (child : NodeRef) :
    Except GroveFault Grove := do
  let parent ← grove.ownParent number parent
  let child ← grove.own number child
  return grove.modify number (·.attachChild parent child)

def addCommand (grove : Grove) (number : Nat) (ref : NodeRef) (command : Command) :
    Except GroveFault Grove := do
  let node ← grove.own number ref
  return grove.modify number (·.addCommand node command)

def firstHere (parent : String) (commands : List Command) : List Command :=
  match commands with
  | [] => []
  | command :: rest =>
      if placement (some parent) command.fullName = .here then [] else command :: firstHere parent rest

-- Sorting commands below a node of another forest: nothing is built, and the first command or namespace that
-- would have to be put there is refused.
def refuse : Nat → Forest → Nat → List Command → Except GroveFault Unit
  | 0, _, _, _ => .ok ()
  | levels + 1, home, node, commands =>
      let fullName := home.fullName node
      let before := firstHere fullName commands
      let sorted := sortBelow (some fullName) {} before
      match sorted.fault with
      | some fault => .error (.naming fault)
      | none =>
          if before.length < commands.length then .error (.foreignNode fullName)
          else
            sorted.groups.forM fun group =>
              match home.knownChild? (some node) group.1 with
              | none => .error (.foreignNode fullName)
              | some child => refuse levels home child group.2

def build (grove : Grove) (number : Nat) (parent : Option NodeRef) (commands : List Command) :
    Except GroveFault (List NodeRef) × Grove :=
  let forest := grove.forest number
  match grove.ownParent number parent with
  | .ok parent =>
      let (result, built) := forest.build parent commands
      (match result with
        | .ok nodes => .ok (nodes.map fun node => ⟨number, node⟩)
        | .error fault => .error (.naming fault), grove.set number built)
  | .error fault =>
      match parent with
      | none => (.error fault, grove)
      | some ref =>
          match refuse (Forest.levelsOf commands) (grove.forest ref.forest) ref.node commands with
          | .ok () => (.ok [], grove)
          | .error fault => (.error fault, grove)

end Grove

end StubForge
