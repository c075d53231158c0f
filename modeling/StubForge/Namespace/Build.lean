import StubForge.Namespace.Forest

set_option autoImplicit false

/-!
Building a forest from commands. The commands below a node are sorted by the next segment of their
names: those without a further segment go into the node, every other segment is a namespace of its
own.
-/

namespace StubForge

inductive Placement where
  | outside
  | here
  | below (segment : List Char)
  | malformed
  deriving DecidableEq, Repr

def remainder? (parent : Option String) (fullName : String) : Option (List Char) :=
  match parent with
  | none => some fullName.toList
  | some above => Text.stripLeading? (above ++ ".").toList fullName.toList

def placement (parent : Option String) (fullName : String) : Placement :=
  match remainder? parent fullName with
  | none => .outside
  | some rest =>
      let segment := rest.takeWhile (· ≠ '.')
      if segment.isEmpty then .malformed
      else if segment.length = rest.length then .here
      else .below segment

def childName (parent : Option String) (segment : List Char) : String :=
  match parent with
  | none => String.ofList segment
  | some above => above ++ "." ++ String.ofList segment

-- Commands grouped by the full name of the namespace they lie below, in first seen order.
abbrev Groups := List (String × List Command)

def Groups.add (fullName : String) (command : Command) : Groups → Groups
  | [] => [(fullName, [command])]
  | (key, members) :: rest =>
      if key = fullName then (key, members ++ [command]) :: rest
      else (key, members) :: Groups.add fullName command rest

structure Sorted where
  here : List Command := []
  groups : Groups := []
  fault : Option NamespaceFault := none

-- Sorts commands up to the first one that has no place.
def sortBelow (parent : Option String) : Sorted → List Command → Sorted
  | sorted, [] => sorted
  | sorted, command :: rest =>
      match placement parent command.fullName with
      | .outside => sortBelow parent sorted rest
      | .malformed => { sorted with fault := some (.malformed command.fullName) }
      | .here =>
          match parent with
          | none => { sorted with fault := some (.withoutPackage command.fullName) }
          | some _ => sortBelow parent { sorted with here := sorted.here ++ [command] } rest
      | .below segment =>
          let groups := sorted.groups.add (childName parent segment) command
          sortBelow parent { sorted with groups } rest

namespace Forest

def knownChild? (forest : Forest) (parent : Option Nat) (fullName : String) : Option Nat :=
  match parent with
  | none => none
  | some node => (forest.children node).reverse.find? fun child => forest.fullName child == fullName

def attachAll (forest : Forest) (parent : Option Nat) (nodes : List Nat) : Forest :=
  nodes.foldl (fun forest node => forest.attachChild parent node) forest

def addCommands (forest : Forest) (node : Option Nat) (commands : List Command) : Forest :=
  match node with
  | none => forest
  | some node => commands.foldl (fun forest command => forest.addCommand node command) forest

abbrev BuildResult := Except NamespaceFault (List Nat) × Forest

-- Fills one namespace per group. The namespaces that `known` names are reused, the others are created; the
-- new ones are the result.
def buildGroups (fill : Forest → Nat → List Command → BuildResult) (parent : Option Nat)
    (known : String → Option Nat) : Forest → List Nat → Groups → BuildResult
  | forest, created, [] => (.ok created, forest)
  | forest, created, (fullName, members) :: rest =>
      let (forest, node, created) := match known fullName with
        | some node => (forest, node, created)
        | none => (forest.addNode fullName parent, forest.size, created ++ [forest.size])
      match fill forest node members with
      | (.error fault, forest) => (.error fault, forest)
      | (.ok nodes, forest) =>
          buildGroups fill parent known (forest.attachAll (some node) nodes) created rest

def buildFrom : Nat → Forest → Option Nat → List Command → BuildResult
  | 0, forest, _, _ => (.ok [], forest)
  | levels + 1, forest, parent, commands =>
      let sorted := sortBelow (parent.map forest.fullName) {} commands
      let forest := forest.addCommands parent sorted.here
      match sorted.fault with
      | some fault => (.error fault, forest)
      | none =>
          buildGroups (fun forest node members => buildFrom levels forest (some node) members)
            parent (forest.knownChild? parent) forest [] sorted.groups

def levelsOf (commands : List Command) : Nat :=
  (commands.map fun command => command.fullName.toList.length).foldl max 0 + 1

-- Sorts commands below a node, or into a forest if there is none. The nodes created directly below it are the
-- result and are left for the caller to link. What was built before a fault stays.
def build (forest : Forest) (parent : Option Nat) (commands : List Command) : BuildResult :=
  buildFrom (levelsOf commands) forest parent commands

def ofCommands (commands : List Command) : Except NamespaceFault Forest :=
  match build {} none commands with
  | (.error fault, _) => .error fault
  | (.ok roots, forest) => .ok (forest.attachAll none roots)

end Forest

end StubForge
