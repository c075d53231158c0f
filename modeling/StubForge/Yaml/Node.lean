import StubForge.Yaml.Kind
import StubForge.Yaml.Token

set_option autoImplicit false

/-!
The nodes of a document: scalars, sequences and mappings with their kinds. References to anchored
nodes are replaced by these nodes; one to a collection that it lies in itself is cut.
-/

namespace StubForge.Yaml

inductive Node where
  | scalar (kind : Kind) (text : String)
  | sequence (kind : Kind) (items : List Node)
  | mapping (kind : Kind) (entries : List (Node × Node))
  -- A reference from inside a collection to that collection.
  | cut (isMapping : Bool)
  deriving Inhabited

structure Composing where
  tokens : List Token
  handles : List (String × String) := []
  anchors : List (String × Node) := []

abbrev Compose := StateT Composing (Except Fault)

namespace Compose

def refuse {α : Type} : Compose α := throw .malformed

def peek : Compose Token := do return ((← get).tokens.head?).getD .streamEnd

def drop : Compose Unit := modify fun state => { state with tokens := state.tokens.drop 1 }

def next : Compose Token := do
  let token ← peek
  drop
  return token

def expect (token : Token) : Compose Unit := do
  if (← next) = token then return () else refuse

def skip? (token : Token) : Compose Bool := do
  if (← peek) = token then
    drop
    return true
  else return false

/-! ### Properties of nodes -/

structure Properties where
  anchor : Option String := none
  tag : Option String := none

def resolveTag (handle : Option String) (suffix : String) : Compose String := do
  match handle with
  | none => return suffix
  | some handle =>
      match (← get).handles.find? fun entry => entry.1 == handle with
      | some (_, replacement) => return replacement ++ suffix
      | none => refuse

def properties : Compose Properties := do
  match ← peek with
  | .anchor name => do
      drop
      match ← peek with
      | .tag handle suffix => do
          drop
          return { anchor := some name, tag := some (← resolveTag handle suffix) }
      | _ => return { anchor := some name }
  | .tag handle suffix => do
      drop
      match ← peek with
      | .anchor name => do
          drop
          return { anchor := some name, tag := some (← resolveTag handle suffix) }
      | _ => return { tag := some (← resolveTag handle suffix) }
  | _ => return {}

-- A tag that leaves the kind to the text or form of the node.
def openTag : String := "!"

def scalarKind (tag : Option String) (text : String) (isPlain : Bool) : Kind :=
  match tag with
  | none => if isPlain then Kind.ofText text else .text
  | some tag => if tag = openTag then Kind.ofText text else Kind.ofTag tag

def collectionKind (tag : Option String) (fallback : Kind) : Kind :=
  match tag with
  | none => fallback
  | some tag => if tag = openTag then fallback else Kind.ofTag tag

def setAnchor (anchor : Option String) (node : Node) : Compose Unit :=
  match anchor with
  | none => return ()
  | some name =>
      modify fun state =>
        { state with anchors := (name, node) :: state.anchors.filter fun entry => entry.1 != name }

-- No two nodes have the same anchor.
def claimAnchor (anchor : Option String) : Compose Unit := do
  match anchor with
  | none => return ()
  | some name =>
      if (← get).anchors.any fun entry => entry.1 == name then refuse else return ()

def reference (anchor : String) : Compose Node := do
  match (← get).anchors.find? fun entry => entry.1 == anchor with
  | some (_, node) => return node
  | none => refuse

def nothing : Node := .scalar .null ""

/-! ### Nodes -/

-- Which nodes may stand at a place: in flow collections no blocks, and after a key also a sequence that is
-- not indented.
inductive Place where
  | flow
  | block
  | afterKey
  deriving DecidableEq

def nodeUnless (ends : List Token) (node : Compose Node) : Compose Node := do
  if ends.contains (← peek) then return nothing else node

mutual
def node : Nat → Place → Compose Node
  | 0, _ => refuse
  | fuel + 1, place => do
      match ← peek with
      | .reference anchor => do
          drop
          reference anchor
      | _ => do
          let found ← properties
          claimAnchor found.anchor
          let sequence := fun (items : Compose (List Node)) => do
            setAnchor found.anchor (.cut false)
            let items ← items
            let node := Node.sequence (collectionKind found.tag .sequence) items
            setAnchor found.anchor node
            return node
          let mapping := fun (entries : Compose (List (Node × Node))) => do
            setAnchor found.anchor (.cut true)
            let entries ← entries
            let node := Node.mapping (collectionKind found.tag .mapping) entries
            setAnchor found.anchor node
            return node
          let scalar := fun (text : String) (isPlain : Bool) => do
            let node := Node.scalar (scalarKind found.tag text isPlain) text
            setAnchor found.anchor node
            return node
          match ← peek with
          | .scalar text isPlain => do
              drop
              scalar text isPlain
          | .flowSequenceStart => do
              drop
              sequence (flowItems fuel true)
          | .flowMappingStart => do
              drop
              mapping (flowEntries fuel true)
          | token =>
              if token = .blockEntry && place = .afterKey then sequence (looseItems fuel)
              else if token = .blockSequenceStart && place ≠ .flow then do
                drop
                sequence (blockItems fuel)
              else if token = .blockMappingStart && place ≠ .flow then do
                drop
                mapping (blockEntries fuel)
              else if found.anchor.isSome || found.tag.isSome then scalar "" true
              else refuse
def blockItems : Nat → Compose (List Node)
  | 0 => refuse
  | fuel + 1 => do
      if ← skip? .blockEntry then
        let item ← nodeUnless [.blockEntry, .blockEnd] (node fuel .block)
        return item :: (← blockItems fuel)
      else
        expect .blockEnd
        return []
-- The items of a sequence that is not indented end with the last of them.
def looseItems : Nat → Compose (List Node)
  | 0 => refuse
  | fuel + 1 => do
      if ← skip? .blockEntry then
        let item ← nodeUnless [.blockEntry, .key, .value, .blockEnd] (node fuel .block)
        return item :: (← looseItems fuel)
      else return []
def blockEntries : Nat → Compose (List (Node × Node))
  | 0 => refuse
  | fuel + 1 => do
      if ← skip? .key then
        let key ← nodeUnless [.key, .value, .blockEnd] (node fuel .afterKey)
        let value ←
          if ← skip? .value then nodeUnless [.key, .value, .blockEnd] (node fuel .afterKey)
          else pure nothing
        return (key, value) :: (← blockEntries fuel)
      else
        expect .blockEnd
        return []
def flowItems : Nat → Bool → Compose (List Node)
  | 0, _ => refuse
  | fuel + 1, isFirst => do
      if ← skip? .flowSequenceEnd then return []
      else
        if !isFirst then expect .flowEntry
        if ← skip? .flowSequenceEnd then return []
        else
          let item ←
            if ← skip? .key then do
              let key ← nodeUnless [.value, .flowEntry, .flowSequenceEnd] (node fuel .flow)
              let value ←
                if ← skip? .value then nodeUnless [.flowEntry, .flowSequenceEnd] (node fuel .flow)
                else pure nothing
              pure (Node.mapping .mapping [(key, value)])
            else node fuel .flow
          return item :: (← flowItems fuel false)
def flowEntries : Nat → Bool → Compose (List (Node × Node))
  | 0, _ => refuse
  | fuel + 1, isFirst => do
      if ← skip? .flowMappingEnd then return []
      else
        if !isFirst then expect .flowEntry
        if ← skip? .flowMappingEnd then return []
        else
          let entry ←
            if ← skip? .key then do
              let key ← nodeUnless [.value, .flowEntry, .flowMappingEnd] (node fuel .flow)
              let value ←
                if ← skip? .value then nodeUnless [.flowEntry, .flowMappingEnd] (node fuel .flow)
                else pure nothing
              pure (key, value)
            else do
              let key ← node fuel .flow
              pure (key, nothing)
          return entry :: (← flowEntries fuel false)
end

/-! ### Documents -/

def standardHandles : List (String × String) := [("!", "!"), ("!!", standardPrefix)]

-- Reads the directives of a document, of each kind and for each handle at most one.
def directives : Nat → Bool → List (String × String) → Compose (List (String × String))
  | 0, _, _ => refuse
  | fuel + 1, versioned, handles => do
      match ← peek with
      | .directive (.version major) => do
          drop
          if versioned || major ≠ 1 then refuse else directives fuel true handles
      | .directive (.tag handle replacement) => do
          drop
          if handles.any fun entry => entry.1 == handle then refuse
          else directives fuel versioned ((handle, replacement) :: handles)
      | .directive .unknown => do
          drop
          directives fuel versioned handles
      | _ => return handles

def dropDocumentEnds : Nat → Compose Unit
  | 0 => return ()
  | fuel + 1 => do
      if ← skip? .documentEnd then dropDocumentEnds fuel else return ()

-- The one node of a stream, which may also be empty. A document that starts without a mark stands first.
def stream (fuel : Nat) : Compose (Option Node) := do
  let isExplicit := match ← peek with
    | .directive _ => true
    | .documentStart => true
    | _ => false
  if (← peek) = .streamEnd then return none
  else if isExplicit then
    let handles ← directives fuel false []
    modify fun state => { state with handles := handles ++ standardHandles }
    expect .documentStart
    let content ← match ← peek with
      | .directive _ => pure nothing
      | .documentStart => pure nothing
      | .documentEnd => pure nothing
      | .streamEnd => pure nothing
      | _ => node fuel .block
    dropDocumentEnds fuel
    expect .streamEnd
    return some content
  else
    modify fun state => { state with handles := standardHandles }
    let content ← node fuel .block
    dropDocumentEnds fuel
    expect .streamEnd
    return some content

end Compose

def compose (tokens : List Token) : Except Fault (Option Node) :=
  let fuel := 2 * tokens.length + 4
  ((Compose.stream fuel).run { tokens }).map (·.1)

end StubForge.Yaml
