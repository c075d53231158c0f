import StubForge.Proofs.Partition

set_option autoImplicit false

/-!
What holds of every forest that was built from commands: its nodes are numbered along the walk, links,
parents and names tell the same story, and the names are those above some command.
-/

namespace StubForge.Forest

-- A node with the nodes above it, from the node up to its root.
inductive Lineage (forest : Forest) : Nat → List Nat → Prop where
  | root (node : Nat) (top : forest.parent? node = none) : Lineage forest node [node]
  | under (node above : Nat) (chain : List Nat) (linked : forest.parent? node = some above)
      (upper : Lineage forest above chain) : Lineage forest node (node :: chain)

-- A name goes on from that of the node above it by one segment.
def NamedBelow (forest : Forest) (node : Nat) : Prop :=
  forest.name node ≠ "" ∧ '.' ∉ (forest.name node).toList ∧
    forest.fullName node = match forest.parent? node with
      | none => forest.name node
      | some above => Name.child (forest.fullName above) (forest.name node)

structure Represents (forest : Forest) (commands : List Command) : Prop where
  distinct : (forest.slots.map (·.fullName)).Nodup
  covers : ∀ name, name ∈ forest.slots.map (·.fullName) ↔
    name ≠ "" ∧ ∃ command ∈ commands, Name.isBelow command.fullName name = true
  linkedOnce : (forest.roots ++ forest.slots.flatMap (·.children)).Perm (List.range forest.size)
  rooted : ∀ node < forest.size, (node ∈ forest.roots ↔ forest.parent? node = none)
  linked : ∀ node above, node ∈ forest.children above ↔ forest.parent? node = some above
  parentFirst : ∀ node above, forest.parent? node = some above → above < node
  named : ∀ node < forest.size, forest.NamedBelow node
  depths : ∀ node < forest.size, ∃ chain, forest.Lineage node chain ∧ chain.length = forest.depth node
  ordered : forest.nodes = List.range forest.size
  walkEnds : ∀ levels, forest.size ≤ levels →
    forest.roots.flatMap (forest.walkFrom levels) = List.range forest.size
  found : ∀ name node, forest.find? name = some node ↔ node < forest.size ∧ forest.fullName node = name

theorem named_below_of_segments (forest : Forest) (node : Nat) (segment : String) (filled : segment ≠ "")
    (segments : Name.segments (forest.fullName node) =
      pathOf ((forest.parent? node).map forest.fullName) ++ [segment]) : forest.NamedBelow node := by
  have plain : '.' ∉ segment.toList :=
    Name.plain_of_mem_segments (forest.fullName node) segment (by simp [segments])
  cases upper : forest.parent? node with
  | none =>
      have whole : forest.fullName node = segment := by
        apply Name.segments_injective
        rw [segments, upper, Name.segments_of_plain segment plain]
        rfl
      have own : forest.name node = segment := by
        rw [name, whole, Name.last, Name.split_last_of_not_mem _ plain]
        exact String.ofList_toList
      rw [NamedBelow, own, upper]
      exact ⟨filled, plain, whole⟩
  | some above =>
      have whole : forest.fullName node = Name.child (forest.fullName above) segment := by
        apply Name.segments_injective
        rw [segments, upper, Name.segments_child _ _ plain]
        rfl
      have own : forest.name node = segment := by
        rw [name, whole, Name.last_child _ _ plain]
      rw [NamedBelow, own, upper]
      exact ⟨filled, plain, whole⟩

-- Its segments are those of the node above it, and its own name.
theorem segments_of_named (forest : Forest) (node : Nat) (named : forest.NamedBelow node) :
    Name.segments (forest.fullName node) =
      pathOf ((forest.parent? node).map forest.fullName) ++ [forest.name node] := by
  obtain ⟨-, plain, whole⟩ := named
  cases upper : forest.parent? node with
  | none =>
      rw [upper] at whole
      rw [show forest.fullName node = forest.name node from whole, Name.segments_of_plain _ plain]
      rfl
  | some above =>
      rw [upper] at whole
      rw [show forest.fullName node = Name.child (forest.fullName above) (forest.name node) from whole,
        Name.segments_child _ _ plain]
      rfl

theorem find_iff (forest : Forest) (distinct : (forest.slots.map (·.fullName)).Nodup) (name : String)
    (node : Nat) : forest.find? name = some node ↔ node < forest.size ∧ forest.fullName node = name := by
  rw [find?, List.findIdx?_eq_some_iff_getElem]
  constructor
  · rintro ⟨bound, same, -⟩
    exact ⟨bound, by simpa [fullName, slot?, List.getElem?_eq_getElem bound] using same⟩
  · rintro ⟨bound, named⟩
    have inside : node < forest.slots.length := bound
    have own : forest.slots[node].fullName = name := by
      simpa [fullName, slot?, List.getElem?_eq_getElem inside] using named
    refine ⟨inside, by simpa using own, ?_⟩
    intro earlier before
    -- An earlier slot of that name would be the node itself.
    have earlierBound : earlier < forest.slots.length := Nat.lt_trans before bound
    intro same
    have earlierName : forest.fullName earlier = name := by
      simpa [fullName, slot?, List.getElem?_eq_getElem earlierBound] using same
    have equal := node_unique forest distinct earlier node earlierBound bound (earlierName.trans named.symm)
    omega

-- Following the parents from a node, each step shortens the name by its last segment.
theorem lineage_of_named (forest : Forest)
    (parentFirst : ∀ node above, forest.parent? node = some above → above < node) (node : Nat)
    (bound : node < forest.size) (named : ∀ node < forest.size, forest.NamedBelow node) :
    ∃ chain, forest.Lineage node chain ∧ chain.length = forest.depth node := by
  induction node using Nat.strongRecOn with
  | ind node ih =>
      have segments := segments_of_named forest node (named node bound)
      have deep : forest.depth node = (Name.segments (forest.fullName node)).length :=
        (Name.length_segments _).symm
      cases upper : forest.parent? node with
      | none =>
          rw [segments, upper] at deep
          exact ⟨[node], .root node upper, deep.symm⟩
      | some above =>
          have before := parentFirst node above upper
          obtain ⟨chain, lineage, length⟩ := ih above before (Nat.lt_trans before bound)
          refine ⟨node :: chain, .under node above chain upper lineage, ?_⟩
          rw [deep, segments, upper, List.length_append, List.length_cons, length]
          exact congrArg (· + 1) (Name.length_segments _).symm

theorem parent_in_forest (forest : Forest) (node above : Nat) (linked : forest.parent? node = some above) :
    node < forest.size := by
  by_contra outside
  have absent : forest.slot? node = none := List.getElem?_eq_none (Nat.le_of_not_lt outside)
  simp [parent?, absent] at linked

theorem child_in_forest (forest : Forest) (node above : Nat) (member : node ∈ forest.children above) :
    above < forest.size := by
  by_contra outside
  have absent : forest.slot? above = none := List.getElem?_eq_none (Nat.le_of_not_lt outside)
  simp [children, absent] at member

theorem represents_of_commands (commands : List Command) (forest : Forest)
    (built : ofCommands commands = .ok forest) : Represents forest commands := by
  obtain ⟨accepted, outline, grown, complete, rfl⟩ := of_commands_grown commands forest built
  have size : outline.toForest.size = outline.size := by simp [Forest.size, Outline.toForest]
  have names : outline.toForest.slots.map (·.fullName) = outline.names := outline.names_of_slots none 0
  have distinct : (outline.toForest.slots.map (·.fullName)).Nodup :=
    names ▸ outline.names_nodup none commands grown
  have laidOut : ∀ node < outline.toForest.size, outline.NodeLaidOut none 0 outline.toForest node :=
    fun node bound => outline.node_of_layout commands none 0 outline.toForest outline.lies_in_forest grown
      node (Nat.zero_le node) (by omega)
  have named : ∀ node < outline.toForest.size, outline.toForest.NamedBelow node := by
    intro node bound
    obtain ⟨-, ⟨segment, filled, segments⟩, -⟩ := laidOut node bound
    exact named_below_of_segments _ node segment filled segments
  have linked : ∀ node above,
      node ∈ outline.toForest.children above ↔ outline.toForest.parent? node = some above := by
    intro node above
    constructor
    · intro member
      exact (laidOut above (child_in_forest _ node above member)).1 node member
    · intro upper
      obtain ⟨-, -, ⟨-, none⟩ | ⟨other, -, -, otherUpper, member⟩⟩ :=
        laidOut node (parent_in_forest _ node above upper)
      · simp [upper] at none
      · rw [upper] at otherUpper
        cases otherUpper
        exact member
  have parentFirst : ∀ node above, outline.toForest.parent? node = some above → above < node := by
    intro node above upper
    obtain ⟨-, -, ⟨-, none⟩ | ⟨other, -, before, otherUpper, -⟩⟩ :=
      laidOut node (parent_in_forest _ node above upper)
    · simp [upper] at none
    · rw [upper] at otherUpper
      cases otherUpper
      exact before
  refine ⟨distinct, ?_, ?_, ?_, linked, parentFirst, named, ?_, outline.nodes_of_layout, ?_, ?_⟩
  · intro name
    rw [names]
    exact outline.mem_names_iff commands grown complete accepted name
  · rw [size, List.range_eq_range']
    exact outline.links_of_layout none 0
  · intro node bound
    constructor
    · exact outline.parent_of_top none 0 _ outline.lies_in_forest node
    · intro top
      obtain ⟨-, -, ⟨member, -⟩ | ⟨above, -, -, upper, -⟩⟩ := laidOut node bound
      · exact member
      · simp [top] at upper
  · exact fun node bound => lineage_of_named _ parentFirst node bound named
  · intro levels enough
    rw [size, List.range_eq_range']
    exact outline.walk_of_layout none 0 _ outline.lies_in_forest levels (by omega)
  · exact fun name node => find_iff _ distinct name node

theorem shop_commands_represented : ∃ forest,
    ofCommands [{ fullName := "shop.cart.Add" }, { fullName := "shopping.Find" }] = .ok forest ∧
      Represents forest [{ fullName := "shop.cart.Add" }, { fullName := "shopping.Find" }] :=
  ⟨{ slots := [⟨"shop", none, [1], []⟩, ⟨"shop.cart", some 0, [], [{ fullName := "shop.cart.Add" }]⟩,
        ⟨"shopping", none, [], [{ fullName := "shopping.Find" }]⟩],
     roots := [0, 2] }, rfl, represents_of_commands _ _ rfl⟩

end StubForge.Forest
