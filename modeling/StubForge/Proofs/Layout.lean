import StubForge.Proofs.Growth

set_option autoImplicit false

/-!
Reading an outline back from the slots it is laid out in: the walk meets the nodes in the order of
their numbers, and links, parents and names agree.
-/

namespace StubForge

namespace Outline

-- The slots of a forest from a number on are those of an outline.
def LiesIn (outline : Outline) (parent : Option Nat) (first : Nat) (forest : Forest) : Prop :=
  ∃ before after, forest.slots = before ++ outline.slots parent first ++ after ∧ before.length = first

theorem lies_in_node (fullName : String) (own : List Command) (below beside : Outline)
    (parent : Option Nat) (first : Nat) (forest : Forest)
    (lies : (node fullName own below beside).LiesIn parent first forest) :
    forest.slot? first = some { fullName, parent, children := below.tops (first + 1), commands := own } ∧
      below.LiesIn (some first) (first + 1) forest ∧
      beside.LiesIn parent (first + 1 + below.size) forest := by
  obtain ⟨before, after, slots, rfl⟩ := lies
  have own_slot : ∃ slot : Slot,
      slot = { fullName, parent, children := below.tops (before.length + 1), commands := own } :=
    ⟨_, rfl⟩
  obtain ⟨slot, slotEq⟩ := own_slot
  simp only [Outline.slots, ← slotEq] at slots
  refine ⟨?_, ⟨before ++ [slot], beside.slots parent (before.length + 1 + below.size) ++ after, ?_, ?_⟩,
    ⟨before ++ slot :: below.slots (some before.length) (before.length + 1), after, ?_, ?_⟩⟩
  · simp [Forest.slot?, slots, slotEq]
  · simp [slots]
  · simp
  · simp [slots]
  · simp only [List.length_append, List.length_cons, length_slots]
    omega

theorem lies_in_forest (outline : Outline) : outline.LiesIn none 0 outline.toForest :=
  ⟨[], [], by simp [toForest], rfl⟩

-- A walk through the side by side nodes meets all nodes in the order of their numbers.
theorem walk_of_layout (outline : Outline) (parent : Option Nat) (first : Nat) (forest : Forest)
    (lies : outline.LiesIn parent first forest) (levels : Nat) (enough : outline.size ≤ levels + 1) :
    (outline.tops first).flatMap (forest.walkFrom levels) = List.range' first outline.size := by
  induction outline generalizing parent first levels with
  | empty => rfl
  | node fullName own below beside ihBelow ihBeside =>
      obtain ⟨slot, liesBelow, liesBeside⟩ := lies_in_node _ _ _ _ _ _ _ lies
      simp only [size] at enough
      have rest := ihBeside parent _ liesBeside levels (by omega)
      have walked : forest.walkFrom levels first = first :: List.range' (first + 1) below.size := by
        cases levels with
        | zero =>
            have bare : below.size = 0 := by omega
            simp [Forest.walkFrom, bare]
        | succ fewer =>
            have children : forest.children first = below.tops (first + 1) := by
              simp [Forest.children, slot]
            rw [Forest.walkFrom, children, ihBelow (some first) (first + 1) liesBelow fewer (by omega)]
      rw [tops, List.flatMap_cons, walked, rest, size, List.range'_succ, List.cons_append,
        List.range'_append_1]

theorem nodes_of_layout (outline : Outline) :
    outline.toForest.nodes = List.range outline.toForest.size := by
  have sizes : outline.toForest.size = outline.size := by simp [Forest.size, toForest]
  have walked := outline.walk_of_layout none 0 outline.toForest outline.lies_in_forest outline.size
    (Nat.le_succ _)
  have walks : outline.toForest.walk = outline.toForest.walkFrom outline.size := by
    funext node
    rw [Forest.walk, sizes]
  rw [Forest.nodes, walks, sizes, List.range_eq_range', ← walked]
  rfl

-- Every node but those side by side is linked below exactly one other node.
theorem links_of_layout (outline : Outline) (parent : Option Nat) (first : Nat) :
    (outline.tops first ++ (outline.slots parent first).flatMap (·.children)).Perm
      (List.range' first outline.size) := by
  induction outline generalizing parent first with
  | empty => exact List.Perm.refl _
  | node fullName own below beside ihBelow ihBeside =>
      have belowLinks := ihBelow (some first) (first + 1)
      have besideLinks := ihBeside parent (first + 1 + below.size)
      rw [size, List.range'_succ, ← List.range'_append_1]
      simp only [tops, slots, List.flatMap_cons, List.flatMap_append, List.cons_append]
      refine List.Perm.cons first ?_
      refine List.Perm.trans ?_ (belowLinks.append besideLinks)
      refine List.Perm.trans List.perm_append_comm ?_
      simp only [List.append_assoc]
      exact (List.Perm.append_left _ (List.Perm.append_left _ List.perm_append_comm))

theorem parent_of_top (outline : Outline) (parent : Option Nat) (first : Nat) (forest : Forest)
    (lies : outline.LiesIn parent first forest) (top : Nat) (member : top ∈ outline.tops first) :
    forest.parent? top = parent := by
  induction outline generalizing first with
  | empty => simp [tops] at member
  | node fullName own below beside _ ihBeside =>
      obtain ⟨slot, -, liesBeside⟩ := lies_in_node _ _ _ _ _ _ _ lies
      rcases List.mem_cons.mp member with rfl | later
      · simp [Forest.parent?, slot]
      · exact ihBeside _ liesBeside later

-- What is known of each node of an outline: its children link back to it, its name goes on from that of its
-- parent, and its parent, if that is not the one above all, comes before it and links to it.
def NodeLaidOut (outline : Outline) (parent : Option Nat) (first : Nat) (forest : Forest) (node : Nat) : Prop :=
  (∀ child ∈ forest.children node, forest.parent? child = some node) ∧
    (∃ segment, segment ≠ "" ∧ Name.segments (forest.fullName node) =
      pathOf ((forest.parent? node).map forest.fullName) ++ [segment]) ∧
    (node ∈ outline.tops first ∧ forest.parent? node = parent ∨
      ∃ above, first ≤ above ∧ above < node ∧ forest.parent? node = some above ∧
        node ∈ forest.children above)

theorem node_of_layout (outline : Outline) (commands : List Command) (parent : Option Nat) (first : Nat)
    (forest : Forest) (lies : outline.LiesIn parent first forest)
    (grown : outline.GrownFrom (parent.map forest.fullName) commands) (node : Nat)
    (least : first ≤ node) (bound : node < first + outline.size) :
    NodeLaidOut outline parent first forest node := by
  induction outline generalizing commands parent first with
  | empty =>
      simp only [size] at bound
      omega
  | node fullName own below beside ihBelow ihBeside =>
      obtain ⟨slot, liesBelow, liesBeside⟩ := lies_in_node _ _ _ _ _ _ _ lies
      obtain ⟨segment, filled, segments⟩ :=
        segments_of_top _ commands _ grown fullName List.mem_cons_self
      obtain ⟨-, -, -, grownBelow, -, -, grownBeside⟩ := grown
      have named : forest.fullName first = fullName := by simp [Forest.fullName, slot]
      have above : forest.parent? first = parent := by simp [Forest.parent?, slot]
      have children : forest.children first = below.tops (first + 1) := by simp [Forest.children, slot]
      simp only [size] at bound
      rcases Nat.lt_trichotomy node first with less | rfl | more
      · omega
      · refine ⟨?_, ⟨segment, filled, ?_⟩, .inl ⟨List.mem_cons_self, above⟩⟩
        · intro child member
          exact parent_of_top below (some node) (node + 1) forest liesBelow child (children ▸ member)
        · rw [named, above]
          exact segments
      · by_cases inside : node < first + 1 + below.size
        · obtain ⟨links, name, place⟩ := ihBelow _ (some first) (first + 1) liesBelow
            (by simpa [named] using grownBelow) more inside
          refine ⟨links, name, .inr ?_⟩
          rcases place with ⟨top, linked⟩ | ⟨upper, lower, before, linked, member⟩
          · exact ⟨first, Nat.le_refl _, more, linked, children ▸ top⟩
          · exact ⟨upper, by omega, before, linked, member⟩
        · obtain ⟨links, name, place⟩ := ihBeside commands parent (first + 1 + below.size) liesBeside
            grownBeside (by omega) (by omega)
          refine ⟨links, name, ?_⟩
          rcases place with ⟨top, linked⟩ | ⟨upper, lower, before, linked, member⟩
          · exact .inl ⟨List.mem_cons_of_mem _ top, linked⟩
          · exact .inr ⟨upper, by omega, before, linked, member⟩

end Outline

end StubForge
