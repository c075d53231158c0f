import StubForge.Proofs.ByName

set_option autoImplicit false

/-!
Forests that differ in the numbers of their nodes only. Numbers follow the order in which nodes were created, which is not
part of what a forest says; orderly forests with equal tables are the same in this sense.
-/

namespace StubForge.Forest

def renumberSlot (number : Nat → Nat) (slot : Slot) : Slot :=
  { slot with parent := slot.parent.map number, children := slot.children.map number }

-- The right forest is the left one with its nodes numbered anew.
structure Renumbers (number : Nat → Nat) (left right : Forest) : Prop where
  size : left.size = right.size
  inside : ∀ node < left.size, number node < right.size
  injective : ∀ a < left.size, ∀ b < left.size, number a = number b → a = b
  roots : right.roots = left.roots.map number
  slots : ∀ node < left.size, right.slot? (number node) = (left.slot? node).map (renumberSlot number)

theorem slot_of_fields (forest : Forest) (node : Nat) (bound : node < forest.size) :
    forest.slot? node =
      some ⟨forest.fullName node, forest.parent? node, forest.children node, forest.commands node⟩ := by
  obtain ⟨slot, found⟩ : ∃ slot, forest.slot? node = some slot := ⟨_, List.getElem?_eq_getElem bound⟩
  simp [fullName, parent?, children, commands, found]

section

variable {forest : Forest} (orderly : forest.Orderly)
include orderly

theorem full_name_filled (node : Nat) (bound : node < forest.size) : forest.fullName node ≠ "" := by
  obtain ⟨filled, -, whole⟩ := orderly.named node bound
  intro empty
  cases linked : forest.parent? node with
  | none =>
      rw [linked] at whole
      exact filled (whole.symm.trans empty)
  | some above =>
      rw [linked, empty] at whole
      have chars := congrArg String.toList whole
      simp [Name.child] at chars

-- The name of a node tells the name of its parent.
theorem parent_name_of_node (node : Nat) (bound : node < forest.size) :
    (forest.parent? node).map forest.fullName =
      if '.' ∈ (forest.fullName node).toList then some (Name.parent (forest.fullName node)) else none := by
  obtain ⟨-, plain, whole⟩ := orderly.named node bound
  cases linked : forest.parent? node with
  | none =>
      rw [linked] at whole
      rw [if_neg (whole ▸ plain)]
      rfl
  | some above =>
      rw [linked] at whole
      dsimp only at whole
      have dotted : '.' ∈ (forest.fullName node).toList := by
        rw [whole]
        simp [Name.child]
      rw [if_pos dotted, Option.map_some, whole, Name.parent_child _ _ plain]

theorem nodes_of_names (front back : List Nat) (frontInside : ∀ node ∈ front, node < forest.size)
    (backInside : ∀ node ∈ back, node < forest.size) (same : front.map forest.fullName = back.map forest.fullName) :
    front = back := by
  induction front generalizing back with
  | nil => exact (List.map_eq_nil_iff.mp same.symm).symm
  | cons node rest ih =>
      cases back with
      | nil => cases same
      | cons other others =>
          obtain ⟨head, tail⟩ := List.cons.inj same
          rw [forest.full_name_injective orderly.distinct node other (frontInside node List.mem_cons_self)
            (backInside other List.mem_cons_self) head,
            ih others (fun inner member => frontInside inner (List.mem_cons_of_mem _ member))
              (fun inner member => backInside inner (List.mem_cons_of_mem _ member)) tail]

end

section

variable {left right : Forest} (leftOrderly : left.Orderly) (rightOrderly : right.Orderly)
  (names : ∀ name, name ∈ left.names ↔ name ∈ right.names)
include leftOrderly rightOrderly names

theorem size_of_names : left.size = right.size := by
  have permuted := (List.perm_ext_iff_of_nodup leftOrderly.distinct rightOrderly.distinct).mpr names
  simpa [Forest.names, size] using permuted.length_eq

-- Orderly forests with equal tables are the same up to the numbers of their nodes.
theorem same_tree_of_tables (commands : ∀ name, left.commandsAt name = right.commandsAt name)
    (children : ∀ name, left.childNamesAt name = right.childNamesAt name)
    (roots : left.roots.map left.fullName = right.roots.map right.fullName) : ∃ number, Renumbers number left right := by
  let number (node : Nat) : Nat := (right.find? (left.fullName node)).getD 0
  have moved (node : Nat) (bound : node < left.size) :
      number node < right.size ∧ right.fullName (number node) = left.fullName node := by
    obtain ⟨other, inside, named⟩ := (right.mem_names_iff _).mp ((names _).mp (left.name_mem node bound))
    have found := (right.find_iff rightOrderly.distinct _ other).mpr ⟨inside, named⟩
    simp only [number, found]
    exact ⟨inside, named⟩
  have movedNames (nodes : List Nat) (inside : ∀ node ∈ nodes, node < left.size) :
      (nodes.map number).map right.fullName = nodes.map left.fullName := by
    rw [List.map_map]
    exact List.map_congr_left fun node member => (moved node (inside node member)).2
  have movedInside (nodes : List Nat) (inside : ∀ node ∈ nodes, node < left.size) :
      ∀ node ∈ nodes.map number, node < right.size := by
    intro node member
    obtain ⟨own, ownMember, rfl⟩ := List.mem_map.mp member
    exact (moved own (inside own ownMember)).1
  refine ⟨number, size_of_names leftOrderly rightOrderly names, fun node bound => (moved node bound).1, ?_, ?_, ?_⟩
  · intro a aBound b bBound same
    apply left.full_name_injective leftOrderly.distinct a b aBound bBound
    rw [← (moved a aBound).2, ← (moved b bBound).2, same]
  · apply nodes_of_names rightOrderly _ _ rightOrderly.rootsInside (movedInside _ leftOrderly.rootsInside)
    rw [movedNames _ leftOrderly.rootsInside, roots]
  · intro node bound
    obtain ⟨inside, named⟩ := moved node bound
    rw [left.slot_of_fields node bound, right.slot_of_fields _ inside, Option.map_some, renumberSlot, named]
    have ownCommands : right.commands (number node) = left.commands node := by
      rw [← right.commands_at_node rightOrderly.distinct _ inside, ← left.commands_at_node leftOrderly.distinct _ bound,
        named, commands]
    have ownChildren : right.children (number node) = (left.children node).map number := by
      apply nodes_of_names rightOrderly _ _ (rightOrderly.childrenInside _)
        (movedInside _ (leftOrderly.childrenInside node))
      rw [movedNames _ (leftOrderly.childrenInside node), ← right.child_names_at_node rightOrderly.distinct _ inside,
        ← left.child_names_at_node leftOrderly.distinct _ bound, named, children]
    have ownParent : right.parent? (number node) = (left.parent? node).map number := by
      have same : (right.parent? (number node)).map right.fullName = (left.parent? node).map left.fullName := by
        rw [parent_name_of_node rightOrderly _ inside, parent_name_of_node leftOrderly _ bound, named]
      cases upper : left.parent? node with
      | none => simpa [upper] using same
      | some above =>
          obtain ⟨aboveInside, aboveNamed⟩ := moved above (leftOrderly.parentsInside node above upper)
          cases other : right.parent? (number node) with
          | none => simp [upper, other] at same
          | some otherAbove =>
              rw [upper, other, Option.map_some, Option.map_some, ← aboveNamed, Option.some.injEq] at same
              rw [right.full_name_injective rightOrderly.distinct otherAbove _
                (rightOrderly.parentsInside _ otherAbove other) aboveInside same]
              rfl
    rw [ownCommands, ownChildren, ownParent]

end

end StubForge.Forest
