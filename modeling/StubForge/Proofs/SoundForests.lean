import StubForge.Proofs.ByName

set_option autoImplicit false

/-!
Forests whose numbers lead somewhere. However nodes are created, linked and filled, one step at a time and in any order,
no number leads out of the forest, nothing is linked twice, and the way up from a node ends.
-/

namespace StubForge.Forest

-- Nothing is said of which links there are: a node may be linked below several others, or below itself.
structure Sound (forest : Forest) : Prop where
  -- A parent was there before the nodes that were created below it.
  parents : ∀ node above, forest.parent? node = some above → above < node ∧ node < forest.size
  childrenInside : ∀ node, ∀ child ∈ forest.children node, child < forest.size
  rootsInside : ∀ node ∈ forest.roots, node < forest.size
  childrenOnce : ∀ node, (forest.children node).Nodup
  rootsOnce : forest.roots.Nodup

theorem sound_empty : Sound {} where
  parents := nofun
  childrenInside := nofun
  rootsInside := nofun
  childrenOnce := fun _ => List.nodup_nil
  rootsOnce := List.nodup_nil

theorem mem_add_once (node other : Nat) (nodes : List Nat) :
    other ∈ addOnce node nodes ↔ other ∈ nodes ∨ other = node := by
  rw [addOnce]
  split
  · rename_i known
    rw [List.contains_iff_mem] at known
    exact ⟨.inl, fun either => either.elim id fun same => same ▸ known⟩
  · rw [List.mem_append, List.mem_singleton]

theorem nodup_add_once (node : Nat) (nodes : List Nat) (distinct : nodes.Nodup) : (addOnce node nodes).Nodup := by
  rw [addOnce]
  split
  · exact distinct
  · rename_i fresh
    exact distinct.append (List.nodup_singleton node) (by simpa using fresh)

section

variable {forest : Forest} (sound : forest.Sound)
include sound

theorem sound_add_node (name : String) (parent : Option Nat) (inside : ∀ above ∈ parent, above < forest.size) :
    (forest.addNode name parent).Sound where
  parents := by
    intro node above upper
    have bound : node < forest.size + 1 := by simpa using parent_in_forest _ node above upper
    rw [size_add_node]
    rcases Nat.eq_or_lt_of_le (Nat.le_of_lt_succ bound) with rfl | old
    · rw [parent_add_node_new] at upper
      exact ⟨inside above upper, bound⟩
    · rw [parent_add_node forest name parent node old] at upper
      exact ⟨(sound.parents node above upper).1, bound⟩
  childrenInside := by
    intro node child member
    rw [children_add_node] at member
    rw [size_add_node]
    exact Nat.lt_succ_of_lt (sound.childrenInside node child member)
  rootsInside := by
    intro node member
    rw [size_add_node]
    exact Nat.lt_succ_of_lt (sound.rootsInside node member)
  childrenOnce := by
    intro node
    rw [children_add_node]
    exact sound.childrenOnce node
  rootsOnce := sound.rootsOnce

theorem sound_attach_root (child : Nat) (inside : child < forest.size) : (forest.attachChild none child).Sound where
  parents := sound.parents
  childrenInside := sound.childrenInside
  rootsInside := by
    intro node member
    rcases (mem_add_once child node forest.roots).mp member with old | rfl
    · exact sound.rootsInside node old
    · exact inside
  childrenOnce := sound.childrenOnce
  rootsOnce := nodup_add_once child forest.roots sound.rootsOnce

theorem sound_attach_below (parent child : Nat) (bound : parent < forest.size) (inside : child < forest.size) :
    (forest.attachChild (some parent) child).Sound where
  parents := by
    rw [parent_attach_child, size_attach_child]
    exact sound.parents
  childrenInside := by
    intro node other member
    rw [size_attach_child]
    rw [children_attach_child forest parent child bound] at member
    split at member
    · rcases (mem_add_once child other _).mp member with old | rfl
      · exact sound.childrenInside node other old
      · exact inside
    · exact sound.childrenInside node other member
  rootsInside := by
    rw [size_attach_child]
    exact sound.rootsInside
  childrenOnce := by
    intro node
    rw [children_attach_child forest parent child bound]
    split
    · exact nodup_add_once child _ (sound.childrenOnce node)
    · exact sound.childrenOnce node
  rootsOnce := sound.rootsOnce

theorem sound_attach_child (parent : Option Nat) (child : Nat) (bound : ∀ above ∈ parent, above < forest.size)
    (inside : child < forest.size) : (forest.attachChild parent child).Sound := by
  cases parent with
  | none => exact sound_attach_root sound child inside
  | some above => exact sound_attach_below sound above child (bound above rfl) inside

theorem sound_add_command (node : Nat) (command : Command) : (forest.addCommand node command).Sound where
  parents := by
    rw [parent_add_command, size_add_command]
    exact sound.parents
  childrenInside := by
    rw [children_add_command, size_add_command]
    exact sound.childrenInside
  rootsInside := by
    rw [size_add_command]
    exact sound.rootsInside
  childrenOnce := by
    rw [children_add_command]
    exact sound.childrenOnce
  rootsOnce := sound.rootsOnce

-- By induction on the number of the node: every step up leads to a smaller one.
theorem lineage_of_sound (node : Nat) : ∃ chain, forest.Lineage node chain ∧ chain.length ≤ node + 1 := by
  induction node using Nat.strongRecOn with
  | ind node ih =>
      cases upper : forest.parent? node with
      | none => exact ⟨[node], .root node upper, Nat.le_add_left 1 node⟩
      | some above =>
          have before := (sound.parents node above upper).1
          obtain ⟨chain, lineage, length⟩ := ih above before
          refine ⟨node :: chain, .under node above chain upper lineage, ?_⟩
          rw [List.length_cons]
          omega

end

/-! ### Steps that find their work done -/

theorem modify_of_fixed {α : Type} (items : List α) (index : Nat) (turn : α → α)
    (fixed : ∀ item ∈ items[index]?, turn item = item) : items.modify index turn = items := by
  apply List.ext_getElem?
  intro other
  rw [List.getElem?_modify]
  by_cases here : index = other
  · subst here
    cases found : items[index]? with
    | none => rfl
    | some item => simp [fixed item found]
  · simp [here]

theorem attach_child_linked (forest : Forest) (parent : Option Nat) (child : Nat)
    (linked : child ∈ parent.elim forest.roots forest.children) : forest.attachChild parent child = forest := by
  have known (nodes : List Nat) (member : child ∈ nodes) : addOnce child nodes = nodes := by
    rw [addOnce, if_pos (List.contains_iff_mem.mpr member)]
  cases parent with
  | none => rw [attachChild, known forest.roots linked]
  | some above =>
      rw [attachChild, modify_of_fixed]
      intro slot found
      have own : forest.children above = slot.children := by
        rw [children, slot?, Option.mem_def.mp found]
        rfl
      rw [known slot.children (own ▸ linked)]

theorem add_command_known (forest : Forest) (node : Nat) (command : Command)
    (known : (forest.commands node).any (·.fullName == command.fullName) = true) :
    forest.addCommand node command = forest := by
  rw [addCommand, modify_of_fixed]
  intro slot found
  have own : forest.commands node = slot.commands := by
    rw [commands, slot?, Option.mem_def.mp found]
    rfl
  rw [Command.addNew, if_pos (own ▸ known)]

end StubForge.Forest
