import StubForge.Proofs.Occurrences
import StubForge.Proofs.Representation

set_option autoImplicit false

/-!
A forest as a table from names to commands and to the names of the namespaces below. Numbers of nodes do not show in the
table, so that forests with different histories can be compared; where names are distinct, equal tables mean the same
forest up to renumbering.
-/

namespace StubForge.Forest

def names (forest : Forest) : List String := forest.slots.map (·.fullName)

def commandsAt (forest : Forest) (name : String) : List Command := ((forest.find? name).map forest.commands).getD []

def childNamesAt (forest : Forest) (name : String) : List String :=
  ((forest.find? name).map fun node => (forest.children node).map forest.fullName).getD []

theorem names_eq (forest : Forest) : forest.names = (List.range forest.size).map forest.fullName := by
  apply List.ext_getElem
  · simp [names, size]
  · intro node bound _
    rw [names, List.length_map] at bound
    simp [names, fullName, slot?, List.getElem?_eq_getElem bound]

theorem mem_names_iff (forest : Forest) (name : String) :
    name ∈ forest.names ↔ ∃ node < forest.size, forest.fullName node = name := by
  simp [names_eq]

theorem name_mem (forest : Forest) (node : Nat) (bound : node < forest.size) : forest.fullName node ∈ forest.names :=
  (forest.mem_names_iff _).mpr ⟨node, bound, rfl⟩

section

variable (forest : Forest) (distinct : forest.names.Nodup)
include distinct

theorem commands_at_node (node : Nat) (bound : node < forest.size) :
    forest.commandsAt (forest.fullName node) = forest.commands node := by
  rw [commandsAt, (forest.find_iff distinct _ node).mpr ⟨bound, rfl⟩]
  rfl

theorem child_names_at_node (node : Nat) (bound : node < forest.size) :
    forest.childNamesAt (forest.fullName node) = (forest.children node).map forest.fullName := by
  rw [childNamesAt, (forest.find_iff distinct _ node).mpr ⟨bound, rfl⟩]
  rfl

theorem full_name_injective (a b : Nat) (aBound : a < forest.size) (bBound : b < forest.size)
    (same : forest.fullName a = forest.fullName b) : a = b :=
  forest.node_unique distinct a b aBound bBound same

theorem find_of_absent (name : String) (absent : name ∉ forest.names) : forest.find? name = none := by
  cases found : forest.find? name with
  | none => rfl
  | some node => exact absurd ((forest.mem_names_iff name).mpr ⟨node, (forest.find_iff distinct name node).mp found⟩) absent

end

theorem commands_at_absent (forest : Forest) (distinct : forest.names.Nodup) (name : String)
    (absent : name ∉ forest.names) : forest.commandsAt name = [] := by
  rw [commandsAt, forest.find_of_absent distinct name absent]
  rfl

theorem child_names_at_absent (forest : Forest) (distinct : forest.names.Nodup) (name : String)
    (absent : name ∉ forest.names) : forest.childNamesAt name = [] := by
  rw [childNamesAt, forest.find_of_absent distinct name absent]
  rfl

/-! ### What the single steps do to each node -/

section

variable (forest : Forest) (name : String) (parent : Option Nat)

theorem slot_add_node (node : Nat) (old : node < forest.size) :
    (forest.addNode name parent).slot? node = forest.slot? node :=
  List.getElem?_append_left old

theorem slot_add_node_new : (forest.addNode name parent).slot? forest.size = some { fullName := name, parent } := by
  simp [slot?, addNode, size]

@[simp] theorem names_add_node : (forest.addNode name parent).names = forest.names ++ [name] := by
  simp [names, addNode]

theorem full_name_add_node (node : Nat) (old : node < forest.size) :
    (forest.addNode name parent).fullName node = forest.fullName node := by
  rw [fullName, forest.slot_add_node name parent node old, fullName]

theorem full_name_add_node_new : (forest.addNode name parent).fullName forest.size = name := by
  rw [fullName, slot_add_node_new]
  rfl

theorem parent_add_node (node : Nat) (old : node < forest.size) :
    (forest.addNode name parent).parent? node = forest.parent? node := by
  rw [parent?, forest.slot_add_node name parent node old, parent?]

theorem parent_add_node_new : (forest.addNode name parent).parent? forest.size = parent := by
  rw [parent?, slot_add_node_new]
  rfl

-- The new node has nothing in it and nothing below it, as if it were not there.
theorem slot_add_node_bare (node : Nat) (new : forest.size ≤ node) :
    (forest.addNode name parent).children node = [] ∧ (forest.addNode name parent).commands node = [] ∧
      forest.slot? node = none := by
  have absent : forest.slot? node = none := List.getElem?_eq_none new
  rcases Nat.eq_or_lt_of_le new with rfl | beyond
  · simp [children, commands, slot_add_node_new, absent]
  · have outside : (forest.addNode name parent).slot? node = none :=
      List.getElem?_eq_none (by simpa [size, addNode] using Nat.succ_le_of_lt beyond)
    simp [children, commands, outside, absent]

@[simp] theorem children_add_node (node : Nat) : (forest.addNode name parent).children node = forest.children node := by
  by_cases old : node < forest.size
  · rw [children, forest.slot_add_node name parent node old, children]
  · obtain ⟨bare, -, absent⟩ := forest.slot_add_node_bare name parent node (Nat.le_of_not_lt old)
    rw [bare, children, absent]
    rfl

@[simp] theorem commands_add_node (node : Nat) : (forest.addNode name parent).commands node = forest.commands node := by
  by_cases old : node < forest.size
  · rw [commands, forest.slot_add_node name parent node old, commands]
  · obtain ⟨-, bare, absent⟩ := forest.slot_add_node_bare name parent node (Nat.le_of_not_lt old)
    rw [bare, commands, absent]
    rfl

end

-- A field that a change of one slot leaves alone.
theorem field_of_modify {β : Type} (field : Slot → β) (turn : Slot → Slot) (same : ∀ slot, field (turn slot) = field slot)
    (slots : List Slot) (changed node : Nat) :
    ((slots.modify changed turn)[node]?).map field = (slots[node]?).map field := by
  rw [List.getElem?_modify]
  cases slots[node]? with
  | none => rfl
  | some slot =>
      by_cases here : changed = node
      · simp [here, same]
      · simp [here]

theorem parent_eq_join (forest : Forest) (node : Nat) : forest.parent? node = (forest.slots[node]?.map (·.parent)).join := by
  rw [parent?, slot?]
  cases forest.slots[node]? <;> rfl

section

variable (forest : Forest) (node : Nat) (command : Command)

theorem full_name_add_command : (forest.addCommand node command).fullName = forest.fullName := by
  funext other
  rw [fullName, fullName, slot?, slot?]
  congr 1
  exact field_of_modify (·.fullName) _ (by intro; rfl) forest.slots _ other

theorem parent_add_command : (forest.addCommand node command).parent? = forest.parent? := by
  funext other
  rw [parent_eq_join, parent_eq_join]
  exact congrArg Option.join (field_of_modify (·.parent) _ (by intro; rfl) forest.slots _ other)

theorem children_add_command : (forest.addCommand node command).children = forest.children := by
  funext other
  rw [children, children, slot?, slot?]
  congr 1
  exact field_of_modify (·.children) _ (by intro; rfl) forest.slots _ other

theorem commands_add_command (bound : node < forest.size) (other : Nat) :
    (forest.addCommand node command).commands other =
      if other = node then Command.addNew (forest.commands other) command else forest.commands other := by
  rw [commands, slot?, addCommand, List.getElem?_modify, commands, slot?]
  by_cases same : other = node
  · subst same
    simp [List.getElem?_eq_getElem bound]
  · simp [same, Ne.symm same]

end

section

variable (forest : Forest) (parent : Nat) (child : Nat)

theorem full_name_attach_child : (forest.attachChild (some parent) child).fullName = forest.fullName := by
  funext other
  rw [fullName, fullName, slot?, slot?]
  congr 1
  exact field_of_modify (·.fullName) _ (by intro; rfl) forest.slots _ other

theorem parent_attach_child : (forest.attachChild (some parent) child).parent? = forest.parent? := by
  funext other
  rw [parent_eq_join, parent_eq_join]
  exact congrArg Option.join (field_of_modify (·.parent) _ (by intro; rfl) forest.slots _ other)

theorem commands_attach_child : (forest.attachChild (some parent) child).commands = forest.commands := by
  funext other
  rw [commands, commands, slot?, slot?]
  congr 1
  exact field_of_modify (·.commands) _ (by intro; rfl) forest.slots _ other

theorem children_attach_child (bound : parent < forest.size) (other : Nat) :
    (forest.attachChild (some parent) child).children other =
      if other = parent then addOnce child (forest.children other) else forest.children other := by
  rw [children, slot?, attachChild, List.getElem?_modify, children, slot?]
  by_cases same : other = parent
  · subst same
    simp [List.getElem?_eq_getElem bound]
  · simp [same, Ne.symm same]

end

-- A view that no single step changes is not changed by all of them.
theorem fold_keeps {α β : Type} (view : Forest → β) (step : Forest → α → Forest)
    (keeps : ∀ forest item, view (step forest item) = view forest) (items : List α) (forest : Forest) :
    view (items.foldl step forest) = view forest := by
  induction items generalizing forest with
  | nil => rfl
  | cons item rest ih => rw [List.foldl_cons, ih, keeps]

section

variable (forest : Forest) (node : Nat) (added : List Command)

@[simp] theorem size_add_commands : (forest.addCommands (some node) added).size = forest.size :=
  fold_keeps size _ (fun forest command => forest.size_add_command node command) added forest

@[simp] theorem roots_add_commands : (forest.addCommands (some node) added).roots = forest.roots :=
  fold_keeps roots (fun forest command => forest.addCommand node command) (fun _ _ => rfl) added forest

@[simp] theorem full_name_add_commands : (forest.addCommands (some node) added).fullName = forest.fullName :=
  fold_keeps fullName _ (fun forest command => forest.full_name_add_command node command) added forest

@[simp] theorem parent_add_commands : (forest.addCommands (some node) added).parent? = forest.parent? :=
  fold_keeps parent? _ (fun forest command => forest.parent_add_command node command) added forest

@[simp] theorem children_add_commands : (forest.addCommands (some node) added).children = forest.children :=
  fold_keeps children _ (fun forest command => forest.children_add_command node command) added forest

theorem commands_add_commands (bound : node < forest.size) (other : Nat) :
    (forest.addCommands (some node) added).commands other =
      if other = node then added.foldl Command.addNew (forest.commands other) else forest.commands other := by
  induction added generalizing forest with
  | nil => simp [addCommands]
  | cons command rest ih =>
      have step : forest.addCommands (some node) (command :: rest) =
          (forest.addCommand node command).addCommands (some node) rest := rfl
      rw [step, ih _ (by simpa using bound), commands_add_command forest node command bound]
      split <;> rfl

end

section

variable (forest : Forest) (parent : Nat) (nodes : List Nat)

@[simp] theorem size_attach_all : (forest.attachAll (some parent) nodes).size = forest.size :=
  fold_keeps size _ (fun forest node => forest.size_attach_child (some parent) node) nodes forest

@[simp] theorem roots_attach_all : (forest.attachAll (some parent) nodes).roots = forest.roots :=
  fold_keeps roots (fun forest node => forest.attachChild (some parent) node) (fun _ _ => rfl) nodes forest

@[simp] theorem full_name_attach_all : (forest.attachAll (some parent) nodes).fullName = forest.fullName :=
  fold_keeps fullName _ (fun forest node => forest.full_name_attach_child parent node) nodes forest

@[simp] theorem parent_attach_all : (forest.attachAll (some parent) nodes).parent? = forest.parent? :=
  fold_keeps parent? _ (fun forest node => forest.parent_attach_child parent node) nodes forest

@[simp] theorem commands_attach_all : (forest.attachAll (some parent) nodes).commands = forest.commands :=
  fold_keeps commands _ (fun forest node => forest.commands_attach_child parent node) nodes forest

-- Nodes that are not linked yet come after those that are.
theorem children_attach_all (bound : parent < forest.size) (distinct : (forest.children parent ++ nodes).Nodup)
    (other : Nat) : (forest.attachAll (some parent) nodes).children other =
      if other = parent then forest.children other ++ nodes else forest.children other := by
  induction nodes generalizing forest with
  | nil => simp [attachAll]
  | cons node rest ih =>
      have fresh : node ∉ forest.children parent := fun again =>
        (List.nodup_append.mp distinct).2.2 node again node List.mem_cons_self rfl
      have step : forest.attachAll (some parent) (node :: rest) =
          (forest.attachChild (some parent) node).attachAll (some parent) rest := rfl
      have linked : (forest.attachChild (some parent) node).children parent = forest.children parent ++ [node] := by
        simp [children_attach_child forest parent node bound, addOnce, fresh]
      rw [step, ih _ (by simpa using bound) (by simpa [linked] using distinct)]
      by_cases same : other = parent
      · rw [if_pos same, if_pos same, same, linked, List.append_assoc, List.singleton_append]
      · rw [if_neg same, if_neg same, children_attach_child forest parent node bound, if_neg same]

end

/-! ### What the single steps do to the table -/

-- Names tell nodes apart and tell what lies below what, and links lead to nodes.
structure Orderly (forest : Forest) : Prop where
  distinct : forest.names.Nodup
  childrenInside : ∀ node, ∀ child ∈ forest.children node, child < forest.size
  siblings : ∀ node, (forest.children node).Nodup
  parentsInside : ∀ node above, forest.parent? node = some above → above < forest.size
  rootsInside : ∀ node ∈ forest.roots, node < forest.size
  named : ∀ node < forest.size, forest.NamedBelow node

theorem child_names_nodup {forest : Forest} (orderly : forest.Orderly) (name : String) :
    (forest.childNamesAt name).Nodup := by
  by_cases present : name ∈ forest.names
  · obtain ⟨node, bound, rfl⟩ := (forest.mem_names_iff name).mp present
    rw [forest.child_names_at_node orderly.distinct node bound]
    refine (orderly.siblings node).map_on ?_
    intro a aMember b bMember same
    exact forest.full_name_injective orderly.distinct a b (orderly.childrenInside node a aMember)
      (orderly.childrenInside node b bMember) same
  · rw [forest.child_names_at_absent orderly.distinct name present]
    exact List.nodup_nil

-- The table depends on the nodes' names, commands and children only.
theorem find_of_same {forest other : Forest} (size : other.size = forest.size) (names : other.fullName = forest.fullName)
    (name : String) : other.find? name = forest.find? name := by
  have listed (tree : Forest) : tree.find? name = tree.names.findIdx? (· == name) := by
    rw [find?, Forest.names, List.findIdx?_map]
    rfl
  rw [listed, listed, names_eq, names_eq, size, names]

theorem named_below_of_same {forest other : Forest} (names : other.fullName = forest.fullName)
    (parents : other.parent? = forest.parent?) (node : Nat) (named : forest.NamedBelow node) : other.NamedBelow node := by
  simpa only [NamedBelow, name, names, parents] using named

section

variable {forest : Forest} (orderly : forest.Orderly)

theorem names_add_commands (node : Nat) (added : List Command) :
    (forest.addCommands (some node) added).names = forest.names := by
  simp [names_eq]

theorem names_attach_all (parent : Nat) (nodes : List Nat) :
    (forest.attachAll (some parent) nodes).names = forest.names := by
  simp [names_eq]

theorem find_add_commands (node : Nat) (added : List Command) (name : String) :
    (forest.addCommands (some node) added).find? name = forest.find? name :=
  find_of_same (by simp) (by simp) name

theorem find_attach_all (parent : Nat) (nodes : List Nat) (name : String) :
    (forest.attachAll (some parent) nodes).find? name = forest.find? name :=
  find_of_same (by simp) (by simp) name

include orderly

theorem orderly_add_commands (node : Nat) (added : List Command) : (forest.addCommands (some node) added).Orderly where
  distinct := by
    rw [names_add_commands]
    exact orderly.distinct
  childrenInside := by simpa using orderly.childrenInside
  siblings := by simpa using orderly.siblings
  parentsInside := by simpa using orderly.parentsInside
  rootsInside := by simpa using orderly.rootsInside
  named := fun other bound => named_below_of_same (full_name_add_commands _ _ _) (parent_add_commands _ _ _) other
    (orderly.named other (by simpa using bound))

theorem commands_at_add_commands (node : Nat) (added : List Command) (bound : node < forest.size) (name : String) :
    (forest.addCommands (some node) added).commandsAt name =
      if name = forest.fullName node then added.foldl Command.addNew (forest.commandsAt name)
      else forest.commandsAt name := by
  have found := forest.find_add_commands node added name
  by_cases present : name ∈ forest.names
  · obtain ⟨other, otherBound, rfl⟩ := (forest.mem_names_iff name).mp present
    rw [forest.commands_at_node orderly.distinct other otherBound, commandsAt, found,
      (forest.find_iff orderly.distinct _ other).mpr ⟨otherBound, rfl⟩, Option.map_some, Option.getD_some,
      forest.commands_add_commands node added bound]
    by_cases same : other = node
    · simp [same]
    · have apart : forest.fullName other ≠ forest.fullName node := fun equal =>
        same (forest.full_name_injective orderly.distinct other node otherBound bound equal)
      simp [same, apart]
  · have apart : name ≠ forest.fullName node := fun equal => present (equal ▸ forest.name_mem node bound)
    rw [commandsAt, found, if_neg apart, commandsAt, forest.find_of_absent orderly.distinct name present]
    rfl

omit orderly in
theorem child_names_at_add_commands (node : Nat) (added : List Command) (name : String) :
    (forest.addCommands (some node) added).childNamesAt name = forest.childNamesAt name := by
  rw [childNamesAt, find_add_commands, childNamesAt]
  simp

theorem orderly_attach_all (parent : Nat) (nodes : List Nat) (bound : parent < forest.size)
    (inside : ∀ node ∈ nodes, node < forest.size) (distinct : (forest.children parent ++ nodes).Nodup) :
    (forest.attachAll (some parent) nodes).Orderly where
  distinct := by
    rw [names_attach_all]
    exact orderly.distinct
  childrenInside := by
    intro node child member
    rw [size_attach_all]
    rw [forest.children_attach_all parent nodes bound distinct] at member
    split at member
    · exact (List.mem_append.mp member).elim (orderly.childrenInside node child) (inside child)
    · exact orderly.childrenInside node child member
  siblings := by
    intro node
    rw [forest.children_attach_all parent nodes bound distinct]
    split
    · rename_i same
      exact same ▸ distinct
    · exact orderly.siblings node
  parentsInside := by simpa using orderly.parentsInside
  rootsInside := by simpa using orderly.rootsInside
  named := fun other bound => named_below_of_same (full_name_attach_all _ _ _) (parent_attach_all _ _ _) other
    (orderly.named other (by simpa using bound))

omit orderly in
theorem commands_at_attach_all (parent : Nat) (nodes : List Nat) (name : String) :
    (forest.attachAll (some parent) nodes).commandsAt name = forest.commandsAt name := by
  rw [commandsAt, find_attach_all, commandsAt]
  simp

theorem child_names_at_attach_all (parent : Nat) (nodes : List Nat) (bound : parent < forest.size)
    (distinct : (forest.children parent ++ nodes).Nodup) (name : String) :
    (forest.attachAll (some parent) nodes).childNamesAt name =
      if name = forest.fullName parent then forest.childNamesAt name ++ nodes.map forest.fullName
      else forest.childNamesAt name := by
  have found := forest.find_attach_all parent nodes name
  by_cases present : name ∈ forest.names
  · obtain ⟨other, otherBound, rfl⟩ := (forest.mem_names_iff name).mp present
    rw [forest.child_names_at_node orderly.distinct other otherBound, childNamesAt, found,
      (forest.find_iff orderly.distinct _ other).mpr ⟨otherBound, rfl⟩, Option.map_some, Option.getD_some,
      forest.children_attach_all parent nodes bound distinct, full_name_attach_all]
    by_cases same : other = parent
    · simp [same]
    · have apart : forest.fullName other ≠ forest.fullName parent := fun equal =>
        same (forest.full_name_injective orderly.distinct other parent otherBound bound equal)
      simp [same, apart]
  · have apart : name ≠ forest.fullName parent := fun equal => present (equal ▸ forest.name_mem parent bound)
    rw [childNamesAt, found, if_neg apart, childNamesAt, forest.find_of_absent orderly.distinct name present]
    rfl

section

variable (name segment : String) (parent : Nat) (bound : parent < forest.size) (fresh : name ∉ forest.names)
  (filled : segment ≠ "") (segments : Name.segments name = Name.segments (forest.fullName parent) ++ [segment])
include fresh

theorem distinct_add_node (above : Option Nat) : (forest.addNode name above).names.Nodup := by
  rw [names_add_node]
  exact orderly.distinct.append (List.nodup_singleton name) (by simpa using fresh)

theorem commands_at_add_node (above : Option Nat) (other : String) :
    (forest.addNode name above).commandsAt other = forest.commandsAt other := by
  have distinct := distinct_add_node orderly name fresh above
  by_cases present : other ∈ forest.names
  · obtain ⟨node, old, rfl⟩ := (forest.mem_names_iff other).mp present
    have here := commands_at_node _ distinct node (by simpa using Nat.lt_succ_of_lt old)
    rw [forest.full_name_add_node name above node old, commands_add_node] at here
    rw [here, forest.commands_at_node orderly.distinct node old]
  · rw [forest.commands_at_absent orderly.distinct other present]
    by_cases same : other = name
    · have here := commands_at_node _ distinct forest.size (by simp)
      rw [full_name_add_node_new, (forest.slot_add_node_bare name above _ (Nat.le_refl _)).2.1] at here
      rw [same, here]
    · exact commands_at_absent _ distinct other (by simp [present, same])

theorem child_names_at_add_node (above : Option Nat) (other : String) :
    (forest.addNode name above).childNamesAt other = forest.childNamesAt other := by
  have distinct := distinct_add_node orderly name fresh above
  by_cases present : other ∈ forest.names
  · obtain ⟨node, old, rfl⟩ := (forest.mem_names_iff other).mp present
    have here := child_names_at_node _ distinct node (by simpa using Nat.lt_succ_of_lt old)
    rw [forest.full_name_add_node name above node old, children_add_node] at here
    rw [here, forest.child_names_at_node orderly.distinct node old]
    exact List.map_congr_left fun child member =>
      forest.full_name_add_node name above child (orderly.childrenInside node child member)
  · rw [forest.child_names_at_absent orderly.distinct other present]
    by_cases same : other = name
    · have here := child_names_at_node _ distinct forest.size (by simp)
      rw [full_name_add_node_new, (forest.slot_add_node_bare name above _ (Nat.le_refl _)).1] at here
      rw [same, here]
      rfl
    · exact child_names_at_absent _ distinct other (by simp [present, same])

include bound filled segments

theorem orderly_add_node : (forest.addNode name (some parent)).Orderly where
  distinct := distinct_add_node orderly name fresh (some parent)
  childrenInside := by
    intro node child member
    rw [children_add_node] at member
    rw [size_add_node]
    exact Nat.lt_succ_of_lt (orderly.childrenInside node child member)
  siblings := by simpa using orderly.siblings
  parentsInside := by
    intro node above linked
    rw [size_add_node]
    by_cases old : node < forest.size
    · rw [forest.parent_add_node name _ node old] at linked
      exact Nat.lt_succ_of_lt (orderly.parentsInside node above linked)
    · have inside := parent_in_forest _ node above linked
      rw [size_add_node] at inside
      obtain rfl : node = forest.size := by omega
      rw [parent_add_node_new] at linked
      cases linked
      exact Nat.lt_succ_of_lt bound
  rootsInside := by
    intro node member
    rw [size_add_node]
    exact Nat.lt_succ_of_lt (orderly.rootsInside node member)
  named := by
    intro node inside
    by_cases old : node < forest.size
    · have here := orderly.named node old
      rw [NamedBelow, Forest.name] at here ⊢
      rw [forest.full_name_add_node name _ node old, forest.parent_add_node name _ node old]
      cases linked : forest.parent? node with
      | none => simpa [linked] using here
      | some above =>
          rw [linked] at here
          dsimp only at here ⊢
          rwa [forest.full_name_add_node name _ above (orderly.parentsInside node above linked)]
    · rw [size_add_node] at inside
      obtain rfl : node = forest.size := by omega
      apply named_below_of_segments _ _ segment filled
      rw [full_name_add_node_new, parent_add_node_new, Option.map_some, forest.full_name_add_node name _ parent bound]
      exact segments

end

end

theorem orderly_of_represents {forest : Forest} {commands : List Command} (represents : Represents forest commands) :
    forest.Orderly := by
  have links := represents.linkedOnce
  have once := List.nodup_append.mp (links.nodup_iff.mpr List.nodup_range)
  refine ⟨represents.distinct, ?_, ?_, ?_, ?_, represents.named⟩
  · exact fun node child member => forest.parent_in_forest child node ((represents.linked child node).mp member)
  · intro node
    by_cases bound : node < forest.size
    · obtain ⟨slot, member, found, -, -⟩ := forest.slot_of_node node bound
      have own : forest.children node = slot.children := by simp [children, found]
      exact own ▸ (List.nodup_flatMap.mp once.2.1).1 slot member
    · have absent : forest.slot? node = none := List.getElem?_eq_none (Nat.le_of_not_lt bound)
      simp [children, absent]
  · intro node above linked
    exact Nat.lt_trans (represents.parentFirst node above linked) (forest.parent_in_forest node above linked)
  · exact fun node member => List.mem_range.mp (links.subset (List.mem_append_left _ member))

end StubForge.Forest
