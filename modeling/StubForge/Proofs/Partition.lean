import StubForge.Proofs.Layout

set_option autoImplicit false

/-!
A forest splits its commands among its namespaces: none is lost, none is there twice, and each lies in
the namespace that its name says.
-/

namespace StubForge

theorem keep_first_append (commands : List Command) (command : Command) :
    keepFirst (commands ++ [command]) = Command.addNew (keepFirst commands) command := by
  simp [keepFirst]

theorem find_of_keep_first (commands : List Command) (name : String) :
    (keepFirst commands).find? (·.fullName == name) = commands.find? (·.fullName == name) := by
  induction commands using List.reverseRecOn with
  | nil => rfl
  | append_singleton before command ih =>
      rw [keep_first_append, Command.addNew, List.find?_append, ← ih]
      split
      · rename_i present
        by_cases same : command.fullName = name
        · obtain ⟨other, member, equal⟩ := List.any_eq_true.mp present
          have found : ((keepFirst before).find? (·.fullName == name)).isSome := by
            rw [List.find?_isSome]
            exact ⟨other, member, by simpa [same] using equal⟩
          obtain ⟨kept, keptEq⟩ := Option.isSome_iff_exists.mp found
          simp [keptEq]
        · simp [same]
      · rw [List.find?_append]

theorem keep_first_nodup (commands : List Command) : ((keepFirst commands).map (·.fullName)).Nodup := by
  induction commands using List.reverseRecOn with
  | nil => exact List.nodup_nil
  | append_singleton before command ih =>
      rw [keep_first_append, Command.addNew]
      split
      · exact ih
      · rename_i absent
        rw [List.map_append]
        refine List.Nodup.append ih (List.nodup_singleton _) ?_
        intro name inside last
        obtain ⟨other, member, rfl⟩ := List.mem_map.mp inside
        have same : other.fullName = command.fullName := by simpa using last
        exact absent (List.any_eq_true.mpr ⟨other, member, by simpa using same⟩)

-- A command that was kept is the first one of its name.
theorem find_of_mem_keep_first (commands : List Command) (kept : Command)
    (member : kept ∈ keepFirst commands) :
    commands.find? (·.fullName == kept.fullName) = some kept := by
  rw [← find_of_keep_first]
  have distinct := keep_first_nodup commands
  generalize keepFirst commands = kepts at member distinct ⊢
  induction kepts with
  | nil => simp at member
  | cons first rest ih =>
      obtain ⟨fresh, distinctRest⟩ := List.nodup_cons.mp distinct
      rcases List.mem_cons.mp member with rfl | later
      · simp
      · have different : first.fullName ≠ kept.fullName := fun same =>
          fresh (List.mem_map.mpr ⟨kept, later, same.symm⟩)
        simpa [different] using ih later distinctRest

theorem mem_of_find {commands : List Command} {name : String} {kept : Command}
    (found : commands.find? (·.fullName == name) = some kept) : kept ∈ commands ∧ kept.fullName = name :=
  ⟨List.mem_of_find?_eq_some found, by simpa using List.find?_some found⟩

theorem exists_kept (commands : List Command) (command : Command) (member : command ∈ commands) :
    ∃ kept ∈ keepFirst commands, kept.fullName = command.fullName := by
  have found : (commands.find? (·.fullName == command.fullName)).isSome := by
    rw [List.find?_isSome]
    exact ⟨command, member, by simp⟩
  obtain ⟨kept, keptEq⟩ := Option.isSome_iff_exists.mp found
  rw [← find_of_keep_first] at keptEq
  exact ⟨kept, mem_of_find keptEq⟩

-- A name fixes the namespace, so leaving out other namespaces does not change which command comes first.
theorem kept_with_home (commands : List Command) (home : String) (kept : Command)
    (inside : kept ∈ keepFirst (commands.filter fun command => command.home = home)) :
    kept ∈ commands ∧ kept.home = home ∧
      commands.find? (fun command => command.fullName == kept.fullName) = some kept := by
  have first := find_of_mem_keep_first _ kept inside
  obtain ⟨given, own⟩ := List.mem_filter.mp (mem_of_find first).1
  have lies : kept.home = home := by simpa using own
  refine ⟨given, lies, ?_⟩
  rw [List.find?_filter] at first
  rw [← first]
  congr 1
  funext command
  by_cases same : command.fullName = kept.fullName
  · have sameHome : command.home = home := by rw [Command.home, same, ← lies, Command.home]
    simp [same, sameHome]
  · simp [same]

namespace Forest

theorem flat_map_range {α β : Type} (items : List α) (pieces : α → List β) :
    (List.range items.length).flatMap (fun i => ((items[i]?).map pieces).getD []) = items.flatMap pieces := by
  induction items with
  | nil => rfl
  | cons first rest ih =>
      rw [List.length_cons, List.range_succ_eq_map, List.flatMap_cons, List.flatMap_map]
      simpa using ih

theorem home_of_accepted (command : Command) (accepted : Accepted none command) :
    command.home ≠ "" ∧ Name.isBelow command.fullName command.home = true := by
  cases pieces : Name.segments command.fullName with
  | nil => exact absurd pieces (Name.segments_ne_nil _)
  | cons first more =>
      have placed := placement_of_segments none command.fullName first more pieces
      have filled := segment_of_accepted none command accepted first more pieces
      have deeper : more ≠ [] := fun single => accepted.2 rfl (by simpa [filled, single] using placed)
      have dotted : '.' ∈ command.fullName.toList := by
        by_contra plain
        rw [Name.segments_of_plain _ plain] at pieces
        exact deeper (List.cons.inj pieces).2.symm
      obtain ⟨whole, plain⟩ := Name.child_parent_last command.fullName dotted
      have longer := Name.segments_child (Name.parent command.fullName) _ plain
      rw [← whole] at longer
      refine ⟨?_, (Name.is_below_iff _ _).mpr ⟨_, _, longer⟩⟩
      intro outermost
      have short : Name.segments (Name.parent command.fullName) = [""] := by
        rw [show Name.parent command.fullName = "" from outermost]
        rfl
      rw [short, pieces] at longer
      exact filled (List.cons.inj longer).1

theorem slot_of_node (forest : Forest) (node : Nat) (bound : node < forest.size) :
    ∃ slot ∈ forest.slots, forest.slot? node = some slot ∧ forest.fullName node = slot.fullName ∧
      forest.commands node = slot.commands := by
  obtain ⟨slot, found⟩ : ∃ slot, forest.slot? node = some slot := ⟨_, List.getElem?_eq_getElem bound⟩
  exact ⟨slot, List.mem_of_getElem? found, found, by simp [fullName, found], by simp [Forest.commands, found]⟩

theorem node_of_slot (forest : Forest) (slot : Slot) (member : slot ∈ forest.slots) :
    ∃ node, node < forest.size ∧ forest.slot? node = some slot := by
  obtain ⟨node, found⟩ := List.getElem?_of_mem member
  exact ⟨node, (List.getElem?_eq_some_iff.mp found).1, found⟩

-- Distinct full names identify nodes.
theorem node_unique (forest : Forest) (distinct : (forest.slots.map (·.fullName)).Nodup) (a b : Nat)
    (aBound : a < forest.size) (bBound : b < forest.size) (same : forest.fullName a = forest.fullName b) :
    a = b := by
  obtain ⟨left, -, leftAt, leftName, -⟩ := forest.slot_of_node a aBound
  obtain ⟨right, -, rightAt, rightName, -⟩ := forest.slot_of_node b bBound
  rw [leftName, rightName] at same
  have listed : (forest.slots.map (·.fullName))[a]? = (forest.slots.map (·.fullName))[b]? := by
    rw [slot?] at leftAt rightAt
    simp [leftAt, rightAt, same]
  exact (List.getElem?_inj (by simpa [size] using aBound) distinct).mp listed

-- The namespaces of a forest of commands: full names are distinct, each namespace holds the commands
-- that lie directly in it, and every command has its namespace.
structure Filled (forest : Forest) (commands : List Command) : Prop where
  ordered : forest.nodes = List.range forest.size
  distinct : (forest.slots.map (·.fullName)).Nodup
  contents : ∀ slot ∈ forest.slots,
    slot.commands = keepFirst (commands.filter fun command => command.home = slot.fullName)
  housed : ∀ command ∈ commands, command.home ∈ forest.slots.map (·.fullName)

theorem filled_of_commands (commands : List Command) (forest : Forest)
    (built : ofCommands commands = .ok forest) : Filled forest commands := by
  obtain ⟨accepted, outline, grown, complete, rfl⟩ := of_commands_grown commands forest built
  have names : outline.toForest.slots.map (·.fullName) = outline.names := outline.names_of_slots none 0
  refine ⟨outline.nodes_of_layout, ?_, ?_, ?_⟩
  · rw [names]
    exact outline.names_nodup none commands grown
  · exact fun slot member => outline.commands_of_slot none commands grown none 0 slot member
  · intro command given
    obtain ⟨filled, lower⟩ := home_of_accepted command (accepted command given)
    rw [names, outline.mem_names_iff commands grown complete accepted]
    exact ⟨filled, command, given, lower⟩

section

variable {forest : Forest} {commands : List Command} (filled : Filled forest commands)
include filled

theorem all_commands_of_slots : forest.allCommands = forest.slots.flatMap (·.commands) := by
  rw [allCommands, filled.ordered]
  exact flat_map_range forest.slots (·.commands)

theorem kept_of_slot (slot : Slot) (member : slot ∈ forest.slots) (kept : Command)
    (inside : kept ∈ slot.commands) :
    kept ∈ commands ∧ kept.home = slot.fullName ∧
      commands.find? (fun command => command.fullName == kept.fullName) = some kept :=
  kept_with_home commands slot.fullName kept (filled.contents slot member ▸ inside)

theorem slot_of_command (command : Command) (given : command ∈ commands) :
    ∃ slot ∈ forest.slots, slot.fullName = command.home ∧
      ∃ kept ∈ slot.commands, kept.fullName = command.fullName := by
  obtain ⟨slot, member, named⟩ := List.mem_map.mp (filled.housed command given)
  refine ⟨slot, member, named, ?_⟩
  rw [filled.contents slot member]
  exact exists_kept _ command (List.mem_filter.mpr ⟨given, by simp [named]⟩)

theorem all_commands_nodup : (forest.allCommands.map (·.fullName)).Nodup := by
  rw [all_commands_of_slots filled, List.map_flatMap, List.nodup_flatMap]
  refine ⟨fun slot member => filled.contents slot member ▸ keep_first_nodup _, ?_⟩
  refine (List.pairwise_map.mp filled.distinct).imp_of_mem ?_
  intro a b aMember bMember different name left right
  obtain ⟨x, xMember, xName⟩ := List.mem_map.mp left
  obtain ⟨y, yMember, yName⟩ := List.mem_map.mp right
  apply different
  rw [← (kept_of_slot filled a aMember x xMember).2.1, ← (kept_of_slot filled b bMember y yMember).2.1,
    Command.home, Command.home, xName, yName]

theorem mem_all_commands_iff (name : String) :
    name ∈ forest.allCommands.map (·.fullName) ↔ name ∈ commands.map (·.fullName) := by
  rw [all_commands_of_slots filled]
  simp only [List.mem_map, List.mem_flatMap]
  constructor
  · rintro ⟨kept, ⟨slot, member, inside⟩, rfl⟩
    exact ⟨kept, (kept_of_slot filled slot member kept inside).1, rfl⟩
  · rintro ⟨command, given, rfl⟩
    obtain ⟨slot, member, -, kept, inside, same⟩ := slot_of_command filled command given
    exact ⟨kept, ⟨slot, member, inside⟩, same⟩

theorem home_of_node (node : Nat) (bound : node < forest.size) (kept : Command)
    (inside : kept ∈ forest.commands node) : kept.home = forest.fullName node := by
  obtain ⟨slot, member, -, named, own⟩ := forest.slot_of_node node bound
  rw [named]
  exact (kept_of_slot filled slot member kept (own ▸ inside)).2.1

theorem node_of_command (command : Command) (given : command ∈ commands) :
    ∃ node < forest.size, forest.fullName node = command.home ∧
      (∃ kept ∈ forest.commands node, kept.fullName = command.fullName) ∧
      ∀ other < forest.size, forest.fullName other = command.home ∨
        (∃ kept ∈ forest.commands other, kept.fullName = command.fullName) → other = node := by
  obtain ⟨slot, member, named, kept, inside, same⟩ := slot_of_command filled command given
  obtain ⟨node, bound, found⟩ := forest.node_of_slot slot member
  have nodeName : forest.fullName node = command.home := by simp [fullName, found, named]
  have nodeCommands : forest.commands node = slot.commands := by simp [Forest.commands, found]
  refine ⟨node, bound, nodeName, ⟨kept, nodeCommands ▸ inside, same⟩, ?_⟩
  intro other otherBound reason
  apply node_unique forest filled.distinct other node otherBound bound
  rw [nodeName]
  rcases reason with home | ⟨twin, twinInside, twinName⟩
  · exact home
  · rw [← home_of_node filled other otherBound twin twinInside, Command.home, Command.home, twinName]

end

-- Going through all nodes meets each command name exactly once, with the first command of that name,
-- in the one node that the name says.
theorem commands_split_by_home (commands : List Command) (forest : Forest)
    (built : ofCommands commands = .ok forest) :
    (forest.allCommands.map (·.fullName)).Nodup ∧
      (∀ name, name ∈ forest.allCommands.map (·.fullName) ↔ name ∈ commands.map (·.fullName)) ∧
      (∀ kept ∈ forest.allCommands,
        commands.find? (fun command => command.fullName == kept.fullName) = some kept) ∧
      (∀ node ∈ forest.nodes, ∀ kept ∈ forest.commands node, kept.home = forest.fullName node) ∧
      ∀ command ∈ commands, ∃ node ∈ forest.nodes, forest.fullName node = command.home ∧
        (∃ kept ∈ forest.commands node, kept.fullName = command.fullName) ∧
        ∀ other ∈ forest.nodes, forest.fullName other = command.home ∨
          (∃ kept ∈ forest.commands other, kept.fullName = command.fullName) → other = node := by
  have filled := filled_of_commands commands forest built
  refine ⟨all_commands_nodup filled, mem_all_commands_iff filled, ?_, ?_, ?_⟩
  · intro kept member
    rw [all_commands_of_slots filled] at member
    obtain ⟨slot, slotMember, inside⟩ := List.mem_flatMap.mp member
    exact (kept_of_slot filled slot slotMember kept inside).2.2
  · simp only [filled.ordered, List.mem_range]
    exact home_of_node filled
  · simp only [filled.ordered, List.mem_range]
    exact node_of_command filled

theorem shop_commands_split : ∃ forest,
    ofCommands [{ fullName := "shop.cart.Add", definedAt := "shop.cart.Add" }, { fullName := "shopping.Find" },
      { fullName := "shop.Open" }, { fullName := "shop.cart.Add" }] = .ok forest ∧
      (forest.allCommands.map (·.fullName)).Nodup ∧
      ∀ node ∈ forest.nodes, ∀ kept ∈ forest.commands node, kept.home = forest.fullName node := by
  have split := commands_split_by_home
    [{ fullName := "shop.cart.Add", definedAt := "shop.cart.Add" }, { fullName := "shopping.Find" },
      { fullName := "shop.Open" }, { fullName := "shop.cart.Add" }]
    { slots := [⟨"shop", none, [1], [{ fullName := "shop.Open" }]⟩,
        ⟨"shop.cart", some 0, [], [{ fullName := "shop.cart.Add", definedAt := "shop.cart.Add" }]⟩,
        ⟨"shopping", none, [], [{ fullName := "shopping.Find" }]⟩],
      roots := [0, 2] } rfl
  exact ⟨_, rfl, split.1, split.2.2.2.1⟩

end Forest

end StubForge
