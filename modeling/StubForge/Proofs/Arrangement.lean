import StubForge.Proofs.Outline

set_option autoImplicit false

/-!
Building a forest refines outlines: creating nodes, filling them and linking them afterwards leaves
exactly the slots of an outline, in the order of a walk through it.
-/

namespace StubForge.Forest

theorem modify_at_length {α : Type} (before after : List α) (item : α) (change : α → α) :
    (before ++ item :: after).modify before.length change = before ++ change item :: after := by
  induction before with
  | nil => rfl
  | cons first rest ih => simpa using ih

theorem add_commands_at (before after : List Slot) (slot : Slot) (roots : List Nat)
    (commands : List Command) :
    addCommands ⟨before ++ slot :: after, roots⟩ (some before.length) commands =
      ⟨before ++ { slot with commands := commands.foldl Command.addNew slot.commands } :: after, roots⟩ := by
  induction commands generalizing slot with
  | nil => rfl
  | cons command rest ih =>
      have step : addCommand ⟨before ++ slot :: after, roots⟩ before.length command =
          ⟨before ++ { slot with commands := Command.addNew slot.commands command } :: after, roots⟩ := by
        simp only [addCommand, modify_at_length]
      rw [addCommands, List.foldl_cons, step]
      exact ih { slot with commands := Command.addNew slot.commands command }

theorem attach_all_at (before after : List Slot) (slot : Slot) (roots nodes : List Nat)
    (distinct : (slot.children ++ nodes).Nodup) :
    attachAll ⟨before ++ slot :: after, roots⟩ (some before.length) nodes =
      ⟨before ++ { slot with children := slot.children ++ nodes } :: after, roots⟩ := by
  induction nodes generalizing slot with
  | nil => simp [attachAll]
  | cons node rest ih =>
      have fresh : node ∉ slot.children := fun again =>
        (List.nodup_append.mp distinct).2.2 node again node List.mem_cons_self rfl
      have step : attachChild ⟨before ++ slot :: after, roots⟩ (some before.length) node =
          ⟨before ++ { slot with children := slot.children ++ [node] } :: after, roots⟩ := by
        simp only [attachChild, modify_at_length, addOnce]
        simp [fresh]
      rw [attachAll, List.foldl_cons, step]
      have linked := ih { slot with children := slot.children ++ [node] } (by simpa using distinct)
      simpa [attachAll] using linked

theorem attach_all_roots (slots : List Slot) (roots nodes : List Nat) (distinct : (roots ++ nodes).Nodup) :
    attachAll ⟨slots, roots⟩ none nodes = ⟨slots, roots ++ nodes⟩ := by
  induction nodes generalizing roots with
  | nil => simp [attachAll]
  | cons node rest ih =>
      have fresh : node ∉ roots := fun again =>
        (List.nodup_append.mp distinct).2.2 node again node List.mem_cons_self rfl
      have step : attachChild ⟨slots, roots⟩ none node = ⟨slots, roots ++ [node]⟩ := by
        simp [attachChild, addOnce, fresh]
      rw [attachAll, List.foldl_cons, step]
      have linked := ih (roots ++ [node]) (by simpa using distinct)
      simpa [attachAll] using linked

-- The slot of a node that was just created.
abbrev freshSlot (fullName : String) (parent : Option Nat) : Slot := { fullName, parent }

-- What filling a node that was just created leaves: its commands, and an outline behind it that is not yet
-- linked to it.
def FilledAs (before : List Slot) (fullName : String) (parent : Option Nat) (roots : List Nat)
    (members : List Command) (kids : List Nat) (forest : Forest) (below : Outline) : Prop :=
  (sortBelow (some fullName) {} members).fault = none ∧
    below.Follows (sortBelow (some fullName) {} members).groups ∧
    kids = below.tops (before.length + 1) ∧
    forest = ⟨before
      ++ { fullName, parent, commands := keepFirst (sortBelow (some fullName) {} members).here }
        :: below.slots (some before.length) (before.length + 1), roots⟩

theorem build_groups_fresh (fill : Forest → Nat → List Command → BuildResult) (parent : Option Nat)
    (known : String → Option Nat) (unknown : ∀ fullName, known fullName = none) (groups : Groups)
    (filled : ∀ fullName members, (fullName, members) ∈ groups → ∀ before roots kids forest,
      fill ⟨before ++ [freshSlot fullName parent], roots⟩ before.length members = (.ok kids, forest) →
      ∃ below, FilledAs before fullName parent roots members kids forest below)
    (start forest : Forest) (created kids : List Nat)
    (built : buildGroups fill parent known start created groups = (.ok kids, forest)) :
    ∃ outline : Outline, outline.Follows groups ∧ kids = created ++ outline.tops start.size ∧
      forest = ⟨start.slots ++ outline.slots parent start.size, start.roots⟩ := by
  induction groups generalizing start created with
  | nil =>
      simp only [buildGroups, Prod.mk.injEq, Except.ok.injEq] at built
      obtain ⟨rfl, rfl⟩ := built
      exact ⟨.empty, rfl, by simp [Outline.tops], by simp [Outline.slots]⟩
  | cons group rest ih =>
      obtain ⟨fullName, members⟩ := group
      simp only [buildGroups, unknown, addNode] at built
      split at built
      · simp at built
      · rename_i nodes made filling
        obtain ⟨below, clean, follows, rfl, rfl⟩ :=
          filled fullName members List.mem_cons_self start.slots start.roots nodes made filling
        rw [size, attach_all_at _ _ _ _ _ (by simpa using below.tops_nodup (start.slots.length + 1))] at built
        obtain ⟨beside, followsRest, kidsEq, forestEq⟩ := ih
          (fun other inside member => filled other inside (List.mem_cons_of_mem _ member)) _ _ built
        refine ⟨.node fullName (keepFirst (sortBelow (some fullName) {} members).here) below beside,
          ⟨members, rest, rfl, clean, rfl, follows, followsRest⟩, ?_, ?_⟩
        · simpa [Outline.tops, size, Nat.add_assoc, Nat.add_comm below.size] using kidsEq
        · simpa [Outline.slots, size, Nat.add_assoc, Nat.add_comm below.size] using forestEq

-- No name goes on after the namespace for more segments than there are levels.
def WithinLevels (levels : Nat) (parent : Option String) (commands : List Command) : Prop :=
  ∀ command ∈ commands,
    (Name.segments command.fullName).length ≤ (pathOf parent).length + levels

theorem within_levels_of_group (levels : Nat) (parent : Option String) (commands : List Command)
    (groups : Groups) (sorted : GroupsOf parent commands groups)
    (within : WithinLevels (levels + 1) parent commands) (fullName : String) (members : List Command)
    (member : (fullName, members) ∈ groups) : WithinLevels levels (some fullName) members := by
  intro command inside
  rw [(sorted.members fullName members member).1, List.mem_filter] at inside
  obtain ⟨first, next, more, -, -, target⟩ :=
    (target_eq_some_iff parent command fullName).mp (by simpa using inside.2)
  have bound := within command inside.1
  have longer : (pathOf (some fullName)).length = (pathOf parent).length + 1 := by
    simp [pathOf, target]
  omega

theorem sort_below_exhausted (parent : Option String) (sorted : Sorted) (commands : List Command)
    (within : WithinLevels 0 parent commands) : sortBelow parent sorted commands = sorted := by
  induction commands with
  | nil => rfl
  | cons command rest ih =>
      have placed : placement parent command.fullName = .outside := by
        apply placement_outside
        intro first more longer
        have bound := within command List.mem_cons_self
        simp only [longer, List.length_append, List.length_cons] at bound
        omega
      simp only [sortBelow, placed]
      exact ih fun other member => within other (List.mem_cons_of_mem _ member)

theorem groups_of_sorted (parent : Option String) (commands : List Command)
    (clean : (sortBelow parent {} commands).fault = none) :
    GroupsOf parent commands (sortBelow parent {} commands).groups := by
  rw [(sort_below_without_fault parent {} commands clean).2]
  exact groups_of_commands parent commands

theorem known_child_of_fresh (before : List Slot) (fullName : String) (parent : Option Nat)
    (roots : List Nat) (commands : List Command) (name : String) :
    knownChild? ⟨before ++ [{ freshSlot fullName parent with commands }], roots⟩ (some before.length) name =
      none := by
  simp [knownChild?, children, slot?]

theorem build_from_fresh (levels : Nat) (before : List Slot) (fullName : String) (parent : Option Nat)
    (roots kids : List Nat) (members : List Command) (forest : Forest)
    (within : WithinLevels levels (some fullName) members)
    (built : buildFrom levels ⟨before ++ [freshSlot fullName parent], roots⟩ (some before.length) members =
      (.ok kids, forest)) :
    ∃ below, FilledAs before fullName parent roots members kids forest below := by
  induction levels generalizing before fullName parent roots kids members forest with
  | zero =>
      simp only [buildFrom, Prod.mk.injEq, Except.ok.injEq] at built
      obtain ⟨kidsEq, forestEq⟩ := built
      have nothing := sort_below_exhausted (some fullName) {} members within
      refine ⟨.empty, ?_⟩
      simp [FilledAs, nothing, Outline.Follows, Outline.tops, Outline.slots, keepFirst, ← kidsEq, ← forestEq]
  | succ levels ih =>
      have own : Forest.fullName ⟨before ++ [freshSlot fullName parent], roots⟩ before.length = fullName := by
        simp [Forest.fullName, slot?]
      simp only [buildFrom, Option.map_some, own, add_commands_at] at built
      split at built
      · simp at built
      · rename_i clean
        have sorted := groups_of_sorted (some fullName) members clean
        obtain ⟨outline, follows, kidsEq, forestEq⟩ := build_groups_fresh _ (some before.length) _
          (fun name => known_child_of_fresh before fullName parent roots _ name) _
          (fun name inside member front frontRoots nodes made filling =>
            ih front name (some before.length) frontRoots nodes inside made
              (within_levels_of_group levels (some fullName) members _ sorted within name inside member)
              filling)
          _ _ _ _ built
        refine ⟨outline, clean, follows, ?_, ?_⟩
        · simpa [size] using kidsEq
        · simpa [size, keepFirst] using forestEq

theorem le_foldl_max (sizes : List Nat) (least : Nat) :
    least ≤ sizes.foldl max least ∧ ∀ size ∈ sizes, size ≤ sizes.foldl max least := by
  induction sizes generalizing least with
  | nil => simp
  | cons first rest ih =>
      obtain ⟨grown, bounds⟩ := ih (max least first)
      refine ⟨Nat.le_trans (Nat.le_max_left least first) grown, ?_⟩
      intro size member
      rcases List.mem_cons.mp member with rfl | later
      · exact Nat.le_trans (Nat.le_max_right least size) grown
      · exact bounds size later

theorem within_levels_of (commands : List Command) : WithinLevels (levelsOf commands) none commands := by
  intro command member
  have longest : command.fullName.toList.length ≤
      (commands.map fun command => command.fullName.toList.length).foldl max 0 :=
    (le_foldl_max _ 0).2 _ (List.mem_map_of_mem member)
  have dots := List.count_le_length (a := '.') (l := command.fullName.toList)
  rw [Name.length_segments, Name.depth, levelsOf]
  simp only [pathOf, List.length_nil]
  omega

-- Builds commands below a node, or at the top, and links the nodes that are new.
def extend (forest : Forest) (parent : Option Nat) (commands : List Command) : Except NamespaceFault Forest :=
  match forest.build parent commands with
  | (.error fault, _) => .error fault
  | (.ok nodes, built) => .ok (built.attachAll parent nodes)

theorem of_commands_eq_extend (commands : List Command) : ofCommands commands = extend {} none commands := rfl

-- At the top, nothing is known of what is there: the outline that the commands come to is laid out behind it.
theorem extend_layout (start after : Forest) (inside : ∀ root ∈ start.roots, root < start.size)
    (distinct : start.roots.Nodup) (commands : List Command) (extended : start.extend none commands = .ok after) :
    (sortBelow none {} commands).fault = none ∧
      ∃ outline : Outline, outline.Follows (sortBelow none {} commands).groups ∧
        after = ⟨start.slots ++ outline.slots none start.size, start.roots ++ outline.tops start.size⟩ := by
  have within := within_levels_of commands
  simp only [extend, build] at extended
  cases levels : levelsOf commands with
  | zero => simp [levelsOf] at levels
  | succ fewer =>
      rw [levels] at extended within
      simp only [buildFrom, Option.map_none, addCommands] at extended
      cases clean : (sortBelow none {} commands).fault with
      | some fault => simp [clean] at extended
      | none =>
          refine ⟨rfl, ?_⟩
          have sorted := groups_of_sorted none commands clean
          simp only [clean] at extended
          split at extended
          · simp at extended
          · rename_i roots made building
            obtain ⟨outline, follows, rfl, rfl⟩ := build_groups_fresh _ none _
              (fun name => rfl) _
              (fun name inside member front frontRoots nodes filled filling =>
                build_from_fresh fewer front name none frontRoots nodes inside filled
                  (within_levels_of_group fewer none commands _ sorted within name inside member)
                  filling)
              _ _ _ _ building
            have apart : (start.roots ++ outline.tops start.size).Nodup := by
              refine distinct.append (outline.tops_nodup start.size) fun node old new => ?_
              have before := inside node old
              have behind := outline.tops_bounds start.size node new
              omega
            have linked := attach_all_roots (start.slots ++ outline.slots none start.size) start.roots
              (outline.tops start.size) apart
            exact ⟨outline, follows, by simpa [linked, eq_comm] using extended⟩

-- A forest of commands is the layout of the outline that the commands come to.
theorem of_commands_layout (commands : List Command) (forest : Forest)
    (built : ofCommands commands = .ok forest) :
    (sortBelow none {} commands).fault = none ∧
      ∃ outline : Outline, outline.Follows (sortBelow none {} commands).groups ∧
        forest = outline.toForest := by
  rw [of_commands_eq_extend] at built
  obtain ⟨clean, outline, follows, layout⟩ := extend_layout {} forest nofun List.nodup_nil commands built
  exact ⟨clean, outline, follows, layout⟩

end StubForge.Forest
