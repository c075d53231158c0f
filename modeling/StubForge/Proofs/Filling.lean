import StubForge.Proofs.Extension
import StubForge.Proofs.Renumbering

set_option autoImplicit false

/-!
Filling a node that may hold something already. Its own commands are put in, the groups below it are filled, with the nodes
that are there for them or new ones, and the new ones are linked at last: the node has taken the commands in. It fails
exactly if one of them has no place below it.
-/

namespace StubForge.Forest

theorem extends_add_commands (forest : Forest) (node : Nat) (added : List Command) :
    Extends forest (forest.addCommands (some node) added) :=
  ⟨by simp, by simp, fun _ _ => by simp, fun _ _ => by simp⟩

theorem extends_attach_all (forest : Forest) (node : Nat) (nodes : List Nat) :
    Extends forest (forest.attachAll (some node) nodes) :=
  ⟨by simp, by simp, fun _ _ => by simp, fun _ _ => by simp⟩

theorem takes_nothing (above : String) (filled : above ≠ "") (commands : List Command) (forest : Forest)
    (orderly : forest.Orderly)
    (elsewhere : ∀ command ∈ commands, ∀ name, Name.Within name above → ¬Name.isBelow command.fullName name = true) :
    Takes above commands forest forest where
  orderly := orderly
  grown := extends_refl forest
  names := by
    intro name
    rw [iff_self_or]
    rintro ⟨below, command, member, lower⟩
    exact absurd lower (elsewhere command member name (Name.within_of_below name above below))
  inside := fun name within => takes_at_of_same orderly ⟨rfl, rfl⟩ (Name.filled_of_within name above within filled)
    fun command member => elsewhere command member name within
  outside := fun _ _ => ⟨rfl, rfl⟩

theorem ready_under {above name : String} {forest : Forest} (ready : Ready above forest)
    (under : Name.Under name above) : Ready name forest := by
  intro lower member upper child within
  exact ready lower member upper child ((Name.within_of_under name above under).trans within)

theorem knows_child {forest : Forest} (orderly : forest.Orderly) (node : Nat) (bound : node < forest.size)
    (ready : Ready (forest.fullName node) forest) (name : String) (under : Name.Under name (forest.fullName node)) :
    Knows (forest.knownChild? (some node)) forest name where
  found := by
    intro child found
    have member := List.mem_of_find?_eq_some found
    exact ⟨orderly.childrenInside node child (List.mem_reverse.mp member), by simpa using List.find?_some found⟩
  missing := by
    intro missing member
    have linked := ready name member _ name List.prefix_rfl under List.prefix_rfl
    rw [forest.child_names_at_node orderly.distinct node bound] at linked
    obtain ⟨child, inside, named⟩ := List.mem_map.mp linked
    have unlike := List.find?_eq_none.mp missing child (List.mem_reverse.mpr inside)
    exact unlike (by simpa using named)

@[simp] theorem known_child_add_commands (forest : Forest) (node : Nat) (added : List Command) :
    (forest.addCommands (some node) added).knownChild? (some node) = forest.knownChild? (some node) := by
  funext name
  simp only [knownChild?, children_add_commands, full_name_add_commands]

theorem known_child_missing_iff (forest : Forest) (node : Nat) (name : String) :
    (forest.knownChild? (some node) name).isNone ↔ name ∉ (forest.children node).map forest.fullName := by
  simp [knownChild?]

-- Sorted commands, with the names of the namespaces below them.
section

variable {above : String} {commands : List Command} (clean : (sortBelow (some above) {} commands).fault = none)
include clean

theorem group_of_target (command : Command) (member : command ∈ commands) (target : String)
    (passed : targetOf (some above) command = some target) :
    ∃ group ∈ (sortBelow (some above) {} commands).groups, group.1 = target ∧ command ∈ group.2 := by
  have sorted := groups_of_sorted (some above) commands clean
  obtain ⟨group, grouped, rfl⟩ := List.mem_map.mp (sorted.complete command member target passed)
  refine ⟨group, grouped, rfl, ?_⟩
  rw [(sorted.members group.1 group.2 grouped).1, List.mem_filter]
  exact ⟨member, by simpa using passed⟩

theorem group_on_way (name : String) (below : Name.isBelow name above = true) (command : Command)
    (member : command ∈ commands) (lower : Name.isBelow command.fullName name = true) :
    ∃ group ∈ (sortBelow (some above) {} commands).groups, Name.Within name group.1 ∧ command ∈ group.2 := by
  have accepted := (sort_below_without_fault (some above) {} commands clean).1 command member
  obtain ⟨target, passed, within⟩ := target_on_way above command accepted name below lower
  obtain ⟨group, grouped, rfl, inside⟩ := group_of_target clean command member target passed
  exact ⟨group, grouped, within, inside⟩

theorem mem_of_group (group : String × List Command) (grouped : group ∈ (sortBelow (some above) {} commands).groups)
    (command : Command) (inside : command ∈ group.2) :
    command ∈ commands ∧ targetOf (some above) command = some group.1 := by
  rw [((groups_of_sorted (some above) commands clean).members group.1 group.2 grouped).1, List.mem_filter] at inside
  exact ⟨inside.1, by simpa using inside.2⟩

theorem under_of_group (group : String × List Command) (grouped : group ∈ (sortBelow (some above) {} commands).groups) :
    Name.Under group.1 above ∧ ∃ command ∈ group.2, Name.isBelow command.fullName group.1 = true := by
  obtain ⟨-, present⟩ := (groups_of_sorted (some above) commands clean).members group.1 group.2 grouped
  obtain ⟨command, inside⟩ := List.exists_mem_of_ne_nil _ present
  obtain ⟨under, lower⟩ := under_of_target above command group.1 (mem_of_group clean group grouped command inside).2
  exact ⟨under, command, inside, lower⟩

theorem misplaced_in_group (command : Command) (member : command ∈ commands)
    (misplaced : Misplaced (some above) command.fullName) :
    ∃ group ∈ (sortBelow (some above) {} commands).groups,
      command ∈ group.2 ∧ Misplaced (some group.1) command.fullName := by
  have accepted := (sort_below_without_fault (some above) {} commands clean).1 command member
  obtain ⟨target, passed⟩ := target_of_misplaced (some above) command accepted misplaced
  obtain ⟨group, grouped, rfl, inside⟩ := group_of_target clean command member target passed
  exact ⟨group, grouped, inside, (misplaced_iff_of_target (some above) command group.1 passed).mpr misplaced⟩

theorem misplaced_of_group (group : String × List Command) (grouped : group ∈ (sortBelow (some above) {} commands).groups)
    (command : Command) (inside : command ∈ group.2) (misplaced : Misplaced (some group.1) command.fullName) :
    command ∈ commands ∧ Misplaced (some above) command.fullName := by
  obtain ⟨member, passed⟩ := mem_of_group clean group grouped command inside
  exact ⟨member, (misplaced_iff_of_target (some above) command group.1 passed).mp misplaced⟩

-- What a group takes in at a name is what all commands bring there.
theorem takes_at_of_group (group : String × List Command)
    (grouped : group ∈ (sortBelow (some above) {} commands).groups) (name : String) (within : Name.Within name group.1)
    (before after : Forest) (takes : TakesAt group.2 before after name) : TakesAt commands before after name := by
  obtain ⟨⟨first, filled, segments⟩, -⟩ := under_of_group clean group grouped
  have members := ((groups_of_sorted (some above) commands clean).members group.1 group.2 grouped).1
  have home : (group.2.filter fun command => command.home = name) =
      commands.filter fun command => command.home = name := by
    rw [members, List.filter_filter]
    apply List.filter_congr
    intro command _
    by_cases own : command.home = name
    · have passed := Outline.target_of_home (some above) command group.1 first filled segments (own ▸ within)
      simp [own, passed]
    · simp [own]
  have targets : group.2.filterMap (targetOf (some name)) = commands.filterMap (targetOf (some name)) := by
    rw [members]
    exact Outline.targets_of_passed (some above) group.1 first name filled segments within commands
  rwa [TakesAt, home, targets] at takes

end

-- A node whose own commands are put in and whose groups are filled, with the new nodes that are to be linked below it.
structure Halfway (above : String) (node : Nat) (commands : List Command) (before after : Forest) (nodes : List Nat) :
    Prop where
  bound : node < before.size
  named : before.fullName node = above
  clean : (sortBelow (some above) {} commands).fault = none
  spreads : Spreads (sortBelow (some above) {} commands).groups
    (before.addCommands (some node) (sortBelow (some above) {} commands).here) after
  inside : ∀ kid ∈ nodes, kid < after.size
  names : nodes.map after.fullName =
    ((sortBelow (some above) {} commands).groups.map (·.1)).filter fun name => name ∉ before.childNamesAt above

section

variable {above : String} {node : Nat} {commands : List Command} {before after : Forest} {nodes : List Nat}
  (orderly : before.Orderly) (halfway : Halfway above node commands before after nodes)

section

include halfway

theorem halfway_grown : Extends before after :=
  extends_trans (extends_add_commands before node _) halfway.spreads.grown

theorem halfway_node : node < after.size ∧ after.fullName node = above :=
  ⟨Nat.lt_of_lt_of_le halfway.bound (halfway_grown halfway).size,
    ((halfway_grown halfway).names node halfway.bound).trans halfway.named⟩

theorem halfway_apart (name : String) (apart : ¬Name.isBelow name above = true) :
    SameAt (before.addCommands (some node) (sortBelow (some above) {} commands).here) after name := by
  apply halfway.spreads.outside name
  intro group grouped within
  exact apart (Name.below_of_under name group.1 above (under_of_group halfway.clean group grouped).1 within)

theorem halfway_child_names : after.childNamesAt above = before.childNamesAt above := by
  rw [(halfway_apart halfway above (Name.not_below_self above)).2, child_names_at_add_commands]

-- New nodes have names that none of the linked ones has.
theorem halfway_links : (after.children node ++ nodes).Nodup := by
  obtain ⟨bound, named⟩ := halfway_node halfway
  have keys := (groups_of_sorted (some above) commands halfway.clean).distinct
  have distinct : nodes.Nodup := (halfway.names ▸ keys.filter _ : (nodes.map after.fullName).Nodup).of_map
  refine (halfway.spreads.orderly.siblings node).append distinct fun kid linked new => ?_
  have unknown : after.fullName kid ∉ before.childNamesAt above := by
    have member : after.fullName kid ∈ nodes.map after.fullName := List.mem_map_of_mem new
    rw [halfway.names, List.mem_filter] at member
    simpa using member.2
  rw [← halfway_child_names halfway, ← named,
    after.child_names_at_node halfway.spreads.orderly.distinct node bound] at unknown
  exact unknown (List.mem_map_of_mem linked)

theorem linked_apart (name : String) (apart : name ≠ above) : SameAt after (after.attachAll (some node) nodes) name := by
  obtain ⟨bound, named⟩ := halfway_node halfway
  refine ⟨commands_at_attach_all node nodes name, ?_⟩
  rw [child_names_at_attach_all halfway.spreads.orderly node nodes bound (halfway_links halfway), named, if_neg apart]

end

include orderly halfway

theorem settled_apart (name : String) (apart : name ≠ above) :
    SameAt before (before.addCommands (some node) (sortBelow (some above) {} commands).here) name := by
  refine ⟨?_, child_names_at_add_commands node _ name⟩
  rw [commands_at_add_commands orderly node _ halfway.bound, halfway.named, if_neg apart]

theorem takes_at_node : TakesAt commands before (after.attachAll (some node) nodes) above := by
  obtain ⟨bound, named⟩ := halfway_node halfway
  obtain ⟨accepted, sorted⟩ := sort_below_without_fault (some above) {} commands halfway.clean
  have filled : above ≠ "" := halfway.named ▸ full_name_filled orderly node halfway.bound
  constructor
  · have here : (sortBelow (some above) {} commands).here = commands.filter fun command => command.home = above := by
      rw [sorted]
      apply List.filter_congr
      intro command member
      simp only [decide_eq_decide]
      exact Outline.here_iff_home above command filled (accepted command member)
    rw [commands_at_attach_all, (halfway_apart halfway above (Name.not_below_self above)).1,
      commands_at_add_commands orderly node _ halfway.bound, halfway.named, if_pos rfl, here]
  · have keys : (sortBelow (some above) {} commands).groups.map (·.1) =
        (commands.filterMap (targetOf (some above))).eraseDups := by
      rw [sorted]
      exact keys_of_commands (some above) commands
    rw [child_names_at_attach_all halfway.spreads.orderly node nodes bound (halfway_links halfway), named, if_pos rfl,
      halfway_child_names halfway, halfway.names, keys, erase_dups_append,
      erase_dups_of_nodup _ (child_names_nodup orderly above)]

theorem takes_at_below (name : String) (below : Name.isBelow name above = true) :
    TakesAt commands before (after.attachAll (some node) nodes) name := by
  obtain ⟨within, different⟩ := (Name.is_below_iff_leads name above).mp below
  have filled : above ≠ "" := halfway.named ▸ full_name_filled orderly node halfway.bound
  have front := settled_apart orderly halfway name different.symm
  have back := linked_apart halfway name different.symm
  by_cases reached : ∃ group ∈ (sortBelow (some above) {} commands).groups, Name.Within name group.1
  · obtain ⟨group, grouped, inner⟩ := reached
    have takes := takes_at_of_group halfway.clean group grouped name inner _ _
      (halfway.spreads.inside group grouped name inner)
    exact takes_at_of_same_right (takes_at_of_same_left front takes) back
  · have same := halfway.spreads.outside name fun group grouped inner => reached ⟨group, grouped, inner⟩
    refine takes_at_of_same orderly (same_at_trans (same_at_trans front same) back)
      (Name.filled_of_within name above within filled) fun command member lower => ?_
    obtain ⟨group, grouped, inner, -⟩ := group_on_way halfway.clean name below command member lower
    exact reached ⟨group, grouped, inner⟩

theorem takes_of_halfway : Takes above commands before (after.attachAll (some node) nodes) where
  orderly := orderly_attach_all halfway.spreads.orderly node nodes (halfway_node halfway).1 halfway.inside
    (halfway_links halfway)
  grown := extends_trans (halfway_grown halfway) (extends_attach_all after node nodes)
  names := by
    intro name
    rw [names_attach_all, halfway.spreads.names, names_add_commands]
    apply or_congr_right
    constructor
    · rintro ⟨group, grouped, inner, command, inside, lower⟩
      have under := (under_of_group halfway.clean group grouped).1
      exact ⟨Name.below_of_under name group.1 above under inner, command,
        (mem_of_group halfway.clean group grouped command inside).1, lower⟩
    · rintro ⟨below, command, member, lower⟩
      obtain ⟨group, grouped, inner, own⟩ := group_on_way halfway.clean name below command member lower
      exact ⟨group, grouped, inner, command, own, lower⟩
  inside := by
    intro name within
    by_cases same : name = above
    · exact same ▸ takes_at_node orderly halfway
    · exact takes_at_below orderly halfway name (Name.below_of_within name above within same)
  outside := by
    intro name apart
    have different : name ≠ above := fun same => apart (same ▸ List.prefix_rfl)
    have elsewhere : ¬Name.isBelow name above = true := fun below => apart (Name.within_of_below name above below)
    have filled := same_at_trans (settled_apart orderly halfway name different) (halfway_apart halfway name elsewhere)
    exact same_at_trans filled (linked_apart halfway name different)

end

/-! ### The recursion -/

section

variable {above : String} {forest : Forest} {node : Nat} {commands : List Command} (orderly : forest.Orderly)
  (bound : node < forest.size) (named : forest.fullName node = above) (ready : Ready above forest)
  (clean : (sortBelow (some above) {} commands).fault = none)
include orderly bound named ready clean

theorem settled_ready : Ready above (forest.addCommands (some node) (sortBelow (some above) {} commands).here) ∧
    ∀ group ∈ (sortBelow (some above) {} commands).groups, Knows (forest.knownChild? (some node))
      (forest.addCommands (some node) (sortBelow (some above) {} commands).here) group.1 := by
  have settled : Ready above (forest.addCommands (some node) (sortBelow (some above) {} commands).here) :=
    ready_of_same above forest _ (fun lower _ => by rw [names_add_commands])
      (fun lower _ => child_names_at_add_commands node _ lower) ready
  refine ⟨settled, fun group grouped => ?_⟩
  rw [← known_child_add_commands forest node (sortBelow (some above) {} commands).here]
  refine knows_child (orderly_add_commands orderly node _) node (by simpa using bound) ?_ group.1 ?_
  · simpa [named] using settled
  · simpa [named] using (under_of_group clean group grouped).1

-- Filling a node, if the groups below it can be filled one by one.
theorem level_outcome (fill : Forest → Nat → List Command → BuildResult)
    (fills : ∀ group ∈ (sortBelow (some above) {} commands).groups, ∀ start kid, start.Orderly → kid < start.size →
      start.fullName kid = group.1 → Ready group.1 start → Outcome group.1 kid group.2 start (fill start kid group.2)) :
    Outcome above node commands forest (buildGroups fill (some node) (forest.knownChild? (some node))
      (forest.addCommands (some node) (sortBelow (some above) {} commands).here) []
      (sortBelow (some above) {} commands).groups) := by
  have sorted := groups_of_sorted (some above) commands clean
  obtain ⟨settledReady, knows⟩ := settled_ready orderly bound named ready clean
  have settledOrderly := orderly_add_commands orderly node (sortBelow (some above) {} commands).here
  have outcome := groups_outcome fill node (forest.knownChild? (some node)) above _ sorted.distinct
    (fun group grouped => (under_of_group clean group grouped).1)
    (fun group grouped => (under_of_group clean group grouped).2) fills
    (forest.addCommands (some node) (sortBelow (some above) {} commands).here) [] settledOrderly (by simpa using bound)
    (by simpa using named) knows
    (fun group grouped => ready_under settledReady (under_of_group clean group grouped).1)
  revert outcome
  generalize buildGroups fill _ _ _ _ _ = built
  intro outcome
  obtain ⟨result, last⟩ := built
  cases result with
  | error fault =>
      obtain ⟨group, grouped, command, inside, misplaced⟩ := outcome
      exact ⟨command, misplaced_of_group clean group grouped command inside misplaced⟩
  | ok nodes =>
      obtain ⟨spreads, ⟨new, split, inside, names⟩, placed⟩ := outcome
      obtain rfl : nodes = new := split
      have unknown : ((sortBelow (some above) {} commands).groups.map (·.1)).filter
            (fun name => (forest.knownChild? (some node) name).isNone) =
          ((sortBelow (some above) {} commands).groups.map (·.1)).filter
            fun name => name ∉ forest.childNamesAt above := by
        apply List.filter_congr
        intro name _
        rw [Bool.eq_iff_iff, known_child_missing_iff, decide_eq_true_iff, ← named,
          forest.child_names_at_node orderly.distinct node bound]
      refine ⟨takes_of_halfway orderly ⟨bound, named, clean, spreads, fun kid member => (inside kid member).2, ?_⟩,
        fun kid member => by simpa using inside kid member, fun command member misplaced => ?_⟩
      · rw [names, unknown]
      · obtain ⟨group, grouped, own, further⟩ := misplaced_in_group clean command member misplaced
        exact placed group grouped command own further

end

theorem build_from_succ (levels : Nat) (forest : Forest) (node : Nat) (commands : List Command) :
    buildFrom (levels + 1) forest (some node) commands =
      let sorted := sortBelow (some (forest.fullName node)) {} commands
      let settled := forest.addCommands (some node) sorted.here
      match sorted.fault with
      | some fault => (.error fault, settled)
      | none => buildGroups (Call.fill levels) (some node) (forest.knownChild? (some node)) settled [] sorted.groups := by
  rw [← forest.known_child_add_commands node (sortBelow (some (forest.fullName node)) {} commands).here]
  rfl

theorem nothing_below_of_no_levels (above : String) (commands : List Command)
    (within : WithinLevels 0 (some above) commands) (command : Command) (member : command ∈ commands) : ¬Name.isBelow command.fullName above = true := by
  intro lower
  obtain ⟨first, more, longer⟩ := (Name.is_below_iff command.fullName above).mp lower
  have bound := within command member
  rw [longer, pathOf, List.length_append, List.length_cons] at bound
  omega

-- By induction on the levels: the groups are filled by calls with a level less, and what they take in lies at or below
-- the namespaces that they are made for.
theorem build_from_outcome (levels : Nat) (forest : Forest) (node : Nat) (above : String) (commands : List Command)
    (orderly : forest.Orderly) (bound : node < forest.size) (named : forest.fullName node = above)
    (ready : Ready above forest) (within : WithinLevels levels (some above) commands) :
    Outcome above node commands forest (buildFrom levels forest (some node) commands) := by
  induction levels generalizing forest node above commands with
  | zero =>
      have elsewhere := nothing_below_of_no_levels above commands within
      have filled : above ≠ "" := named ▸ full_name_filled orderly node bound
      refine ⟨takes_nothing above filled commands forest orderly ?_, nofun, ?_⟩
      · intro command member name inner lower
        exact elsewhere command member (Name.below_within command.fullName name above lower inner)
      · rintro command member ⟨first, more, longer, -⟩
        exact elsewhere command member ((Name.is_below_iff _ _).mpr ⟨first, more, longer⟩)
  | succ levels ih =>
      rw [build_from_succ, named]
      dsimp only
      cases clean : (sortBelow (some above) {} commands).fault with
      | some fault =>
          obtain ⟨command, member, misplaced, -⟩ := sort_below_fault _ {} commands fault rfl clean
          exact ⟨command, member, misplaced⟩
      | none =>
          refine level_outcome orderly bound named ready clean _ ?_
          intro group grouped start kid startOrderly kidBound kidNamed kidReady
          have sorted := groups_of_sorted (some above) commands clean
          exact ih start kid group.1 group.2 startOrderly kidBound kidNamed kidReady
            (within_levels_of_group levels (some above) commands _ sorted within group.1 group.2 grouped)

theorem within_levels_below (commands : List Command) (above : String) :
    WithinLevels (levelsOf commands) (some above) commands := by
  intro command member
  have bound := within_levels_of commands command member
  rw [pathOf, List.length_nil] at bound
  omega

theorem build_outcome (forest : Forest) (node : Nat) (commands : List Command) (orderly : forest.Orderly)
    (bound : node < forest.size) (ready : Ready (forest.fullName node) forest) :
    Outcome (forest.fullName node) node commands forest (forest.build (some node) commands) :=
  build_from_outcome _ forest node _ commands orderly bound rfl ready (within_levels_below commands _)

end StubForge.Forest
