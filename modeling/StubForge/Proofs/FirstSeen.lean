import Mathlib.Data.List.Lex
import StubForge.Proofs.ByName

set_option autoImplicit false

/-!
The order of a forest is that of its commands. Namespaces side by side are ordered by the first command that lies below each
of them, and the commands of a namespace by their first occurrences, so that a walk through the forest is sorted by where
the namespaces on the way were first seen.
-/

namespace StubForge

-- Where the first command below a namespace stands.
def seenAt (commands : List Command) (name : String) : Nat :=
  commands.findIdx fun command => Name.isBelow command.fullName name

-- Where the first command of a name stands.
def firstAt (commands : List Command) (name : String) : Nat := commands.findIdx fun command => command.fullName == name

-- Where each of the namespaces on the way to a name was first seen, from the one below `above` on.
def seenFrom (commands : List Command) (above : List String) : List String → List Nat
  | [] => []
  | segment :: rest =>
      seenAt commands (Name.ofSegments (above ++ [segment])) :: seenFrom commands (above ++ [segment]) rest

def seenPath (commands : List Command) (name : String) : List Nat := seenFrom commands [] (Name.segments name)

theorem seen_from_append (commands : List Command) (above front back : List String) :
    seenFrom commands above (front ++ back) = seenFrom commands above front ++ seenFrom commands (above ++ front) back := by
  induction front generalizing above with
  | nil => simp [seenFrom]
  | cons segment rest ih => simp [seenFrom, ih]

theorem seen_path_of_leads (commands : List Command) (above : List String) (top segment name : String)
    (segments : Name.segments top = above ++ [segment]) (leads : Name.segments top <+: Name.segments name) :
    ∃ deeper, seenPath commands name = seenFrom commands [] above ++ seenAt commands top :: deeper := by
  obtain ⟨rest, longer⟩ := leads
  have whole : Name.ofSegments (above ++ [segment]) = top := by rw [← segments, Name.of_segments_segments]
  refine ⟨seenFrom commands (above ++ [segment]) rest, ?_⟩
  rw [seenPath, ← longer, segments, List.append_assoc, List.singleton_append, seen_from_append, List.nil_append, seenFrom,
    whole]

-- A namespace comes before those below it.
theorem seen_path_below (commands : List Command) (name lower : String) (below : Name.isBelow lower name = true) :
    seenPath commands name < seenPath commands lower := by
  obtain ⟨first, more, longer⟩ := (Name.is_below_iff lower name).mp below
  rw [seenPath, seenPath, longer, seen_from_append]
  conv_lhs => rw [← List.append_nil (seenFrom commands [] (Name.segments name))]
  exact List.append_left_lt (List.nil_lt_cons _ _)

-- Of two namespaces below different ones side by side, that below the first seen one comes first.
theorem seen_path_beside (commands : List Command) (above : List String) (top other first second name later : String)
    (segments : Name.segments top = above ++ [first]) (otherSegments : Name.segments other = above ++ [second])
    (before : seenAt commands top < seenAt commands other) (leads : Name.segments top <+: Name.segments name)
    (otherLeads : Name.segments other <+: Name.segments later) : seenPath commands name < seenPath commands later := by
  obtain ⟨deeper, path⟩ := seen_path_of_leads commands above top first name segments leads
  obtain ⟨otherDeeper, otherPath⟩ := seen_path_of_leads commands above other second later otherSegments otherLeads
  rw [path, otherPath]
  exact List.append_left_lt (List.cons_lt_cons_iff.mpr (.inl before))

/-! ### Groups and commands in the order in which they were first seen -/

theorem keys_of_commands (parent : Option String) (commands : List Command) :
    (commands.foldl (addTarget parent) []).map (·.1) = (commands.filterMap (targetOf parent)).eraseDups := by
  induction commands using List.reverseRecOn with
  | nil => rfl
  | append_singleton front last ih =>
      rw [List.foldl_append, List.foldl_cons, List.foldl_nil, List.filterMap_append, addTarget]
      cases found : targetOf parent last with
      | none => simpa [found] using ih
      | some target =>
          have single : [last].filterMap (targetOf parent) = [target] := by simp [found]
          dsimp only
          rw [single, erase_dups_concat, keys_of_add, ih]
          by_cases known : target ∈ front.filterMap (targetOf parent)
          · rw [if_pos known, if_pos (List.mem_eraseDups.mpr known), List.append_nil]
          · rw [if_neg known, if_neg (known ∘ List.mem_eraseDups.mp)]

theorem target_iff_below (parent : Option String) (name first : String) (filled : first ≠ "")
    (segments : Name.segments name = pathOf parent ++ [first]) (command : Command) :
    targetOf parent command = some name ↔ Name.isBelow command.fullName name = true := by
  rw [target_eq_some_iff, Name.is_below_iff, segments]
  constructor
  · rintro ⟨other, next, more, longer, -, same⟩
    obtain rfl : first = other := by simpa using same
    exact ⟨next, more, by simpa using longer⟩
  · rintro ⟨next, more, longer⟩
    exact ⟨first, next, more, by simpa using longer, filled, rfl⟩

theorem segments_of_target (parent : Option String) (commands : List Command) (name : String)
    (member : name ∈ (commands.filterMap (targetOf parent)).eraseDups) :
    ∃ first, first ≠ "" ∧ Name.segments name = pathOf parent ++ [first] := by
  obtain ⟨command, -, target⟩ := List.mem_filterMap.mp (List.mem_eraseDups.mp member)
  obtain ⟨first, -, -, -, filled, segments⟩ := (target_eq_some_iff parent command name).mp target
  exact ⟨first, filled, segments⟩

theorem targets_in_order (parent : Option String) (commands : List Command) :
    (commands.filterMap (targetOf parent)).eraseDups.Pairwise fun a b => seenAt commands a < seenAt commands b := by
  have position (name : String) (member : name ∈ (commands.filterMap (targetOf parent)).eraseDups) :
      commands.findIdx (targetOf parent · = some name) = seenAt commands name := by
    obtain ⟨first, filled, segments⟩ := segments_of_target parent commands name member
    rw [seenAt]
    congr 1
    funext command
    rw [Bool.eq_iff_iff, decide_eq_true_iff]
    exact target_iff_below parent name first filled segments command
  refine (erase_dups_in_order (targetOf parent) commands).imp_of_mem ?_
  intro a b aMember bMember before
  rwa [position a aMember, position b bMember] at before

theorem names_of_keep_first (commands : List Command) :
    (keepFirst commands).map (·.fullName) = (commands.map (·.fullName)).eraseDups := by
  induction commands using List.reverseRecOn with
  | nil => rfl
  | append_singleton front last ih =>
      rw [keep_first_append, List.map_append, List.map_singleton, erase_dups_concat, ← ih, Command.addNew]
      have known : (keepFirst front).any (·.fullName == last.fullName) = true ↔
          last.fullName ∈ front.map (·.fullName) := by
        rw [← List.mem_eraseDups, ← ih, List.any_eq_true]
        simp
      by_cases present : last.fullName ∈ front.map (·.fullName)
      · rw [if_pos present, if_pos (known.mpr present), List.append_nil]
      · rw [if_neg present, if_neg (present ∘ known.mp), List.map_append, List.map_singleton]

theorem kept_in_order (commands : List Command) (home : String) :
    (keepFirst (commands.filter fun command => command.home = home)).Pairwise fun a b =>
      firstAt commands a.fullName < firstAt commands b.fullName := by
  let nameHere (command : Command) : Option String := if command.home = home then some command.fullName else none
  have names : (keepFirst (commands.filter fun command => command.home = home)).map (·.fullName) =
      (commands.filterMap nameHere).eraseDups := by
    rw [names_of_keep_first, ← List.filterMap_eq_map, List.filterMap_filter]
    simp [nameHere]
  have position (name : String) (member : name ∈ (commands.filterMap nameHere).eraseDups) :
      commands.findIdx (nameHere · = some name) = firstAt commands name := by
    obtain ⟨known, -, found⟩ := List.mem_filterMap.mp (List.mem_eraseDups.mp member)
    obtain ⟨lies, same⟩ : known.home = home ∧ known.fullName = name := by
      simpa [nameHere] using found
    rw [firstAt]
    congr 1
    funext command
    by_cases equal : command.fullName = name
    · have own : command.home = home := by rw [Command.home, equal, ← same, ← lies, Command.home]
      simp [nameHere, own, equal]
    · simp [nameHere, equal]
  have sorted : ((keepFirst (commands.filter fun command => command.home = home)).map (·.fullName)).Pairwise
      fun a b => firstAt commands a < firstAt commands b := by
    rw [names]
    refine (erase_dups_in_order nameHere commands).imp_of_mem ?_
    intro a b aMember bMember before
    rwa [position a aMember, position b bMember] at before
  exact (List.pairwise_map (R := fun a b => firstAt commands a < firstAt commands b)).mp sorted

namespace Outline

/-! ### Namespaces of an outline -/

-- Below every namespace, those side by side come in the order in which the commands name them.
def Seen (commands : List Command) : Outline → Prop
  | empty => True
  | node fullName _ below beside =>
      below.topNames = (commands.filterMap (targetOf (some fullName))).eraseDups ∧ below.Seen commands ∧
        beside.Seen commands

theorem targets_of_passed (parent : Option String) (top first name : String) (filled : first ≠ "")
    (segments : Name.segments top = pathOf parent ++ [first]) (leads : Name.segments top <+: Name.segments name)
    (commands : List Command) :
    (passedTo parent top commands).filterMap (targetOf (some name)) = commands.filterMap (targetOf (some name)) := by
  rw [passedTo, List.filterMap_filter]
  apply List.filterMap_congr
  intro command _
  by_cases passed : targetOf parent command = some top
  · simp [passed]
  · -- What lies below the name lies below the top and would have been passed on.
    have none : targetOf (some name) command = none := by
      by_contra some
      obtain ⟨target, found⟩ := Option.ne_none_iff_exists'.mp some
      obtain ⟨next, after, more, longer, -, -⟩ := (target_eq_some_iff _ command target).mp found
      obtain ⟨rest, whole⟩ := leads
      apply passed
      rw [target_iff_below parent top first filled segments, Name.is_below_iff, longer, pathOf, ← whole]
      cases rest with
      | nil => exact ⟨next, after :: more, by simp⟩
      | cons inner others => exact ⟨inner, others ++ next :: after :: more, by simp⟩
    simp [passed, none]

-- By induction on the outline: the commands of a level name the same namespaces further down as all commands do.
theorem seen_of_follows (whole : List Command) (parent : Option String) (commands : List Command) (outline : Outline)
    (groups : Groups) (sorted : ∀ key members, (key, members) ∈ groups →
      members = passedTo parent key commands ∧ members ≠ []) (follows : outline.Follows groups)
    (same : ∀ name, pathOf parent <+: Name.segments name →
      commands.filterMap (targetOf (some name)) = whole.filterMap (targetOf (some name))) :
    outline.Seen whole := by
  induction outline generalizing parent commands groups with
  | empty => trivial
  | node fullName own below beside ihBelow ihBeside =>
      obtain ⟨members, rest, rfl, clean, -, followsBelow, followsBeside⟩ := follows
      obtain ⟨membersEq, present⟩ := sorted fullName members List.mem_cons_self
      have groupsBelow := Forest.groups_of_sorted (some fullName) members clean
      obtain ⟨command, passed⟩ := List.exists_mem_of_ne_nil _ present
      obtain ⟨first, -, -, -, filled, segments⟩ :=
        (target_eq_some_iff parent command fullName).mp ((mem_passed _ _ _ _).mp (membersEq ▸ passed)).2
      have sameBelow (name : String) (leads : Name.segments fullName <+: Name.segments name) :
          members.filterMap (targetOf (some name)) = whole.filterMap (targetOf (some name)) := by
        rw [membersEq, targets_of_passed parent fullName first name filled segments leads]
        exact same name ((segments ▸ List.prefix_append _ _).trans leads)
      refine ⟨?_, ihBelow (some fullName) members _ groupsBelow.members followsBelow sameBelow,
        ihBeside parent commands rest (fun key inside member => sorted key inside (List.mem_cons_of_mem _ member))
          followsBeside same⟩
      rw [(grown_of_follows (some fullName) members below _ groupsBelow.distinct groupsBelow.members followsBelow).1,
        (sort_below_without_fault (some fullName) {} members clean).2, keys_of_commands,
        sameBelow fullName List.prefix_rfl]

theorem names_of_tops (outline : Outline) (parent : Option Nat) (first : Nat) (forest : Forest)
    (lies : outline.LiesIn parent first forest) : (outline.tops first).map forest.fullName = outline.topNames := by
  induction outline generalizing first with
  | empty => rfl
  | node fullName own below beside _ ihBeside =>
      obtain ⟨slot, -, liesBeside⟩ := lies_in_node _ _ _ _ _ _ _ lies
      rw [tops, List.map_cons, ihBeside _ liesBeside, topNames]
      simp [Forest.fullName, slot]

theorem child_names_of_layout (commands : List Command) (outline : Outline) (seen : outline.Seen commands)
    (parent : Option Nat) (first : Nat) (forest : Forest) (lies : outline.LiesIn parent first forest) (node : Nat)
    (least : first ≤ node) (bound : node < first + outline.size) :
    (forest.children node).map forest.fullName =
      (commands.filterMap (targetOf (some (forest.fullName node)))).eraseDups := by
  induction outline generalizing parent first with
  | empty =>
      simp only [size] at bound
      omega
  | node fullName own below beside ihBelow ihBeside =>
      obtain ⟨slot, liesBelow, liesBeside⟩ := lies_in_node _ _ _ _ _ _ _ lies
      obtain ⟨tops, seenBelow, seenBeside⟩ := seen
      simp only [size] at bound
      rcases Nat.lt_trichotomy node first with less | rfl | more
      · omega
      · have named : forest.fullName node = fullName := by simp [Forest.fullName, slot]
        have children : forest.children node = below.tops (node + 1) := by simp [Forest.children, slot]
        rw [children, names_of_tops below _ _ forest liesBelow, tops, named]
      · by_cases inside : node < first + 1 + below.size
        · exact ihBelow seenBelow _ _ liesBelow more inside
        · exact ihBeside seenBeside _ _ liesBeside (by omega) (by omega)

-- By induction on the outline: each namespace comes before those below it, and these before the ones beside it.
theorem names_in_order (whole : List Command) (parent : Option String) (commands : List Command) (outline : Outline)
    (grown : outline.GrownFrom parent commands) (seen : outline.Seen whole)
    (tops : outline.topNames.Pairwise fun a b => seenAt whole a < seenAt whole b) :
    outline.names.Pairwise fun a b => seenPath whole a < seenPath whole b := by
  induction outline generalizing parent commands with
  | empty => exact List.Pairwise.nil
  | node fullName own below beside ihBelow ihBeside =>
      obtain ⟨first, -, segments⟩ := segments_of_top parent commands _ grown fullName List.mem_cons_self
      obtain ⟨-, -, -, grownBelow, -, -, grownBeside⟩ := grown
      obtain ⟨topsBelow, seenBelow, seenBeside⟩ := seen
      obtain ⟨earlier, topsBeside⟩ := List.pairwise_cons.mp tops
      have lower (name : String) (member : name ∈ below.names) : Name.isBelow name fullName = true :=
        below_of_name fullName _ below grownBelow name member
      have later (name : String) (leads : Name.segments fullName <+: Name.segments name) (other : String)
          (member : other ∈ beside.names) : seenPath whole name < seenPath whole other := by
        obtain ⟨top, topMember, topLeads⟩ := top_of_name parent commands beside grownBeside other member
        obtain ⟨second, -, topSegments⟩ := segments_of_top parent commands beside grownBeside top topMember
        exact seen_path_beside whole (pathOf parent) fullName top first second name other segments topSegments
          (earlier top topMember) leads topLeads
      refine List.pairwise_cons.mpr ⟨?_, List.pairwise_append.mpr ⟨?_, ?_, ?_⟩⟩
      · intro name member
        rcases List.mem_append.mp member with inside | besides
        · exact seen_path_below whole fullName name (lower name inside)
        · exact later fullName List.prefix_rfl name besides
      · exact ihBelow _ _ grownBelow seenBelow (topsBelow ▸ targets_in_order (some fullName) whole)
      · exact ihBeside _ _ grownBeside seenBeside topsBeside
      · intro name inside other besides
        exact later name ((Name.is_below_iff_leads name fullName).mp (lower name inside)).1 other besides

end Outline

namespace Forest

theorem of_commands_seen (commands : List Command) (forest : Forest) (built : ofCommands commands = .ok forest) :
    ∃ outline : Outline, outline.GrownFrom none commands ∧ outline.Seen commands ∧
      outline.topNames = (commands.filterMap (targetOf none)).eraseDups ∧ forest = outline.toForest := by
  obtain ⟨clean, outline, follows, layout⟩ := of_commands_layout commands forest built
  have groups := groups_of_sorted none commands clean
  obtain ⟨names, grown⟩ := Outline.grown_of_follows none commands outline _ groups.distinct groups.members follows
  refine ⟨outline, grown, Outline.seen_of_follows commands none commands outline _ groups.members follows
    (fun _ _ => rfl), ?_, layout⟩
  rw [names, (sort_below_without_fault none {} commands clean).2, keys_of_commands]

section

variable {commands : List Command} {forest : Forest} (built : ofCommands commands = .ok forest)
include built

theorem root_names_of_commands :
    forest.roots.map forest.fullName = (commands.filterMap (targetOf none)).eraseDups := by
  obtain ⟨outline, -, -, tops, rfl⟩ := of_commands_seen commands forest built
  rw [← tops]
  exact outline.names_of_tops none 0 _ outline.lies_in_forest

theorem child_names_of_commands (node : Nat) (bound : node < forest.size) :
    (forest.children node).map forest.fullName =
      (commands.filterMap (targetOf (some (forest.fullName node)))).eraseDups := by
  obtain ⟨outline, -, seen, -, rfl⟩ := of_commands_seen commands forest built
  have size : outline.toForest.size = outline.size := by simp [Forest.size, Outline.toForest]
  exact outline.child_names_of_layout commands seen none 0 _ outline.lies_in_forest node (Nat.zero_le node) (by omega)

theorem slot_names_in_order :
    (forest.slots.map (·.fullName)).Pairwise fun a b => seenPath commands a < seenPath commands b := by
  obtain ⟨outline, grown, seen, tops, rfl⟩ := of_commands_seen commands forest built
  have names : outline.toForest.slots.map (·.fullName) = outline.names := outline.names_of_slots none 0
  rw [names]
  exact outline.names_in_order commands none commands grown seen (tops ▸ targets_in_order none commands)

end

/-! ### Forests -/

structure InSeenOrder (forest : Forest) (commands : List Command) : Prop where
  roots : forest.roots.Pairwise fun a b => seenAt commands (forest.fullName a) < seenAt commands (forest.fullName b)
  children : ∀ node < forest.size, (forest.children node).Pairwise fun a b =>
    seenAt commands (forest.fullName a) < seenAt commands (forest.fullName b)
  seen : ∀ node < forest.size, ∃ command, commands[seenAt commands (forest.fullName node)]? = some command ∧
    Name.isBelow command.fullName (forest.fullName node) = true
  contents : ∀ node < forest.size, (forest.commands node).Pairwise fun a b =>
    firstAt commands a.fullName < firstAt commands b.fullName
  first : ∀ kept ∈ forest.allCommands, commands[firstAt commands kept.fullName]? = some kept
  depthFirst : forest.nodes.Pairwise fun a b =>
    seenPath commands (forest.fullName a) < seenPath commands (forest.fullName b)
  together : ∀ node < forest.size, ∃ before after, forest.allCommands = before ++ forest.commands node ++ after ∧
    ∀ command ∈ before ++ after, command.home ≠ forest.fullName node
  listed : forest.allCommands.Pairwise fun a b => seenPath commands a.home < seenPath commands b.home ∨
    a.home = b.home ∧ firstAt commands a.fullName < firstAt commands b.fullName

theorem get_find_index {α : Type} (items : List α) (test : α → Bool) (item : α) (found : items.find? test = some item) :
    items[items.findIdx test]? = some item := by
  rw [← found, List.find?_eq_getElem?_findIdx]

theorem pairwise_of_names (forest : Forest) (nodes : List Nat) (before : String → String → Prop)
    (ordered : (nodes.map forest.fullName).Pairwise before) :
    nodes.Pairwise fun a b => before (forest.fullName a) (forest.fullName b) :=
  List.pairwise_map.mp ordered

section

variable {forest : Forest} {commands : List Command} (filled : Filled forest commands)
include filled

theorem contents_in_order (node : Nat) (bound : node < forest.size) :
    (forest.commands node).Pairwise fun a b => firstAt commands a.fullName < firstAt commands b.fullName := by
  obtain ⟨slot, member, -, -, own⟩ := forest.slot_of_node node bound
  rw [own, filled.contents slot member]
  exact kept_in_order commands slot.fullName

theorem commands_together (node : Nat) (bound : node < forest.size) :
    ∃ before after, forest.allCommands = before ++ forest.commands node ++ after ∧
      ∀ command ∈ before ++ after, command.home ≠ forest.fullName node := by
  have distinct : forest.nodes.Nodup := filled.ordered ▸ List.nodup_range
  obtain ⟨front, back, split⟩ := List.append_of_mem (filled.ordered ▸ List.mem_range.mpr bound : node ∈ forest.nodes)
  refine ⟨front.flatMap forest.commands, back.flatMap forest.commands, ?_, ?_⟩
  · rw [allCommands, split, List.flatMap_append, List.flatMap_cons, List.append_assoc]
  · intro command member home
    rw [← List.flatMap_append, List.mem_flatMap] at member
    obtain ⟨other, inside, own⟩ := member
    have otherBound : other < forest.size := by
      rw [← List.mem_range, ← filled.ordered, split]
      rcases List.mem_append.mp inside with earlier | later
      · exact List.mem_append_left _ earlier
      · exact List.mem_append_right _ (List.mem_cons_of_mem _ later)
    have named := home_of_node filled other otherBound command own
    obtain rfl := node_unique forest filled.distinct other node otherBound bound (named.symm.trans home)
    rw [split] at distinct
    exact (List.nodup_middle.mp distinct).notMem inside

end

-- A forest keeps the order of its commands, at every level and for all commands at once.
theorem forest_in_seen_order (commands : List Command) (forest : Forest) (built : ofCommands commands = .ok forest) :
    InSeenOrder forest commands := by
  have filled := filled_of_commands commands forest built
  have covers := (represents_of_commands commands forest built).covers
  have depthFirst : forest.nodes.Pairwise fun a b =>
      seenPath commands (forest.fullName a) < seenPath commands (forest.fullName b) := by
    apply pairwise_of_names forest forest.nodes fun a b => seenPath commands a < seenPath commands b
    rw [filled.ordered, ← names_eq]
    exact slot_names_in_order built
  refine ⟨?_, ?_, ?_, contents_in_order filled, ?_, depthFirst, commands_together filled, ?_⟩
  · apply pairwise_of_names forest forest.roots fun a b => seenAt commands a < seenAt commands b
    rw [root_names_of_commands built]
    exact targets_in_order none commands
  · intro node bound
    apply pairwise_of_names forest (forest.children node) fun a b => seenAt commands a < seenAt commands b
    rw [child_names_of_commands built node bound]
    exact targets_in_order _ commands
  · intro node bound
    obtain ⟨slot, member, -, named, -⟩ := forest.slot_of_node node bound
    obtain ⟨-, command, given, below⟩ := (covers (forest.fullName node)).mp (named ▸ List.mem_map_of_mem member)
    obtain ⟨first, found⟩ := Option.isSome_iff_exists.mp
      (List.find?_isSome.mpr ⟨command, given, below⟩ :
        (commands.find? fun command => Name.isBelow command.fullName (forest.fullName node)).isSome)
    exact ⟨first, get_find_index commands _ first found, by simpa using List.find?_some found⟩
  · intro kept member
    rw [all_commands_of_slots filled] at member
    obtain ⟨slot, slotMember, inside⟩ := List.mem_flatMap.mp member
    exact get_find_index commands _ kept (kept_of_slot filled slot slotMember kept inside).2.2
  · rw [allCommands, List.pairwise_flatMap]
    have home (node : Nat) (member : node ∈ forest.nodes) (command : Command) (inside : command ∈ forest.commands node) :
        command.home = forest.fullName node :=
      home_of_node filled node (List.mem_range.mp (filled.ordered ▸ member)) command inside
    refine ⟨fun node member => ?_, depthFirst.imp_of_mem ?_⟩
    · refine (contents_in_order filled node (List.mem_range.mp (filled.ordered ▸ member))).imp_of_mem ?_
      intro a b aInside bInside before
      exact .inr ⟨(home node member a aInside).trans (home node member b bInside).symm, before⟩
    · intro node other member otherMember before a aInside b bInside
      rw [home node member a aInside, home other otherMember b bInside]
      exact .inl before

def scattered : List Command :=
  [{ fullName := "zoo.x.One" }, { fullName := "shop.Two" }, { fullName := "zoo.a.Three" }, { fullName := "zoo.x.Four" },
    { fullName := "zoo.Five" }, { fullName := "zoo.x.One", definedAt := "again.One" }]

theorem scattered_in_seen_order : ∃ forest, ofCommands scattered = .ok forest ∧ InSeenOrder forest scattered ∧
    forest.allCommands.map (·.fullName) = ["zoo.Five", "zoo.x.One", "zoo.x.Four", "zoo.a.Three", "shop.Two"] := by
  have built : ofCommands scattered = .ok
      { slots := [⟨"zoo", none, [1, 2], [{ fullName := "zoo.Five" }]⟩,
          ⟨"zoo.x", some 0, [], [{ fullName := "zoo.x.One" }, { fullName := "zoo.x.Four" }]⟩,
          ⟨"zoo.a", some 0, [], [{ fullName := "zoo.a.Three" }]⟩, ⟨"shop", none, [], [{ fullName := "shop.Two" }]⟩],
        roots := [0, 3] } := by
    rfl
  exact ⟨_, built, forest_in_seen_order scattered _ built, rfl⟩

end Forest

end StubForge
