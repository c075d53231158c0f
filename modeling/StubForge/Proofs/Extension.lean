import StubForge.Proofs.Admission
import StubForge.Proofs.FirstSeen

set_option autoImplicit false

/-!
Taking commands in. What a namespace is asked to take in goes at or below it, in the places that the names say, behind what
is there; everything else keeps its place in the table of the forest. Namespaces side by side take their groups in one after
the other without getting in each other's way.
-/

namespace StubForge

-- A name is the other one or lies below it.
def Name.Within (name above : String) : Prop := Name.segments above <+: Name.segments name

theorem Name.within_of_below (name above : String) (below : Name.isBelow name above = true) : Name.Within name above :=
  ((Name.is_below_iff_leads name above).mp below).1

theorem Name.below_of_within (name above : String) (within : Name.Within name above) (different : name ≠ above) :
    Name.isBelow name above = true :=
  (Name.is_below_iff_leads name above).mpr ⟨within, different.symm⟩

theorem Name.not_below_self (name : String) : ¬Name.isBelow name name = true :=
  fun below => ((Name.is_below_iff_leads name name).mp below).2 rfl

theorem Name.below_within (name middle upper : String) (lower : Name.isBelow name middle = true)
    (within : Name.Within middle upper) : Name.isBelow name upper = true := by
  obtain ⟨first, more, longer⟩ := (Name.is_below_iff name middle).mp lower
  obtain ⟨rest, whole⟩ := within
  rw [Name.is_below_iff, longer, ← whole, List.append_assoc]
  cases rest with
  | nil => exact ⟨first, more, rfl⟩
  | cons next others => exact ⟨next, others ++ first :: more, rfl⟩

-- Directly below a namespace.
def Name.Under (name above : String) : Prop :=
  ∃ segment, segment ≠ "" ∧ Name.segments name = Name.segments above ++ [segment]

theorem Name.within_of_under (name above : String) (under : Name.Under name above) : Name.Within name above := by
  obtain ⟨segment, -, segments⟩ := under
  rw [Name.Within, segments]
  exact List.prefix_append _ _

theorem Name.below_of_under (name middle above : String) (under : Name.Under middle above)
    (within : Name.Within name middle) : Name.isBelow name above = true := by
  obtain ⟨segment, -, segments⟩ := under
  obtain ⟨rest, longer⟩ := within
  rw [Name.is_below_iff, ← longer, segments, List.append_assoc]
  exact ⟨segment, rest, rfl⟩

theorem Name.filled_of_within (name above : String) (within : Name.Within name above) (filled : above ≠ "") :
    name ≠ "" := by
  rintro rfl
  have present := List.length_pos_of_ne_nil (Name.segments_ne_nil above)
  have short : (Name.segments "").length = 1 := rfl
  exact filled (Name.segments_injective above "" (within.eq_of_length_le (short ▸ present)))

theorem Command.below_of_home (command : Command) (name : String) (filled : name ≠ "") (home : command.home = name) :
    Name.isBelow command.fullName name = true := by
  obtain ⟨segment, whole⟩ := (Name.parent_eq_iff command.fullName name filled).mp home
  exact (Name.is_below_iff command.fullName name).mpr ⟨segment, [], whole⟩

theorem below_of_target (above : String) (command : Command) (target : String)
    (passed : targetOf (some above) command = some target) : Name.isBelow command.fullName above = true := by
  obtain ⟨first, next, more, longer, -, -⟩ := (target_eq_some_iff (some above) command target).mp passed
  exact (Name.is_below_iff command.fullName above).mpr ⟨first, next :: more, longer⟩

theorem under_of_target (above : String) (command : Command) (target : String)
    (passed : targetOf (some above) command = some target) :
    Name.Under target above ∧ Name.isBelow command.fullName target = true := by
  obtain ⟨first, next, more, longer, filled, segments⟩ := (target_eq_some_iff (some above) command target).mp passed
  refine ⟨⟨first, filled, segments⟩, (Name.is_below_iff command.fullName target).mpr ⟨next, more, ?_⟩⟩
  rw [longer, segments, List.append_assoc]
  rfl

-- A command on its way down passes every name that it lies below.
theorem target_on_way (above : String) (command : Command) (accepted : Accepted (some above) command) (name : String)
    (below : Name.isBelow name above = true) (lower : Name.isBelow command.fullName name = true) :
    ∃ target, targetOf (some above) command = some target ∧ Name.Within name target := by
  obtain ⟨first, rest, segments⟩ := (Name.is_below_iff name above).mp below
  obtain ⟨next, more, longer⟩ := (Name.is_below_iff command.fullName name).mp lower
  rw [segments, List.append_assoc, List.cons_append] at longer
  have filled := segment_of_accepted (some above) command accepted first _ longer
  have plain : '.' ∉ first.toList := Name.plain_of_mem_segments name first (by simp [segments])
  have own := Name.segments_child above first plain
  obtain ⟨second, others, split⟩ :=
    List.exists_cons_of_ne_nil (List.append_ne_nil_of_right_ne_nil rest (List.cons_ne_nil next more))
  refine ⟨Name.child above first, (target_eq_some_iff (some above) command _).mpr ?_, ?_⟩
  · exact ⟨first, second, others, split ▸ longer, filled, own⟩
  · rw [Name.Within, own, segments]
    exact ⟨rest, by simp⟩

namespace Forest

/-! ### One name -/

-- A name that took commands in, behind what it held.
def TakesAt (commands : List Command) (before after : Forest) (name : String) : Prop :=
  after.commandsAt name = (commands.filter fun command => command.home = name).foldl Command.addNew
      (before.commandsAt name) ∧
    after.childNamesAt name = (before.childNamesAt name ++ commands.filterMap (targetOf (some name))).eraseDups

def SameAt (before after : Forest) (name : String) : Prop :=
  after.commandsAt name = before.commandsAt name ∧ after.childNamesAt name = before.childNamesAt name

-- The nodes of the earlier forest are still there.
structure Extends (before after : Forest) : Prop where
  roots : after.roots = before.roots
  size : before.size ≤ after.size
  names : ∀ node < before.size, after.fullName node = before.fullName node
  parents : ∀ node < before.size, after.parent? node = before.parent? node

section

variable {first second third : Forest}

theorem extends_refl (forest : Forest) : Extends forest forest :=
  ⟨rfl, Nat.le_refl _, fun _ _ => rfl, fun _ _ => rfl⟩

theorem extends_trans (front : Extends first second) (back : Extends second third) : Extends first third where
  roots := back.roots.trans front.roots
  size := Nat.le_trans front.size back.size
  names := fun node old => (back.names node (Nat.lt_of_lt_of_le old front.size)).trans (front.names node old)
  parents := fun node old => (back.parents node (Nat.lt_of_lt_of_le old front.size)).trans (front.parents node old)

theorem same_at_trans {name : String} (front : SameAt first second name) (back : SameAt second third name) :
    SameAt first third name :=
  ⟨back.1.trans front.1, back.2.trans front.2⟩

theorem takes_at_of_same_left {commands : List Command} {name : String} (front : SameAt first second name)
    (back : TakesAt commands second third name) : TakesAt commands first third name := by
  rwa [TakesAt, ← front.1, ← front.2]

theorem takes_at_of_same_right {commands : List Command} {name : String} (front : TakesAt commands first second name)
    (back : SameAt second third name) : TakesAt commands first third name := by
  rwa [TakesAt, back.1, back.2]

-- Nothing is taken in where no command leads.
theorem takes_at_of_same {commands : List Command} {name : String} (orderly : first.Orderly)
    (same : SameAt first second name) (filled : name ≠ "")
    (elsewhere : ∀ command ∈ commands, ¬Name.isBelow command.fullName name = true) :
    TakesAt commands first second name := by
  have homeless : (commands.filter fun command => command.home = name) = [] := by
    rw [List.filter_eq_nil_iff]
    intro command member home
    exact elsewhere command member (command.below_of_home name filled (of_decide_eq_true home))
  have untargeted : commands.filterMap (targetOf (some name)) = [] := by
    rw [List.filterMap_eq_nil_iff]
    intro command member
    by_contra passed
    obtain ⟨target, found⟩ := Option.ne_none_iff_exists'.mp passed
    exact elsewhere command member (below_of_target name command target found)
  rw [TakesAt, homeless, untargeted, List.append_nil, erase_dups_of_nodup _ (child_names_nodup orderly name)]
  exact same

end

/-! ### Whole forests -/

-- A namespace that took commands in.
structure Takes (above : String) (commands : List Command) (before after : Forest) : Prop where
  orderly : after.Orderly
  grown : Extends before after
  names : ∀ name, name ∈ after.names ↔ name ∈ before.names ∨
    Name.isBelow name above = true ∧ ∃ command ∈ commands, Name.isBelow command.fullName name = true
  inside : ∀ name, Name.Within name above → TakesAt commands before after name
  outside : ∀ name, ¬Name.Within name above → SameAt before after name

-- Namespaces side by side that took in the groups of commands that are theirs.
structure Spreads (groups : Groups) (before after : Forest) : Prop where
  orderly : after.Orderly
  grown : Extends before after
  names : ∀ name, name ∈ after.names ↔ name ∈ before.names ∨ ∃ group ∈ groups,
    Name.Within name group.1 ∧ ∃ command ∈ group.2, Name.isBelow command.fullName name = true
  inside : ∀ group ∈ groups, ∀ name, Name.Within name group.1 → TakesAt group.2 before after name
  outside : ∀ name, (∀ group ∈ groups, ¬Name.Within name group.1) → SameAt before after name

-- At and below a name, every namespace is linked to the one above it, so that it is found there.
def Ready (above : String) (forest : Forest) : Prop :=
  ∀ name ∈ forest.names, ∀ upper child, Name.Within upper above → Name.Under child upper → Name.Within name child →
    child ∈ forest.childNamesAt upper

-- What filling a node leaves: it took the commands in, or one of them has no place.
def Outcome (above : String) (node : Nat) (commands : List Command) (before : Forest) : BuildResult → Prop
  | (.ok kids, last) =>
      Takes above commands before (last.attachAll (some node) kids) ∧
        (∀ kid ∈ kids, before.size ≤ kid ∧ kid < last.size) ∧
        ∀ command ∈ commands, ¬Misplaced (some above) command.fullName
  | (.error _, _) => ∃ command ∈ commands, Misplaced (some above) command.fullName

def GroupsOutcome (groups : Groups) (known : String → Option Nat) (created : List Nat) (before : Forest) :
    BuildResult → Prop
  | (.ok nodes, last) =>
      Spreads groups before last ∧
        (∃ new, nodes = created ++ new ∧ (∀ node ∈ new, before.size ≤ node ∧ node < last.size) ∧
          new.map last.fullName = (groups.map (·.1)).filter fun name => (known name).isNone) ∧
        ∀ group ∈ groups, ∀ command ∈ group.2, ¬Misplaced (some group.1) command.fullName
  | (.error _, _) => ∃ group ∈ groups, ∃ command ∈ group.2, Misplaced (some group.1) command.fullName

theorem ready_of_same (name : String) (before after : Forest)
    (names : ∀ lower, Name.Within lower name → (lower ∈ after.names ↔ lower ∈ before.names))
    (same : ∀ lower, Name.Within lower name → after.childNamesAt lower = before.childNamesAt lower)
    (ready : Ready name before) : Ready name after := by
  intro lower member upper child within under inner
  have lowerWithin : Name.Within lower name := within.trans ((Name.within_of_under child upper under).trans inner)
  rw [same upper within]
  exact ready lower ((names lower lowerWithin).mp member) upper child within under inner

/-! ### Entering the node of a group -/

-- What is known about a name is true of the forest.
structure Knows (known : String → Option Nat) (forest : Forest) (name : String) : Prop where
  found : ∀ node, known name = some node → node < forest.size ∧ forest.fullName node = name
  missing : known name = none → name ∉ forest.names

structure Enters (forest entered : Forest) (node : Nat) (name : String) : Prop where
  orderly : entered.Orderly
  grown : Extends forest entered
  bound : node < entered.size
  named : entered.fullName node = name
  names : ∀ other, other ∈ entered.names ↔ other ∈ forest.names ∨ other = name
  same : ∀ other, SameAt forest entered other
  ready : Ready name entered

theorem enters_node (known : String → Option Nat) (forest : Forest) (parent : Nat) (name : String)
    (orderly : forest.Orderly) (bound : parent < forest.size) (under : Name.Under name (forest.fullName parent))
    (knows : Knows known forest name) (ready : Ready name forest) :
    Enters forest (entered known (some parent) forest name).1 (entered known (some parent) forest name).2 name := by
  cases found : known name with
  | some node =>
      obtain ⟨inside, named⟩ := knows.found node found
      simp only [entered, found]
      refine ⟨orderly, extends_refl forest, inside, named, fun other => ?_, fun other => ⟨rfl, rfl⟩, ready⟩
      rw [iff_self_or]
      rintro rfl
      exact named ▸ forest.name_mem node inside
  | none =>
      have fresh := knows.missing found
      obtain ⟨segment, filled, segments⟩ := under
      have same (other : String) : SameAt forest (forest.addNode name (some parent)) other :=
        ⟨commands_at_add_node orderly name fresh _ other, child_names_at_add_node orderly name fresh _ other⟩
      simp only [entered, found]
      refine ⟨orderly_add_node orderly name segment parent bound fresh filled segments, ⟨rfl, by simp, ?_, ?_⟩, by simp,
        forest.full_name_add_node_new name _, fun other => by simp, same, ?_⟩
      · exact fun node old => forest.full_name_add_node name _ node old
      · exact fun node old => forest.parent_add_node name _ node old
      · -- A namespace that was there below the new one would have shown it.
        intro lower member upper child within childUnder inner
        rw [(same upper).2]
        rw [names_add_node, List.mem_append, List.mem_singleton] at member
        rcases member with old | rfl
        · exact ready lower old upper child within childUnder inner
        · obtain ⟨next, -, longer⟩ := childUnder
          have long := inner.length_le
          have short := within.length_le
          rw [longer, List.length_append, List.length_singleton] at long
          omega

/-! ### Groups one after the other -/

theorem apart_of_under (above : String) (a b : String) (left : Name.Under a above) (right : Name.Under b above)
    (different : a ≠ b) (name : String) (leftWithin : Name.Within name a) : ¬Name.Within name b := by
  obtain ⟨first, -, segments⟩ := left
  obtain ⟨second, -, otherSegments⟩ := right
  exact fun rightWithin =>
    different (Outline.tops_apart (some above) a b name first second segments otherSegments leftWithin rightWithin)

section

variable {start next last : Forest} {group : String × List Command}

theorem spreads_single (entered : Forest) (node : Nat) (enters : Enters start entered node group.1)
    (takes : Takes group.1 group.2 entered next)
    (filled : ∃ command ∈ group.2, Name.isBelow command.fullName group.1 = true) : Spreads [group] start next where
  orderly := takes.orderly
  grown := extends_trans enters.grown takes.grown
  names := by
    intro name
    rw [takes.names, enters.names]
    constructor
    · rintro ((old | rfl) | ⟨below, lower⟩)
      · exact .inl old
      · exact .inr ⟨group, List.mem_singleton_self group, List.prefix_rfl, filled⟩
      · exact .inr ⟨group, List.mem_singleton_self group, Name.within_of_below name group.1 below, lower⟩
    · rintro (old | ⟨own, member, within, lower⟩)
      · exact .inl (.inl old)
      · obtain rfl := List.mem_singleton.mp member
        by_cases same : name = own.1
        · exact .inl (.inr same)
        · exact .inr ⟨Name.below_of_within name own.1 within same, lower⟩
  inside := by
    intro own member name within
    obtain rfl := List.mem_singleton.mp member
    exact takes_at_of_same_left (enters.same name) (takes.inside name within)
  outside := fun name apart =>
    same_at_trans (enters.same name) (takes.outside name (apart group (List.mem_singleton_self group)))

theorem spreads_cons (rest : Groups)
    (apart : ∀ other ∈ rest, ∀ name, Name.Within name group.1 → ¬Name.Within name other.1)
    (front : Spreads [group] start next) (back : Spreads rest next last) : Spreads (group :: rest) start last where
  orderly := back.orderly
  grown := extends_trans front.grown back.grown
  names := by
    intro name
    rw [back.names, front.names]
    simp only [List.mem_cons, List.not_mem_nil, or_false, exists_eq_left, exists_eq_or_imp, or_assoc]
  inside := by
    intro own member name within
    rcases List.mem_cons.mp member with rfl | later
    · exact takes_at_of_same_right (front.inside own (List.mem_singleton_self own) name within)
        (back.outside name fun other inside => apart other inside name within)
    · have elsewhere : ∀ other ∈ [group], ¬Name.Within name other.1 := by
        intro other inside overlap
        obtain rfl := List.mem_singleton.mp inside
        exact apart own later name overlap within
      exact takes_at_of_same_left (front.outside name elsewhere) (back.inside own later name within)
  outside := by
    intro name elsewhere
    refine same_at_trans (front.outside name fun other inside => ?_)
      (back.outside name fun other inside => elsewhere other (List.mem_cons_of_mem _ inside))
    obtain rfl := List.mem_singleton.mp inside
    exact elsewhere other List.mem_cons_self

section

variable (front : Spreads [group] start next) (name : String)
  (apart : ∀ lower, Name.Within lower name → ¬Name.Within lower group.1)
include front apart

theorem names_beside (lower : String) (within : Name.Within lower name) : lower ∈ next.names ↔ lower ∈ start.names := by
  rw [front.names, or_iff_left]
  rintro ⟨own, member, overlap, -⟩
  obtain rfl := List.mem_singleton.mp member
  exact apart lower within overlap

theorem ready_beside (ready : Ready name start) : Ready name next := by
  refine ready_of_same name start next (names_beside front name apart) (fun lower within => ?_) ready
  refine (front.outside lower ?_).2
  intro own member overlap
  obtain rfl := List.mem_singleton.mp member
  exact apart lower within overlap

theorem knows_beside (known : String → Option Nat) (knows : Knows known start name) : Knows known next name where
  found := by
    intro node found
    obtain ⟨old, named⟩ := knows.found node found
    exact ⟨Nat.lt_of_lt_of_le old front.grown.size, (front.grown.names node old).trans named⟩
  missing := fun missing member =>
    knows.missing missing ((names_beside front name apart name List.prefix_rfl).mp member)

end

end

-- The first group is filled, and then the others are: what is new is the node of the first group, if it was not known, and
-- the new nodes of the others.
theorem groups_outcome_cons (parent : Nat) (known : String → Option Nat) (start next : Forest) (created : List Nat)
    (group : String × List Command) (rest : Groups)
    (apart : ∀ other ∈ rest, ∀ name, Name.Within name group.1 → ¬Name.Within name other.1)
    (filled : ∃ command ∈ group.2, Name.isBelow command.fullName group.1 = true)
    (enters : Enters start (entered known (some parent) start group.1).1 (entered known (some parent) start group.1).2
      group.1)
    (takes : Takes group.1 group.2 (entered known (some parent) start group.1).1 next)
    (placed : ∀ command ∈ group.2, ¬Misplaced (some group.1) command.fullName) (result : BuildResult)
    (later : GroupsOutcome rest known (noted known start created group.1) next result) :
    GroupsOutcome (group :: rest) known created start result := by
  obtain ⟨result, last⟩ := result
  cases result with
  | error fault =>
      obtain ⟨other, member, reason⟩ := later
      exact ⟨other, List.mem_cons_of_mem _ member, reason⟩
  | ok nodes =>
      obtain ⟨back, ⟨new, split, inside, names⟩, laterPlaced⟩ := later
      have front := spreads_single _ _ enters takes filled
      refine ⟨spreads_cons rest apart front back, ?_, List.forall_mem_cons.mpr ⟨placed, laterPlaced⟩⟩
      have newInside (node : Nat) (member : node ∈ new) : start.size ≤ node ∧ node < last.size :=
        ⟨Nat.le_trans front.grown.size (inside node member).1, (inside node member).2⟩
      cases found : known group.1 with
      | some node =>
          refine ⟨new, by simpa [noted, found] using split, newInside, ?_⟩
          simp [names, found]
      | none =>
          have node : (entered known (some parent) start group.1).2 = start.size := by
            simp only [entered, found]
          rw [node] at enters
          have entry := Nat.lt_of_lt_of_le enters.bound takes.grown.size
          have first : last.fullName start.size = group.1 := by
            rw [back.grown.names _ entry, takes.grown.names _ enters.bound, enters.named]
          have size := Nat.lt_of_lt_of_le entry back.grown.size
          refine ⟨start.size :: new, by simp [split, noted, found], ?_, ?_⟩
          · exact List.forall_mem_cons.mpr ⟨⟨Nat.le_refl _, size⟩, newInside⟩
          · simp [names, first, found]

-- By induction on the groups: each is filled in the forest that those before it left, which is as ready for it as the
-- first one.
theorem groups_outcome (fill : Forest → Nat → List Command → BuildResult) (parent : Nat) (known : String → Option Nat)
    (above : String) (groups : Groups) (distinct : (groups.map (·.1)).Nodup)
    (under : ∀ group ∈ groups, Name.Under group.1 above)
    (filled : ∀ group ∈ groups, ∃ command ∈ group.2, Name.isBelow command.fullName group.1 = true)
    (fills : ∀ group ∈ groups, ∀ forest node, forest.Orderly → node < forest.size → forest.fullName node = group.1 →
      Ready group.1 forest → Outcome group.1 node group.2 forest (fill forest node group.2))
    (start : Forest) (created : List Nat) (orderly : start.Orderly) (bound : parent < start.size)
    (named : start.fullName parent = above) (knows : ∀ group ∈ groups, Knows known start group.1)
    (ready : ∀ group ∈ groups, Ready group.1 start) :
    GroupsOutcome groups known created start (buildGroups fill (some parent) known start created groups) := by
  induction groups generalizing start created with
  | nil =>
      refine ⟨⟨orderly, extends_refl start, fun name => by simp, nofun, fun _ _ => ⟨rfl, rfl⟩⟩, ⟨[], ?_⟩, nofun⟩
      simp
  | cons group rest ih =>
      obtain ⟨fresh, distinctRest⟩ := List.nodup_cons.mp distinct
      obtain ⟨underFirst, underRest⟩ := List.forall_mem_cons.mp under
      obtain ⟨filledFirst, filledRest⟩ := List.forall_mem_cons.mp filled
      obtain ⟨fillsFirst, fillsRest⟩ := List.forall_mem_cons.mp fills
      obtain ⟨knowsFirst, knowsRest⟩ := List.forall_mem_cons.mp knows
      obtain ⟨readyFirst, readyRest⟩ := List.forall_mem_cons.mp ready
      have enters := enters_node known start parent group.1 orderly bound (named ▸ underFirst) knowsFirst readyFirst
      have outcome := fillsFirst _ _ enters.orderly enters.bound enters.named enters.ready
      have apart (other : String × List Command) (member : other ∈ rest) (name : String)
          (within : Name.Within name group.1) : ¬Name.Within name other.1 := by
        refine apart_of_under above group.1 other.1 underFirst (underRest other member) ?_ name within
        intro same
        have inside : other.1 ∈ rest.map (·.1) := List.mem_map_of_mem member
        rw [← same] at inside
        exact fresh inside
      rw [build_groups_cons]
      change Outcome group.1 _ group.2 _ (fillGroup fill (some parent) known start group) at outcome
      cases own : fillGroup fill (some parent) known start group with
      | mk result forest =>
          rw [own] at outcome
          cases result with
          | error fault =>
              obtain ⟨command, member, misplaced⟩ := outcome
              exact ⟨group, List.mem_cons_self, command, member, misplaced⟩
          | ok kids =>
              obtain ⟨takes, -, placed⟩ := outcome
              have front := spreads_single _ _ enters takes filledFirst
              have beside (other : String × List Command) (member : other ∈ rest) (lower : String)
                  (within : Name.Within lower other.1) : ¬Name.Within lower group.1 :=
                fun overlap => apart other member lower overlap within
              refine groups_outcome_cons parent known start _ created group rest apart filledFirst enters takes placed _ ?_
              exact ih distinctRest underRest filledRest fillsRest _ _ front.orderly
                (Nat.lt_of_lt_of_le bound front.grown.size) ((front.grown.names parent bound).trans named)
                (fun other member => knows_beside front other.1 (beside other member) known (knowsRest other member))
                (fun other member => ready_beside front other.1 (beside other member) (readyRest other member))

end Forest

end StubForge
