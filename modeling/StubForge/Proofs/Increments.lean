import StubForge.Proofs.Filling
import StubForge.Proofs.Restriction

set_option autoImplicit false

/-!
Building in steps. What was built below a node is found there again, so that commands may be given at once or one part
after the other: the forest is the same up to the numbers of the new nodes, and commands that it has already taken in do
not change it.
-/

namespace StubForge

theorem names_of_fold_add_new (added found : List Command) (name : String) :
    name ∈ (added.foldl Command.addNew found).map (·.fullName) ↔
      name ∈ found.map (·.fullName) ∨ name ∈ added.map (·.fullName) := by
  induction added generalizing found with
  | nil => simp
  | cons command rest ih =>
      have step : name ∈ (Command.addNew found command).map (·.fullName) ↔
          name ∈ found.map (·.fullName) ∨ name = command.fullName := by
        rw [Command.addNew]
        split
        · rename_i known
          obtain ⟨other, member, same⟩ := List.any_eq_true.mp known
          rw [iff_self_or]
          rintro rfl
          exact List.mem_map.mpr ⟨other, member, by simpa using same⟩
        · simp
      rw [List.foldl_cons, ih, step, List.map_cons, List.mem_cons, or_assoc]

theorem fold_add_new_known (added found : List Command)
    (known : ∀ command ∈ added, command.fullName ∈ found.map (·.fullName)) :
    added.foldl Command.addNew found = found := by
  induction added with
  | nil => rfl
  | cons command rest ih =>
      obtain ⟨other, member, same⟩ := List.mem_map.mp (known command List.mem_cons_self)
      have present : found.any (·.fullName == command.fullName) = true :=
        List.any_eq_true.mpr ⟨other, member, by simpa using same⟩
      rw [List.foldl_cons, Command.addNew, if_pos present]
      exact ih fun later inside => known later (List.mem_cons_of_mem command inside)

namespace Forest

/-! ### Taking in one part after the other -/

section

variable {above : String} {front back : List Command} {first second third : Forest}

theorem takes_at_append (name : String) (early : TakesAt front first second name)
    (late : TakesAt back second third name) : TakesAt (front ++ back) first third name := by
  refine ⟨?_, ?_⟩
  · rw [late.1, early.1, List.filter_append, List.foldl_append]
  · rw [late.2, early.2, erase_dups_append_left, List.filterMap_append, List.append_assoc]

theorem takes_append (early : Takes above front first second) (late : Takes above back second third) :
    Takes above (front ++ back) first third where
  orderly := late.orderly
  grown := extends_trans early.grown late.grown
  names := by
    intro name
    rw [late.names, early.names, or_assoc, ← and_or_left]
    simp only [List.mem_append, or_and_right, exists_or]
  inside := fun name within => takes_at_append name (early.inside name within) (late.inside name within)
  outside := fun name apart => same_at_trans (early.outside name apart) (late.outside name apart)

-- Commands that were taken in at a name are known there.
theorem takes_at_again (name : String) (early : TakesAt front first second name)
    (late : TakesAt front second third name) : SameAt second third name := by
  refine ⟨?_, ?_⟩
  · rw [late.1]
    apply fold_add_new_known
    intro command member
    rw [early.1, names_of_fold_add_new]
    exact .inr (List.mem_map_of_mem member)
  · rw [late.2, early.2, erase_dups_append_left]
    exact erase_dups_known _ _ fun child member => List.mem_append_right _ member

end

section

variable {above : String} {commands : List Command} {before : Forest}

-- What a forest becomes is fixed up to the numbers of the new nodes.
theorem same_tree_of_takes {left right : Forest} (orderly : before.Orderly) (leftTakes : Takes above commands before left)
    (rightTakes : Takes above commands before right) :
    ∃ number, Renumbers number left right ∧ ∀ node < before.size, number node = node := by
  have commandsAt (name : String) : left.commandsAt name = right.commandsAt name := by
    by_cases within : Name.Within name above
    · rw [(leftTakes.inside name within).1, (rightTakes.inside name within).1]
    · rw [(leftTakes.outside name within).1, (rightTakes.outside name within).1]
  have childNamesAt (name : String) : left.childNamesAt name = right.childNamesAt name := by
    by_cases within : Name.Within name above
    · rw [(leftTakes.inside name within).2, (rightTakes.inside name within).2]
    · rw [(leftTakes.outside name within).2, (rightTakes.outside name within).2]
  have roots : left.roots.map left.fullName = right.roots.map right.fullName := by
    rw [leftTakes.grown.roots, rightTakes.grown.roots]
    apply List.map_congr_left
    intro node member
    have bound := orderly.rootsInside node member
    rw [leftTakes.grown.names node bound, rightTakes.grown.names node bound]
  obtain ⟨number, renumbers⟩ := same_tree_of_tables leftTakes.orderly rightTakes.orderly
    (fun name => (leftTakes.names name).trans (rightTakes.names name).symm) commandsAt childNamesAt roots
  refine ⟨number, renumbers, fun node bound => ?_⟩
  have old := Nat.lt_of_lt_of_le bound leftTakes.grown.size
  apply right.full_name_injective rightTakes.orderly.distinct _ node (renumbers.inside node old)
    (Nat.lt_of_lt_of_le bound rightTakes.grown.size)
  have moved : right.fullName (number node) = left.fullName node := by
    rw [fullName, renumbers.slots node old, left.slot_of_fields node old]
    rfl
  rw [moved, leftTakes.grown.names node bound, rightTakes.grown.names node bound]

theorem eq_of_same {after : Forest} (orderly : before.Orderly) (afterOrderly : after.Orderly)
    (grown : Extends before after) (size : after.size = before.size) (same : ∀ name, SameAt before after name) : after = before := by
  have slots : after.slots = before.slots := by
    apply List.ext_getElem?
    intro node
    by_cases bound : node < before.size
    · have inside : node < after.size := size ▸ bound
      have commands : after.commands node = before.commands node := by
        rw [← after.commands_at_node afterOrderly.distinct node inside, grown.names node bound,
          (same _).1, before.commands_at_node orderly.distinct node bound]
      have children : after.children node = before.children node := by
        apply nodes_of_names afterOrderly _ _ (afterOrderly.childrenInside node)
          fun child member => size ▸ orderly.childrenInside node child member
        rw [← after.child_names_at_node afterOrderly.distinct node inside, grown.names node bound, (same _).2,
          before.child_names_at_node orderly.distinct node bound]
        exact (List.map_congr_left fun child member =>
          grown.names child (orderly.childrenInside node child member)).symm
      have slot := after.slot_of_fields node inside
      rw [grown.names node bound, grown.parents node bound, children, commands, ← before.slot_of_fields node bound] at slot
      exact slot
    · have outside : after.size ≤ node := size ▸ Nat.le_of_not_lt bound
      rw [List.getElem?_eq_none outside, List.getElem?_eq_none (Nat.le_of_not_lt bound)]
  cases after
  cases before
  obtain rfl := slots
  obtain rfl := grown.roots
  rfl

end

/-! ### Nodes that can be built below -/

structure Fillable (forest : Forest) (node : Nat) : Prop where
  orderly : forest.Orderly
  bound : node < forest.size
  ready : Ready (forest.fullName node) forest

theorem fillable_of_built {commands : List Command} {forest : Forest} (built : ofCommands commands = .ok forest)
    (node : Nat) (bound : node < forest.size) : Fillable forest node := by
  refine ⟨orderly_of_represents (represents_of_commands commands forest built), bound, ?_⟩
  intro name member upper child within under inner
  obtain ⟨command, given, lower⟩ := (mem_names_of_built built name).mp member
  have lowerChild := Name.below_within command.fullName name child lower inner
  have lowerUpper := Name.below_within command.fullName child upper lowerChild (Name.within_of_under child upper under)
  obtain ⟨number, inside, rfl⟩ := (forest.mem_names_iff upper).mp
    ((mem_names_of_built built upper).mpr ⟨command, given, lowerUpper⟩)
  obtain ⟨first, filled, segments⟩ := under
  rw [forest.child_names_at_node (represents_of_commands commands forest built).distinct number inside,
    child_names_of_commands built number inside, List.mem_eraseDups, List.mem_filterMap]
  exact ⟨command, given, (target_iff_below (some _) child first filled segments command).mpr lowerChild⟩

section

variable {forest : Forest} {node : Nat} {commands : List Command} (fillable : Fillable forest node)
include fillable

theorem fillable_of_takes (after : Forest) (takes : Takes (forest.fullName node) commands forest after) :
    Fillable after node := by
  have named := takes.grown.names node fillable.bound
  refine ⟨takes.orderly, Nat.lt_of_lt_of_le fillable.bound takes.grown.size, ?_⟩
  rw [named]
  intro name member upper child within under inner
  rw [(takes.inside upper within).2, List.mem_eraseDups, List.mem_append]
  rcases (takes.names name).mp member with old | ⟨-, command, given, lower⟩
  · exact .inl (fillable.ready name old upper child within under inner)
  · obtain ⟨first, filled, segments⟩ := under
    have lowerChild := Name.below_within command.fullName name child lower inner
    exact .inr (List.mem_filterMap.mpr
      ⟨command, given, (target_iff_below (some upper) child first filled segments command).mpr lowerChild⟩)

theorem extend_outcome (commands : List Command) :
    (∀ after, forest.extend (some node) commands = .ok after → Takes (forest.fullName node) commands forest after) ∧
      ((∃ after, forest.extend (some node) commands = .ok after) ↔
        ∀ command ∈ commands, ¬Misplaced (some (forest.fullName node)) command.fullName) := by
  have outcome := build_outcome forest node commands fillable.orderly fillable.bound fillable.ready
  rw [extend]
  revert outcome
  generalize forest.build (some node) commands = built
  intro outcome
  obtain ⟨result, last⟩ := built
  cases result with
  | error fault =>
      obtain ⟨command, member, misplaced⟩ := outcome
      refine ⟨?_, ?_, ?_⟩
      · intro after extended
        cases extended
      · rintro ⟨after, extended⟩
        cases extended
      · intro placed
        exact absurd misplaced (placed command member)
  | ok nodes =>
      obtain ⟨takes, -, placed⟩ := outcome
      refine ⟨?_, fun _ => placed, fun _ => ⟨_, rfl⟩⟩
      intro after extended
      cases extended
      exact takes

-- Commands that were taken in before are found, and nothing is new.
theorem build_again (once : Forest) (extended : forest.extend (some node) commands = .ok once) :
    once.build (some node) commands = (.ok [], once) := by
  obtain ⟨takesOf, accepted⟩ := extend_outcome fillable commands
  have early := takesOf once extended
  have placed := accepted.mp ⟨once, extended⟩
  have refilled := fillable_of_takes fillable once early
  have outcome := build_outcome once node commands refilled.orderly refilled.bound refilled.ready
  rw [early.grown.names node fillable.bound] at outcome
  revert outcome
  generalize once.build (some node) commands = built
  intro outcome
  obtain ⟨result, last⟩ := built
  cases result with
  | error fault =>
      obtain ⟨command, member, misplaced⟩ := outcome
      exact absurd misplaced (placed command member)
  | ok kids =>
      obtain ⟨late, inside, -⟩ := outcome
      have same : (last.attachAll (some node) kids).size = once.size := by
        refine size_of_names late.orderly early.orderly fun name => ?_
        rw [late.names, or_iff_left_iff_imp]
        exact fun further => (early.names name).mpr (.inr further)
      have none : kids = [] := by
        rw [List.eq_nil_iff_forall_not_mem]
        intro kid member
        have bounds := inside kid member
        rw [size_attach_all] at same
        omega
      subst none
      have equal : last = once := by
        refine eq_of_same early.orderly late.orderly late.grown same fun name => ?_
        by_cases within : Name.Within name (forest.fullName node)
        · exact takes_at_again name (early.inside name within) (late.inside name within)
        · exact late.outside name within
      rw [equal]

end

section

variable {forest : Forest} {node : Nat} {first second : List Command} (fillable : Fillable forest node)
include fillable

theorem takes_of_steps (last : Forest)
    (extended : (forest.extend (some node) first).bind (·.extend (some node) second) = .ok last) :
    Takes (forest.fullName node) (first ++ second) forest last := by
  cases start : forest.extend (some node) first with
  | error fault =>
      rw [start] at extended
      cases extended
  | ok once =>
      rw [start] at extended
      have early := (extend_outcome fillable first).1 once start
      have late := (extend_outcome (fillable_of_takes fillable once early) second).1 last extended
      rw [early.grown.names node fillable.bound] at late
      exact takes_append early late

theorem steps_ok_iff : (∃ last, (forest.extend (some node) first).bind (·.extend (some node) second) = .ok last) ↔
    ∃ whole, forest.extend (some node) (first ++ second) = .ok whole := by
  rw [(extend_outcome fillable (first ++ second)).2, List.forall_mem_append]
  cases start : forest.extend (some node) first with
  | error fault =>
      refine ⟨nofun, fun ⟨placed, _⟩ => ?_⟩
      obtain ⟨once, extended⟩ := (extend_outcome fillable first).2.mpr placed
      rw [start] at extended
      cases extended
  | ok once =>
      have early := (extend_outcome fillable first).1 once start
      have late := (extend_outcome (fillable_of_takes fillable once early) second).2
      rw [early.grown.names node fillable.bound] at late
      exact late.trans (iff_and_self.mpr fun _ => (extend_outcome fillable first).2.mp ⟨once, start⟩)

end

-- Building in two steps succeeds exactly if building at once does, and gives the same forest; what was built once is not
-- built again.
theorem built_in_steps (commands : List Command) (forest : Forest) (built : ofCommands commands = .ok forest) (node : Nat)
    (bound : node < forest.size) (first second : List Command) :
    ((∃ last, (forest.extend (some node) first).bind (·.extend (some node) second) = .ok last) ↔
        ∃ whole, forest.extend (some node) (first ++ second) = .ok whole) ∧
      (∀ last whole, (forest.extend (some node) first).bind (·.extend (some node) second) = .ok last →
        forest.extend (some node) (first ++ second) = .ok whole →
        ∃ number, Renumbers number last whole ∧ ∀ old < forest.size, number old = old) ∧
      ∀ once, forest.extend (some node) first = .ok once → once.build (some node) first = (.ok [], once) := by
  have fillable := fillable_of_built built node bound
  refine ⟨steps_ok_iff fillable, fun last whole stepped together => ?_, build_again fillable⟩
  exact same_tree_of_takes fillable.orderly (takes_of_steps fillable last stepped)
    ((extend_outcome fillable (first ++ second)).1 whole together)

def stand : List Command := [{ fullName := "shop.Open" }, { fullName := "zoo.Feed" }]

def standForest : Forest :=
  { slots := [⟨"shop", none, [], [{ fullName := "shop.Open" }]⟩, ⟨"zoo", none, [], [{ fullName := "zoo.Feed" }]⟩]
    roots := [0, 1] }

def wares : List Command := [{ fullName := "shop.cart.Add" }]

def moreWares : List Command :=
  [{ fullName := "shop.till.Pay" }, { fullName := "shop.cart.old.Drop" }, { fullName := "zoo.Out" }]

-- The numbers of the new nodes depend on the steps.
theorem stand_in_steps : ofCommands stand = .ok standForest ∧ ∃ last whole,
    (standForest.extend (some 0) wares).bind (·.extend (some 0) moreWares) = .ok last ∧
    last.names = ["shop", "zoo", "shop.cart", "shop.till", "shop.cart.old"] ∧
    standForest.extend (some 0) (wares ++ moreWares) = .ok whole ∧
    whole.names = ["shop", "zoo", "shop.cart", "shop.cart.old", "shop.till"] ∧
    ∃ number, Renumbers number last whole ∧ ∀ old < standForest.size, number old = old := by
  have built : ofCommands stand = .ok standForest := by rfl
  obtain ⟨last, stepped, steppedNames⟩ : ∃ last,
      (standForest.extend (some 0) wares).bind (·.extend (some 0) moreWares) = .ok last ∧
        last.names = ["shop", "zoo", "shop.cart", "shop.till", "shop.cart.old"] := ⟨_, rfl, rfl⟩
  obtain ⟨whole, together, names⟩ : ∃ whole, standForest.extend (some 0) (wares ++ moreWares) = .ok whole ∧
      whole.names = ["shop", "zoo", "shop.cart", "shop.cart.old", "shop.till"] := ⟨_, rfl, rfl⟩
  exact ⟨built, last, whole, stepped, steppedNames, together, names,
    (built_in_steps stand standForest built 0 (by decide) wares moreWares).2.1 last whole stepped together⟩

end Forest

end StubForge
