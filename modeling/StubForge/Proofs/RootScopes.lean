import StubForge.Proofs.FirstSeen
import StubForge.Proofs.Restriction

set_option autoImplicit false

/-!
Building at the top of a forest again and again. Nothing is known at the top, so that every call builds its own trees
beside those that are there; names are unique exactly if the calls have no outermost namespace in common, and then the
forest is that of all commands together.
-/

namespace StubForge

-- The outermost namespace of a name.
def Name.root? (name : String) : Option String := (Name.segments name).head?

-- Lists of commands that have no outermost namespace in common.
def Command.Apart (front back : List Command) : Prop :=
  ∀ first ∈ front, ∀ second ∈ back, Name.root? first.fullName ≠ Name.root? second.fullName

theorem root_of_target (command : Command) (target : String) (passed : targetOf none command = some target) :
    Name.root? command.fullName = some target := by
  obtain ⟨first, next, more, longer, -, segments⟩ := (target_eq_some_iff none command target).mp passed
  rw [Name.root?, longer, ← Name.of_segments_segments target, segments]
  rfl

theorem root_of_below (name above : String) (below : Name.isBelow name above = true) :
    Name.root? name = Name.root? above := by
  obtain ⟨first, more, longer⟩ := (Name.is_below_iff name above).mp below
  rw [Name.root?, Name.root?, longer, List.head?_append_of_ne_nil _ (Name.segments_ne_nil above)]

theorem below_root (name top : String) (fitting : ¬Name.Misfit name) (root : Name.root? name = some top) :
    Name.isBelow name top = true := by
  obtain ⟨more, split⟩ := List.head?_eq_some_iff.mp root
  have plain : '.' ∉ top.toList := Name.plain_of_mem_segments name top (by simp [split])
  rw [Name.is_below_iff, split, Name.segments_of_plain top plain]
  cases more with
  | nil =>
      rw [← Name.of_segments_segments name, split] at fitting
      exact absurd (.inl plain) fitting
  | cons next others => exact ⟨next, others, rfl⟩

-- Lists with no outermost namespace in common have no namespace in common at all.
theorem apart_iff (front back : List Command) (fitting : ∀ command ∈ front, ¬Name.Misfit command.fullName)
    (fittingToo : ∀ command ∈ back, ¬Name.Misfit command.fullName) :
    Command.Apart front back ↔ ∀ name, ¬((front.any fun command => Name.isBelow command.fullName name) = true ∧
      (back.any fun command => Name.isBelow command.fullName name) = true) := by
  simp only [List.any_eq_true]
  constructor
  · rintro apart name ⟨⟨first, member, lower⟩, second, among, lowerToo⟩
    apply apart first member second among
    rw [root_of_below first.fullName name lower, root_of_below second.fullName name lowerToo]
  · intro apart first member second among same
    obtain ⟨top, more, split⟩ := List.exists_cons_of_ne_nil (Name.segments_ne_nil first.fullName)
    have root : Name.root? first.fullName = some top := by rw [Name.root?, split, List.head?_cons]
    exact apart top ⟨⟨first, member, below_root first.fullName top (fitting first member) root⟩,
      second, among, below_root second.fullName top (fittingToo second among) (same ▸ root)⟩

theorem count_le_one_iff {α : Type} (items : List α) (test : α → Bool) :
    items.countP test ≤ 1 ↔ items.Pairwise fun a b => ¬(test a = true ∧ test b = true) := by
  induction items with
  | nil => simp
  | cons item rest ih =>
      rw [List.countP_cons, List.pairwise_cons, ← ih]
      by_cases held : test item = true
      · have none : rest.countP test = 0 ↔ ∀ other ∈ rest, ¬(test item = true ∧ test other = true) := by
          simp [List.countP_eq_zero, held]
        rw [if_pos held, ← none]
        omega
      · simp [held]

theorem pairwise_forall {α β : Type} (items : List α) (relation : β → α → α → Prop) :
    (∀ view, items.Pairwise (relation view)) ↔ items.Pairwise fun a b => ∀ view, relation view a b := by
  simp only [List.pairwise_iff_getElem]
  exact ⟨fun held i j left right before view => held view i j left right before,
    fun held view i j left right before => held i j left right before view⟩

/-! ### Groups of commands that come later -/

theorem Groups.add_behind (front back : Groups) (target : String) (command : Command)
    (fresh : target ∉ front.map (·.1)) : (front ++ back).add target command = front ++ back.add target command := by
  induction front with
  | nil => rfl
  | cons group rest ih =>
      obtain ⟨key, members⟩ := group
      obtain ⟨different, later⟩ : target ≠ key ∧ target ∉ rest.map (·.1) := by simpa using fresh
      rw [List.cons_append, Groups.add, if_neg different.symm, ih later, List.cons_append]

theorem fold_add_target_behind (parent : Option String) (commands : List Command) (front back : Groups)
    (fresh : ∀ command ∈ commands, ∀ target, targetOf parent command = some target → target ∉ front.map (·.1)) :
    commands.foldl (addTarget parent) (front ++ back) = front ++ commands.foldl (addTarget parent) back := by
  induction commands generalizing back with
  | nil => rfl
  | cons command rest ih =>
      have step : addTarget parent (front ++ back) command = front ++ addTarget parent back command := by
        rw [addTarget, addTarget]
        cases found : targetOf parent command with
        | none => rfl
        | some target => exact Groups.add_behind front back target command (fresh command List.mem_cons_self target found)
      rw [List.foldl_cons, List.foldl_cons, step]
      exact ih _ fun other member => fresh other (List.mem_cons_of_mem command member)

/-! ### Outlines side by side -/

namespace Outline

def append : Outline → Outline → Outline
  | empty, other => other
  | node fullName own below beside, other => node fullName own below (beside.append other)

theorem tops_append (front back : Outline) (first : Nat) :
    (front.append back).tops first = front.tops first ++ back.tops (first + front.size) := by
  induction front generalizing first with
  | empty => rfl
  | node fullName own below beside _ ih =>
      have place : first + 1 + below.size + beside.size = first + (below.size + beside.size + 1) := by omega
      rw [append, tops, ih, tops, size, place, List.cons_append]

theorem slots_append (front back : Outline) (parent : Option Nat) (first : Nat) :
    (front.append back).slots parent first = front.slots parent first ++ back.slots parent (first + front.size) := by
  induction front generalizing first with
  | empty => rfl
  | node fullName own below beside _ ih =>
      have place : first + 1 + below.size + beside.size = first + (below.size + beside.size + 1) := by omega
      rw [append, slots, ih, slots, size, place, List.cons_append, List.append_assoc]

theorem names_append (front back : Outline) : (front.append back).names = front.names ++ back.names := by
  induction front with
  | empty => rfl
  | node fullName own below beside _ ih => simp [append, names, ih]

theorem follows_append (front back : Outline) (groups more : Groups) (follows : front.Follows groups)
    (followsMore : back.Follows more) : (front.append back).Follows (groups ++ more) := by
  induction front generalizing groups with
  | empty =>
      obtain rfl : groups = [] := follows
      exact followsMore
  | node fullName own below beside _ ih =>
      obtain ⟨members, rest, rfl, clean, ownEq, followsBelow, followsBeside⟩ := follows
      exact ⟨members, rest ++ more, rfl, clean, ownEq, followsBelow, ih rest followsBeside⟩

-- Groups come to one outline only.
theorem follows_unique (left right : Outline) (groups : Groups) (follows : left.Follows groups)
    (followsToo : right.Follows groups) : left = right := by
  induction left generalizing right groups with
  | empty =>
      obtain rfl : groups = [] := follows
      cases right with
      | empty => rfl
      | node => obtain ⟨members, rest, impossible, -⟩ := followsToo; cases impossible
  | node fullName own below beside ihBelow ihBeside =>
      obtain ⟨members, rest, rfl, -, rfl, followsBelow, followsBeside⟩ := follows
      cases right with
      | empty => cases followsToo
      | node otherName otherOwn otherBelow otherBeside =>
          obtain ⟨others, more, split, -, rfl, otherFollowsBelow, otherFollowsBeside⟩ := followsToo
          cases split
          rw [ihBelow otherBelow _ followsBelow otherFollowsBelow,
            ihBeside otherBeside _ followsBeside otherFollowsBeside]

end Outline

namespace Forest

/-! ### One call after the other -/

theorem extend_beside (start : Outline) (commands : List Command) (after : Forest)
    (extended : start.toForest.extend none commands = .ok after) :
    ∃ own : Outline, ofCommands commands = .ok own.toForest ∧ own.Follows (commands.foldl (addTarget none) []) ∧
      after = (start.append own).toForest := by
  have size : start.toForest.size = start.size := by simp [Forest.size, Outline.toForest]
  have inside (root : Nat) (member : root ∈ start.toForest.roots) : root < start.toForest.size := by
    have bounds := start.tops_bounds 0 root member
    omega
  obtain ⟨clean, own, follows, layout⟩ := extend_layout start.toForest after inside (start.tops_nodup 0) commands extended
  obtain ⟨tree, built⟩ := (of_commands_ok_iff commands).mpr (fitting_of_extended start.toForest after commands extended)
  obtain ⟨-, other, otherFollows, rfl⟩ := of_commands_layout commands tree built
  obtain rfl := Outline.follows_unique own other _ follows otherFollows
  rw [(sort_below_without_fault none {} commands clean).2] at follows
  refine ⟨own, built, follows, ?_⟩
  rw [layout, size]
  simp only [Outline.toForest, Outline.slots_append, Outline.tops_append, Nat.zero_add]

-- Builds list after list at the top of a forest that is empty at first.
def grow (lists : List (List Command)) : Except NamespaceFault Forest :=
  lists.foldlM (fun forest commands => forest.extend none commands) {}

theorem grow_concat (lists : List (List Command)) (commands : List Command) (last : Forest)
    (grown : grow (lists ++ [commands]) = .ok last) :
    ∃ forest, grow lists = .ok forest ∧ forest.extend none commands = .ok last := by
  rw [grow, List.foldlM_append] at grown
  change (grow lists).bind _ = _ at grown
  cases front : grow lists with
  | error fault =>
      rw [front] at grown
      cases grown
  | ok forest =>
      rw [front] at grown
      change (forest.extend none commands >>= fun last => pure last) = _ at grown
      exact ⟨forest, rfl, by rwa [bind_pure] at grown⟩

-- The outline of a forest that was grown list by list.
structure GrownBy (lists : List (List Command)) (outline : Outline) : Prop where
  counts : ∀ name, outline.names.count name =
    lists.countP fun commands => commands.any fun command => Name.isBelow command.fullName name
  follows : lists.Pairwise Command.Apart → outline.Follows (lists.flatten.foldl (addTarget none) [])
  fitting : ∀ commands ∈ lists, ∀ command ∈ commands, ¬Name.Misfit command.fullName

theorem grown_concat (lists : List (List Command)) (commands : List Command) (start own : Outline)
    (grown : GrownBy lists start) (built : ofCommands commands = .ok own.toForest)
    (follows : own.Follows (commands.foldl (addTarget none) [])) : GrownBy (lists ++ [commands]) (start.append own) := by
  refine ⟨fun name => ?_, fun apart => ?_, ?_⟩
  · have names : own.toForest.names = own.names := own.names_of_slots none 0
    have distinct : own.names.Nodup := names ▸ (represents_of_commands commands _ built).distinct
    have member : name ∈ own.names ↔ (commands.any fun command => Name.isBelow command.fullName name) = true := by
      rw [← names, mem_names_of_built built, List.any_eq_true]
    rw [Outline.names_append, List.count_append, grown.counts, List.countP_append, List.countP_singleton, distinct.count]
    simp only [member]
  · obtain ⟨before, -, beside⟩ := List.pairwise_append.mp apart
    rw [List.flatten_append, List.flatten_singleton, List.foldl_append]
    have behind := fold_add_target_behind none commands (lists.flatten.foldl (addTarget none) []) [] ?_
    · rw [List.append_nil] at behind
      rw [behind]
      exact Outline.follows_append start own _ _ (grown.follows before) follows
    · intro command given target passed known
      rw [keys_of_commands, List.mem_eraseDups, List.mem_filterMap] at known
      obtain ⟨other, earlier, reached⟩ := known
      obtain ⟨list, listed, inside⟩ := List.mem_flatten.mp earlier
      refine beside list listed commands (List.mem_singleton_self commands) other inside command given ?_
      rw [root_of_target other target reached, root_of_target command target passed]
  · intro list listed
    rcases List.mem_append.mp listed with earlier | last
    · exact grown.fitting list earlier
    · obtain rfl := List.mem_singleton.mp last
      exact fun command member => fitting_of_built built command member

-- By induction on the lists from the last one on.
theorem outline_of_grow (lists : List (List Command)) (forest : Forest) (grown : grow lists = .ok forest) :
    ∃ outline : Outline, forest = outline.toForest ∧ GrownBy lists outline := by
  induction lists using List.reverseRecOn generalizing forest with
  | nil =>
      cases grown
      exact ⟨.empty, rfl, fun name => rfl, fun _ => rfl, nofun⟩
  | append_singleton lists commands ih =>
      obtain ⟨front, before, extended⟩ := grow_concat lists commands forest grown
      obtain ⟨start, rfl, grownStart⟩ := ih front before
      obtain ⟨own, built, follows, rfl⟩ := extend_beside start commands forest extended
      exact ⟨start.append own, rfl, grown_concat lists commands start own grownStart built follows⟩

-- A namespace is there once for each list that has commands below it. No two namespaces have the same name if and only if
-- the lists have no outermost namespace in common, and then the forest is that of all commands.
theorem roots_apart_iff (lists : List (List Command)) (forest : Forest) (grown : grow lists = .ok forest) :
    (∀ name, forest.names.count name =
      lists.countP fun commands => commands.any fun command => Name.isBelow command.fullName name) ∧
    (forest.names.Nodup ↔ lists.Pairwise Command.Apart) ∧
    (lists.Pairwise Command.Apart → ofCommands lists.flatten = .ok forest) := by
  obtain ⟨outline, rfl, grownBy⟩ := outline_of_grow lists forest grown
  have names : outline.toForest.names = outline.names := outline.names_of_slots none 0
  rw [names]
  refine ⟨grownBy.counts, ?_, fun apart => ?_⟩
  · calc outline.names.Nodup
      _ ↔ ∀ name, outline.names.count name ≤ 1 := List.nodup_iff_count_le_one
      _ ↔ ∀ name, lists.Pairwise fun front back =>
          ¬((front.any fun command => Name.isBelow command.fullName name) = true ∧
            (back.any fun command => Name.isBelow command.fullName name) = true) := by
        simp only [grownBy.counts, count_le_one_iff]
      _ ↔ lists.Pairwise fun front back => ∀ name,
          ¬((front.any fun command => Name.isBelow command.fullName name) = true ∧
            (back.any fun command => Name.isBelow command.fullName name) = true) := pairwise_forall lists _
      _ ↔ lists.Pairwise Command.Apart := List.Pairwise.iff_of_mem fun front back =>
        (apart_iff _ _ (grownBy.fitting _ front) (grownBy.fitting _ back)).symm
  · have fitting : ∀ command ∈ lists.flatten, ¬Name.Misfit command.fullName := by
      intro command member
      obtain ⟨commands, listed, inside⟩ := List.mem_flatten.mp member
      exact grownBy.fitting commands listed command inside
    obtain ⟨whole, built⟩ := (of_commands_ok_iff lists.flatten).mpr fitting
    obtain ⟨clean, other, follows, rfl⟩ := of_commands_layout lists.flatten whole built
    rw [(sort_below_without_fault none {} lists.flatten clean).2] at follows
    rw [built, Outline.follows_unique outline other _ (grownBy.follows apart) follows]

def halls : List (List Command) :=
  [[{ fullName := "shop.Find" }, { fullName := "shop.cart.Add" }], [], [{ fullName := "zoo.Feed" }]]

theorem halls_grown : ∃ forest, grow halls = .ok forest ∧ forest.names = ["shop", "shop.cart", "zoo"] ∧
    ofCommands halls.flatten = .ok forest := by
  obtain ⟨forest, grown, names⟩ : ∃ forest, grow halls = .ok forest ∧ forest.names = ["shop", "shop.cart", "zoo"] :=
    ⟨_, rfl, rfl⟩
  obtain ⟨-, unique, together⟩ := roots_apart_iff halls forest grown
  exact ⟨forest, grown, names, together (unique.mp (by rw [names]; decide))⟩

-- A second list below the same outermost namespace makes it anew, beside the first one.
theorem shared_root_split : ∃ forest whole,
    grow [[{ fullName := "a.X" }], [{ fullName := "a.Y" }]] = .ok forest ∧
    ofCommands ([[{ fullName := "a.X" }], [{ fullName := "a.Y" }]] : List (List Command)).flatten = .ok whole ∧
    forest.names = ["a", "a"] ∧ ¬forest.names.Nodup ∧ whole.names = ["a"] ∧
    forest.commandsAt "a" = [{ fullName := "a.X" }] ∧
    whole.commandsAt "a" = [{ fullName := "a.X" }, { fullName := "a.Y" }] := by
  let forest : Forest :=
    { slots := [⟨"a", none, [], [{ fullName := "a.X" }]⟩, ⟨"a", none, [], [{ fullName := "a.Y" }]⟩]
      roots := [0, 1] }
  let whole : Forest :=
    { slots := [⟨"a", none, [], [{ fullName := "a.X" }, { fullName := "a.Y" }]⟩]
      roots := [0] }
  have twice : ¬forest.names.Nodup := by decide
  exact ⟨forest, whole, rfl, rfl, rfl, twice, rfl, rfl, rfl⟩

end Forest

end StubForge
