import Mathlib.Logic.Relation
import StubForge.Proofs.Partition

set_option autoImplicit false

/-!
Which names a forest takes in. Building is followed call by call: no command is ever passed to a namespace that it does
not lie below, so a name without a place is noticed, at the segment that is missing.
-/

namespace StubForge

namespace Name

-- A name without a namespace, or with nothing before, between or after its dots.
def Misfit (name : String) : Prop := '.' ∉ name.toList ∨ "" ∈ segments name

-- What a name without a place is reported as.
def fault (name : String) : NamespaceFault :=
  if name ≠ "" ∧ '.' ∉ name.toList then .withoutPackage name else .malformed name

end Name

/-! ### Sorting -/

-- A name has no place below a namespace that it lies in: a further segment is empty, or it has only one at the top.
def Misplaced (parent : Option String) (name : String) : Prop :=
  ∃ first more, Name.segments name = pathOf parent ++ first :: more ∧ ("" ∈ first :: more ∨ parent = none ∧ more = [])

theorem misplaced_of_malformed (parent : Option String) (name : String) (placed : placement parent name = .malformed) :
    Misplaced parent name ∧ Name.fault name = .malformed name := by
  by_cases inside : ∃ first more, Name.segments name = pathOf parent ++ first :: more
  · obtain ⟨first, more, longer⟩ := inside
    rw [placement_of_segments parent name first more longer] at placed
    have empty : first = "" := by
      by_contra filled
      rw [if_neg filled] at placed
      split at placed <;> cases placed
    subst empty
    refine ⟨⟨"", more, longer, .inl List.mem_cons_self⟩, ?_⟩
    rw [Name.fault, if_neg]
    rintro ⟨filled, plain⟩
    rw [Name.segments_of_plain name plain] at longer
    cases parent with
    | none => exact filled (List.cons.inj longer).1
    | some above =>
        obtain ⟨piece, pieces, split⟩ := List.exists_cons_of_ne_nil (Name.segments_ne_nil above)
        simp [pathOf, split] at longer
  · rw [placement_outside parent name fun first more longer => inside ⟨first, more, longer⟩] at placed
    cases placed

theorem misplaced_of_here (name : String) (placed : placement none name = .here) :
    Misplaced none name ∧ Name.fault name = .withoutPackage name := by
  obtain ⟨last, single, filled⟩ := (here_iff none name).mp placed
  obtain rfl : name = last := by
    rw [← Name.of_segments_segments name, single]
    rfl
  have plain : '.' ∉ name.toList := by
    apply Name.plain_of_mem_segments name
    rw [single]
    exact List.mem_cons_self
  exact ⟨⟨name, [], single, .inr ⟨rfl, rfl⟩⟩, if_pos ⟨filled, plain⟩⟩

-- What is passed on to the next namespace is misplaced there if it was misplaced before.
theorem misplaced_iff_of_target (parent : Option String) (command : Command) (target : String)
    (passed : targetOf parent command = some target) :
    Misplaced (some target) command.fullName ↔ Misplaced parent command.fullName := by
  obtain ⟨first, next, more, longer, filled, segments⟩ := (target_eq_some_iff parent command target).mp passed
  have deeper : Name.segments command.fullName = pathOf (some target) ++ next :: more := by
    rw [longer, pathOf, segments, List.append_assoc]
    rfl
  constructor
  · rintro ⟨own, others, whole, gap | ⟨outermost, -⟩⟩
    · rw [deeper] at whole
      rw [← List.append_cancel_left whole] at gap
      exact ⟨first, next :: more, longer, .inl (List.mem_cons_of_mem first gap)⟩
    · cases outermost
  · rintro ⟨own, others, whole, reason⟩
    rw [longer] at whole
    obtain ⟨rfl, rfl⟩ := List.cons.inj (List.append_cancel_left whole)
    rcases reason with gap | ⟨-, single⟩
    · exact ⟨next, more, deeper, .inl ((List.mem_cons.mp gap).resolve_left (Ne.symm filled))⟩
    · cases single

theorem target_of_misplaced (parent : Option String) (command : Command) (accepted : Accepted parent command)
    (misplaced : Misplaced parent command.fullName) : ∃ target, targetOf parent command = some target := by
  obtain ⟨first, more, longer, reason⟩ := misplaced
  have filled := segment_of_accepted parent command accepted first more longer
  cases more with
  | nil =>
      rcases reason with gap | ⟨outermost, -⟩
      · exact absurd (List.mem_singleton.mp gap).symm filled
      · have placed := placement_of_segments parent command.fullName first [] longer
        rw [if_neg filled, if_pos rfl] at placed
        exact absurd placed (accepted.2 outermost)
  | cons next others =>
      have plain : '.' ∉ first.toList := Name.plain_of_mem_segments command.fullName first (by simp [longer])
      exact ⟨_, (target_eq_some_iff parent command _).mpr
        ⟨first, next, others, longer, filled, segments_child_name parent first plain⟩⟩

theorem sort_below_fault (parent : Option String) (sorted : Sorted) (commands : List Command) (fault : NamespaceFault)
    (clean : sorted.fault = none) (failed : (sortBelow parent sorted commands).fault = some fault) :
    ∃ command ∈ commands, Misplaced parent command.fullName ∧ fault = Name.fault command.fullName := by
  induction commands generalizing sorted with
  | nil =>
      rw [sortBelow, clean] at failed
      cases failed
  | cons command rest ih =>
      have later (sorted : Sorted) (clean : sorted.fault = none)
          (failed : (sortBelow parent sorted rest).fault = some fault) :
          ∃ other ∈ command :: rest, Misplaced parent other.fullName ∧ fault = Name.fault other.fullName := by
        obtain ⟨other, member, found⟩ := ih sorted clean failed
        exact ⟨other, List.mem_cons_of_mem command member, found⟩
      simp only [sortBelow] at failed
      cases placed : placement parent command.fullName with
      | outside =>
          rw [placed] at failed
          exact later sorted clean failed
      | malformed =>
          rw [placed] at failed
          cases failed
          obtain ⟨misplaced, told⟩ := misplaced_of_malformed parent command.fullName placed
          exact ⟨command, List.mem_cons_self, misplaced, told.symm⟩
      | here =>
          rw [placed] at failed
          cases parent with
          | none =>
              cases failed
              obtain ⟨misplaced, told⟩ := misplaced_of_here command.fullName placed
              exact ⟨command, List.mem_cons_self, misplaced, told.symm⟩
          | some above => exact later { sorted with here := sorted.here ++ [command] } clean failed
      | below segment =>
          rw [placed] at failed
          exact later { sorted with groups := sorted.groups.add (childName parent segment) command } clean failed

namespace Forest

/-! ### Groups -/

-- The node that a group is put into: the one that is known, or a new one.
def entered (known : String → Option Nat) (parent : Option Nat) (forest : Forest) (fullName : String) : Forest × Nat :=
  match known fullName with
  | some node => (forest, node)
  | none => (forest.addNode fullName parent, forest.size)

section

variable (fill : Forest → Nat → List Command → BuildResult) (parent : Option Nat) (known : String → Option Nat)

def fillGroup (forest : Forest) (group : String × List Command) : BuildResult :=
  fill (entered known parent forest group.1).1 (entered known parent forest group.1).2 group.2

def noted (forest : Forest) (created : List Nat) (fullName : String) : List Nat :=
  match known fullName with
  | some _ => created
  | none => created ++ [forest.size]

theorem build_groups_cons (start : Forest) (created : List Nat) (group : String × List Command) (rest : Groups) :
    buildGroups fill parent known start created (group :: rest) =
      match fillGroup fill parent known start group with
      | (.error fault, forest) => (.error fault, forest)
      | (.ok nodes, forest) =>
          buildGroups fill parent known (forest.attachAll (some (entered known parent start group.1).2) nodes)
            (noted known start created group.1) rest := by
  obtain ⟨fullName, members⟩ := group
  rw [buildGroups, fillGroup, entered, noted]
  cases known fullName <;> rfl

-- A fault is that of the first group that cannot be filled.
theorem build_groups_error (groups : Groups) (start last : Forest) (created : List Nat) (fault : NamespaceFault)
    (failed : buildGroups fill parent known start created groups = (.error fault, last)) :
    ∃ done group rest made forest, groups = done ++ group :: rest ∧
      buildGroups fill parent known start created done = (.ok made, forest) ∧
      (fillGroup fill parent known forest group).1 = .error fault := by
  induction groups generalizing start created with
  | nil => cases failed
  | cons group rest ih =>
      rw [build_groups_cons] at failed
      cases own : fillGroup fill parent known start group with
      | mk result forest =>
          rw [own] at failed
          cases result with
          | error cause =>
              cases failed
              exact ⟨[], group, rest, created, start, rfl, rfl, by rw [own]⟩
          | ok nodes =>
              obtain ⟨done, other, others, made, reached, rfl, before, refused⟩ := ih _ _ failed
              refine ⟨group :: done, other, others, made, reached, rfl, ?_, refused⟩
              rw [build_groups_cons, own]
              exact before

-- Without a fault, every group is filled in its turn.
theorem build_groups_each (done rest : Groups) (group : String × List Command) (start last : Forest)
    (created nodes : List Nat)
    (built : buildGroups fill parent known start created (done ++ group :: rest) = (.ok nodes, last)) :
    ∃ made forest kids, buildGroups fill parent known start created done = (.ok made, forest) ∧
      (fillGroup fill parent known forest group).1 = .ok kids := by
  induction done generalizing start created with
  | nil =>
      rw [List.nil_append, build_groups_cons] at built
      cases own : fillGroup fill parent known start group with
      | mk result forest =>
          rw [own] at built
          cases result with
          | error cause => cases built
          | ok kids => exact ⟨created, start, kids, rfl, by rw [own]⟩
  | cons first others ih =>
      rw [List.cons_append, build_groups_cons] at built
      cases own : fillGroup fill parent known start first with
      | mk result forest =>
          rw [own] at built
          cases result with
          | error cause => cases built
          | ok kids =>
              obtain ⟨made, reached, more, before, put⟩ := ih _ _ built
              refine ⟨made, reached, more, ?_, put⟩
              rw [build_groups_cons, own]
              exact before

end

/-! ### Calls -/

-- One call of the recursion: commands that are sorted below a node, or at the top.
structure Call where
  levels : Nat
  forest : Forest
  parent : Option Nat
  commands : List Command

namespace Call

def run (call : Call) : BuildResult := buildFrom call.levels call.forest call.parent call.commands

-- The name of the namespace that the commands are passed to.
def above (call : Call) : Option String := call.parent.map call.forest.fullName

def sorted (call : Call) : Sorted := sortBelow call.above {} call.commands

-- The forest when the commands that belong into the node itself are put there.
def settled (call : Call) : Forest := call.forest.addCommands call.parent call.sorted.here

def known (call : Call) : String → Option Nat := call.settled.knownChild? call.parent

def fill (levels : Nat) (forest : Forest) (node : Nat) (members : List Command) : BuildResult :=
  buildFrom levels forest (some node) members

-- A call passes a group on when the groups in front of it are filled.
inductive Passes : Call → Call → Prop where
  | group (call : Call) (levels : Nat) (deeper : call.levels = levels + 1) (clean : call.sorted.fault = none)
      (done rest : Groups) (fullName : String) (members : List Command)
      (split : call.sorted.groups = done ++ (fullName, members) :: rest) (made : List Nat) (forest : Forest)
      (before : buildGroups (fill levels) call.parent call.known call.settled [] done = (.ok made, forest)) :
      Passes call
        { levels, forest := (entered call.known call.parent forest fullName).1
          parent := some (entered call.known call.parent forest fullName).2, commands := members }

-- The calls that come of one call, the call itself among them.
def Leads : Call → Call → Prop := Relation.ReflTransGen Passes

section

variable {call : Call}

theorem run_deeper (levels : Nat) (deeper : call.levels = levels + 1) :
    call.run = match call.sorted.fault with
      | some fault => (.error fault, call.settled)
      | none => buildGroups (fill levels) call.parent call.known call.settled [] call.sorted.groups := by
  rw [run, deeper]
  rfl

-- A call fails over its own commands, or because a call that it makes fails.
theorem run_error (fault : NamespaceFault) (failed : call.run.1 = .error fault) :
    call.sorted.fault = some fault ∨ ∃ inner, Passes call inner ∧ inner.run.1 = .error fault := by
  cases deeper : call.levels with
  | zero =>
      rw [run, deeper] at failed
      cases failed
  | succ levels =>
      rw [run_deeper levels deeper] at failed
      cases own : call.sorted.fault with
      | some cause =>
          rw [own] at failed
          cases failed
          exact .inl rfl
      | none =>
          rw [own] at failed
          obtain ⟨done, ⟨fullName, members⟩, rest, made, forest, split, before, refused⟩ :=
            build_groups_error _ _ _ _ _ _ _ _ (Prod.ext failed rfl)
          exact .inr ⟨_, .group call levels deeper own done rest fullName members split made forest before, refused⟩

-- A call that does not fail passes every group on, and none of these calls fails.
theorem run_each (levels : Nat) (deeper : call.levels = levels + 1) (nodes : List Nat) (built : call.run.1 = .ok nodes) :
    call.sorted.fault = none ∧ ∀ group ∈ call.sorted.groups,
      ∃ inner kids, Passes call inner ∧ inner.commands = group.2 ∧ inner.run.1 = .ok kids := by
  rw [run_deeper levels deeper] at built
  cases own : call.sorted.fault with
  | some cause =>
      rw [own] at built
      cases built
  | none =>
      rw [own] at built
      refine ⟨rfl, fun group member => ?_⟩
      obtain ⟨done, rest, split⟩ := List.append_of_mem member
      rw [split] at built
      obtain ⟨made, forest, kids, before, put⟩ :=
        build_groups_each _ _ _ done rest group _ _ _ _ (Prod.ext built rfl)
      exact ⟨_, kids, .group call levels deeper own done rest group.1 group.2 split made forest before, rfl, put⟩

-- What holds of every call: nothing is known below its node, it has the levels for its commands, and they lie below it.
structure Sound (call : Call) : Prop where
  fresh : ∀ name, call.known name = none
  within : WithinLevels call.levels call.above call.commands
  inside : ∀ command ∈ call.commands, ∃ first more,
    Name.segments command.fullName = pathOf call.above ++ first :: more

-- The group that is passed on by a call.
theorem sound_of_passes (sound : Sound call) (inner : Call) (passes : Passes call inner) :
    Sound inner ∧ call.levels = inner.levels + 1 ∧
      ∃ fullName, inner.above = some fullName ∧ (fullName, inner.commands) ∈ call.sorted.groups := by
  cases passes with
  | group levels deeper clean done rest fullName members split made forest before =>
      have member : (fullName, members) ∈ call.sorted.groups := by simp [split]
      have sorted := groups_of_sorted call.above call.commands clean
      have new : entered call.known call.parent forest fullName = (forest.addNode fullName call.parent, forest.size) := by
        rw [entered, sound.fresh]
      rw [new]
      have own : above ⟨levels, forest.addNode fullName call.parent, some forest.size, members⟩ = some fullName := by
        simp [above, Forest.fullName, slot?, addNode, size]
      refine ⟨⟨fun name => ?_, ?_, fun command inside => ?_⟩, deeper, fullName, own, member⟩
      · simp only [known, settled, addNode, size, add_commands_at]
        exact known_child_of_fresh _ _ _ _ _ name
      · rw [own]
        exact within_levels_of_group levels _ _ _ sorted (deeper ▸ sound.within) fullName members member
      · rw [(sorted.members fullName members member).1, List.mem_filter] at inside
        obtain ⟨first, next, more, longer, -, target⟩ := (target_eq_some_iff _ _ _).mp (by simpa using inside.2)
        refine ⟨next, more, ?_⟩
        rw [own, pathOf, target, longer, List.append_assoc]
        rfl

theorem sound_of_leads (sound : Sound call) (inner : Call) (leads : Leads call inner) : Sound inner := by
  induction leads with
  | refl => exact sound
  | tail _ passes ih => exact (sound_of_passes ih _ passes).1

-- By induction on the levels: a name that is misplaced among the commands that are passed on is misplaced in the whole.
theorem misplaced_of_error (sound : Sound call) (fault : NamespaceFault) (failed : call.run.1 = .error fault) :
    ∃ command ∈ call.commands, Misplaced call.above command.fullName ∧ fault = Name.fault command.fullName := by
  induction levels : call.levels generalizing call with
  | zero =>
      rw [run, levels] at failed
      cases failed
  | succ fewer ih =>
      rcases run_error fault failed with own | ⟨inner, passes, refused⟩
      · exact sort_below_fault call.above {} call.commands fault rfl own
      · obtain ⟨innerSound, deeper, fullName, named, member⟩ := sound_of_passes sound inner passes
        obtain ⟨command, inside, misplaced, told⟩ := ih innerSound refused (by omega)
        have clean : call.sorted.fault = none := by
          cases passes
          assumption
        rw [((groups_of_sorted call.above call.commands clean).members fullName _ member).1, List.mem_filter] at inside
        rw [named, misplaced_iff_of_target call.above command fullName (by simpa using inside.2)] at misplaced
        exact ⟨command, inside.1, misplaced, told⟩

-- By induction on the levels: what is misplaced further down is passed on to a call that fails.
theorem placed_of_ok (sound : Sound call) (nodes : List Nat) (built : call.run.1 = .ok nodes) :
    ∀ command ∈ call.commands, ¬Misplaced call.above command.fullName := by
  induction levels : call.levels generalizing call nodes with
  | zero =>
      rintro command member ⟨first, more, longer, -⟩
      have bound := sound.within command member
      simp only [longer, levels, List.length_append, List.length_cons] at bound
      omega
  | succ fewer ih =>
      intro command member misplaced
      obtain ⟨clean, each⟩ := run_each fewer levels nodes built
      have sorted := groups_of_sorted call.above call.commands clean
      have accepted := (sort_below_without_fault call.above {} call.commands clean).1 command member
      obtain ⟨target, passed⟩ := target_of_misplaced call.above command accepted misplaced
      obtain ⟨⟨key, members⟩, grouped, rfl⟩ := List.mem_map.mp (sorted.complete command member _ passed)
      obtain ⟨inner, kids, passes, same, done⟩ := each _ grouped
      have own : command ∈ inner.commands := by
        rw [same, (sorted.members _ members grouped).1, List.mem_filter]
        exact ⟨member, by simpa using passed⟩
      obtain ⟨innerSound, deeper, fullName, named, again⟩ := sound_of_passes sound inner passes
      have reached := own
      rw [(sorted.members fullName _ again).1, List.mem_filter, decide_eq_true_eq] at reached
      refine ih innerSound kids done (by omega) command own ?_
      rw [named, misplaced_iff_of_target call.above command fullName reached.2]
      exact misplaced

end

/-! ### Building from the top -/

def atTop (forest : Forest) (commands : List Command) : Call :=
  { levels := levelsOf commands, forest, parent := none, commands }

theorem sound_at_top (forest : Forest) (commands : List Command) : Sound (atTop forest commands) := by
  refine ⟨fun name => rfl, within_levels_of commands, fun command _ => ?_⟩
  obtain ⟨first, more, split⟩ := List.exists_cons_of_ne_nil (Name.segments_ne_nil command.fullName)
  exact ⟨first, more, split⟩

def top (commands : List Command) : Call := { levels := levelsOf commands, forest := {}, parent := none, commands }

theorem sound_top (commands : List Command) : Sound (top commands) := sound_at_top {} commands

theorem misplaced_iff (name : String) : Misplaced none name ↔ Name.Misfit name := by
  obtain ⟨first, more, split⟩ := List.exists_cons_of_ne_nil (Name.segments_ne_nil name)
  have dots : '.' ∉ name.toList ↔ more = [] := by
    have count := Name.length_segments name
    rw [Name.depth, split, List.length_cons, Nat.add_right_cancel_iff] at count
    rw [← List.count_eq_zero, ← count, List.length_eq_zero_iff]
  rw [Name.Misfit, split, dots]
  constructor
  · rintro ⟨other, others, again, reason⟩
    obtain ⟨rfl, rfl⟩ := List.cons.inj (split.symm.trans again)
    rcases reason with gap | ⟨-, single⟩
    · exact .inr gap
    · exact .inl single
  · rintro (single | gap)
    · exact ⟨first, more, split, .inr ⟨rfl, single⟩⟩
    · exact ⟨first, more, split, .inl gap⟩

end Call

theorem of_commands_error (commands : List Command) (fault : NamespaceFault) :
    ofCommands commands = .error fault ↔ (Call.top commands).run.1 = .error fault := by
  have same : (Call.top commands).run = build {} none commands := rfl
  rw [ofCommands, same]
  generalize build {} none commands = built
  obtain ⟨result, forest⟩ := built
  cases result <;> simp

theorem misfit_of_fault (commands : List Command) (fault : NamespaceFault) (failed : ofCommands commands = .error fault) :
    ∃ command ∈ commands, Name.Misfit command.fullName ∧ fault = Name.fault command.fullName := by
  obtain ⟨command, member, misplaced, told⟩ :=
    Call.misplaced_of_error (Call.sound_top commands) fault ((of_commands_error commands fault).mp failed)
  exact ⟨command, member, (Call.misplaced_iff _).mp misplaced, told⟩

theorem fault_of_misfit (commands : List Command) (command : Command) (member : command ∈ commands)
    (misfit : Name.Misfit command.fullName) : ∃ fault, ofCommands commands = .error fault := by
  cases built : (Call.top commands).run.1 with
  | error fault => exact ⟨fault, (of_commands_error commands fault).mpr built⟩
  | ok nodes =>
      have misplaced := (Call.misplaced_iff command.fullName).mpr misfit
      exact absurd misplaced (Call.placed_of_ok (Call.sound_top commands) nodes built command member)

-- What is built at the top of a forest has no misfits.
theorem fitting_of_extended (start after : Forest) (commands : List Command)
    (extended : start.extend none commands = .ok after) (command : Command) (member : command ∈ commands) : ¬Name.Misfit command.fullName := by
  have same : (Call.atTop start commands).run = start.build none commands := rfl
  rw [extend, ← same] at extended
  cases built : (Call.atTop start commands).run with
  | mk result forest =>
      rw [built] at extended
      cases result with
      | error fault => cases extended
      | ok nodes =>
          rw [← Call.misplaced_iff]
          exact Call.placed_of_ok (Call.sound_at_top start commands) nodes (by rw [built]) command member

theorem of_commands_ok_iff (commands : List Command) :
    (∃ forest, ofCommands commands = .ok forest) ↔ ∀ command ∈ commands, ¬Name.Misfit command.fullName := by
  constructor
  · rintro ⟨forest, built⟩
    exact fitting_of_extended {} forest commands built
  · intro fitting
    cases built : ofCommands commands with
    | ok forest => exact ⟨forest, rfl⟩
    | error fault =>
        obtain ⟨command, member, misfit, -⟩ := misfit_of_fault commands fault built
        exact absurd misfit (fitting command member)

-- A forest takes in all names but misfits. A fault tells of a misfit among the names; and where there is none, no call
-- passes over a command that it is given, so that each is found in the forest under its name.
theorem misfits_refused (commands : List Command) :
    ((∃ fault, ofCommands commands = .error fault) ↔ ∃ command ∈ commands, Name.Misfit command.fullName) ∧
    (∀ fault, ofCommands commands = .error fault →
      ∃ command ∈ commands, Name.Misfit command.fullName ∧ fault = Name.fault command.fullName) ∧
    ∀ forest, ofCommands commands = .ok forest →
      (∀ call, Call.Leads (Call.top commands) call → ∀ command ∈ call.commands,
        placement call.above command.fullName ≠ .outside) ∧
      ∀ command ∈ commands, ∃ kept ∈ forest.allCommands, kept.fullName = command.fullName := by
  refine ⟨⟨fun ⟨fault, failed⟩ => ?_, fun ⟨command, member, misfit⟩ => fault_of_misfit commands command member misfit⟩,
    misfit_of_fault commands, fun forest built => ⟨fun call leads command member => ?_, fun command member => ?_⟩⟩
  · obtain ⟨command, member, misfit, -⟩ := misfit_of_fault commands fault failed
    exact ⟨command, member, misfit⟩
  · obtain ⟨first, more, longer⟩ := (Call.sound_of_leads (Call.sound_top commands) call leads).inside command member
    rw [placement_of_segments _ _ first more longer]
    split
    · nofun
    · split <;> nofun
  · have found := (mem_all_commands_iff (filled_of_commands commands forest built) command.fullName).mpr
      (List.mem_map_of_mem member)
    exact List.mem_map.mp found

def gapped : List Command := [{ fullName := "shop.Find" }, { fullName := "shop..Open" }, { fullName := "Lone" }]

def orderly : List Command := [{ fullName := "shop.Find" }, { fullName := "shop.cart.Add" }]

theorem gapped_refused :
    ofCommands gapped = .error (.withoutPackage "Lone") ∧
    (∃ command ∈ gapped, Name.Misfit command.fullName ∧ .withoutPackage "Lone" = Name.fault command.fullName) ∧
    ∃ forest, ofCommands orderly = .ok forest ∧
      ∀ call, Call.Leads (Call.top orderly) call → ∀ command ∈ call.commands,
        placement call.above command.fullName ≠ .outside := by
  have refused : ofCommands gapped = .error (.withoutPackage "Lone") := by rfl
  refine ⟨refused, (misfits_refused gapped).2.1 _ refused, _, rfl, ((misfits_refused orderly).2.2 _ rfl).1⟩

end Forest

end StubForge
