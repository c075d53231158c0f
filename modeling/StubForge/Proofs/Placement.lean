import StubForge.Namespace.Build
import StubForge.Proofs.Segments
import Mathlib.Data.List.Induction
import Mathlib.Data.List.Nodup

set_option autoImplicit false

/-!
What sorting commands below a namespace does: where each single name goes, by its segments, and what
the groups of a whole list of commands are.
-/

namespace StubForge

-- The segments of the namespace that commands are sorted below; there are none at the top.
def pathOf : Option String → List String
  | none => []
  | some above => Name.segments above

theorem remainder_of_segments (parent : Option String) (fullName first : String) (more : List String)
    (longer : Name.segments fullName = pathOf parent ++ first :: more) :
    ∃ rest, remainder? parent fullName = some rest ∧ Name.segments (String.ofList rest) = first :: more := by
  cases parent with
  | none => exact ⟨fullName.toList, rfl, by simpa [pathOf] using longer⟩
  | some above =>
      have whole := Name.eq_append_of_segments fullName above first more longer
      refine ⟨(Name.ofSegments (first :: more)).toList, ?_, by simpa using whole.2⟩
      rw [remainder?, Name.strip_leading_dot_iff, String.ofList_toList, whole.2]
      exact longer

theorem segments_of_remainder (parent : Option String) (fullName : String) (rest : List Char)
    (left : remainder? parent fullName = some rest) :
    Name.segments fullName = pathOf parent ++ Name.segments (String.ofList rest) := by
  cases parent with
  | none =>
      have same : fullName.toList = rest := Option.some.inj left
      simp [pathOf, ← same]
  | some above => exact (Name.strip_leading_dot_iff fullName above rest).mp left

theorem first_segment (rest : List Char) (first : String) (more : List String)
    (pieces : Name.segments (String.ofList rest) = first :: more) :
    rest.takeWhile (· ≠ '.') = first.toList ∧ (first.toList.length = rest.length ↔ more = []) := by
  have head := Text.split_at_head '.' rest
  rw [Name.segments, String.toList_ofList] at pieces
  cases split : Text.splitAt '.' rest with
  | nil => exact absurd split (Text.split_at_ne_nil '.' rest)
  | cons piece others =>
      rw [split] at pieces head
      obtain ⟨firstEq, moreEq⟩ := List.cons.inj pieces
      have taken : rest.takeWhile (· ≠ '.') = piece := (Option.some.inj head).symm
      subst firstEq moreEq
      refine ⟨by simpa using taken, ?_⟩
      rw [String.toList_ofList, List.map_eq_nil_iff]
      have joined := Text.join_split_at '.' rest
      rw [split] at joined
      constructor
      · intro sameLength
        have whole : piece = rest := by
          rw [← taken]
          exact (List.takeWhile_prefix _).eq_of_length (taken ▸ sameLength)
        have plain := Text.not_mem_of_mem_split_at '.' rest piece (by simp [split])
        have single := Text.split_at_of_not_mem '.' rest (whole ▸ plain)
        rw [split] at single
        exact (List.cons.inj single).2
      · intro none
        subst none
        exact congrArg List.length joined

theorem placement_of_segments (parent : Option String) (fullName first : String) (more : List String)
    (longer : Name.segments fullName = pathOf parent ++ first :: more) :
    placement parent fullName =
      if first = "" then .malformed else if more = [] then .here else .below first.toList := by
  obtain ⟨rest, left, pieces⟩ := remainder_of_segments parent fullName first more longer
  obtain ⟨taken, whole⟩ := first_segment rest first more pieces
  have empty : first.toList.isEmpty = true ↔ first = "" := by simp
  simp only [placement, left, taken, empty, whole]

theorem placement_outside (parent : Option String) (fullName : String)
    (apart : ∀ first more, Name.segments fullName ≠ pathOf parent ++ first :: more) :
    placement parent fullName = .outside := by
  cases left : remainder? parent fullName with
  | none => simp [placement, left]
  | some rest =>
      have longer := segments_of_remainder parent fullName rest left
      cases pieces : Name.segments (String.ofList rest) with
      | nil => exact absurd pieces (Name.segments_ne_nil _)
      | cons first more => exact absurd (pieces ▸ longer) (apart first more)

theorem segments_child_name (parent : Option String) (segment : String)
    (plain : '.' ∉ segment.toList) :
    Name.segments (childName parent segment.toList) = pathOf parent ++ [segment] := by
  cases parent with
  | none => simpa [childName, pathOf] using Name.segments_of_plain segment plain
  | some above => simpa [childName, pathOf, Name.child] using Name.segments_child above segment plain

-- The namespace that a command is passed on to, if it lies deeper than the one above.
def targetOf (parent : Option String) (command : Command) : Option String :=
  match placement parent command.fullName with
  | .below segment => some (childName parent segment)
  | _ => none

theorem target_eq_some_iff (parent : Option String) (command : Command) (target : String) :
    targetOf parent command = some target ↔
      ∃ first next more, Name.segments command.fullName = pathOf parent ++ first :: next :: more ∧
        first ≠ "" ∧ Name.segments target = pathOf parent ++ [first] := by
  by_cases inside : ∃ first more, Name.segments command.fullName = pathOf parent ++ first :: more
  · obtain ⟨first, more, longer⟩ := inside
    have placed := placement_of_segments parent command.fullName first more longer
    have plain : '.' ∉ first.toList := by
      apply Name.plain_of_mem_segments command.fullName
      simp [longer]
    have childSegments := segments_child_name parent first plain
    constructor
    · intro found
      rw [targetOf, placed] at found
      by_cases empty : first = ""
      · simp [empty] at found
      · cases more with
        | nil => simp [empty] at found
        | cons next others =>
            have same : childName parent first.toList = target := by simpa [empty] using found
            exact ⟨first, next, others, longer, empty, same ▸ childSegments⟩
    · rintro ⟨other, next, others, longerOther, filled, targetSegments⟩
      have same := List.append_cancel_left (longer.symm.trans longerOther)
      obtain ⟨rfl, rfl⟩ := List.cons.inj same
      have named : childName parent first.toList = target :=
        Name.segments_injective _ _ (childSegments.trans targetSegments.symm)
      simp [targetOf, placed, filled, named]
  · have apart : ∀ first more, Name.segments command.fullName ≠ pathOf parent ++ first :: more :=
      fun first more longer => inside ⟨first, more, longer⟩
    simp only [targetOf, placement_outside parent command.fullName apart]
    constructor
    · intro none
      simp at none
    · rintro ⟨first, next, more, longer, -, -⟩
      exact absurd longer (apart first (next :: more))

theorem here_iff (parent : Option String) (fullName : String) :
    placement parent fullName = .here ↔
      ∃ last, Name.segments fullName = pathOf parent ++ [last] ∧ last ≠ "" := by
  by_cases inside : ∃ first more, Name.segments fullName = pathOf parent ++ first :: more
  · obtain ⟨first, more, longer⟩ := inside
    rw [placement_of_segments parent fullName first more longer]
    constructor
    · intro placed
      by_cases empty : first = ""
      · simp [empty] at placed
      · by_cases single : more = []
        · exact ⟨first, single ▸ longer, empty⟩
        · simp [empty, single] at placed
    · rintro ⟨last, short, filled⟩
      have same := List.append_cancel_left (longer.symm.trans short)
      obtain ⟨rfl, rfl⟩ := List.cons.inj same
      simp [filled]
  · have apart : ∀ first more, Name.segments fullName ≠ pathOf parent ++ first :: more :=
      fun first more longer => inside ⟨first, more, longer⟩
    rw [placement_outside parent fullName apart]
    constructor
    · intro placed
      simp at placed
    · rintro ⟨last, short, -⟩
      exact absurd short (apart last [])

/-! ### Sorting lists of commands -/

def addTarget (parent : Option String) (groups : Groups) (command : Command) : Groups :=
  match targetOf parent command with
  | some target => groups.add target command
  | none => groups

-- Sorting accepts a command if its next segment is not empty, and at the top if it has a further one.
def Accepted (parent : Option String) (command : Command) : Prop :=
  placement parent command.fullName ≠ .malformed ∧
    (parent = none → placement parent command.fullName ≠ .here)

theorem segment_of_accepted (parent : Option String) (command : Command) (accepted : Accepted parent command)
    (first : String) (more : List String) (longer : Name.segments command.fullName = pathOf parent ++ first :: more) :
    first ≠ "" := by
  intro empty
  have placed := placement_of_segments parent command.fullName first more longer
  exact accepted.1 (by rw [placed, if_pos empty])

theorem sort_below_without_fault (parent : Option String) (sorted : Sorted) (commands : List Command)
    (clean : (sortBelow parent sorted commands).fault = none) :
    (∀ command ∈ commands, Accepted parent command) ∧
      sortBelow parent sorted commands =
        { here := sorted.here ++ commands.filter fun command =>
            placement parent command.fullName = .here
          groups := commands.foldl (addTarget parent) sorted.groups } := by
  induction commands generalizing sorted with
  | nil =>
      obtain ⟨here, groups, fault⟩ := sorted
      simp_all [sortBelow]
  | cons command rest ih =>
      simp only [sortBelow] at clean ⊢
      cases placed : placement parent command.fullName with
      | outside =>
          rw [placed] at clean
          obtain ⟨accepted, result⟩ := ih sorted clean
          refine ⟨?_, ?_⟩
          · exact List.forall_mem_cons.mpr ⟨⟨by simp [placed], by simp [placed]⟩, accepted⟩
          · simpa [placed, addTarget, targetOf] using result
      | malformed => simp [placed] at clean
      | here =>
          cases parent with
          | none => simp [placed] at clean
          | some above =>
              simp only [placed] at clean
              obtain ⟨accepted, result⟩ := ih { sorted with here := sorted.here ++ [command] } clean
              refine ⟨?_, ?_⟩
              · exact List.forall_mem_cons.mpr ⟨⟨by simp [placed], by simp⟩, accepted⟩
              · simpa [placed, addTarget, targetOf] using result
      | below segment =>
          simp only [placed] at clean
          obtain ⟨accepted, result⟩ := ih
            { sorted with groups := sorted.groups.add (childName parent segment) command } clean
          refine ⟨?_, ?_⟩
          · exact List.forall_mem_cons.mpr ⟨⟨by simp [placed], by simp [placed]⟩, accepted⟩
          · simpa [placed, addTarget, targetOf] using result

theorem keys_of_add (groups : Groups) (target : String) (command : Command) :
    (groups.add target command).map (·.1) =
      if target ∈ groups.map (·.1) then groups.map (·.1) else groups.map (·.1) ++ [target] := by
  induction groups with
  | nil => simp [Groups.add]
  | cons group rest ih =>
      obtain ⟨key, members⟩ := group
      by_cases same : key = target
      · simp [Groups.add, same]
      · by_cases inside : target ∈ rest.map (·.1)
        · rw [if_pos inside] at ih
          simp [Groups.add, same, ih, inside]
        · rw [if_neg inside] at ih
          simp [Groups.add, same, ih, inside, Ne.symm same]

-- A group after adding a command: the command is the last one of its own group.
theorem mem_of_add (groups : Groups) (target : String) (command : Command) (key : String)
    (members : List Command) (distinct : (groups.map (·.1)).Nodup)
    (member : (key, members) ∈ groups.add target command) :
    (key ≠ target ∧ (key, members) ∈ groups) ∨
      (key = target ∧ ((∃ before, (key, before) ∈ groups ∧ members = before ++ [command]) ∨
        (target ∉ groups.map (·.1) ∧ members = [command]))) := by
  induction groups with
  | nil =>
      obtain ⟨rfl, rfl⟩ : key = target ∧ members = [command] := by simpa [Groups.add] using member
      exact .inr ⟨rfl, .inr ⟨by simp, rfl⟩⟩
  | cons group rest ih =>
      obtain ⟨first, before⟩ := group
      obtain ⟨fresh, distinctRest⟩ := List.nodup_cons.mp distinct
      by_cases same : first = target
      · subst same
        simp only [Groups.add, if_true, List.mem_cons, Prod.mk.injEq] at member
        rcases member with ⟨rfl, rfl⟩ | later
        · exact .inr ⟨rfl, .inl ⟨before, List.mem_cons_self, rfl⟩⟩
        · have different : key ≠ first := fun equal =>
            fresh (equal ▸ List.mem_map_of_mem (f := (·.1)) later)
          exact .inl ⟨different, List.mem_cons_of_mem _ later⟩
      · simp only [Groups.add, if_neg same, List.mem_cons, Prod.mk.injEq] at member
        rcases member with ⟨rfl, rfl⟩ | later
        · exact .inl ⟨same, List.mem_cons_self⟩
        · rcases ih distinctRest later with ⟨different, old⟩ | ⟨equal, grown | ⟨absent, single⟩⟩
          · exact .inl ⟨different, List.mem_cons_of_mem _ old⟩
          · obtain ⟨earlier, old, longer⟩ := grown
            exact .inr ⟨equal, .inl ⟨earlier, List.mem_cons_of_mem _ old, longer⟩⟩
          · refine .inr ⟨equal, .inr ⟨?_, single⟩⟩
            simpa [Ne.symm same] using absent

-- The groups of commands sorted below a namespace: one for each namespace that some command is passed on to,
-- with all of these commands.
structure GroupsOf (parent : Option String) (commands : List Command) (groups : Groups) : Prop where
  distinct : (groups.map (·.1)).Nodup
  members : ∀ key members, (key, members) ∈ groups →
    members = commands.filter (fun command => targetOf parent command = some key) ∧ members ≠ []
  complete : ∀ command ∈ commands, ∀ key, targetOf parent command = some key →
    key ∈ groups.map (·.1)

theorem groups_of_add_target (parent : Option String) (commands : List Command) (groups : Groups)
    (command : Command) (sorted : GroupsOf parent commands groups) :
    GroupsOf parent (commands ++ [command]) (addTarget parent groups command) := by
  cases found : targetOf parent command with
  | none =>
      refine ⟨by simpa [addTarget, found] using sorted.distinct, ?_, ?_⟩
      · intro key members member
        simp only [addTarget, found] at member
        simpa [found] using sorted.members key members member
      · intro other member key passed
        rcases List.mem_append.mp member with before | last
        · simpa [addTarget, found] using sorted.complete other before key passed
        · rw [List.mem_singleton.mp last, found] at passed
          contradiction
  | some target =>
      have keys := keys_of_add groups target command
      refine ⟨?_, ?_, ?_⟩
      · rw [addTarget, found]
        dsimp only
        rw [keys]
        split
        · exact sorted.distinct
        · rename_i absent
          exact List.Nodup.append sorted.distinct (List.nodup_singleton target) (by simpa using absent)
      · intro key members member
        simp only [addTarget, found] at member
        rcases mem_of_add groups target command key members sorted.distinct member with
          ⟨different, old⟩ | ⟨rfl, grown | ⟨absent, single⟩⟩
        · have unchanged := sorted.members key members old
          simpa [found, Ne.symm different] using unchanged
        · obtain ⟨before, old, longer⟩ := grown
          have unchanged := (sorted.members key before old).1
          simp [found, longer, unchanged]
        · have none : commands.filter (fun command => targetOf parent command = some key) = [] := by
            rw [List.filter_eq_nil_iff]
            intro other inside passed
            exact absent (sorted.complete other inside key (by simpa using passed))
          simp [found, single, none]
      · intro other member key passed
        rw [addTarget, found]
        dsimp only
        rw [keys]
        rcases List.mem_append.mp member with before | last
        · have old := sorted.complete other before key passed
          split
          · exact old
          · exact List.mem_append_left _ old
        · rw [List.mem_singleton.mp last, found] at passed
          obtain rfl := Option.some.inj passed
          split
          · assumption
          · simp

theorem groups_of_commands (parent : Option String) (commands : List Command) :
    GroupsOf parent commands (commands.foldl (addTarget parent) []) := by
  induction commands using List.reverseRecOn with
  | nil => exact ⟨List.nodup_nil, by simp, by simp⟩
  | append_singleton before command ih =>
      rw [List.foldl_append]
      exact groups_of_add_target parent before _ command ih

end StubForge
