import StubForge.Proofs.Landing
import StubForge.Proofs.Representation
import StubForge.Proofs.Spelling
import StubForge.Proofs.StubCalls

set_option autoImplicit false

/-!
The paths of the stubs: the segments of a name become folders and a file. Two stubs get one path only where a command
is named like the file of its namespace.
-/

namespace StubForge

namespace Text

/-! ### Replacing one character -/

def swapped (old new : Char) (s : List Char) : List Char := s.map fun c => if c = old then new else c

theorem break_at_char (part : Char) (s : List Char) :
    breakAt? [part] s = none ∧ part ∉ s ∨
      ∃ before after, breakAt? [part] s = some (before, after) ∧ s = before ++ part :: after ∧ part ∉ before := by
  induction s with
  | nil => exact .inl ⟨rfl, List.not_mem_nil⟩
  | cons c rest ih =>
      by_cases same : part = c
      · subst same
        exact .inr ⟨[], rest, by simp [breakAt?, stripLeading?], rfl, List.not_mem_nil⟩
      · have step : breakAt? [part] (c :: rest) =
            (breakAt? [part] rest).map fun found => (c :: found.1, found.2) := by
          simp [breakAt?, stripLeading?, same]
        rcases ih with ⟨none, absent⟩ | ⟨before, after, found, whole, absent⟩
        · exact .inl ⟨by simp [step, none], by simp [same, absent]⟩
        · exact .inr ⟨c :: before, after, by simp [step, found], by simp [whole], by simp [same, absent]⟩

theorem split_parts_char (part : Char) (limit : Nat) (s : List Char) (enough : s.length < limit) :
    splitParts [part] limit s = splitAt part s := by
  induction limit generalizing s with
  | zero => omega
  | succ limit ih =>
      rw [splitParts]
      rcases break_at_char part s with ⟨none, absent⟩ | ⟨before, after, found, rfl, absent⟩
      · rw [none, split_at_of_not_mem part s absent]
      · simp only [List.length_append, List.length_cons] at enough
        rw [found, split_at_append, split_at_of_not_mem part before absent]
        simp [ih after (by omega)]

theorem join_split_at_swapped (old new : Char) (s : List Char) :
    joinWith [new] (splitAt old s) = swapped old new s := by
  induction s with
  | nil => rfl
  | cons c rest ih =>
      rw [splitAt]
      cases pieces : splitAt old rest with
      | nil => exact absurd pieces (split_at_ne_nil old rest)
      | cons piece more =>
          rw [pieces] at ih
          by_cases same : c = old
          · simpa [same, joinWith, swapped] using ih
          · cases more with
            | nil => simpa [same, joinWith, swapped] using ih
            | cons next others => simpa [same, joinWith, swapped] using ih

theorem replace_chars (old new : Char) (s : String) :
    (replace (String.singleton old) (String.singleton new) s).toList = swapped old new s.toList := by
  have kept : ([old] : List Char).isEmpty = false := rfl
  simp only [replace, replaceChars, String.toList_singleton, Option.getD_none, kept, Bool.false_eq_true, if_false,
    String.toList_ofList]
  rw [split_parts_char old _ _ (Nat.lt_succ_self _), join_split_at_swapped]

theorem swapped_of_not_mem (old new : Char) (s : List Char) (absent : old ∉ s) : swapped old new s = s := by
  induction s with
  | nil => rfl
  | cons c rest ih =>
      obtain ⟨other, later⟩ := not_or.mp (List.mem_cons.not.mp absent)
      have inner := ih later
      rw [swapped] at inner ⊢
      simp [Ne.symm other, inner]

theorem mem_split_at (separator : Char) (s : List Char) (c : Char) (inside : c ∈ s) :
    c = separator ∨ ∃ piece ∈ splitAt separator s, c ∈ piece := by
  induction s with
  | nil => cases inside
  | cons first rest ih =>
      cases pieces : splitAt separator rest with
      | nil => exact absurd pieces (split_at_ne_nil separator rest)
      | cons piece more =>
          rw [pieces] at ih
          rcases List.mem_cons.mp inside with rfl | later
          · by_cases same : c = separator
            · exact .inl same
            · exact .inr ⟨c :: piece, by simp [splitAt, pieces, same], List.mem_cons_self⟩
          · refine (ih later).imp_right ?_
            rintro ⟨found, among, held⟩
            by_cases same : first = separator
            · exact ⟨found, by simpa [splitAt, pieces, same] using .inr (List.mem_cons.mp among), held⟩
            · rcases List.mem_cons.mp among with rfl | others
              · exact ⟨first :: found, by simp [splitAt, pieces, same], List.mem_cons_of_mem _ held⟩
              · exact ⟨found, by simp [splitAt, pieces, same, others], held⟩

theorem split_at_swapped (old new : Char) (s : List Char) (absent : new ∉ s) :
    splitAt new (swapped old new s) = splitAt old s := by
  induction s with
  | nil => rfl
  | cons c rest ih =>
      obtain ⟨other, later⟩ := not_or.mp (List.mem_cons.not.mp absent)
      have inner := ih later
      rw [swapped] at inner ⊢
      cases pieces : splitAt old rest with
      | nil => exact absurd pieces (split_at_ne_nil old rest)
      | cons piece more =>
          rw [pieces] at inner
          by_cases same : c = old
          · simp [splitAt, same, inner, pieces]
          · simp [splitAt, same, Ne.symm other, inner, pieces]

end Text

namespace Stubs

/-! ### Slashes -/

theorem slashed_chars (name : String) : (slashed name).toList = Text.swapped '.' '/' name.toList :=
  Text.replace_chars '.' '/' name

theorem slashed_child (above segment : String) (plain : '.' ∉ segment.toList) :
    slashed (Name.child above segment) = slashed above ++ "/" ++ segment := by
  have same := Text.swapped_of_not_mem '.' '/' segment.toList plain
  apply String.toList_inj.mp
  rw [slashed_chars, Name.child]
  simp only [Text.swapped] at same
  simp [slashed_chars, Text.swapped, same]

-- The parts of a path: its folders, and the file last.
def parts (path : String) : List String := (Text.splitAt '/' path.toList).map String.ofList

theorem parts_injective (a b : String) (same : parts a = parts b) : a = b := by
  have pieces : Text.splitAt '/' a.toList = Text.splitAt '/' b.toList :=
    List.map_injective_iff.mpr (fun _ _ equal => String.ofList_inj.mp equal) same
  apply String.toList_inj.mp
  rw [← Text.join_split_at '/' a.toList, pieces, Text.join_split_at]

theorem parts_append (above rest : String) : parts (above ++ "/" ++ rest) = parts above ++ parts rest := by
  have chars : (above ++ "/" ++ rest).toList = above.toList ++ '/' :: rest.toList := by simp
  rw [parts, chars, Text.split_at_append, List.map_append]
  rfl

theorem parts_of_plain (file : String) (plain : '/' ∉ file.toList) : parts file = [file] := by
  simp [parts, Text.split_at_of_not_mem '/' file.toList plain]

theorem parts_slashed (name : String) (plain : '/' ∉ name.toList) : parts (slashed name) = Name.segments name := by
  rw [parts, slashed_chars, Text.split_at_swapped '.' '/' name.toList plain, Name.segments]

theorem parts_package (name : String) (plain : '/' ∉ name.toList) :
    parts (packagePath name) = Name.segments name ++ ["_package.php"] := by
  have whole : packagePath name = slashed name ++ "/" ++ "_package.php" := by
    rw [packagePath, String.append_assoc]
    rfl
  rw [whole, parts_append, parts_slashed name plain, parts_of_plain _ (by decide)]

theorem parts_command (home name : String) (undotted : '.' ∉ name.toList) (plainHome : '/' ∉ home.toList)
    (plainName : '/' ∉ name.toList) :
    parts (commandPath (Name.child home name)) = Name.segments home ++ [name ++ ".php"] := by
  rw [commandPath, slashed_child home name undotted, String.append_assoc, parts_append, parts_slashed home plainHome,
    parts_of_plain (name ++ ".php") (by simp [plainName])]

theorem parts_index : parts indexPath = ["ipcstub.php"] := parts_of_plain _ (by decide)

/-! ### Names of identifiers -/

-- The characters of a name of identifiers are dots and those that identifiers go on with.
theorem free_of_spelled (name : String) (spelled : Name.Spelled name) (c : Char) (other : c ≠ '.')
    (ends : Text.continuesIdentifier c = false) : c ∉ name.toList := by
  intro inside
  rcases Text.mem_split_at '.' name.toList c inside with same | ⟨piece, among, held⟩
  · exact other same
  · have valid := spelled (String.ofList piece) (List.mem_map_of_mem among)
    have goes := continues_of_identifier _ valid c (by simpa using held)
    rw [ends] at goes
    cases goes

/-! ### Names in a forest -/

section

variable {commands : List Command} {forest : Forest} (built : Forest.ofCommands commands = .ok forest)
include built

theorem command_of_node (node : Nat) (bound : node < forest.size) (command : Command)
    (member : command ∈ forest.commands node) :
    command ∈ commands ∧ command.fullName = Name.child (forest.fullName node) command.name ∧
      '.' ∉ command.name.toList := by
  have filled := Forest.filled_of_commands commands forest built
  obtain ⟨slot, slotMember, -, named, own⟩ := forest.slot_of_node node bound
  obtain ⟨given, home, -⟩ := Forest.kept_of_slot filled slot slotMember command (own ▸ member)
  obtain ⟨accepted, -⟩ := Forest.of_commands_grown commands forest built
  have outermost := (Forest.home_of_accepted command (accepted command given)).1
  have dotted : '.' ∈ command.fullName.toList := by
    by_contra plain
    exact outermost (by simp [Command.home, Name.parent, Name.split_last_of_not_mem _ plain])
  obtain ⟨whole, plain⟩ := Name.child_parent_last command.fullName dotted
  refine ⟨given, ?_, plain⟩
  rw [named, ← home]
  exact whole

-- What no command name holds, no namespace holds.
theorem free_of_node (c : Char) (free : ∀ command ∈ commands, c ∉ command.fullName.toList) (node : Nat)
    (bound : node < forest.size) : c ∉ (forest.fullName node).toList := by
  have represents := Forest.represents_of_commands commands forest built
  obtain ⟨slot, member, -, named, -⟩ := forest.slot_of_node node bound
  obtain ⟨-, command, given, below⟩ := (represents.covers (forest.fullName node)).mp
    (named ▸ List.mem_map_of_mem member)
  obtain ⟨first, more, longer⟩ := (Name.is_below_iff _ _).mp below
  intro inside
  refine free command given ?_
  rw [(Name.eq_append_of_segments _ _ _ _ longer).1]
  simp [inside]

end

/-! ### Two stubs with one path -/

def packageParts (forest : Forest) (node : Nat) : List String := Name.segments (forest.fullName node) ++ ["_package.php"]

def commandParts (forest : Forest) (node : Nat) (command : Command) : List String :=
  Name.segments (forest.fullName node) ++ [command.name ++ ".php"]

def ownParts (forest : Forest) (node : Nat) : List (List String) :=
  packageParts forest node :: (forest.commands node).map (commandParts forest node)

section

variable {commands : List Command} {forest : Forest} (built : Forest.ofCommands commands = .ok forest)
  (plain : ∀ command ∈ commands, '/' ∉ command.fullName.toList)
include built plain

theorem parts_of_own (node : Nat) (bound : node < forest.size) :
    (ownCalls forest node).map (fun call => parts call.path) = ownParts forest node := by
  have above := free_of_node built '/' plain node bound
  rw [ownCalls, ownParts, List.map_cons, List.map_map]
  refine congrArg₂ List.cons (parts_package _ above) (List.map_congr_left ?_)
  intro command member
  obtain ⟨given, whole, undotted⟩ := command_of_node built node bound command member
  have free := plain command given
  rw [whole] at free
  simp only [Name.child, String.toList_append, List.mem_append, not_or] at free
  simp only [Function.comp_apply, commandCall, commandParts]
  rw [whole]
  exact parts_command _ _ undotted above free.2

theorem parts_of_calls : (calls forest).map (fun call => parts call.path) =
    forest.nodes.flatMap (ownParts forest) ++ [["ipcstub.php"]] := by
  have filled := Forest.filled_of_commands commands forest built
  rw [calls, List.map_append, List.map_flatMap]
  refine congrArg₂ _ (List.flatMap_congr ?_) (by simp [indexCall, parts_index])
  intro node member
  rw [filled.ordered, List.mem_range] at member
  exact parts_of_own built plain node member

omit plain in
theorem command_names_nodup (node : Nat) (bound : node < forest.size) :
    ((forest.commands node).map (·.name)).Nodup := by
  have filled := Forest.filled_of_commands commands forest built
  obtain ⟨slot, member, -, -, own⟩ := forest.slot_of_node node bound
  have distinct : ((forest.commands node).map (·.fullName)).Nodup := by
    rw [own, filled.contents slot member]
    exact keep_first_nodup _
  refine List.pairwise_map.mpr ((List.pairwise_map.mp distinct).imp_of_mem ?_)
  intro a b aMember bMember different same
  refine different ?_
  rw [(command_of_node built node bound a aMember).2.1, (command_of_node built node bound b bMember).2.1, same]

omit plain in
theorem own_parts_nodup (node : Nat) (bound : node < forest.size)
    (apart : ∀ command ∈ forest.commands node, command.name ≠ "_package") : (ownParts forest node).Nodup := by
  refine List.nodup_cons.mpr ⟨?_, ?_⟩
  · intro again
    obtain ⟨command, inside, same⟩ := List.mem_map.mp again
    have files : command.name ++ ".php" = "_package" ++ ".php" := by simpa [commandParts, packageParts] using same
    exact apart command inside (String.append_left_inj _ |>.mp files)
  · refine List.pairwise_map.mpr ((List.pairwise_map.mp (command_names_nodup built node bound)).imp ?_)
    intro a b different same
    have files : a.name ++ ".php" = b.name ++ ".php" := by simpa [commandParts] using same
    exact different (String.append_left_inj _ |>.mp files)

-- Paths differ exactly where no command is named like the file of its namespace.
theorem paths_nodup_iff : ((calls forest).map (·.path)).Nodup ↔
    ∀ command ∈ commands, command.name ≠ "_package" := by
  have filled := Forest.filled_of_commands commands forest built
  have same : ((calls forest).map (·.path)).Nodup ↔
      (forest.nodes.flatMap (ownParts forest) ++ [["ipcstub.php"]]).Nodup := by
    rw [← parts_of_calls built plain, ← List.nodup_map_iff parts_injective, List.map_map]
    rfl
  rw [same]
  constructor
  · intro apart command given named
    obtain ⟨node, bound, -, ⟨kept, inside, twin⟩, -⟩ := Forest.node_of_command filled command given
    have owned : (ownParts forest node).Nodup := by
      refine (List.nodup_flatMap.mp (List.nodup_append.mp apart).1).1 node ?_
      rw [filled.ordered]
      exact List.mem_range.mpr bound
    have alike : commandParts forest node kept = packageParts forest node := by
      have name : kept.name = "_package" := by rw [← named, Command.name, Command.name, twin]
      simp [commandParts, packageParts, name]
    exact (List.nodup_cons.mp owned).1 (alike ▸ List.mem_map_of_mem inside)
  · intro apart
    have own : ∀ node ∈ forest.nodes, (ownParts forest node).Nodup := by
      intro node member
      rw [filled.ordered, List.mem_range] at member
      refine own_parts_nodup built node member fun command inside => apart command ?_
      exact (command_of_node built node member command inside).1
    have folders : ∀ node, ∀ path ∈ ownParts forest node, path.dropLast = Name.segments (forest.fullName node) := by
      intro node path inside
      rcases List.mem_cons.mp inside with rfl | later
      · simp [packageParts]
      · obtain ⟨command, -, rfl⟩ := List.mem_map.mp later
        simp [commandParts]
    refine List.Nodup.append (List.nodup_flatMap.mpr ⟨own, ?_⟩) (List.nodup_singleton _) ?_
    · rw [filled.ordered]
      refine List.nodup_range.imp_of_mem ?_
      intro a b aMember bMember different path left right
      refine different (Forest.node_unique forest filled.distinct a b (List.mem_range.mp aMember)
        (List.mem_range.mp bMember) (Name.segments_injective _ _ ?_))
      rw [← folders a path left, folders b path right]
    · intro path inside last
      obtain ⟨node, -, owned⟩ := List.mem_flatMap.mp inside
      have outermost := folders node path owned
      rw [List.mem_singleton.mp last] at outermost
      exact Name.segments_ne_nil _ outermost.symm

omit plain in
theorem segment_of_node (node : Nat) (bound : node < forest.size) (segment : String)
    (inside : segment ∈ Name.segments (forest.fullName node)) :
    ∃ command ∈ commands, segment ∈ Name.segments command.fullName := by
  have represents := Forest.represents_of_commands commands forest built
  obtain ⟨slot, member, -, named, -⟩ := forest.slot_of_node node bound
  obtain ⟨-, command, given, below⟩ := (represents.covers (forest.fullName node)).mp
    (named ▸ List.mem_map_of_mem member)
  obtain ⟨first, more, longer⟩ := (Name.is_below_iff _ _).mp below
  exact ⟨command, given, longer ▸ List.mem_append_left _ inside⟩

end

/-! ### Where the paths lead -/

-- A component that names an entry of a folder.
def Real (part : String) : Prop := part ≠ "" ∧ part ≠ "." ∧ part ≠ ".."

theorem real_of_identifier (text : String) (valid : Text.isIdentifier text = true) : Real text := by
  refine ⟨identifier_filled text valid, ?_, ?_⟩
  · rintro rfl
    exact identifier_plain _ valid (by decide)
  · rintro rfl
    exact identifier_plain _ valid (by decide)

theorem real_file (name : String) : Real (name ++ ".php") := by
  have long : 3 ≤ (name ++ ".php").length := by
    rw [String.length_append, show (".php" : String).length = 4 from rfl]
    omega
  refine ⟨?_, ?_, ?_⟩ <;>
  · intro same
    rw [same] at long
    exact absurd long (by decide)

theorem landing_of_real (target : List String) (path : String) (real : ∀ part ∈ parts path, Real part) :
    Path.landing target path = target ++ parts path := by
  have relative : path.toList.head? ≠ some '/' := by
    intro lead
    have first := Text.split_at_head '/' path.toList
    cases chars : path.toList with
    | nil => simp [chars] at lead
    | cons c rest =>
        rw [chars, List.head?_cons, Option.some.injEq] at lead
        rw [chars, lead, List.takeWhile_cons_of_neg (by simp)] at first
        refine (real "" ?_).1 rfl
        rw [parts, chars, lead]
        exact List.mem_map_of_mem (List.mem_of_mem_head? first)
  rw [Path.landing, if_neg relative]
  rw [parts] at real ⊢
  generalize Text.splitAt '/' path.toList = components at real ⊢
  induction components generalizing target with
  | nil => simp
  | cons component rest ih =>
      obtain ⟨⟨filled, here, up⟩, others⟩ := List.forall_mem_cons.mp real
      have bare : component ≠ [] ∧ component ≠ ['.'] ∧ component ≠ ['.', '.'] :=
        ⟨fun same => filled (same ▸ rfl), fun same => here (same ▸ rfl), fun same => up (same ▸ rfl)⟩
      have step : Path.stepInto target component = target ++ [String.ofList component] := by
        simp [Path.stepInto, bare]
      rw [List.foldl_cons, step, ih _ others]
      simp

section

variable {commands : List Command} {forest : Forest} (built : Forest.ofCommands commands = .ok forest)
  (spelled : ∀ command ∈ commands, Name.Spelled command.fullName)
include built spelled

omit built in
theorem plain_of_spelled (c : Char) (other : c ≠ '.') (ends : Text.continuesIdentifier c = false) :
    ∀ command ∈ commands, c ∉ command.fullName.toList :=
  fun command given => free_of_spelled _ (spelled command given) c other ends

theorem real_of_call (call : Call) (member : call ∈ calls forest) : ∀ part ∈ parts call.path, Real part := by
  have filled := Forest.filled_of_commands commands forest built
  have listed := parts_of_calls built (plain_of_spelled spelled '/' (by decide) (by decide))
  have inside : parts call.path ∈ forest.nodes.flatMap (ownParts forest) ++ [["ipcstub.php"]] :=
    listed ▸ List.mem_map_of_mem member
  intro part among
  rcases List.mem_append.mp inside with own | last
  · obtain ⟨node, nodeMember, owned⟩ := List.mem_flatMap.mp own
    rw [filled.ordered, List.mem_range] at nodeMember
    have folders : ∀ segment ∈ Name.segments (forest.fullName node), Real segment := by
      intro segment held
      obtain ⟨command, given, held⟩ := segment_of_node built node nodeMember segment held
      exact real_of_identifier segment (spelled command given segment held)
    rcases List.mem_cons.mp owned with same | later
    · rw [same, packageParts, List.mem_append, List.mem_singleton] at among
      rcases among with above | rfl
      · exact folders part above
      · exact real_file "_package"
    · obtain ⟨command, -, same⟩ := List.mem_map.mp later
      rw [← same, commandParts, List.mem_append, List.mem_singleton] at among
      rcases among with above | rfl
      · exact folders part above
      · exact real_file command.name
  · rw [List.mem_singleton.mp last, List.mem_singleton] at among
    rw [among]
    exact real_file "ipcstub"

end

end Stubs

end StubForge
