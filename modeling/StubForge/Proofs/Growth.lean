import StubForge.Proofs.Arrangement

set_option autoImplicit false

/-!
What the namespaces of an outline are, and which commands they hold, in terms of the commands that
the outline was made from.
-/

namespace StubForge.Outline

def topNames : Outline → List String
  | empty => []
  | node fullName _ _ beside => fullName :: beside.topNames

def names : Outline → List String
  | empty => []
  | node fullName _ below beside => fullName :: (below.names ++ beside.names)

-- The commands that are passed on from above a namespace to it.
def passedTo (parent : Option String) (fullName : String) (commands : List Command) : List Command :=
  commands.filter fun command => targetOf parent command = some fullName

-- Every namespace that some command is passed on to is there.
def Complete (parent : Option String) (commands : List Command) (outline : Outline) : Prop :=
  ∀ command ∈ commands, ∀ target, targetOf parent command = some target → target ∈ outline.topNames

-- Each namespace has some command passed on to it, and holds those of them that lie directly in it.
def GrownFrom (parent : Option String) (commands : List Command) : Outline → Prop
  | empty => True
  | node fullName own below beside =>
      passedTo parent fullName commands ≠ [] ∧
        (∀ command ∈ passedTo parent fullName commands, Accepted (some fullName) command) ∧
        own = keepFirst ((passedTo parent fullName commands).filter fun command =>
          placement (some fullName) command.fullName = .here) ∧
        below.GrownFrom (some fullName) (passedTo parent fullName commands) ∧
        below.Complete (some fullName) (passedTo parent fullName commands) ∧
        fullName ∉ beside.topNames ∧ beside.GrownFrom parent commands

theorem grown_of_follows (parent : Option String) (commands : List Command) (outline : Outline)
    (groups : Groups) (distinct : (groups.map (·.1)).Nodup)
    (sorted : ∀ key members, (key, members) ∈ groups →
      members = passedTo parent key commands ∧ members ≠ [])
    (follows : outline.Follows groups) :
    outline.topNames = groups.map (·.1) ∧ outline.GrownFrom parent commands := by
  induction outline generalizing parent commands groups with
  | empty =>
      have none : groups = [] := follows
      exact ⟨by simp [none, topNames], trivial⟩
  | node fullName own below beside ihBelow ihBeside =>
      obtain ⟨members, rest, rfl, clean, ownEq, followsBelow, followsBeside⟩ := follows
      obtain ⟨fresh, distinctRest⟩ := List.nodup_cons.mp distinct
      obtain ⟨membersEq, present⟩ := sorted fullName members List.mem_cons_self
      obtain ⟨accepted, result⟩ := sort_below_without_fault (some fullName) {} members clean
      have groupsBelow := Forest.groups_of_sorted (some fullName) members clean
      obtain ⟨namesBelow, grownBelow⟩ := ihBelow (some fullName) members _
        groupsBelow.distinct groupsBelow.members followsBelow
      obtain ⟨namesBeside, grownBeside⟩ := ihBeside parent commands rest distinctRest
        (fun key inside member => sorted key inside (List.mem_cons_of_mem _ member)) followsBeside
      rw [result] at ownEq
      subst membersEq
      refine ⟨by simp [topNames, namesBeside], present, accepted, by simpa using ownEq, grownBelow, ?_, ?_,
        grownBeside⟩
      · intro command member target passed
        rw [namesBelow]
        exact groupsBelow.complete command member target passed
      · rw [namesBeside]
        exact fresh

theorem mem_passed (parent : Option String) (fullName : String) (commands : List Command)
    (command : Command) : command ∈ passedTo parent fullName commands ↔
      command ∈ commands ∧ targetOf parent command = some fullName := by
  simp [passedTo]

theorem segments_of_top (parent : Option String) (commands : List Command) (outline : Outline)
    (grown : outline.GrownFrom parent commands) (top : String) (member : top ∈ outline.topNames) :
    ∃ first, first ≠ "" ∧ Name.segments top = pathOf parent ++ [first] := by
  induction outline with
  | empty => simp [topNames] at member
  | node fullName own below beside _ ihBeside =>
      obtain ⟨present, -, -, -, -, -, grownBeside⟩ := grown
      rcases List.mem_cons.mp member with rfl | later
      · obtain ⟨command, inside⟩ := List.exists_mem_of_ne_nil _ present
        obtain ⟨first, _, _, _, filled, segments⟩ :=
          (target_eq_some_iff parent command top).mp ((mem_passed parent top commands command).mp inside).2
        exact ⟨first, filled, segments⟩
      · exact ihBeside grownBeside later

-- Every namespace lies at or below one of those side by side.
theorem top_of_name (parent : Option String) (commands : List Command) (outline : Outline)
    (grown : outline.GrownFrom parent commands) (name : String) (member : name ∈ outline.names) :
    ∃ top ∈ outline.topNames, Name.segments top <+: Name.segments name := by
  induction outline generalizing parent commands with
  | empty => simp [names] at member
  | node fullName own below beside ihBelow ihBeside =>
      obtain ⟨-, -, -, grownBelow, -, -, grownBeside⟩ := grown
      simp only [names, List.mem_cons, List.mem_append] at member
      rcases member with rfl | inside | later
      · exact ⟨name, List.mem_cons_self, List.prefix_refl _⟩
      · obtain ⟨top, topMember, leads⟩ := ihBelow _ _ grownBelow inside
        obtain ⟨first, -, segments⟩ := segments_of_top _ _ below grownBelow top topMember
        refine ⟨fullName, List.mem_cons_self, List.IsPrefix.trans ?_ leads⟩
        simp [segments, pathOf]
      · obtain ⟨top, topMember, leads⟩ := ihBeside _ _ grownBeside later
        exact ⟨top, List.mem_cons_of_mem _ topMember, leads⟩

theorem command_below_name (parent : Option String) (commands : List Command) (outline : Outline)
    (grown : outline.GrownFrom parent commands) (name : String) (member : name ∈ outline.names) :
    ∃ command ∈ commands, Name.isBelow command.fullName name = true := by
  induction outline generalizing parent commands with
  | empty => simp [names] at member
  | node fullName own below beside ihBelow ihBeside =>
      obtain ⟨present, -, -, grownBelow, -, -, grownBeside⟩ := grown
      simp only [names, List.mem_cons, List.mem_append] at member
      rcases member with rfl | inside | later
      · obtain ⟨command, passed⟩ := List.exists_mem_of_ne_nil _ present
        obtain ⟨given, target⟩ := (mem_passed parent name commands command).mp passed
        obtain ⟨first, next, more, longer, -, segments⟩ := (target_eq_some_iff parent command name).mp target
        refine ⟨command, given, (Name.is_below_iff _ _).mpr ⟨next, more, ?_⟩⟩
        simp [longer, segments]
      · obtain ⟨command, passed, lower⟩ := ihBelow _ _ grownBelow inside
        exact ⟨command, ((mem_passed parent fullName commands command).mp passed).1, lower⟩
      · exact ihBeside _ _ grownBeside later

-- A name that a passed command lies below is a namespace, if it lies at or below the namespace that the
-- command is passed on to.
theorem name_of_command_below (parent : Option String) (commands : List Command) (outline : Outline)
    (grown : outline.GrownFrom parent commands) (command : Command) (given : command ∈ commands)
    (top : String) (target : targetOf parent command = some top) (topMember : top ∈ outline.topNames)
    (name : String) (leads : Name.segments top <+: Name.segments name)
    (lower : Name.isBelow command.fullName name = true) : name ∈ outline.names := by
  induction outline generalizing parent commands top with
  | empty => simp [topNames] at topMember
  | node fullName own below beside ihBelow ihBeside =>
      obtain ⟨-, accepted, -, grownBelow, complete, -, grownBeside⟩ := grown
      simp only [names, List.mem_cons, List.mem_append]
      rcases List.mem_cons.mp topMember with rfl | later
      · obtain ⟨rest, longer⟩ := leads
        cases rest with
        | nil => exact .inl (Name.segments_injective name top (by simpa using longer.symm))
        | cons first more =>
            have passed := (mem_passed parent top commands command).mpr ⟨given, target⟩
            obtain ⟨next, others, whole⟩ := (Name.is_below_iff _ _).mp lower
            rw [← longer, List.append_assoc, List.cons_append] at whole
            have filled := segment_of_accepted (some top) command (accepted command passed) first _ whole
            have plain : '.' ∉ first.toList := by
              apply Name.plain_of_mem_segments name
              simp [← longer]
            have segments := Name.segments_child top first plain
            have target : targetOf (some top) command = some (Name.child top first) := by
              rw [target_eq_some_iff]
              cases more with
              | nil => exact ⟨first, next, others, by simpa [pathOf] using whole, filled, segments⟩
              | cons second rest =>
                  exact ⟨first, second, rest ++ next :: others, by simpa [pathOf] using whole, filled, segments⟩
            have leads : Name.segments (Name.child top first) <+: Name.segments name := by
              rw [segments, ← longer]
              exact ⟨more, by simp⟩
            exact .inr (.inl (ihBelow _ _ grownBelow passed _ target (complete command passed _ target) leads))
      · exact .inr (.inr (ihBeside _ _ grownBeside given top target later leads))

theorem tops_apart (parent : Option String) (a b name : String) (first second : String)
    (left : Name.segments a = pathOf parent ++ [first]) (right : Name.segments b = pathOf parent ++ [second])
    (leftLeads : Name.segments a <+: Name.segments name) (rightLeads : Name.segments b <+: Name.segments name) :
    a = b := by
  have sameLength : (Name.segments a).length = (Name.segments b).length := by simp [left, right]
  have leads := List.prefix_of_prefix_length_le leftLeads rightLeads (Nat.le_of_eq sameLength)
  exact Name.segments_injective a b (leads.eq_of_length sameLength)

theorem below_of_name (fullName : String) (members : List Command) (below : Outline)
    (grown : below.GrownFrom (some fullName) members) (name : String) (member : name ∈ below.names) :
    Name.isBelow name fullName = true := by
  obtain ⟨top, topMember, rest, longer⟩ := top_of_name _ _ below grown name member
  obtain ⟨next, -, segments⟩ := segments_of_top _ _ below grown top topMember
  rw [Name.is_below_iff]
  exact ⟨next, rest, by simpa [segments, pathOf] using longer.symm⟩

theorem names_nodup (parent : Option String) (commands : List Command) (outline : Outline)
    (grown : outline.GrownFrom parent commands) : outline.names.Nodup := by
  induction outline generalizing parent commands with
  | empty => exact List.nodup_nil
  | node fullName own below beside ihBelow ihBeside =>
      obtain ⟨first, -, segments⟩ := segments_of_top parent commands _ grown fullName List.mem_cons_self
      obtain ⟨-, -, -, grownBelow, -, fresh, grownBeside⟩ := grown
      have deeper : ∀ name ∈ below.names, Name.segments fullName <+: Name.segments name ∧ fullName ≠ name :=
        fun name member => (Name.is_below_iff_leads name fullName).mp
          (below_of_name _ _ below grownBelow name member)
      have elsewhere : ∀ name ∈ beside.names, ¬ Name.segments fullName <+: Name.segments name := by
        intro name member leads
        obtain ⟨top, topMember, topLeads⟩ := top_of_name _ _ beside grownBeside name member
        obtain ⟨second, -, topSegments⟩ := segments_of_top _ _ beside grownBeside top topMember
        have same := tops_apart parent fullName top name first second segments topSegments leads topLeads
        exact fresh (same ▸ topMember)
      refine List.nodup_cons.mpr ⟨?_, ?_⟩
      · intro again
        rcases List.mem_append.mp again with inside | later
        · exact (deeper fullName inside).2 rfl
        · exact elsewhere fullName later (List.prefix_refl _)
      · refine List.Nodup.append (ihBelow _ _ grownBelow) (ihBeside _ _ grownBeside) ?_
        intro name inside later
        exact elsewhere name later (deeper name inside).1

theorem names_of_slots (outline : Outline) (above : Option Nat) (number : Nat) :
    (outline.slots above number).map (·.fullName) = outline.names := by
  induction outline generalizing above number with
  | empty => rfl
  | node fullName own below beside ihBelow ihBeside => simp [slots, names, ihBelow, ihBeside]

-- A command goes the way to its own namespace.
theorem target_of_home (parent : Option String) (command : Command) (top first : String)
    (filled : first ≠ "") (segments : Name.segments top = pathOf parent ++ [first])
    (leads : Name.segments top <+: Name.segments command.home) :
    targetOf parent command = some top := by
  have named : command.home ≠ "" := by
    intro empty
    have short : Name.segments "" = [""] := rfl
    rw [empty, short, segments] at leads
    have inside : first ∈ [""] := leads.subset (by simp)
    exact filled (List.mem_singleton.mp inside)
  obtain ⟨segment, whole⟩ := (Name.parent_eq_iff command.fullName command.home named).mp rfl
  obtain ⟨rest, longer⟩ := leads
  rw [← longer, segments] at whole
  rw [target_eq_some_iff]
  cases rest with
  | nil => exact ⟨first, segment, [], by simpa using whole, filled, segments⟩
  | cons next more => exact ⟨first, next, more ++ [segment], by simpa using whole, filled, segments⟩

theorem here_iff_home (fullName : String) (command : Command) (named : fullName ≠ "")
    (accepted : Accepted (some fullName) command) :
    placement (some fullName) command.fullName = .here ↔ command.home = fullName := by
  rw [here_iff, Command.home, Name.parent_eq_iff command.fullName fullName named]
  constructor
  · rintro ⟨last, whole, -⟩
    exact ⟨last, whole⟩
  · rintro ⟨last, whole⟩
    exact ⟨last, whole, segment_of_accepted (some fullName) command accepted last [] whole⟩

theorem top_ne_empty (parent : Option String) (top first : String) (filled : first ≠ "")
    (segments : Name.segments top = pathOf parent ++ [first]) : top ≠ "" := by
  rintro rfl
  have short : [""] = pathOf parent ++ [first] := segments
  have inside : first ∈ [""] := by simp [short]
  exact filled (List.mem_singleton.mp inside)

theorem commands_of_slot (parent : Option String) (commands : List Command) (outline : Outline)
    (grown : outline.GrownFrom parent commands) (above : Option Nat) (number : Nat) (slot : Slot)
    (member : slot ∈ outline.slots above number) :
    slot.commands = keepFirst (commands.filter fun command => command.home = slot.fullName) := by
  induction outline generalizing parent commands above number with
  | empty => simp [slots] at member
  | node fullName own below beside ihBelow ihBeside =>
      obtain ⟨first, filled, segments⟩ := segments_of_top parent commands _ grown fullName List.mem_cons_self
      obtain ⟨-, accepted, ownEq, grownBelow, -, -, grownBeside⟩ := grown
      simp only [slots, List.mem_cons, List.mem_append] at member
      rcases member with rfl | inside | later
      · have named := top_ne_empty parent fullName first filled segments
        have same : ∀ command ∈ commands,
            (decide (placement (some fullName) command.fullName = .here) &&
              decide (targetOf parent command = some fullName)) = decide (command.home = fullName) := by
          intro command given
          by_cases target : targetOf parent command = some fullName
          · have passed := (mem_passed parent fullName commands command).mpr ⟨given, target⟩
            simp [target, here_iff_home fullName command named (accepted command passed)]
          · have elsewhere : command.home ≠ fullName := fun home =>
              target (target_of_home parent command fullName first filled segments (home ▸ List.prefix_refl _))
            simp [target, elsewhere]
        dsimp only
        rw [ownEq, passedTo, List.filter_filter, List.filter_congr same]
      · have leads : Name.segments fullName <+: Name.segments slot.fullName := by
          have listed : slot.fullName ∈ below.names := by
            rw [← names_of_slots below (some number) (number + 1)]
            exact List.mem_map_of_mem inside
          exact ((Name.is_below_iff_leads _ _).mp (below_of_name _ _ below grownBelow _ listed)).1
        have same : ∀ command ∈ commands,
            (decide (command.home = slot.fullName) && decide (targetOf parent command = some fullName)) =
              decide (command.home = slot.fullName) := by
          intro command _
          by_cases home : command.home = slot.fullName
          · have target := target_of_home parent command fullName first filled segments (home ▸ leads)
            simp [target]
          · simp [home]
        rw [ihBelow _ _ grownBelow _ _ inside, passedTo, List.filter_filter, List.filter_congr same]
      · exact ihBeside _ _ grownBeside _ _ later

-- At the top, the namespaces are all beginnings of command names that end before a dot.
theorem mem_names_iff (outline : Outline) (commands : List Command) (grown : outline.GrownFrom none commands)
    (complete : outline.Complete none commands) (accepted : ∀ command ∈ commands, Accepted none command)
    (name : String) : name ∈ outline.names ↔
      name ≠ "" ∧ ∃ command ∈ commands, Name.isBelow command.fullName name = true := by
  constructor
  · intro member
    refine ⟨?_, command_below_name none commands outline grown name member⟩
    rintro rfl
    obtain ⟨top, topMember, leads⟩ := top_of_name none commands outline grown "" member
    obtain ⟨first, filled, segments⟩ := segments_of_top none commands outline grown top topMember
    have inside : first ∈ Name.segments "" := leads.subset (by simp [segments])
    exact filled (List.mem_singleton.mp inside)
  · rintro ⟨filled, command, given, lower⟩
    obtain ⟨next, more, longer⟩ := (Name.is_below_iff _ _).mp lower
    cases pieces : Name.segments name with
    | nil => exact absurd pieces (Name.segments_ne_nil name)
    | cons first rest =>
        rw [pieces, List.cons_append] at longer
        have firstFilled := segment_of_accepted none command (accepted command given) first _ longer
        have plain : '.' ∉ first.toList := by
          apply Name.plain_of_mem_segments name
          simp [pieces]
        have segments := Name.segments_of_plain first plain
        have target : targetOf none command = some first := by
          rw [target_eq_some_iff]
          cases rest with
          | nil => exact ⟨first, next, more, longer, firstFilled, segments⟩
          | cons second others => exact ⟨first, second, others ++ next :: more, longer, firstFilled, segments⟩
        refine name_of_command_below none commands outline grown command given first target
          (complete command given first target) name ?_ lower
        rw [segments, pieces]
        exact ⟨rest, rfl⟩

end StubForge.Outline

namespace StubForge.Forest

-- A forest of commands is the layout of a complete outline that is grown from the commands.
theorem of_commands_grown (commands : List Command) (forest : Forest)
    (built : ofCommands commands = .ok forest) :
    (∀ command ∈ commands, Accepted none command) ∧
      ∃ outline : Outline, outline.GrownFrom none commands ∧ outline.Complete none commands ∧
        forest = outline.toForest := by
  obtain ⟨clean, outline, follows, layout⟩ := of_commands_layout commands forest built
  have groups := groups_of_sorted none commands clean
  obtain ⟨names, grown⟩ := Outline.grown_of_follows none commands outline _ groups.distinct
    groups.members follows
  refine ⟨(sort_below_without_fault none {} commands clean).1, outline, grown, ?_, layout⟩
  intro command member target passed
  rw [names]
  exact groups.complete command member target passed

end StubForge.Forest
