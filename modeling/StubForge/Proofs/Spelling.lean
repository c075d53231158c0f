import StubForge.Identifier
import StubForge.Plan
import StubForge.Proofs.Admission
import StubForge.Proofs.ModuleNames
import StubForge.Proofs.Scanning

set_option autoImplicit false

/-!
How the names of discovered commands are spelled, and that names spelled so always make a forest.
-/

namespace StubForge

-- A name of identifiers with dots between them.
def Name.Spelled (name : String) : Prop := ∀ segment ∈ Name.segments name, Text.isIdentifier segment = true

-- A command name: a class in some module.
structure Name.OfCommand (name : String) : Prop where
  spelled : Name.Spelled name
  dotted : 2 ≤ (Name.segments name).length

theorem continues_of_starts (c : Char) (starts : Text.startsIdentifier c = true) : Text.continuesIdentifier c = true := by
  unfold Text.startsIdentifier at starts
  unfold Text.continuesIdentifier
  split at starts
  · rename_i small
    rw [if_pos small]
    simp only [Char.isAlphanum, Bool.or_eq_true] at starts ⊢
    rcases starts with letter | line
    · exact .inl (.inl letter)
    · exact .inr line
  · rename_i large
    rw [if_neg large, starts, Bool.true_or]

theorem continues_of_identifier (text : String) (valid : Text.isIdentifier text = true) (c : Char)
    (inside : c ∈ text.toList) : Text.continuesIdentifier c = true := by
  rw [Text.isIdentifier] at valid
  cases chars : text.toList with
  | nil => simp [chars] at inside
  | cons first rest =>
      rw [chars, Text.isIdentifierChars, Bool.and_eq_true] at valid
      rw [chars] at inside
      rcases List.mem_cons.mp inside with rfl | later
      · exact continues_of_starts c valid.1
      · exact List.all_eq_true.mp valid.2 c later

theorem identifier_plain (text : String) (valid : Text.isIdentifier text = true) : '.' ∉ text.toList :=
  Identifier.plain ⟨text, valid⟩

theorem identifier_filled (text : String) (valid : Text.isIdentifier text = true) : text ≠ "" := by
  rintro rfl
  simp [Text.isIdentifier, Text.isIdentifierChars] at valid

theorem spelled_child (module segment : String) (spelled : Name.Spelled module)
    (valid : Text.isIdentifier segment = true) : Name.OfCommand (Name.child module segment) := by
  have segments := Name.segments_child module segment (identifier_plain segment valid)
  refine ⟨?_, ?_⟩
  · intro part inside
    rw [segments, List.mem_append, List.mem_singleton] at inside
    rcases inside with above | rfl
    · exact spelled part above
    · exact valid
  · rw [segments, List.length_append, List.length_singleton]
    have filled := List.length_pos_of_ne_nil (Name.segments_ne_nil module)
    omega

/-! ### Names on the class path -/

theorem module_name_spelled (path : Path) (module : String) (named : moduleName? path = some module) :
    Name.Spelled module := by
  obtain ⟨folders, stem, -, nameable, rfl⟩ := (module_name_iff path module).mp named
  rw [Name.Spelled, Name.segments_of_segments _ nameable.present fun part inside =>
    identifier_plain part (nameable.valid part inside)]
  exact nameable.valid

theorem type_names_spelled (source : SourceUnit) (spelled : Name.Spelled source.module) :
    ∀ name ∈ source.typeNames.1, Name.OfCommand name := by
  rw [SourceUnit.typeNames]
  split
  · rename_i names read
    intro name member
    obtain ⟨segment, inside, rfl⟩ := List.mem_map.mp member
    refine spelled_child source.module segment spelled ?_
    have written : ∃ statements, names = Source.classNames statements := by
      rw [SourceUnit.classNames?] at read
      split at read
      · exact ⟨_, (Option.some.inj read).symm⟩
      · obtain ⟨statements, -, same⟩ := Option.map_eq_some_iff.mp read
        exact ⟨statements, same.symm⟩
    obtain ⟨statements, rfl⟩ := written
    rw [Source.classNames, List.mem_eraseDups] at inside
    obtain ⟨identifier, -, rfl⟩ := List.mem_map.mp inside
    exact identifier.valid
  · simp

namespace ClassPath

theorem scan_spelled (roots : List Path) (packages : Option (List String)) (session after : Session)
    (names : List String) (scanned : scan roots packages session = (.ok names, after)) :
    ∀ name ∈ names, Name.OfCommand name := by
  intro name member
  rw [scan_run] at scanned
  have found := congrArg Prod.fst scanned
  obtain ⟨root, -, told⟩ := (mem_scanned _ _ packages roots names found name).mp member
  obtain ⟨sources, read, source, inside, own⟩ := (mem_types _ _ packages root name).mp told
  obtain ⟨path, named⟩ := named_of_sources _ _ packages root sources read source inside
  exact type_names_spelled source (module_name_spelled path _ named) name own

end ClassPath

/-! ### Names of discovered commands -/

namespace Discovery

theorem classify_named (packages : List String) (capability : ClassId) (loader later : Loader) (typeName : String)
    (session after : Session) (command : Command)
    (done : classify packages capability loader typeName session = (.ok (some command, later), after)) :
    command.fullName = typeName := by
  unfold classify at done
  split at done
  · cases done
  · obtain ⟨⟨loaded, opened⟩, middle, _, done⟩ := ok_of_bind done
    cases loaded with
    | none => cases done
    | some id =>
        obtain ⟨now, _, seen, done⟩ := ok_of_bind done
        dsimp only at done
        split at done
        · cases done
        · split at done
          · obtain ⟨_, _, _, done⟩ := ok_of_bind done
            cases done
            rfl
          · cases done

theorem mem_add_new (found : List Command) (command other : Command) (member : other ∈ Command.addNew found command) :
    other ∈ found ∨ other = command := by
  unfold Command.addNew at member
  split at member
  · exact .inl member
  · simpa using member

theorem classify_all_named (packages : List String) (capability : ClassId) (typeNames : List String) (loader : Loader)
    (found commands : List Command) (session after : Session)
    (done : classifyAll packages capability loader found typeNames session = (.ok commands, after)) :
    ∀ command ∈ commands, command ∈ found ∨ command.fullName ∈ typeNames := by
  induction typeNames generalizing loader found session with
  | nil =>
      cases done
      exact fun command member => .inl member
  | cons typeName rest ih =>
      rw [classifyAll] at done
      obtain ⟨⟨classified, later⟩, middle, here, done⟩ := ok_of_bind done
      intro command member
      rcases ih later _ middle done command member with known | listed
      · cases classified with
        | none => exact .inl known
        | some own =>
            rcases mem_add_new found own command known with before | rfl
            · exact .inl before
            · rw [classify_named packages capability loader later typeName session middle command here]
              exact .inr List.mem_cons_self
      · exact .inr (List.mem_cons_of_mem typeName listed)

theorem with_loader_ok {α : Type} (loader : Loader) (block : Loader → Run α) (session after : Session) (value : α)
    (done : withLoader loader block session = (.ok value, after)) :
    ∃ opened before middle, block opened before = (.ok value, middle) := by
  obtain ⟨opened, before, _, done⟩ := ok_of_bind done
  obtain ⟨result, middle, ran, done⟩ := ok_of_bind done
  obtain ⟨_, last, _, done⟩ := ok_of_bind done
  cases result with
  | error error => cases done
  | ok found =>
      cases done
      refine ⟨opened, before, middle, ?_⟩
      cases known : block opened before with
      | mk outcome left =>
          simp only [Run.outcome, known] at ran
          cases ran
          rfl

theorem discover_spelled (roots : List Path) (packages : List String) (capability : Capability)
    (session after : Session) (commands : List Command)
    (done : discover roots packages capability session = (.ok commands, after)) :
    ∀ command ∈ commands, Name.OfCommand command.fullName := by
  obtain ⟨typeNames, scanned, listed, done⟩ := ok_of_bind done
  obtain ⟨now, _, seen, done⟩ := ok_of_bind done
  cases made : Loader.ofRoots now.directory roots with
  | error error =>
      simp only [made] at done
      cases done
  | ok loader =>
      simp only [made] at done
      obtain ⟨opened, before, middle, ran⟩ := with_loader_ok _ _ _ _ _ done
      obtain ⟨id, resolved, _, ran⟩ := ok_of_bind ran
      intro command member
      rcases classify_all_named _ _ _ _ _ _ _ _ ran command member with impossible | named
      · cases impossible
      · exact ClassPath.scan_spelled _ _ _ _ _ listed _ named

end Discovery

-- The commands that a run finds have names of identifiers, two at least.
theorem Plan.discover_spelled (plan : Plan) (session after : Session) (commands : List Command)
    (done : plan.discover session = (.ok commands, after)) :
    ∀ command ∈ commands, Name.OfCommand command.fullName := by
  unfold discover at done
  cases checked : Configuration.check plan.configurations with
  | error error =>
      simp only [checked] at done
      cases done
  | ok accepted =>
      simp only [checked] at done
      obtain ⟨_, said, _, done⟩ := ok_of_bind done
      obtain ⟨found, middle, searched, done⟩ := ok_of_bind done
      obtain ⟨_, last, _, done⟩ := ok_of_bind done
      cases done
      exact Discovery.discover_spelled _ _ _ _ _ _ searched

/-! ### Building forests -/

namespace Forest

theorem of_commands_ok (commands : List Command) (named : ∀ command ∈ commands, Name.OfCommand command.fullName) :
    ∃ forest, ofCommands commands = .ok forest := by
  refine (of_commands_ok_iff commands).mpr fun command member misfit => ?_
  obtain ⟨spelled, dotted⟩ := named command member
  rcases misfit with plain | gap
  · rw [Name.segments_of_plain _ plain] at dotted
    simp at dotted
  · exact absurd rfl (identifier_filled "" (spelled "" gap))

end Forest

end StubForge
