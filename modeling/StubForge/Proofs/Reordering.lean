import StubForge.Proofs.Containment
import StubForge.Proofs.Policy
import StubForge.Proofs.TypeNames

set_option autoImplicit false

/-!
Configurations in another order: they are as sound as before, and the same commands are found for them, although their
packages are looked for in another order and announced so.
-/

namespace StubForge

/-! ### Packages in another order -/

section

variable {packages others : List String} (same : ∀ package, package ∈ packages ↔ package ∈ others)
include same

theorem Name.any_reordered (holds : String → Bool) : packages.any holds = others.any holds := by
  rw [Bool.eq_iff_iff, List.any_eq_true, List.any_eq_true]
  exact exists_congr fun package => and_congr_left fun _ => same package

namespace ClassPath

theorem wanted_reordered : wanted (some packages) = wanted (some others) :=
  funext fun _ => Name.any_reordered same _

theorem archive_units_reordered (archive : Archive) (root : String) (names : List String) :
    archiveUnitsFrom archive root (some packages) names = archiveUnitsFrom archive root (some others) names := by
  induction names with
  | nil => rfl
  | cons name rest ih => simp only [archiveUnitsFrom, wanted_reordered same, ih]

theorem scan_of_reordered (disk : Disk) (directory : Place) (roots : List Path) :
    scanOf disk directory roots (some packages) = scanOf disk directory roots (some others) := by
  have units (root : Path) : rootUnits disk directory root (some packages) =
      rootUnits disk directory root (some others) := by
    simp only [rootUnits, folderUnits, folderUnit?, wanted_reordered same, archive_units_reordered same]
  have each : scanRoot disk directory (some packages) = scanRoot disk directory (some others) := by
    funext scan root
    simp only [scanRoot, units]
  rw [scanOf, scanOf, each]

end ClassPath

namespace Discovery

theorem classify_all_reordered (capability : ClassId) (loader : Loader) (found : List Command)
    (typeNames : List String) : classifyAll packages capability loader found typeNames =
      classifyAll others capability loader found typeNames := by
  have each : classify packages capability = classify others capability := by
    funext loader typeName
    rw [classify, classify, Name.inPackages, Name.inPackages, Name.any_reordered same]
  induction typeNames generalizing loader found with
  | nil => rfl
  | cons typeName rest ih => simp only [classifyAll, each, ih]

theorem discover_reordered (roots : List Path) (capability : Capability) :
    discover roots packages capability = discover roots others capability := by
  have scanned : ClassPath.scan roots (some packages) = ClassPath.scan roots (some others) := by
    simp only [ClassPath.scan, ClassPath.scan_of_reordered same]
  simp only [discover, scanned, classify_all_reordered same]

end Discovery

end

/-! ### Configurations in another order -/

namespace Configuration

theorem error_unseen (seen : List String) (config : Configuration) :
    config.error? seen = none ↔ config.error? [] = none ∧ config.name ∉ seen := by
  simp only [error?]
  by_cases named : config.name = ""
  · simp [named]
  · by_cases known : config.name ∈ seen
    · simp [named, known]
    · simp [named, known]

theorem check_from_iff (configs : List Configuration) (seen : List String) :
    checkFrom seen configs = .ok () ↔ (∀ config ∈ configs, config.error? [] = none) ∧
      (configs.map (·.name)).Nodup ∧ ∀ config ∈ configs, config.name ∉ seen := by
  induction configs generalizing seen with
  | nil => simp [checkFrom]
  | cons config rest ih =>
      rw [checkFrom]
      cases sound : config.error? seen with
      | some error =>
          refine iff_of_false (by simp) fun accepted => ?_
          obtain ⟨every, -, fresh⟩ := accepted
          have none :=
            (error_unseen seen config).mpr ⟨every config List.mem_cons_self, fresh config List.mem_cons_self⟩
          rw [none] at sound
          cases sound
      | none =>
          obtain ⟨own, fresh⟩ := (error_unseen seen config).mp sound
          dsimp only
          rw [ih, List.forall_mem_cons, List.forall_mem_cons, List.map_cons, List.nodup_cons]
          constructor
          · rintro ⟨every, distinct, new⟩
            refine ⟨⟨own, every⟩, ⟨?_, distinct⟩, fresh, fun other member seen => ?_⟩
            · intro twice
              obtain ⟨other, member, alike⟩ := List.mem_map.mp twice
              exact new other member (by simp [alike])
            · exact new other member (List.mem_append_left _ seen)
          · rintro ⟨⟨-, every⟩, ⟨once, distinct⟩, -, new⟩
            refine ⟨every, distinct, fun other member => ?_⟩
            rw [List.mem_append, List.mem_singleton, not_or]
            exact ⟨new other member, fun alike => once (alike ▸ List.mem_map_of_mem member)⟩

-- Configurations are sound in every order or in none.
theorem check_reordered (configs order : List Configuration) (permuted : order.Perm configs)
    (checked : check configs = .ok ()) : check order = .ok () := by
  rw [check] at checked ⊢
  split at checked
  · cases checked
  · rename_i filled
    obtain ⟨every, distinct, -⟩ := (check_from_iff configs []).mp checked
    rw [permuted.isEmpty_eq, if_neg filled, check_from_iff]
    exact ⟨fun config member => every config (permuted.mem_iff.mp member), (permuted.map _).nodup_iff.mpr distinct,
      by simp⟩

end Configuration

namespace Plan

def reordered (plan : Plan) (order : List Configuration) : Plan := { plan with configurations := order }

theorem say_all_run (texts : List String) (session : Session) :
    ∃ records, sayAll texts session = (.ok (), { session with records }) := by
  induction texts generalizing session with
  | nil => exact ⟨session.records, rfl⟩
  | cons text rest ih =>
      obtain ⟨records, others⟩ :=
        ih { session with records := session.records ++ [{ level := .info, message := text }] }
      exact ⟨records, (bind_ok (Run.say_run session .info text) _).trans others⟩

-- What a discovery comes to once the configurations are sound.
theorem discover_run (plan : Plan) (session : Session)
    (checked : Configuration.check plan.configurations = .ok ()) :
    ∃ records, ∀ commands last, plan.discover session = (.ok commands, last) ↔
      ∃ after, Discovery.discover plan.classpath (allPackages plan.configurations) plan.capability
          { session with records } = (.ok commands, after) ∧
        last = { after with
          records := after.records ++ [{ level := .info, message := foundText commands.length }] } := by
  obtain ⟨records, announced⟩ := say_all_run (announcement plan.configurations) session
  refine ⟨records, fun commands last => ?_⟩
  rw [discover, checked]
  dsimp only
  rw [bind_ok announced]
  constructor
  · intro found
    obtain ⟨given, after, searched, rest⟩ := ok_of_bind found
    cases rest
    exact ⟨after, searched, rfl⟩
  · rintro ⟨after, searched, rfl⟩
    rw [bind_ok searched]
    rfl

-- Whatever order the configurations are given in, the same commands are found, and the same world is left.
theorem discover_reordered (plan : Plan) (order : List Configuration) (permuted : order.Perm plan.configurations)
    (session discovered : Session) (commands : List Command)
    (found : plan.discover session = (.ok commands, discovered)) :
    ∃ last, (plan.reordered order).discover session = (.ok commands, last) ∧ discovered.SameButRecords last := by
  have packages (package : String) : package ∈ allPackages plan.configurations ↔ package ∈ allPackages order := by
    rw [allPackages, allPackages, ClassPath.mem_add_names, ClassPath.mem_add_names]
    simp [permuted.mem_iff]
  have checked := check_of_discover session discovered commands found
  obtain ⟨records, runs⟩ := discover_run plan session checked
  obtain ⟨records', runs'⟩ := discover_run (plan.reordered order) session
    (Configuration.check_reordered plan.configurations order permuted checked)
  obtain ⟨after, searched, rfl⟩ := (runs commands discovered).mp found
  obtain ⟨same, still, -⟩ := Discovery.unrecorded_discover plan.classpath (allPackages plan.configurations)
    plan.capability { session with records } { session with records := records' } ⟨rfl, rfl⟩
  rw [searched, Discovery.discover_reordered packages] at same still
  cases again : Discovery.discover plan.classpath (allPackages order) plan.capability
      { session with records := records' } with
  | mk result last =>
      rw [again] at same still
      cases same
      exact ⟨_, (runs' commands _).mpr ⟨last, again, rfl⟩, still.world, still.directory⟩

end Plan

end StubForge
