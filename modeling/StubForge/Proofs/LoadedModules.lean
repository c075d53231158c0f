import StubForge.Discovery
import StubForge.Proofs.DiscoveryFrames

set_option autoImplicit false

/-!
A module that was loaded stays loaded, and its attributes stay what they were, but for submodules that are bound in
their place.
-/

namespace StubForge

-- Classes are in order, and modules are recorded under their own names.
structure World.Sane (world : World) : Prop where
  orderly : Orderly world
  named : ∀ name, world.Named name

theorem World.sane_initial (disk : Disk) : (World.initial disk).Sane where
  orderly := by
    have checked : bundledClasses.zipIdx.all (fun (record, id) => record.order.head? == some id &&
        (record.metaclass != .protocolBase || record.order.contains protocolId &&
          (lookup "_is_protocol" record.members).isSome)) = true := by decide
    intro id record found
    have member : (record, id) ∈ bundledClasses.zipIdx := by
      rw [List.mem_zipIdx_iff_getElem?]
      simpa [class?, initial] using found
    have holds := List.all_eq_true.mp checked _ member
    simp only [Bool.and_eq_true, Bool.or_eq_true, bne_iff_ne, beq_iff_eq, List.contains_iff_mem] at holds
    exact ⟨holds.1, fun protocol => holds.2.resolve_left fun other => other protocol⟩
  named := by
    intro name record found
    obtain ⟨entry, held, same⟩ := Option.map_eq_some_iff.mp found
    have member := List.mem_of_find?_eq_some held
    have called : entry.1 = name := by simpa using List.find?_some held
    obtain ⟨own, -, rfl⟩ := List.mem_map.mp member
    rw [← same, ← called]

theorem steady_of_sane : SteadyImports World.Sane fun _ => True where
  scopes _ _ sane := ⟨sane.orderly, sane.named⟩
  tagged _ sane := ⟨sane.orderly, sane.named⟩
  decorated world id _ sane :=
    ⟨orderly_modify world id _ (fun _ => ⟨rfl, fun _ inside => inside⟩) sane.orderly, sane.named⟩
  registered world id _ sane :=
    ⟨orderly_modify world id _ (fun _ => ⟨rfl, fun _ inside => List.mem_append_left _ inside⟩) sane.orderly, sane.named⟩
  defined world record founded sane := ⟨orderly_push world record founded sane.orderly, sane.named⟩
  bound world name change _ _ sane :=
    ⟨orderly_of_same_classes (World.classes_of_modify world name change) sane.orderly,
      fun other => World.named_of_modify world name other change (sane.named other)⟩
  begun world record _ sane :=
    ⟨trivial, sane.orderly, fun other => World.named_of_set world record other (sane.named other)⟩
  forgotten world _ _ sane :=
    ⟨sane.orderly, fun other => World.named_of_forget world _ other (sane.named other)⟩
  linked _ world _ _ _ sane :=
    ⟨orderly_of_same_classes (World.classes_of_modify world _ _) sane.orderly,
      fun other => World.named_of_modify world _ other _ (sane.named other)⟩

/-! ### Modules stay -/

def World.Has (world : World) (module : String) : Prop := (world.module? module).isSome = true

theorem World.has_of_set (world : World) (record : ModuleRecord) (module : String) (has : world.Has module) :
    (world.setModule record).Has module := by
  rw [Has, module_of_set]
  split
  · rfl
  · exact has

theorem World.has_of_modify (world : World) (name module : String) (change : ModuleRecord → ModuleRecord)
    (has : world.Has module) : (world.modifyModule name change).Has module := by
  unfold modifyModule
  split
  · exact has_of_set _ _ _ has
  · exact has

theorem steady_of_has (module : String) (changeable : String → Prop) :
    Steady (fun world => world.Has module) changeable where
  scopes _ _ has := has
  tagged _ has := has
  decorated _ _ _ has := has
  registered _ _ _ has := has
  defined _ _ _ has := has
  bound world name change _ _ has := World.has_of_modify world name module change has

-- While a module is known no module of its name is begun, so none is forgotten.
theorem steady_imports_of_has (module : String) : SteadyImports (fun world => world.Has module) (· ≠ module) where
  toSteady := steady_of_has module _
  begun world record unknown has := by
    refine ⟨?_, World.has_of_set world record module has⟩
    rintro rfl
    rw [World.Has, unknown] at has
    cases has
  forgotten world name other has := by
    rw [World.Has, World.module_of_forget, if_neg other]
    exact has
  linked _ world name _ _ has := World.has_of_modify world _ module _ has

namespace Import

variable (readSource : Bytes → Except Mishap (List Statement))

theorem has_of_finished (world ended : World) (name : String) (has : ended.Has name) :
    (finished world ended name).Has name :=
  World.has_of_modify _ name name _ has

theorem has_of_install (fuel : Nat) (name : String) (finding : Finding) (parts : List String) (world after : World)
    (done : install (Exec.runAll (loadFrom readSource fuel)) readSource name finding parts world = (.ok (), after)) :
    after.Has name := by
  have collected (fails : install (Exec.runAll (loadFrom readSource fuel)) readSource name .nothing parts world =
      (.ok (), after)) : after.Has name := by
    simp only [install] at fails
    split at fails
    · cases fails
    · cases fails
      rw [World.Has, World.module_of_set, if_pos rfl]
      rfl
  cases finding with
  | nothing => exact collected done
  | portion place => exact collected done
  | source file searchPath body =>
      rw [install_source] at done
      cases read : statementsOf readSource body with
      | error mishap =>
          rw [read] at done
          cases done
      | ok found =>
          obtain ⟨headed, statements⟩ := found
          have began : (begun world name file searchPath headed).Has name := by
            change ((world.setModule (recordOf world name file searchPath headed)).module? name).isSome = true
            rw [World.module_of_set, if_pos (show (recordOf world name file searchPath headed).name = name from rfl)]
            rfl
          have kept := (Exec.still_run_all (grows_load_from readSource fuel) statements
            (steady_of_has name fun _ => True) (still_load_from (steady_imports_of_has name) readSource fuel)
            { module := name } trivial _ began).1
          simp only [read] at done
          generalize Exec.runAll _ _ statements _ = ran at done kept
          obtain ⟨result, ended⟩ := ran
          cases result with
          | error mishap => cases done
          | ok value =>
              cases done
              exact has_of_finished world ended name kept

theorem has_of_load_from (fuel : Nat) (name : String) (world after : World)
    (done : loadFrom readSource fuel name world = (.ok (), after)) : after.Has name := by
  cases fuel with
  | zero => cases done
  | succ fuel =>
      cases known : world.module? name with
      | some record =>
          rw [load_from_known _ _ _ _ (by simp [known])] at done
          cases done
          simp [World.Has, known]
      | none =>
          cases dotted : (Name.splitLast name.toList).1 with
          | none =>
              rw [load_from_top _ _ _ _ known dotted] at done
              exact has_of_install readSource fuel name _ _ world after done
          | some above =>
              rw [load_from_below _ _ _ _ known above dotted] at done
              split at done
              · cases done
              · generalize loadFrom readSource fuel (Name.parent name) world = loaded at done
                obtain ⟨result, middle⟩ := loaded
                cases result with
                | error mishap => cases done
                | ok value =>
                    cases value
                    dsimp only at done
                    split at done
                    · rename_i present
                      cases done
                      exact present
                    · cases held : (middle.module? (Name.parent name)).bind (·.searchPath) with
                      | none =>
                          rw [held] at done
                          cases done
                      | some places =>
                          rw [held] at done
                          cases finished : install (Exec.runAll (loadFrom readSource fuel)) readSource name
                            (search middle.disk (Name.last name) [] places).1
                            (search middle.disk (Name.last name) [] places).2 middle with
                          | mk result last =>
                              simp only [finished] at done
                              cases result with
                              | error mishap => cases done
                              | ok value =>
                                  cases done
                                  exact World.has_of_modify _ _ _ _
                                    (has_of_install readSource fuel name _ _ middle last finished)

end Import

/-! ### Attributes stay -/

-- A module is known, and a name means an object in it, or else a submodule that was bound in its place.
def Settled (module name : String) (object : Option Object) (world : World) : Prop :=
  world.Has module ∧ (Loader.memberOfModule world module name = object ∨
    ∃ sub, Loader.memberOfModule world module name = some (.module sub))

theorem settled_of_same_module {before after : World} {module name : String} {object : Option Object}
    (same : after.module? module = before.module? module) (settled : Settled module name object before) :
    Settled module name object after := by
  rwa [Settled, World.Has, Loader.memberOfModule, same]

theorem settled_of_link (world : World) (module name other : String) (object : Option Object)
    (named : ∀ name, world.Named name) (settled : Settled module name object world) :
    Settled module name object (Import.link other world) := by
  refine ⟨World.has_of_modify world _ module _ settled.1, ?_⟩
  rw [Loader.memberOfModule, Import.link,
    World.module_of_modify world (Name.parent other) module (fun record =>
      { record with globals := Json.setMember (Name.last other) (.module other) record.globals }) (named _)]
  split
  · rename_i below
    obtain ⟨record, found⟩ := Option.isSome_iff_exists.mp settled.1
    have before := settled.2
    rw [Loader.memberOfModule, found, Option.bind_some] at before
    rw [below, found, Option.map_some, Option.bind_some, World.lookup, Json.find_set_member]
    split
    · exact .inr ⟨other, rfl⟩
    · exact before
  · exact settled.2

-- Loading other modules changes no attribute of a module but by binding submodules; it is never run again.
theorem steady_of_settled (module name : String) (object : Option Object) :
    SteadyImports (fun world => (∀ other, world.Named other) ∧ Settled module name object world) (· ≠ module) where
  scopes _ _ holds := holds
  tagged _ holds := holds
  decorated _ _ _ holds := holds
  registered _ _ _ holds := holds
  defined _ _ _ holds := holds
  bound world other change free kept holds := by
    refine ⟨fun third => World.named_of_modify world other third change (holds.1 third), ?_⟩
    refine settled_of_same_module ?_ holds.2
    rw [World.module_of_modify world other module change
      fun record found => (kept record).trans (holds.1 other record found), if_neg free]
  begun world record unknown holds := by
    have other : record.name ≠ module := ((steady_imports_of_has module).begun world record unknown holds.2.1).1
    refine ⟨other, fun third => World.named_of_set world record third (holds.1 third), ?_⟩
    exact settled_of_same_module (by rw [World.module_of_set, if_neg other]) holds.2
  forgotten world other free holds := by
    refine ⟨fun third => World.named_of_forget world other third (holds.1 third), ?_⟩
    exact settled_of_same_module (by rw [World.module_of_forget, if_neg free]) holds.2
  linked _ world other _ _ holds :=
    ⟨fun third => World.named_of_modify world _ third _ (holds.1 third),
      settled_of_link world module name other object holds.1 holds.2⟩

/-! ### Later worlds -/

-- What loading modules keeps, wherever they are looked for, is kept from one world to the other.
def Leads (before after : World) : Prop :=
  ∀ (invariant : World → Prop) (changeable : String → Prop), SteadyImports invariant changeable →
    (∀ world path, invariant world → invariant { world with path := path }) → invariant before → invariant after

theorem leads_refl (world : World) : Leads world world := fun _ _ _ _ holds => holds

theorem leads_trans {first middle last : World} (start : Leads first middle) (rest : Leads middle last) :
    Leads first last :=
  fun invariant changeable steady pathless holds =>
    rest invariant changeable steady pathless (start invariant changeable steady pathless holds)

theorem leads_of_path (world : World) (path : List String) : Leads world { world with path := path } :=
  fun _ _ _ pathless holds => pathless world path holds

theorem leads_of_load (name : String) (world : World) :
    Leads world (Import.load Import.readSource name world).2 :=
  fun _ _ steady _ holds => (Import.still_load steady Import.readSource name world holds).1

section

variable {before after : World} (leads : Leads before after)
include leads

theorem sane_of_leads (sane : before.Sane) : after.Sane :=
  leads _ _ steady_of_sane (fun _ _ sane => ⟨sane.orderly, sane.named⟩) sane

theorem grown_of_leads : Grown before after :=
  leads _ _ (Import.steady_imports_of_grown before) (fun _ _ grown => grown) (grown_refl before)

theorem has_of_leads (module : String) (has : before.Has module) : after.Has module :=
  leads _ _ (steady_imports_of_has module) (fun _ _ has => has) has

theorem settled_of_leads (sane : before.Sane) (module name : String) (has : before.Has module) :
    Settled module name (Loader.memberOfModule before module name) after :=
  (leads _ _ (steady_of_settled module name (Loader.memberOfModule before module name)) (fun _ _ holds => holds)
    ⟨sane.named, has, .inl rfl⟩).2

-- A class that has a capability is a command ever after, or never.
theorem command_of_leads (sane : before.Sane) (capability id : ClassId)
    (subclass : before.isSubclass id capability = true) :
    Discovery.isCommand after capability id = Discovery.isCommand before capability id := by
  have grown := grown_of_leads leads
  have known := World.known_of_subclass id capability subclass
  rw [Discovery.isCommand, Discovery.isCommand, World.subclass_grows grown id capability subclass, subclass,
    World.protocol_of_known grown sane.orderly id known, World.abstract_of_known grown id known,
    World.enumeration_of_known grown id known]

end

/-! ### Trying again -/

namespace Import

-- The world after modules were imported one after the other, whatever came of it.
def retried : List String → World → World
  | [], world => world
  | name :: rest, world => retried rest (load readSource name world).2

-- A module that cannot be found, or that names another one that cannot be.
def isMissing (result : Except Mishap Unit) : Bool :=
  match result with
  | .ok () => false
  | .error mishap => isErrorOf mishap.kind "ImportError"

-- None of the modules can be found when they are asked for one after the other.
def allMissing : List String → World → Bool
  | [], _ => true
  | name :: rest, world => isMissing (load readSource name world).1 && allMissing rest (load readSource name world).2

theorem retried_append (first rest : List String) (world : World) :
    retried (first ++ rest) world = retried rest (retried first world) := by
  induction first generalizing world with
  | nil => rfl
  | cons name others ih => exact ih _

theorem all_missing_append (first rest : List String) (world : World) :
    allMissing (first ++ rest) world = (allMissing first world && allMissing rest (retried first world)) := by
  induction first generalizing world with
  | nil => rfl
  | cons name others ih => rw [List.cons_append, allMissing, ih, allMissing, retried, Bool.and_assoc]

theorem leads_of_retried (names : List String) (world : World) : Leads world (retried names world) := by
  induction names generalizing world with
  | nil => exact leads_refl world
  | cons name rest ih => exact leads_trans (leads_of_load name world) (ih _)

-- A module that is known is not run again.
theorem load_of_has (name : String) (world : World) (has : world.Has name) (before after : World)
    (done : load readSource name before = (.ok (), after)) : load readSource name world = (.ok (), world) := by
  unfold load at done ⊢
  split
  · rename_i relative
    rw [if_pos relative] at done
    cases done
  · rename_i relative
    rw [if_neg relative] at done
    split
    · rename_i empty
      rw [if_pos empty] at done
      cases done
    · exact load_from_known readSource (depthLimit - 1) name world has

theorem has_of_load (name : String) (world after : World) (done : load readSource name world = (.ok (), after)) :
    after.Has name := by
  unfold load at done
  split at done
  · cases done
  · split at done
    · cases done
    · exact has_of_load_from readSource _ name world after done

end Import

end StubForge
