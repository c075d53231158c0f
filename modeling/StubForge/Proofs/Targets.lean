import StubForge.Configuration.Check
import StubForge.Proofs.Landing
import StubForge.Proofs.Policy

set_option autoImplicit false

/-!
The folders that configurations without a target of their own are generated into: each is the name of the
configuration, followed as a path from the output root.
-/

namespace StubForge

namespace Path

-- The folders that components lead to below a start. There is nothing to say once they lead above it.
def descend : List String → List String → Option (List String)
  | done, [] => some done
  | done, part :: rest =>
      if part = ".." then
        if done = [] then none else descend done.dropLast rest
      else descend (done ++ [part]) rest

-- Where a name leads to below whatever it is followed from, if it stays there all the way.
def inner? (name : String) : Option (List String) :=
  match (ofString name).anchor with
  | .relative => descend [] (ofString name).parts
  | _ => none

theorem climb_of_descend (parts root done inner : List String) (down : descend done parts = some inner) :
    climb (root ++ done) parts = root ++ inner := by
  induction parts generalizing done with
  | nil =>
      cases down
      rfl
  | cons part rest ih =>
      rw [descend] at down
      rw [climb]
      by_cases up : part = ".."
      · rw [if_pos up] at down ⊢
        by_cases start : done = []
        · rw [if_pos start] at down
          cases down
        · rw [if_neg start] at down
          rw [List.dropLast_append_of_ne_nil start]
          exact ih _ down
      · rw [if_neg up] at down ⊢
        rw [List.append_assoc]
        exact ih _ down

-- Components that lead above a start lose its name, and do not come back to it if none of them has that name.
theorem climb_of_none (start : String) (parts done : List String) (up : descend done parts = none)
    (fresh : start ∉ parts) : start ∉ done → start ∉ climb (start :: done) parts := by
  induction parts generalizing done with
  | nil => cases up
  | cons part rest ih =>
      intro outside
      obtain ⟨other, later⟩ := not_or.mp (List.mem_cons.not.mp fresh)
      rw [descend] at up
      rw [climb]
      by_cases parent : part = ".."
      · rw [if_pos parent] at up ⊢
        by_cases empty : done = []
        · rw [empty]
          intro inside
          exact later (by simpa using climb_subset [] rest inside)
        · rw [if_neg empty] at up
          rw [List.dropLast_cons_of_ne_nil empty]
          apply ih done.dropLast up later
          exact fun inside => outside (List.dropLast_subset _ inside)
      · rw [if_neg parent] at up ⊢
        apply ih (done ++ [part]) up later
        simp [outside, other]

theorem folder_of_inner (directory : List String) (output : Path) (name : String) (inner : List String)
    (stays : inner? name = some inner) : (output.child name).folder directory = output.folder directory ++ inner := by
  rw [inner?] at stays
  cases relative : (ofString name).anchor with
  | relative =>
      rw [relative] at stays
      have joined : output.child name = ⟨output.anchor, output.parts ++ (ofString name).parts⟩ := by
        rw [child, join, relative]
      rw [joined, folder, resolve_append]
      have led := climb_of_descend (ofString name).parts (output.folder directory) [] inner stays
      rwa [List.append_nil] at led
  | single | double =>
      rw [relative] at stays
      cases stays

theorem not_below_self (place : List String) : ¬Below place place := by
  rintro ⟨name, rest, same⟩
  have longer := congrArg List.length same
  simp at longer

theorem exists_fresh (names : List String) : ∃ name, name ∉ names := by
  refine ⟨String.ofList ('x' :: (names.map String.toList).flatten), fun inside => ?_⟩
  have short := (List.sublist_flatten_of_mem (List.mem_map_of_mem (f := String.toList) inside)).length_le
  rw [String.toList_ofList, List.length_cons] at short
  omega

-- A name that does not stay below a start strays from some output root.
theorem strays_of_none (name : String) (strays : inner? name = none) :
    ∃ (directory : List String) (output : Path), Settled directory ∧
      ¬Below (output.folder directory) ((output.child name).folder directory) := by
  rw [inner?] at strays
  cases relative : (ofString name).anchor with
  | relative =>
      rw [relative] at strays
      obtain ⟨start, fresh⟩ := exists_fresh (".." :: (ofString name).parts)
      obtain ⟨real, other⟩ := not_or.mp (List.mem_cons.not.mp fresh)
      have home : (Path.mk .single [start]).folder [] = [start] := by
        simp [folder, resolve, climb, real]
      refine ⟨[], ⟨.single, [start]⟩, by decide, ?_⟩
      rintro ⟨first, more, placed⟩
      have joined : (Path.mk .single [start]).child name = ⟨.single, [start] ++ (ofString name).parts⟩ := by
        rw [child, join, relative]
      have lost := climb_of_none start (ofString name).parts [] strays other (by simp)
      have led := resolve_append [] (Path.mk .single [start]) (ofString name).parts
      rw [joined, folder, led, home] at placed
      change climb ((Path.mk .single [start]).folder []) _ = _ at placed
      rw [home, List.singleton_append] at placed
      rw [placed] at lost
      simp at lost
  | single | double =>
      have joined : (ofString name).child name = ofString name := by
        rw [child, join, relative]
      refine ⟨[], ofString name, by decide, ?_⟩
      rw [joined]
      exact not_below_self _

-- A name that is a single component.
structure Single (name : String) : Prop where
  filled : name ≠ ""
  flat : '/' ∉ name.toList
  real : name ≠ "." ∧ name ≠ ".."

theorem inner_of_single (name : String) (single : Single name) : inner? name = some [name] := by
  have filled : name.toList ≠ [] := fun none => single.filled (String.toList_inj.mp none)
  have dot : name.toList ≠ ['.'] := fun same => single.real.1 (String.toList_inj.mp same)
  have kept : meaningful name.toList = true := by simp [meaningful, filled, dot]
  have parts : (ofString name).parts = [name] := by
    rw [ofString, Text.split_at_of_not_mem '/' name.toList single.flat]
    simp [kept]
  have relative : (ofString name).anchor = .relative := by
    refine (anchor_relative_iff name.toList).mpr fun lead => ?_
    exact single.flat (List.mem_of_head? lead)
  rw [inner?, relative]
  simp [parts, descend, single.real.2]

end Path

namespace Configuration

-- The configurations that set no target.
def targetless (configs : List Configuration) : List Configuration :=
  configs.filter fun config => config.target.isNone

def targetFolder (directory : List String) (output : Path) (config : Configuration) : List String :=
  (config.targetBelow output).folder directory

-- Every configuration without a target has a folder of its own below the output root.
structure Apart (directory : List String) (output : Path) (configs : List Configuration) : Prop where
  below : ∀ config ∈ targetless configs, Path.Below (output.folder directory) (targetFolder directory output config)
  distinct : ((targetless configs).map (targetFolder directory output)).Nodup

theorem target_of_targetless (configs : List Configuration) (config : Configuration)
    (member : config ∈ targetless configs) (directory : List String) (output : Path) :
    targetFolder directory output config = (output.child config.name).folder directory := by
  have none : config.target = none := by simpa [targetless] using (List.mem_filter.mp member).2
  rw [targetFolder, targetBelow, none]
  rfl

-- Names that lead to different places below any start.
structure Sound (configs : List Configuration) : Prop where
  inside : ∀ config ∈ targetless configs, ∃ first more, Path.inner? config.name = some (first :: more)
  distinct : ((targetless configs).map fun config => Path.inner? config.name).Nodup

theorem apart_of_sound (configs : List Configuration) (sound : Sound configs) (directory : List String)
    (output : Path) : Apart directory output configs := by
  have placed (config : Configuration) (member : config ∈ targetless configs) (inner : List String)
      (stays : Path.inner? config.name = some inner) :
      targetFolder directory output config = output.folder directory ++ inner := by
    rw [target_of_targetless configs config member, Path.folder_of_inner directory output config.name inner stays]
  refine ⟨fun config member => ?_, ?_⟩
  · obtain ⟨first, more, stays⟩ := sound.inside config member
    exact ⟨first, more, placed config member _ stays⟩
  · refine List.Nodup.map_on (fun config member other among same => ?_) (sound.distinct.of_map _)
    obtain ⟨first, more, stays⟩ := sound.inside config member
    obtain ⟨first', more', stays'⟩ := sound.inside other among
    rw [placed config member _ stays, placed other among _ stays', List.append_cancel_left_eq] at same
    exact List.inj_on_of_nodup_map sound.distinct member among (by rw [stays, stays', same])

theorem sound_of_apart (configs : List Configuration)
    (apart : ∀ directory output, Path.Settled directory → Apart directory output configs) : Sound configs := by
  have inside : ∀ config ∈ targetless configs, ∃ first more, Path.inner? config.name = some (first :: more) := by
    intro config member
    cases stays : Path.inner? config.name with
    | none =>
        obtain ⟨directory, output, settled, astray⟩ := Path.strays_of_none config.name stays
        have below := (apart directory output settled).below config member
        rw [target_of_targetless configs config member] at below
        exact absurd below astray
    | some inner =>
        cases inner with
        | cons first more => exact ⟨first, more, rfl⟩
        | nil =>
            have below := (apart [] Path.here nofun).below config member
            rw [target_of_targetless configs config member, Path.folder_of_inner _ _ _ _ stays] at below
            rw [List.append_nil] at below
            exact absurd below (Path.not_below_self _)
  refine ⟨inside, ?_⟩
  have distinct := (apart [] Path.here nofun).distinct
  refine List.Nodup.map_on (fun config member other among same => ?_) (distinct.of_map _)
  obtain ⟨first, more, stays⟩ := inside config member
  have stays' := same ▸ stays
  apply List.inj_on_of_nodup_map distinct member among
  rw [target_of_targetless configs config member, target_of_targetless configs other among,
    Path.folder_of_inner _ _ _ _ stays, Path.folder_of_inner _ _ _ _ stays']

theorem sound_of_single (configs : List Configuration) (checked : check configs = .ok ())
    (single : ∀ config ∈ targetless configs, Path.Single config.name) : Sound configs := by
  have stays (config : Configuration) (member : config ∈ targetless configs) :=
    Path.inner_of_single config.name (single config member)
  have names : ((targetless configs).map (·.name)).Nodup :=
    (names_of_check configs checked).sublist (List.filter_sublist.map _)
  refine ⟨fun config member => ⟨config.name, [], stays config member⟩, ?_⟩
  refine List.Nodup.map_on (fun config member other among same => ?_) (names.of_map _)
  rw [stays config member, stays other among] at same
  apply List.inj_on_of_nodup_map names member among
  simpa using same

theorem name_of_check_from (configs : List Configuration) (seen : List String)
    (checked : checkFrom seen configs = .ok ()) : ∀ config ∈ configs, config.name ≠ "" := by
  induction configs generalizing seen with
  | nil => nofun
  | cons config rest ih =>
      rw [checkFrom] at checked
      split at checked
      · cases checked
      · rename_i sound
        refine List.forall_mem_cons.mpr ⟨fun empty => ?_, ih _ checked⟩
        rw [error?, if_pos empty] at sound
        cases sound

-- Accepted configurations without a target have folders of their own below every output root exactly when their names,
-- followed as paths, never lead above their start and no two lead to the same place. Names of a single component do.
theorem targets_apart (configs : List Configuration) (checked : check configs = .ok ()) :
    ((∀ directory output, Path.Settled directory → Apart directory output configs) ↔ Sound configs) ∧
      ((∀ config ∈ targetless configs, '/' ∉ config.name.toList ∧ config.name ≠ "." ∧ config.name ≠ "..") →
        ∀ directory output, Apart directory output configs) := by
  refine ⟨⟨sound_of_apart configs, fun sound directory output _ => apart_of_sound configs sound directory output⟩, ?_⟩
  intro plain
  apply apart_of_sound configs
  apply sound_of_single configs checked
  intro config member
  obtain ⟨flat, real⟩ := plain config member
  have filled : ∀ config ∈ configs, config.name ≠ "" := by
    rw [check] at checked
    split at checked
    · cases checked
    · exact name_of_check_from configs [] checked
  exact ⟨filled config (List.mem_of_mem_filter member), flat, real⟩

def namedConfiguration (name : String) : Configuration := { name, scheme := "php", packages := ["shop"] }

theorem shop_targets_apart : check [namedConfiguration "shop", namedConfiguration "desk"] = .ok () ∧
    Apart ["work"] (Path.ofString "build/../out") [namedConfiguration "shop", namedConfiguration "desk"] :=
  ⟨rfl, (targets_apart [namedConfiguration "shop", namedConfiguration "desk"] rfl).2 (by decide) _ _⟩

def strayNames : List String := ["a", "a/", "..", ".", "/abs"]

-- Accepted names can lead to the same folder, to the folder above the output root, to the output root itself, and away.
theorem accepted_names_stray : check (strayNames.map namedConfiguration) = .ok () ∧
    (targetless (strayNames.map namedConfiguration)).map (targetFolder ["work"] (Path.ofString "out")) =
      [["work", "out", "a"], ["work", "out", "a"], ["work"], ["work", "out"], ["abs"]] ∧
    ¬Apart ["work"] (Path.ofString "out") (strayNames.map namedConfiguration) := by
  refine ⟨rfl, by decide, fun apart => ?_⟩
  have distinct := apart.distinct
  revert distinct
  decide

end Configuration

end StubForge
