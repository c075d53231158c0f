import Mathlib.Data.List.Nodup
import StubForge.ClassPath
import StubForge.Proofs.Segments

set_option autoImplicit false

/-!
The packages that a search for types is limited to. A module is read if it can define types below them,
and of a module that is read all types are below them, so the limit takes away exactly the other names.
-/

namespace StubForge

namespace Name

-- A class lies below a package if and only if its module is the package or lies below it.
theorem is_below_child (module segment package : String) (plain : '.' ∉ segment.toList) :
    isBelow (child module segment) package = (module == package || isBelow module package) := by
  rw [Bool.eq_iff_iff, Bool.or_eq_true, beq_iff_eq, is_below_iff_leads, is_below_iff_leads,
    segments_child module segment plain]
  constructor
  · rintro ⟨leads, different⟩
    have shorter : segments package <+: segments module := by
      rcases List.prefix_concat_iff.mp leads with whole | inner
      · exact absurd (segments_injective _ _ (whole.trans (segments_child module segment plain).symm)) different
      · exact inner
    by_cases same : module = package
    · exact .inl same
    · exact .inr ⟨shorter, fun equal => same equal.symm⟩
  · intro reason
    have leads : segments package <+: segments module := by
      rcases reason with rfl | ⟨inner, -⟩
      · exact List.prefix_rfl
      · exact inner
    refine ⟨leads.trans (List.prefix_append _ _), ?_⟩
    intro same
    have long := leads.length_le
    rw [same, segments_child module segment plain, List.length_append, List.length_singleton] at long
    omega

theorem in_packages_child (module segment : String) (packages : List String)
    (plain : '.' ∉ segment.toList) :
    inPackages (child module segment) packages = mayContain module packages := by
  rw [inPackages, mayContain]
  congr 1
  funext package
  exact is_below_child module segment package plain

theorem in_packages_mono (name : String) (packages more : List String)
    (inside : ∀ package ∈ packages, package ∈ more) (below : inPackages name packages = true) :
    inPackages name more = true := by
  obtain ⟨package, member, lower⟩ := List.any_eq_true.mp below
  exact List.any_eq_true.mpr ⟨package, inside package member, lower⟩

theorem in_packages_iff_segments (name : String) (packages : List String) :
    inPackages name packages = true ↔
      ∃ package ∈ packages, segments package <+: segments name ∧ segments package ≠ segments name := by
  have same (package : String) : package ≠ name ↔ segments package ≠ segments name :=
    not_congr ⟨congrArg segments, segments_injective package name⟩
  simp only [inPackages, List.any_eq_true, is_below_iff_leads, same]

-- A package leads a module if it is the module, or leads it properly.
theorem may_contain_iff_segments (module : String) (packages : List String) :
    mayContain module packages = true ↔ ∃ package ∈ packages, segments package <+: segments module := by
  have leads (package : String) : module = package ∨ isBelow module package = true ↔
      segments package <+: segments module := by
    rw [is_below_iff_leads]
    constructor
    · intro reason
      cases reason with
      | inl same => exact same ▸ List.prefix_rfl
      | inr below => exact below.1
    · intro leads
      by_cases same : module = package
      · exact .inl same
      · exact .inr ⟨leads, fun equal => same equal.symm⟩
  simp only [mayContain, List.any_eq_true, Bool.or_eq_true, beq_iff_eq, leads]

-- The tests compare characters, and mean segments: a name lies below the packages that lead it properly, a module can define
-- types below those that lead it, and one more segment makes the one of the other.
theorem package_tests_compare_segments (name : String) (packages : List String) :
    (inPackages name packages = true ↔
      ∃ package ∈ packages, segments package <+: segments name ∧ segments package ≠ segments name) ∧
    (mayContain name packages = true ↔ ∃ package ∈ packages, segments package <+: segments name) ∧
    ∀ segment : String, '.' ∉ segment.toList →
      inPackages (name ++ "." ++ segment) packages = mayContain name packages :=
  ⟨in_packages_iff_segments name packages, may_contain_iff_segments name packages,
    fun segment plain => in_packages_child name segment packages plain⟩

-- A name that only starts with the letters of a package lies beside it, and an empty package leads the names that start
-- with a dot.
theorem shopping_beside_shop : '.' ∉ "Find".toList ∧ inPackages "shop.Find" ["shop"] = true ∧
    inPackages "shopping.Find" ["shop"] = false ∧ inPackages ".Find" ["", "shop"] = true := by
  have plain : '.' ∉ "Find".toList := by decide
  have within := (package_tests_compare_segments "shop" ["shop"]).2.2 "Find" plain
  have beside := (package_tests_compare_segments "shopping" ["shop"]).2.2 "Find" plain
  have unnamed := (package_tests_compare_segments "" ["", "shop"]).2.2 "Find" plain
  exact ⟨plain, within, beside, unnamed⟩

end Name

namespace Source

theorem plain_of_mem_class_names (statements : List Statement) (name : String)
    (member : name ∈ classNames statements) : '.' ∉ name.toList := by
  rw [classNames, List.mem_eraseDups] at member
  obtain ⟨identifier, -, rfl⟩ := List.mem_map.mp member
  exact identifier.plain

end Source

namespace SourceUnit

theorem plain_of_class_names (source : SourceUnit) (names : List String)
    (read : source.classNames? = some names) (name : String) (member : name ∈ names) :
    '.' ∉ name.toList := by
  rw [classNames?] at read
  split at read
  · rw [← Option.some.inj read] at member
    exact Source.plain_of_mem_class_names _ name member
  · obtain ⟨statements, -, rfl⟩ := Option.map_eq_some_iff.mp read
    exact Source.plain_of_mem_class_names statements name member

-- The types of a source stand or fall together.
theorem filter_type_names (source : SourceUnit) (packages : List String) :
    source.typeNames.1.filter (Name.inPackages · packages) =
      if Name.mayContain source.module packages then source.typeNames.1 else [] := by
  rw [typeNames]
  split
  · rename_i names read
    have below : ∀ name ∈ names.map (Name.child source.module),
        Name.inPackages name packages = Name.mayContain source.module packages := by
      intro name member
      obtain ⟨segment, inside, rfl⟩ := List.mem_map.mp member
      exact Name.in_packages_child _ _ _ (plain_of_class_names source names read segment inside)
    rw [List.filter_congr below]
    cases Name.mayContain source.module packages <;> simp
  · simp

end SourceUnit

namespace ClassPath

theorem add_names_cons (names : List String) (name : String) (rest : List String) :
    addNames names (name :: rest) = addNames (if names.contains name then names else names ++ [name]) rest :=
  rfl

theorem mem_add_names (names more : List String) (name : String) :
    name ∈ addNames names more ↔ name ∈ names ∨ name ∈ more := by
  induction more generalizing names with
  | nil => simp [addNames]
  | cons first rest ih =>
      rw [add_names_cons, ih]
      split
      · rename_i known
        have inside : first ∈ names := by simpa using known
        constructor
        · rintro (old | later)
          · exact .inl old
          · exact .inr (List.mem_cons_of_mem first later)
        · rintro (old | new)
          · exact .inl old
          · rcases List.mem_cons.mp new with rfl | later
            · exact .inl inside
            · exact .inr later
      · simp [or_assoc]

theorem unit_names_fst (names : List String) (units : List SourceUnit) :
    (unitNames names units).1 = units.foldl (fun names source => addNames names source.typeNames.1) names := by
  rw [unitNames]
  generalize ([] : List Record) = records
  induction units generalizing names records with
  | nil => rfl
  | cons source rest ih => exact ih _ _

theorem folder_units_wanted (disk : Disk) (place : Place) (root : Path) (packages : List String) :
    folderUnits disk place root (some packages) =
      (folderUnits disk place root none).filter fun source => wanted (some packages) source.module := by
  rw [folderUnits, folderUnits, List.filter_filterMap]
  congr 1
  funext entry
  simp only [folderUnit?]
  split
  · rfl
  · rename_i module _
    by_cases contained : Name.mayContain module packages = true
    · simp [wanted, contained, Option.filter]
    · simp [wanted, contained, Option.filter]

-- No member fails its check when it is read.
def Sound (archive : Archive) : Prop := ∀ member ∈ archive, member.corrupt = false

-- The archives among the roots are sound.
def SoundRoots (disk : Disk) (directory : Place) (roots : List Path) : Prop :=
  ∀ root ∈ roots, ∀ place archive,
    disk.find directory root = .ok (place, .file (.archive archive)) → Sound archive

end ClassPath

end StubForge
