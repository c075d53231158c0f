import Mathlib.Data.List.Basic
import Mathlib.Data.Set.Card
import StubForge.Identifier
import StubForge.ModuleName
import StubForge.Proofs.Segments

set_option autoImplicit false

/-!
Which paths have a module name. A name of segments is that of one file and of one package at most, and each of them is
spelled by its path.
-/

namespace StubForge

namespace Path

theorem split_suffix_append (name : List Char) : (splitSuffix name).1 ++ (splitSuffix name).2 = name := by
  have parted := List.takeWhile_append_dropWhile (p := (· ≠ '.')) (l := name.reverse)
  unfold splitSuffix
  dsimp only
  split
  · rename_i dotted
    simp only [Bool.and_eq_true, decide_eq_true_eq, ne_eq, List.length_reverse] at dotted
    obtain ⟨⟨short, -⟩, -⟩ := dotted
    cases rest : name.reverse.dropWhile (· ≠ '.') with
    | nil =>
        rw [rest, List.append_nil] at parted
        rw [parted, List.length_reverse] at short
        exact absurd short (lt_irrefl _)
    | cons c front =>
        have dot : c = '.' := by
          have stopped := List.head?_dropWhile_not (· ≠ '.') name.reverse
          rw [rest] at stopped
          simpa using stopped
        rw [rest, dot] at parted
        have whole : name = front.reverse ++ '.' :: (name.reverse.takeWhile (· ≠ '.')).reverse := by
          conv_lhs => rw [← List.reverse_reverse name, ← parted]
          simp
        generalize (name.reverse.takeWhile (· ≠ '.')).reverse = ending at whole
        subst whole
        have long : (front.reverse ++ '.' :: ending).length - ending.length - 1 = front.reverse.length := by
          simp only [List.length_append, List.length_cons]
          omega
        rw [long, List.take_left]
  · simp

end Path

theorem split_suffix_of_source (stem : List Char) (filled : stem ≠ []) :
    Path.splitSuffix (stem ++ sourceSuffix) = (stem, sourceSuffix) := by
  have long : 0 < stem.length := List.length_pos_of_ne_nil filled
  have ending : ((stem ++ sourceSuffix).reverse.takeWhile (· ≠ '.')).reverse = ['p', 'y'] := by
    simp [sourceSuffix]
  have before : (stem ++ sourceSuffix).take ((stem ++ sourceSuffix).length - 2 - 1) = stem := by
    simp [sourceSuffix]
  rw [Path.splitSuffix]
  simp only [ending, List.length_cons, List.length_nil, Nat.zero_add, Nat.reduceAdd, before]
  simp [sourceSuffix, filled]

theorem source_of_suffix (file : String) (ending : (Path.splitSuffix file.toList).2 = sourceSuffix) :
    file = String.ofList (Path.splitSuffix file.toList).1 ++ ".py" := by
  have joined := Path.split_suffix_append file.toList
  rw [ending] at joined
  apply String.toList_inj.mp
  rw [String.toList_append, String.toList_ofList]
  simpa [sourceSuffix] using joined.symm

-- The segments that the folders and the stem of a file spell, if they spell any.
structure Nameable (folders : List String) (stem : String) : Prop where
  uncached : "__pycache__" ∉ folders
  ordinary : stem ≠ "__main__"
  present : moduleSegments folders stem ≠ []
  valid : ∀ part ∈ moduleSegments folders stem, Text.isIdentifier part = true

theorem folder_of_nameable (folders : List String) (stem : String) (nameable : Nameable folders stem) :
    ∀ folder ∈ folders, Text.isIdentifier folder = true := by
  intro folder inside
  refine nameable.valid folder ?_
  rw [moduleSegments]
  split
  · exact inside
  · exact List.mem_append_left _ inside

theorem stem_of_nameable (folders : List String) (stem : String) (nameable : Nameable folders stem) :
    Text.isIdentifier stem = true := by
  by_cases package : stem = "__init__"
  · rw [package]
    decide
  · refine nameable.valid stem ?_
    rw [moduleSegments, if_neg package]
    exact List.mem_append_right _ (List.mem_singleton_self stem)

-- The first component of an absolute path is no identifier.
theorem relative_of_components (path : Path) (folders : List String) (file : String) (present : path.parts ≠ [])
    (whole : path.components = folders ++ [file]) (valid : ∀ folder ∈ folders, Text.isIdentifier folder = true) :
    path = ⟨.relative, folders ++ [file]⟩ := by
  obtain ⟨anchor, parts⟩ := path
  have absolute (lead : String) (led : lead :: parts = folders ++ [file]) : Text.isIdentifier lead = true := by
    cases folders with
    | nil => exact absurd (List.cons.inj led).2 present
    | cons folder rest => exact (List.cons.inj led).1 ▸ valid folder List.mem_cons_self
  cases anchor with
  | relative => exact congrArg _ whole
  | single => exact absurd (absolute "/" whole) (by decide)
  | double => exact absurd (absolute "//" whole) (by decide)

theorem module_name_iff (path : Path) (module : String) : moduleName? path = some module ↔
    ∃ folders stem, path = ⟨.relative, folders ++ [stem ++ ".py"]⟩ ∧ Nameable folders stem ∧
      module = Name.ofSegments (moduleSegments folders stem) := by
  constructor
  · intro named
    unfold moduleName? at named
    split at named
    · rename_i file first rest last present
      obtain ⟨folders, whole⟩ := List.getLast?_eq_some_iff.mp last
      rw [whole, List.dropLast_concat] at named
      dsimp only at named
      split at named
      · cases named
      · rename_i suffix
        have written := source_of_suffix file (not_not.mp suffix)
        generalize (Path.splitSuffix file.toList).1 = stem at named written
        split at named
        · cases named
        · rename_i uncached
          split at named
          · cases named
          · rename_i ordinary
            split at named
            · cases named
            · rename_i accepted
              simp only [Bool.or_eq_true, Bool.not_eq_true', not_or, Bool.not_eq_false] at accepted
              have nameable : Nameable folders (String.ofList stem) :=
                ⟨by simpa using uncached, fun same => ordinary (by rw [← same, String.toList_ofList]),
                  by simpa using accepted.1, List.all_eq_true.mp accepted.2⟩
              refine ⟨folders, String.ofList stem, ?_, nameable, (Option.some.inj named).symm⟩
              rw [written] at whole
              exact relative_of_components path folders _ (by simp [present]) whole (folder_of_nameable _ _ nameable)
    · cases named
  · rintro ⟨folders, stem, rfl, nameable, rfl⟩
    have filled : stem.toList ≠ [] := by
      intro empty
      have valid := stem_of_nameable folders stem nameable
      rw [Text.isIdentifier, empty] at valid
      cases valid
    have chars : (stem ++ ".py").toList = stem.toList ++ sourceSuffix := by simp [sourceSuffix]
    have other : ¬stem.toList = "__main__".toList := fun same => nameable.ordinary (String.toList_inj.mp same)
    unfold moduleName?
    split
    · rename_i file first rest last present
      simp only [Path.components, List.getLast?_concat, Option.some.injEq] at last
      subst last
      simp only [Path.components, List.dropLast_concat, chars, split_suffix_of_source stem.toList filled, String.ofList_toList]
      rw [if_neg (by simp), if_neg (by simpa using nameable.uncached), if_neg other, if_neg ?_]
      simpa [nameable.present] using nameable.valid
    · rename_i absent
      obtain ⟨first, rest, cons⟩ := List.exists_cons_of_ne_nil (List.concat_ne_nil (stem ++ ".py") folders)
      exact (absent _ first rest List.getLast?_concat (by simpa using cons)).elim

/-! ### Names of identifiers -/

-- The path of a file whose folders and stem are the segments of a name, or of the file that marks a folder as a package
-- named by all folders.
inductive Spells : List Identifier → Path → Prop where
  | file (folders : List Identifier) (stem : Identifier) (uncached : ∀ folder ∈ folders, folder.text ≠ "__pycache__")
      (ordinary : stem.text ≠ "__init__" ∧ stem.text ≠ "__main__") :
      Spells (folders ++ [stem]) ⟨.relative, folders.map (·.text) ++ [stem.text ++ ".py"]⟩
  | package (folders : List Identifier) (present : folders ≠ [])
      (uncached : ∀ folder ∈ folders, folder.text ≠ "__pycache__") :
      Spells folders ⟨.relative, folders.map (·.text) ++ ["__init__.py"]⟩

theorem identifiers_of_valid (parts : List String) (valid : ∀ part ∈ parts, Text.isIdentifier part = true) :
    ∃ segments : List Identifier, segments.map (·.text) = parts := by
  induction parts with
  | nil => exact ⟨[], rfl⟩
  | cons part rest ih =>
      obtain ⟨own, others⟩ := List.forall_mem_cons.mp valid
      obtain ⟨segments, same⟩ := ih others
      exact ⟨⟨part, own⟩ :: segments, by rw [List.map_cons, same]⟩

-- The segments of a name can be told from it.
theorem segments_of_name (segments : List Identifier) (parts : List String) (present : parts ≠ [])
    (valid : ∀ part ∈ parts, Text.isIdentifier part = true)
    (same : Name.ofSegments (segments.map (·.text)) = Name.ofSegments parts) : segments.map (·.text) = parts := by
  have own := Name.segments_of_segments parts present fun part member => Identifier.plain ⟨part, valid part member⟩
  rw [← same] at own
  by_cases alone : segments = []
  · subst alone
    have empty : parts = [""] := own.symm
    rw [empty, List.forall_mem_singleton] at valid
    exact absurd valid (by decide)
  · rw [← own, Name.segments_of_segments _ (by simpa using alone)]
    intro part member
    obtain ⟨segment, -, rfl⟩ := List.mem_map.mp member
    exact segment.plain

theorem uncached_iff (folders : List Identifier) :
    "__pycache__" ∉ folders.map (·.text) ↔ ∀ folder ∈ folders, folder.text ≠ "__pycache__" := by
  simp [eq_comm]

theorem spells_iff (segments : List Identifier) (path : Path) : Spells segments path ↔
    ∃ folders stem, path = ⟨.relative, folders ++ [stem ++ ".py"]⟩ ∧ Nameable folders stem ∧
      segments.map (·.text) = moduleSegments folders stem := by
  have valid (names : List Identifier) : ∀ part ∈ names.map (·.text), Text.isIdentifier part = true := by
    intro part member
    obtain ⟨name, -, rfl⟩ := List.mem_map.mp member
    exact name.valid
  constructor
  · intro spelled
    cases spelled with
    | file folders stem uncached ordinary =>
        have own : moduleSegments (folders.map (·.text)) stem.text = (folders ++ [stem]).map (·.text) := by
          rw [moduleSegments, if_neg ordinary.1, List.map_append]
          rfl
        exact ⟨_, stem.text, rfl, ⟨(uncached_iff folders).mpr uncached, ordinary.2, by simp [own], own ▸ valid _⟩, own.symm⟩
    | package folders present uncached =>
        have own : moduleSegments (segments.map (·.text)) "__init__" = segments.map (·.text) := if_pos rfl
        exact ⟨_, "__init__", rfl,
          ⟨(uncached_iff segments).mpr uncached, by decide, by simpa [own] using present, own ▸ valid _⟩, own.symm⟩
  · rintro ⟨folders, stem, rfl, nameable, own⟩
    by_cases package : stem = "__init__"
    · rw [moduleSegments, if_pos package] at own
      subst package own
      have present : segments ≠ [] := fun empty => nameable.present (by simp [moduleSegments, empty])
      exact .package segments present ((uncached_iff segments).mp nameable.uncached)
    · rw [moduleSegments, if_neg package] at own
      obtain ⟨front, last, rfl, rfl, single⟩ := List.map_eq_append_iff.mp own
      obtain ⟨name, rfl, rfl⟩ := List.map_eq_singleton_iff.mp single
      exact .file front name ((uncached_iff front).mp nameable.uncached) ⟨package, nameable.ordinary⟩

def filePath (segments : List Identifier) : Path :=
  ⟨.relative, (segments.map (·.text)).dropLast ++ [((segments.map (·.text)).getLastD "") ++ ".py"]⟩

def packagePath (segments : List Identifier) : Path := ⟨.relative, segments.map (·.text) ++ ["__init__.py"]⟩

theorem path_of_spells (segments : List Identifier) (path : Path) (spelled : Spells segments path) :
    path ∈ ({filePath segments, packagePath segments} : Set Path) := by
  cases spelled with
  | file folders stem uncached ordinary => exact .inl (by simp [filePath])
  | package folders present uncached => exact .inr rfl

-- Of the paths, those that spell segments have their name, and no others have one; so a name has two paths at most.
theorem module_names_exact :
    (∀ (path : Path) (segments : List Identifier),
      moduleName? path = some (Name.ofSegments (segments.map (·.text))) ↔ Spells segments path) ∧
    (∀ path : Path, moduleName? path = none ↔ ¬∃ segments, Spells segments path) ∧
    ∀ module : String, {path | moduleName? path = some module}.encard ≤ 2 := by
  have exact_name (path : Path) (segments : List Identifier) :
      moduleName? path = some (Name.ofSegments (segments.map (·.text))) ↔ Spells segments path := by
    rw [module_name_iff, spells_iff]
    constructor
    · rintro ⟨folders, stem, same, nameable, named⟩
      exact ⟨folders, stem, same, nameable, segments_of_name segments _ nameable.present nameable.valid named⟩
    · rintro ⟨folders, stem, same, nameable, own⟩
      exact ⟨folders, stem, same, nameable, by rw [own]⟩
  have some_name (path : Path) (module : String) (named : moduleName? path = some module) :
      ∃ segments : List Identifier, module = Name.ofSegments (segments.map (·.text)) := by
    obtain ⟨folders, stem, -, nameable, own⟩ := (module_name_iff path module).mp named
    obtain ⟨segments, same⟩ := identifiers_of_valid _ nameable.valid
    exact ⟨segments, by rw [own, same]⟩
  refine ⟨exact_name, fun path => ?_, fun module => ?_⟩
  · constructor
    · rintro unnamed ⟨segments, spelled⟩
      rw [(exact_name path segments).mpr spelled] at unnamed
      cases unnamed
    · intro unspelled
      cases named : moduleName? path with
      | none => rfl
      | some module =>
          obtain ⟨segments, rfl⟩ := some_name path module named
          exact absurd ⟨segments, (exact_name path segments).mp named⟩ unspelled
  · rcases Set.eq_empty_or_nonempty {path | moduleName? path = some module} with none | ⟨path, named⟩
    · rw [none, Set.encard_empty]
      exact zero_le
    · obtain ⟨segments, rfl⟩ := some_name path module named
      calc {other | moduleName? other = some (Name.ofSegments (segments.map (·.text)))}.encard
        _ ≤ ({filePath segments, packagePath segments} : Set Path).encard := Set.encard_le_encard fun other own =>
            path_of_spells segments other ((exact_name other segments).mp own)
        _ ≤ ({packagePath segments} : Set Path).encard + 1 := Set.encard_insert_le _ _
        _ = 2 := by rw [Set.encard_singleton, one_add_one_eq_two]

example : moduleName? (.ofString "a/b.py") = some "a.b" ∧ moduleName? (.ofString "a/b/__init__.py") = some "a.b" := by
  decide

end StubForge
