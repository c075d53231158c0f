import StubForge.Proofs.ModuleNames
import StubForge.Proofs.Scanning
import StubForge.Proofs.SoleModule
import StubForge.Proofs.Sorting

set_option autoImplicit false

/-!
A folder and an archive of its files tell the same types. The folder lists its files by their components and the archive
by whole names; the two orders agree on the files that have a module name, unless a file `x.py` lies beside a folder `x`.
-/

namespace StubForge

theorem letter_of_continues (c : Char) (continues : Text.continuesIdentifier c = true) : '/' < c := by
  by_contra low
  have small : c.toNat < 48 := by
    have below : c ≤ '/' := not_lt.mp low
    have value : c.toNat ≤ '/'.toNat := below
    exact Nat.lt_succ_of_le value
  have none : ∀ n < 48, Text.continuesIdentifier (Char.ofNat n) = false := by decide
  have refused := none c.toNat small
  rw [Char.ofNat_toNat, continues] at refused
  cases refused

theorem letters_of_identifier (text : String) (valid : Text.isIdentifier text = true) : Order.Letters text.toList :=
  fun c inside => letter_of_continues c (continues_of_identifier text valid c inside)

namespace Path

theorem of_joined (components : List String) (present : components ≠ []) (named : ∀ part ∈ components, Component part) :
    ofString (Text.join "/" components) = ⟨.relative, components⟩ := by
  have chars : (Text.join "/" components).toList = Text.joinWith ['/'] (components.map String.toList) :=
    Text.to_list_join "/" components
  have split := split_at_joined components present fun part member => (named part member).2.2
  have relative : anchorOf (Text.joinWith ['/'] (components.map String.toList)) = .relative := by
    rw [anchor_relative_iff]
    intro lead
    cases components with
    | nil => exact present rfl
    | cons part rest =>
        obtain ⟨filled, -, plain⟩ := named part List.mem_cons_self
        cases first : part.toList with
        | nil => exact filled (String.toList_inj.mp first)
        | cons c more =>
            have same : c = '/' := by cases rest <;> simpa [Text.joinWith, first] using lead
            exact plain (by simp [first, same])
  have kept : (components.map String.toList).filter meaningful = components.map String.toList := by
    rw [List.filter_eq_self]
    intro chars member
    obtain ⟨part, inside, rfl⟩ := List.mem_map.mp member
    exact meaningful_of_component part (named part inside)
  rw [ofString, chars, relative, split, kept, List.map_map]
  simp [Function.comp_def]

end Path

namespace ClassPath

/-! ### Files with a module name -/

-- The paths of files that can have a module name: folders and a stem that are identifiers, and the ending of sources.
inductive Sourced : List String → Prop where
  | file (stem : String) (valid : Text.isIdentifier stem = true) : Sourced [stem ++ ".py"]
  | inner (folder : String) (valid : Text.isIdentifier folder = true) (rest : List String) (sourced : Sourced rest) :
      Sourced (folder :: rest)

theorem sourced_of_parts (folders : List String) (stem : String) (valid : ∀ folder ∈ folders, Text.isIdentifier folder = true)
    (spelled : Text.isIdentifier stem = true) : Sourced (folders ++ [stem ++ ".py"]) := by
  induction folders with
  | nil => exact .file stem spelled
  | cons folder rest ih =>
      obtain ⟨own, others⟩ := List.forall_mem_cons.mp valid
      exact .inner folder own _ (ih others)

theorem parts_of_module_name (components : List String) (module : String)
    (named : moduleName? ⟨.relative, components⟩ = some module) : ∃ folders stem, components = folders ++ [stem ++ ".py"] ∧
      (∀ folder ∈ folders, Text.isIdentifier folder = true) ∧ Text.isIdentifier stem = true := by
  obtain ⟨folders, stem, same, nameable, -⟩ := (module_name_iff _ _).mp named
  exact ⟨folders, stem, congrArg Path.parts same, folder_of_nameable folders stem nameable,
    stem_of_nameable folders stem nameable⟩

theorem sourced_of_module_name (components : List String) (module : String)
    (named : moduleName? ⟨.relative, components⟩ = some module) : Sourced components := by
  obtain ⟨folders, stem, rfl, valid, spelled⟩ := parts_of_module_name components module named
  exact sourced_of_parts folders stem valid spelled

theorem source_name_of_module_name (components : List String) (module : String)
    (named : moduleName? ⟨.relative, components⟩ = some module) : hasSourceName components = true := by
  obtain ⟨folders, stem, rfl, -, -⟩ := parts_of_module_name components module named
  rw [hasSourceName, List.getLast?_concat]
  exact List.isSuffixOf_iff_suffix.mpr ⟨stem.toList, by simp [sourceSuffix]⟩

/-! ### The two orders of files -/

-- A file `x.py` next to a folder `x` with the other file below it.
def Beside (file other : List String) : Prop :=
  ∃ folder name next rest, file = folder ++ [name ++ ".py"] ∧ other = folder ++ name :: next :: rest

theorem beside_inner (folder : String) (file other : List String) (beside : Beside file other) :
    Beside (folder :: file) (folder :: other) := by
  obtain ⟨above, name, next, rest, rfl, rfl⟩ := beside
  exact ⟨folder :: above, name, next, rest, rfl, rfl⟩

theorem beside_of_stem (name : String) (rest : List String) (sourced : Sourced rest) :
    Beside [name ++ ".py"] (name :: rest) := by
  cases sourced with
  | file stem valid => exact ⟨[], name, stem ++ ".py", [], rfl, rfl⟩
  | inner folder valid rest sourced => exact ⟨[], name, folder, rest, rfl, rfl⟩

-- Characters that go on after some letters with none or a smaller character.
def Begins (letters chars : List Char) : Prop := ∃ rest, chars = letters ++ rest ∧ Order.Ends rest

theorem lt_of_begins (first second : String) (front back : List Char) (begins : Begins front first.toList)
    (starts : Begins back second.toList) (letters : Order.Letters front) (others : Order.Letters back)
    (apart : front ≠ back) : first < second ↔ front < back := by
  obtain ⟨after, same, ends⟩ := begins
  obtain ⟨later, alike, stops⟩ := starts
  rw [String.lt_iff_toList_lt, same, alike]
  exact Order.lt_of_letters front back after later letters others ends stops apart

theorem begins_with_folder (name : String) : Begins name.toList name.toList :=
  ⟨[], by simp, nofun⟩

theorem begins_with_stem (stem : String) : Begins stem.toList (stem ++ ".py").toList := by
  refine ⟨['.', 'p', 'y'], by simp, ?_⟩
  rintro _ ⟨⟩
  decide

theorem to_list_join_cons (name : String) (rest : List String) (present : rest ≠ []) :
    (Text.join "/" (name :: rest)).toList = name.toList ++ '/' :: (Text.join "/" rest).toList := by
  cases rest with
  | nil => exact absurd rfl present
  | cons next more => simp [Text.join]

theorem begins_joined (letters : List Char) (name : String) (rest : List String) (begins : Begins letters name.toList) :
    Begins letters (Text.join "/" (name :: rest)).toList := by
  by_cases alone : rest = []
  · subst alone
    exact begins
  · obtain ⟨after, same, ends⟩ := begins
    refine ⟨after ++ '/' :: (Text.join "/" rest).toList, ?_, ?_⟩
    · rw [to_list_join_cons name rest alone, same, List.append_assoc]
    · cases after with
      | nil =>
          rintro _ ⟨⟩
          decide
      | cons c more => exact ends

-- Where first components begin with different letters, these decide in both orders.
theorem first_decides (name other : String) (rest more : List String) (front back : List Char)
    (begins : Begins front name.toList) (starts : Begins back other.toList) (letters : Order.Letters front)
    (others : Order.Letters back) (apart : front ≠ back) :
    Order.namesBefore (name :: rest) (other :: more) = true ↔
      Text.join "/" (name :: rest) < Text.join "/" (other :: more) := by
  have decided := lt_of_begins name other front back begins starts letters others apart
  have different : name ≠ other := by
    rintro rfl
    rcases lt_or_gt_of_ne apart with less | more
    · exact lt_irrefl name (decided.mpr less)
    · exact lt_irrefl name ((lt_of_begins name name back front starts begins others letters apart.symm).mpr more)
  rw [Order.names_before_iff, List.cons_lt_cons_iff, decided,
    lt_of_begins _ _ front back (begins_joined front name rest begins) (begins_joined back other more starts) letters others
      apart]
  simp [different]

-- By induction on the components: equal folders are left out on both sides.
theorem orders_agree (file other : List String) (sourced : Sourced file) (source : Sourced other)
    (apart : ¬Beside file other) (apart' : ¬Beside other file) :
    Order.namesBefore file other = true ↔ Text.join "/" file < Text.join "/" other := by
  induction sourced generalizing other with
  | file stem valid =>
      have letters := letters_of_identifier stem valid
      cases source with
      | file stem' valid' =>
          by_cases same : stem = stem'
          · subst same
            simp [Order.names_before_iff]
          · exact first_decides _ _ [] [] stem.toList stem'.toList (begins_with_stem stem) (begins_with_stem stem') letters
              (letters_of_identifier stem' valid') fun alike => same (String.toList_inj.mp alike)
      | inner folder valid' rest sourced =>
          refine first_decides _ _ [] rest stem.toList folder.toList (begins_with_stem stem) (begins_with_folder folder)
            letters (letters_of_identifier folder valid') fun alike => ?_
          rw [String.toList_inj.mp alike] at apart
          exact apart (beside_of_stem folder rest sourced)
  | inner folder valid rest sourced ih =>
      have letters := letters_of_identifier folder valid
      cases source with
      | file stem valid' =>
          refine first_decides _ _ rest [] folder.toList stem.toList (begins_with_folder folder) (begins_with_stem stem)
            letters (letters_of_identifier stem valid') fun alike => ?_
          rw [← String.toList_inj.mp alike] at apart'
          exact apart' (beside_of_stem folder rest sourced)
      | inner folder' valid' rest' sourced' =>
          by_cases same : folder = folder'
          · subst same
            have inner := ih rest' sourced' (apart ∘ beside_inner folder rest rest') (apart' ∘ beside_inner folder rest' rest)
            have present (components : List String) (sourced : Sourced components) : components ≠ [] := by
              cases sourced <;> simp
            rw [Order.namesBefore, if_pos rfl, inner, String.lt_iff_toList_lt, String.lt_iff_toList_lt,
              to_list_join_cons folder rest (present rest sourced), to_list_join_cons folder rest' (present rest' sourced'),
              Order.lt_append_left, List.cons_lt_cons_iff]
            simp
          · exact first_decides _ _ rest rest' folder.toList folder'.toList (begins_with_folder folder)
              (begins_with_folder folder') letters (letters_of_identifier folder' valid')
              fun alike => same (String.toList_inj.mp alike)

/-! ### First occurrences in lists with the same members -/

theorem erase_dups_flat_map (told : String → List String) (names : List String) :
    (names.flatMap told).eraseDups = (names.eraseDups.flatMap told).eraseDups := by
  induction names using List.reverseRecOn with
  | nil => rfl
  | append_singleton front last ih =>
      rw [List.flatMap_append, erase_dups_append, erase_dups_concat, ih, List.flatMap_append, erase_dups_append,
        List.flatMap_singleton]
      split
      · rename_i known
        have nothing : (told last).eraseDups.filter (· ∉ (front.eraseDups.flatMap told).eraseDups) = [] := by
          rw [List.filter_eq_nil_iff]
          intro name member
          have inside : name ∈ told last := List.mem_eraseDups.mp member
          simpa using ⟨last, known, inside⟩
        rw [nothing]
        rfl
      · rw [List.flatMap_singleton]

-- Up to repetitions there is one way to put names in order.
theorem erase_dups_of_sorted (names others : List String) (sorted : Order.Sorted Order.textBefore names)
    (ordered : Order.Sorted Order.textBefore others) (same : ∀ name, name ∈ names ↔ name ∈ others) :
    names.eraseDups = others.eraseDups := by
  have permuted : names.eraseDups.Perm others.eraseDups := by
    refine (List.perm_ext_iff_of_nodup (nodup_erase_dups names) (nodup_erase_dups others)).mpr fun name => ?_
    rw [List.mem_eraseDups, List.mem_eraseDups]
    exact same name
  have antisymmetric (a b : String) (first : Order.textBefore b a = false) (second : Order.textBefore a b = false) :
      a = b := by
    rw [← Bool.not_eq_true, Order.text_before_iff, not_lt] at first second
    exact le_antisymm first second
  exact permuted.eq_of_pairwise (fun a b _ _ => antisymmetric a b) (sorted.sublist (erase_dups_sublist names))
    (ordered.sublist (erase_dups_sublist others))

/-! ### Archives of the files of a folder -/

-- A member of an archive holds the data of a file under its path below a folder.
structure Packs (tree : List (List String × Entry)) (archive : Archive) : Prop where
  sound : Sound archive
  held : ∀ components content, (components, .file content) ∈ tree →
    ∃ member, lastNamed archive (Text.join "/" components) = some member ∧ member.body = bodyOf content
  only : ∀ member ∈ archive, Mark member ∨
    ∃ components content, (components, .file content) ∈ tree ∧ member.path = Text.join "/" components

-- Every name below the folder is the name of an entry.
def Named (tree : List (List String × Entry)) : Prop :=
  ∀ components entry, (components, entry) ∈ tree → ∀ part ∈ components, Path.Component part

-- A file `x.py` beside a folder `x`.
def Twinned (tree : List (List String × Entry)) : Prop :=
  ∃ folder name content, (folder ++ [name ++ ".py"], .file content) ∈ tree ∧ (folder ++ [name], .folder) ∈ tree

theorem type_names_anywhere (module origin other : String) (body : MemberBody) :
    (SourceUnit.typeNames { module, origin, body }).1 = (SourceUnit.typeNames { module, origin := other, body }).1 := by
  cases body with
  | module statements => rfl
  | bytes data =>
      simp only [SourceUnit.typeNames, SourceUnit.classNames?]
      cases Source.read? data <;> rfl

theorem entry_of_below (disk : Disk) (place : Place) (components : List String) (entry : Entry)
    (member : (components, entry) ∈ disk.below place) : (place ++ components, entry) ∈ disk.entries ∧ components ≠ [] := by
  obtain ⟨⟨lies, found⟩, held, kept⟩ := List.mem_filterMap.mp member
  dsimp only at kept
  split at kept
  · rename_i deeper
    simp only [Bool.and_eq_true, List.isPrefixOf_iff_prefix] at deeper
    obtain ⟨⟨rest, rfl⟩, longer⟩ := deeper
    cases kept
    rw [List.drop_left]
    refine ⟨held, ?_⟩
    rintro rfl
    simp at longer
  · cases kept

section

variable {disk : Disk} {place : Place} {archive : Archive} (named : Named (disk.below place))
  (packs : Packs (disk.below place) archive) (packages : Option (List String)) (root : String)
include named packs

theorem types_of_file (folder : Path) (components : List String) (content : Content)
    (inside : (components, .file content) ∈ disk.below place) :
    ((folderUnit? folder packages components content).map (·.typeNames.1)).getD [] =
      typesUnder archive root packages (Text.join "/" components) := by
  obtain ⟨member, held, body⟩ := packs.held components content inside
  have read := Path.of_joined components (entry_of_below disk place components _ inside).2 (named components _ inside)
  simp only [folderUnit?, typesUnder, memberUnit?, read, held]
  cases moduleName? ⟨.relative, components⟩ with
  | none => rfl
  | some module =>
      dsimp only
      split
      · rw [body]
        exact type_names_anywhere module _ _ (bodyOf content)
      · rfl

omit named in
-- Only files that have a module name tell types.
theorem file_of_told (name : String) (inside : name ∈ memberNames archive) (told : typesUnder archive root packages name ≠ []) :
    ∃ components content, (components, .file content) ∈ disk.below place ∧ name = Text.join "/" components := by
  obtain ⟨member, stored, same, held⟩ := last_named archive name ((mem_member_names archive name).mp inside)
  rcases packs.only member stored with mark | ⟨components, content, file, path⟩
  · exact absurd (types_under_mark archive root packages name member held mark.2) told
  · exact ⟨components, content, file, by rw [← same, path]⟩

theorem module_of_told (components : List String) (content : Content)
    (inside : (components, .file content) ∈ disk.below place)
    (told : typesUnder archive root packages (Text.join "/" components) ≠ []) :
    ∃ module, moduleName? ⟨.relative, components⟩ = some module := by
  rw [← types_of_file named packs packages root ⟨.relative, []⟩ components content inside] at told
  cases read : moduleName? ⟨.relative, components⟩ with
  | some module => exact ⟨module, rfl⟩
  | none => simp [folderUnit?, read] at told

-- The names of members under which a folder has its sources, in the order of the folder.
def listed (disk : Disk) (place : Place) : List String :=
  (sourceFiles disk place).map fun file => Text.join "/" file.1

theorem types_listed (folder : Path) :
    ((sourceFiles disk place).flatMap fun file => ((folderUnit? folder packages file.1 file.2).map (·.typeNames.1)).getD []) =
      (listed disk place).flatMap (typesUnder archive root packages) := by
  rw [listed, List.flatMap_map]
  refine List.flatMap_congr fun file inside => ?_
  exact types_of_file named packs packages root folder file.1 file.2 ((mem_source_files disk place file.1 file.2).mp inside).1

theorem listed_iff (name : String) (told : typesUnder archive root packages name ≠ []) :
    name ∈ listed disk place ↔ name ∈ memberNames archive := by
  constructor
  · intro inside
    obtain ⟨⟨components, content⟩, source, rfl⟩ := List.mem_map.mp inside
    obtain ⟨member, held, -⟩ := packs.held components content ((mem_source_files disk place _ _).mp source).1
    exact (mem_member_names archive _).mpr
      ⟨member, List.mem_reverse.mp (List.mem_of_find?_eq_some held), by simpa using List.find?_some held⟩
  · intro inside
    obtain ⟨components, content, file, rfl⟩ := file_of_told packs packages root name inside told
    obtain ⟨module, read⟩ := module_of_told named packs packages root components content file told
    refine List.mem_map.mpr ⟨(components, content), ?_, rfl⟩
    exact (mem_source_files disk place _ _).mpr ⟨file, source_name_of_module_name components module read⟩

end

theorem at_of_below (disk : Disk) (place : Place) (components : List String) (entry : Entry)
    (member : (components, entry) ∈ disk.below place) : ∃ entry, disk.at? (place ++ components) = some entry := by
  obtain ⟨held, filled⟩ := entry_of_below disk place components entry member
  have found : (disk.entries.find? fun entry => entry.1 == place ++ components).isSome = true :=
    List.find?_isSome.mpr ⟨_, held, by simp⟩
  obtain ⟨first, same⟩ := Option.isSome_iff_exists.mp found
  exact ⟨first.2, by simp [Disk.at?, filled, same]⟩

theorem not_beside (disk : Disk) (place : Place) (rooted : disk.Rooted) (single : ¬Twinned (disk.below place))
    (file other : List String) (content : Content) (entry : Entry) (first : (file, .file content) ∈ disk.below place)
    (second : (other, entry) ∈ disk.below place) : ¬Beside file other := by
  rintro ⟨folder, name, next, rest, rfl, rfl⟩
  obtain ⟨entry, held⟩ := at_of_below disk place _ _ second
  refine single ⟨folder, name, content, first, disk.mem_below place _ _ (by simp) ?_⟩
  exact Disk.folder_above rooted _ (next :: rest) entry (by simp) (by simpa using held)

theorem told_sorted {disk : Disk} {place : Place} {archive : Archive} (named : Named (disk.below place))
    (packs : Packs (disk.below place) archive) (packages : Option (List String)) (root : String) (rooted : disk.Rooted)
    (single : ¬Twinned (disk.below place)) :
    Order.Sorted Order.textBefore ((listed disk place).filter (typesUnder archive root packages · ≠ [])) := by
  have sorted : Order.Sorted (fun a b => Order.namesBefore a.1 b.1) (sourceFiles disk place) :=
    Order.sort_sorted (Order.strict_of_lt _ (·.1) fun a b => Order.names_before_iff a.1 b.1) _
  rw [listed, List.filter_map, Order.Sorted, List.pairwise_map]
  refine (List.Pairwise.filter _ sorted).imp_of_mem ?_
  rintro ⟨file, content⟩ ⟨other, data⟩ first second level
  obtain ⟨source, told⟩ := List.mem_filter.mp first
  obtain ⟨source', told'⟩ := List.mem_filter.mp second
  have inside := ((mem_source_files disk place file content).mp source).1
  have inside' := ((mem_source_files disk place other data).mp source').1
  obtain ⟨module, read⟩ := module_of_told named packs packages root file content inside (by simpa using told)
  obtain ⟨module', read'⟩ := module_of_told named packs packages root other data inside' (by simpa using told')
  have agree := orders_agree other file (sourced_of_module_name other module' read') (sourced_of_module_name file module read)
    (not_beside disk place rooted single other file data _ inside' inside)
    (not_beside disk place rooted single file other content _ inside inside')
  dsimp only at level ⊢
  rw [← Bool.not_eq_true, Order.text_before_iff, ← agree, level]
  exact Bool.false_ne_true

theorem types_told {disk : Disk} {place : Place} {archive : Archive} (named : Named (disk.below place))
    (packs : Packs (disk.below place) archive) (packages : Option (List String)) (root name : String) :
    name ∈ (listed disk place).flatMap (typesUnder archive root packages) ↔
      name ∈ (memberNames archive).flatMap (typesUnder archive root packages) := by
  rw [List.mem_flatMap, List.mem_flatMap]
  refine exists_congr fun member => and_congr_left fun told => ?_
  exact listed_iff named packs packages root member (List.ne_nil_of_mem told)

theorem flat_map_told (told : String → List String) (names : List String) :
    (names.filter (told · ≠ [])).flatMap told = names.flatMap told := by
  induction names with
  | nil => rfl
  | cons name rest ih => by_cases empty : told name = [] <;> simpa [empty] using ih

theorem scan_found (session : Session) (packages : Option (List String)) (root : Path) (place : Place) (entry : Entry)
    (found : session.world.disk.find session.directory root = .ok (place, entry)) (reads : Reads session packages root) :
    (scan [root] packages session).1 = .ok (types session packages root).eraseDups := by
  have askable : Askable session [root] := by
    intro other member
    rw [List.mem_singleton.mp member]
    exact session.world.disk.askable_of_short session.directory root (by simp [found])
  have some : ∃ other ∈ [root], Reads session packages other := ⟨root, List.mem_singleton_self root, reads⟩
  rw [scan_run_of_askable session packages [root] askable, offered, if_pos some, List.flatMap_singleton]

-- Packing the files of a folder into an archive changes nothing about what is found, whatever the order of the members and
-- whether there are some for the folders too. The types are the same, and so is their order unless a file `x.py` lies beside
-- a folder `x`, which come in one order as names of a folder and in the other one as names of an archive.
theorem packing_keeps_types (session : Session) (packages : Option (List String)) (folder packed : Path)
    (place there : Place) (archive : Archive)
    (unpacked : session.world.disk.find session.directory folder = .ok (place, .folder))
    (zipped : session.world.disk.find session.directory packed = .ok (there, .file (.archive archive)))
    (rooted : session.world.disk.Rooted) (named : Named (session.world.disk.below place))
    (packs : Packs (session.world.disk.below place) archive) :
    ∃ names others, (scan [folder] packages session).1 = .ok names ∧ (scan [packed] packages session).1 = .ok others ∧
      (∀ name, name ∈ names ↔ name ∈ others) ∧ (¬Twinned (session.world.disk.below place) → names = others) := by
  have ownTypes : types session packages folder =
      (listed session.world.disk place).flatMap (typesUnder archive packed.toString packages) :=
    (types_of_folder _ _ packages folder place unpacked).trans (types_listed named packs packages packed.toString folder)
  have otherTypes : types session packages packed =
      (memberNames archive).flatMap (typesUnder archive packed.toString packages) :=
    types_of_archive _ _ packages packed there archive zipped packs.sound
  have reads : Reads session packages folder := readable_of_folder _ _ packages folder place unpacked
  have opens : Reads session packages packed := readable_of_archive _ _ packages packed there archive zipped packs.sound
  refine ⟨_, _, scan_found session packages folder place _ unpacked reads,
    scan_found session packages packed there _ zipped opens, fun name => ?_, fun single => ?_⟩
  · rw [List.mem_eraseDups, List.mem_eraseDups, ownTypes, otherTypes]
    exact types_told named packs packages packed.toString name
  · have sorted : Order.Sorted Order.textBefore (memberNames archive) :=
      Order.sort_sorted (Order.strict_of_lt _ id Order.text_before_iff) _
    have same := erase_dups_of_sorted
      ((listed session.world.disk place).filter (typesUnder archive packed.toString packages · ≠ []))
      ((memberNames archive).filter (typesUnder archive packed.toString packages · ≠ []))
      (told_sorted named packs packages packed.toString rooted single) (List.Pairwise.filter _ sorted) fun name => by
        rw [List.mem_filter, List.mem_filter]
        refine and_congr_left fun told => listed_iff named packs packages packed.toString name (by simpa using told)
    rw [ownTypes, otherTypes, ← flat_map_told _ (listed session.world.disk place), ← flat_map_told _ (memberNames archive),
      erase_dups_flat_map, same, ← erase_dups_flat_map]

/-! ### A folder and an archive of its files -/

def defining (names : List Identifier) : List Statement := names.map fun name => .define { name, bases := [], methods := [] } []

def packRoot : Path := ⟨.relative, ["pack.zip"]⟩

-- The members stand in no order, and the folder is marked.
def crate : Archive := [
  { path := "shop/till.py", body := .module (defining ["Open"]) },
  { path := "notes.txt", body := .bytes [104] },
  { path := "shop/", body := .bytes [] },
  { path := "main.py", body := .module (defining ["Start"]) },
  { path := "shop/__init__.py", body := .module (defining ["Find", "Close"]) }]

def depot : Session where
  world := World.initial { entries := [(["lib"], .folder), (["lib", "shop"], .folder),
    (["lib", "shop", "__init__.py"], .file (.module (defining ["Find", "Close"]))),
    (["lib", "shop", "till.py"], .file (.module (defining ["Open"]))),
    (["lib", "main.py"], .file (.module (defining ["Start"]))),
    (["lib", "notes.txt"], .file (.bytes [104])), (["pack.zip"], .file (.archive crate))] }

def depotTree : List (List String × Entry) := [(["shop"], .folder),
  (["shop", "__init__.py"], .file (.module (defining ["Find", "Close"]))),
  (["shop", "till.py"], .file (.module (defining ["Open"]))), (["main.py"], .file (.module (defining ["Start"]))),
  (["notes.txt"], .file (.bytes [104]))]

theorem crate_packs : Packs depotTree crate where
  sound := by
    intro member inside
    simp only [crate, List.mem_cons, List.not_mem_nil, or_false] at inside
    rcases inside with rfl | rfl | rfl | rfl | rfl <;> rfl
  held := by
    intro components content inside
    simp only [depotTree, List.mem_cons, List.not_mem_nil, or_false, Prod.mk.injEq] at inside
    rcases inside with ⟨rfl, ⟨⟩⟩ | ⟨rfl, ⟨⟩⟩ | ⟨rfl, ⟨⟩⟩ | ⟨rfl, ⟨⟩⟩ | ⟨rfl, ⟨⟩⟩ <;> exact ⟨_, rfl, rfl⟩
  only := by
    intro member inside
    simp only [crate, List.mem_cons, List.not_mem_nil, or_false] at inside
    rcases inside with rfl | rfl | rfl | rfl | rfl
    · exact .inr ⟨["shop", "till.py"], .module (defining ["Open"]), by simp [depotTree], rfl⟩
    · exact .inr ⟨["notes.txt"], .bytes [104], by simp [depotTree], rfl⟩
    · exact .inl ⟨by decide, rfl⟩
    · exact .inr ⟨["main.py"], .module (defining ["Start"]), by simp [depotTree], rfl⟩
    · exact .inr ⟨["shop", "__init__.py"], .module (defining ["Find", "Close"]), by simp [depotTree], rfl⟩

theorem depot_packed : (scan [libRoot] none depot).1 = .ok ["main.Start", "shop.Find", "shop.Close", "shop.till.Open"] ∧
    (scan [packRoot] none depot).1 = (scan [libRoot] none depot).1 := by
  have rooted : depot.world.disk.Rooted := by
    refine Disk.rooted_of_entries _ fun entry member => ?_
    simp only [depot, World.initial, List.mem_cons, List.not_mem_nil, or_false] at member
    rcases member with rfl | rfl | rfl | rfl | rfl | rfl | rfl <;> rfl
  have tree : depot.world.disk.below ["lib"] = depotTree := rfl
  have named : Named (depot.world.disk.below ["lib"]) := by
    have each : ∀ lies ∈ depotTree, ∀ part ∈ lies.1, Path.Component part := by decide
    exact fun components entry inside => each (components, entry) inside
  have single : ¬Twinned (depot.world.disk.below ["lib"]) := by
    rintro ⟨folder, name, content, file, twin⟩
    rw [tree] at file twin
    have here : folder ++ [name] = [] ++ ["shop"] := by simpa [depotTree] using twin
    obtain ⟨rfl, named⟩ := List.append_inj' here rfl
    cases named
    simp [depotTree] at file
  obtain ⟨names, others, found, packed, -, same⟩ := packing_keeps_types depot none libRoot packRoot ["lib"] ["pack.zip"] crate
    rfl rfl rooted named crate_packs
  have all : (scan [libRoot] none depot).1 = .ok ["main.Start", "shop.Find", "shop.Close", "shop.till.Open"] := by rfl
  exact ⟨all, by rw [packed, found, same single]⟩

-- A file beside a folder of its name: the folder lists what lies in `x` first, the archive `x.py`.
def twins : Session where
  world := World.initial { entries := [(["lib"], .folder), (["lib", "x"], .folder),
    (["lib", "x", "a.py"], .file (.module (defining ["In"]))), (["lib", "x.py"], .file (.module (defining ["Out"]))),
    (["pack.zip"], .file (.archive [{ path := "x/a.py", body := .module (defining ["In"]) },
      { path := "x.py", body := .module (defining ["Out"]) }]))] }

example : (scan [⟨.relative, ["lib"]⟩] none twins).1 = .ok ["x.a.In", "x.Out"] := by rfl

example : (scan [⟨.relative, ["pack.zip"]⟩] none twins).1 = .ok ["x.Out", "x.a.In"] := by rfl

end ClassPath

end StubForge
