import Mathlib.Data.List.Basic
import StubForge.Loader
import StubForge.Proofs.DiskWrites
import StubForge.Proofs.Landing
import StubForge.Proofs.Imports
import StubForge.Proofs.ModuleNames
import StubForge.Proofs.Rooted
import StubForge.Proofs.Spelling

set_option autoImplicit false

/-!
A class path with one file. What is read of it without running anything are the types of the one module that the file
holds, and importing that module runs the statements of the file.
-/

namespace StubForge

/-! ### Places -/

namespace Path

-- A component of a path: it names an entry of a folder, or leads up.
def Component (part : String) : Prop := part ≠ "" ∧ part ≠ "." ∧ '/' ∉ part.toList

instance (part : String) : Decidable (Component part) := inferInstanceAs (Decidable (_ ∧ _ ∧ _))

theorem split_at_joined (parts : List String) (present : parts ≠ []) (plain : ∀ part ∈ parts, '/' ∉ part.toList) :
    Text.splitAt '/' (Text.joinWith ['/'] (parts.map String.toList)) = parts.map String.toList :=
  Text.split_at_join_with '/' _ (by simpa using present) (by simpa using plain)

theorem meaningful_of_component (part : String) (component : Component part) : meaningful part.toList = true := by
  obtain ⟨filled, here, -⟩ := component
  have filled : part.toList ≠ [] := fun empty => filled (String.toList_inj.mp empty)
  have here : part.toList ≠ ['.'] := fun dot => here (String.toList_inj.mp dot)
  simp [meaningful, filled, here]

theorem of_component (part : String) (component : Component part) : ofString part = ⟨.relative, [part]⟩ := by
  have relative : anchorOf part.toList = .relative := by
    rw [anchor_relative_iff]
    exact fun lead => component.2.2 (List.mem_of_mem_head? lead)
  rw [ofString, relative, Text.split_at_of_not_mem '/' part.toList component.2.2,
    List.filter_cons_of_pos (meaningful_of_component part component)]
  simp

-- A place that is written as a text is read back.
theorem parts_of_written (parts : List String) (components : ∀ part ∈ parts, Component part) :
    (ofString (toString ⟨.single, parts⟩)).parts = parts := by
  have chars : (toString ⟨.single, parts⟩).toList = '/' :: Text.joinWith ['/'] (parts.map String.toList) := by
    have written : toString ⟨.single, parts⟩ = "/" ++ Text.join "/" parts := by cases parts <;> rfl
    rw [written, String.toList_append, Text.to_list_join]
    rfl
  have split := Text.split_at_append '/' [] (Text.joinWith ['/'] (parts.map String.toList))
  rw [ofString, chars]
  simp only [List.nil_append] at split
  rw [split]
  by_cases empty : parts = []
  · subst empty
    rfl
  · have kept : (parts.map String.toList).filter meaningful = parts.map String.toList := by
      rw [List.filter_eq_self]
      intro chars member
      obtain ⟨own, inside, rfl⟩ := List.mem_map.mp member
      exact meaningful_of_component own (components own inside)
    rw [split_at_joined parts empty fun part member => (components part member).2.2]
    simp only [Text.splitAt, List.singleton_append]
    rw [List.filter_cons_of_neg (by simp [meaningful]), kept, List.map_map]
    simp [Function.comp_def]

theorem folder_components (directory : List String) (root : Path) (settled : ∀ part ∈ directory, Component part)
    (plain : ∀ part ∈ root.parts, Component part) : ∀ part ∈ root.folder directory, Component part := by
  have inside : ∀ part ∈ root.folder directory, part ∈ directory ++ root.parts := by
    unfold folder resolve
    split
    · exact fun part member => climb_subset _ _ member
    · exact fun part member => List.mem_append_right _ (by simpa using climb_subset [] root.parts member)
  intro part member
  rcases List.mem_append.mp (inside part member) with above | below
  · exact settled part above
  · exact plain part below

end Path

namespace Disk

theorem find_folder (disk : Disk) (directory place : Place) (path : Path) (entry : Entry)
    (found : disk.find directory path = .ok (place, entry)) :
    place = path.folder directory ∧ disk.at? place = some entry := by
  obtain ⟨led, held⟩ := find_at found
  refine ⟨?_, held⟩
  rw [follow_climb disk _ _ _ led, Path.folder, Path.resolve, start]
  cases path.anchor <;> rfl

end Disk

/-! ### Class paths -/

namespace ClassPath

-- A member of an archive that stands for a folder.
def Mark (member : Member) : Prop := member.path.toList.getLast? = some '/' ∧ member.body = .bytes []

-- A root has no file but one of a name and a content.
inductive Offers (disk : Disk) (directory : Place) (file : String) (body : MemberBody) (root : Path) : Prop where
  | folder (place : Place) (found : disk.find directory root = .ok (place, .folder))
      (only : ∀ components content, (components, .file content) ∈ disk.below place →
        components = [file] ∧ Import.bodyOf content = some body) : Offers disk directory file body root
  | archive (place : Place) (archive : Archive)
      (found : disk.find directory root = .ok (place, .file (.archive archive)))
      (only : ∀ member ∈ archive, member.corrupt = false ∧ (Mark member ∨ member.path = file ∧ member.body = body)) :
      Offers disk directory file body root
  | missing (errno : Errno) (absent : disk.find directory root = .error errno) (short : errno ≠ .nameTooLong) :
      Offers disk directory file body root
  | foreign (place : Place) (content : Content) (found : disk.find directory root = .ok (place, .file content))
      (other : ∀ archive, content ≠ .archive archive) : Offers disk directory file body root

-- A root has the file.
inductive Holds (disk : Disk) (directory : Place) (file : String) (body : MemberBody) (root : Path) : Prop where
  | folder (place : Place) (found : disk.find directory root = .ok (place, .folder))
      (held : Import.fileAt? disk (place ++ [file]) = some body) : Holds disk directory file body root
  | archive (place : Place) (archive : Archive)
      (found : disk.find directory root = .ok (place, .file (.archive archive)))
      (member : Member) (inside : member ∈ archive) (named : member.path = file) : Holds disk directory file body root

-- A class path whose only file holds a module, below one of its roots.
structure SoleModule (disk : Disk) (directory : Place) (roots : List Path) (module : String) (body : MemberBody)
    (home : Path) : Prop where
  rooted : disk.Rooted
  settled : ∀ part ∈ directory, Path.Component part
  plain : ∀ part ∈ home.parts, Path.Component part
  free : ∀ root ∈ roots, root.hasNul = false
  identifier : Text.isIdentifier module = true
  notInit : module ≠ "__init__"
  notMain : module ≠ "__main__"
  offers : ∀ root ∈ roots, Offers disk directory (module ++ ".py") body root
  member : home ∈ roots
  holds : Holds disk directory (module ++ ".py") body home

theorem module_name_of_file (module : String) (valid : Text.isIdentifier module = true) (notInit : module ≠ "__init__")
    (notMain : module ≠ "__main__") : moduleName? ⟨.relative, [module ++ ".py"]⟩ = some module := by
  have own : moduleSegments [] module = [module] := if_neg notInit
  exact (module_name_iff _ _).mpr ⟨[], module, rfl, ⟨nofun, notMain, by simp [own], by simpa [own] using valid⟩, by rw [own]; rfl⟩

theorem wanted_alone (module : String) : wanted (some [module]) module = true := by simp [wanted, Name.mayContain]

theorem component_of_file (module : String) (valid : Text.isIdentifier module = true) :
    Path.Component (module ++ ".py") := by
  have long : 3 ≤ (module ++ ".py").length := by
    rw [String.length_append, show (".py" : String).length = 3 from rfl]
    omega
  refine ⟨?_, ?_, ?_⟩
  · intro same
    rw [same] at long
    exact absurd long (by decide)
  · intro same
    rw [same] at long
    exact absurd long (by decide)
  · intro inside
    rw [String.toList_append, List.mem_append] at inside
    rcases inside with own | ending
    · exact absurd (continues_of_identifier module valid '/' own) (by decide)
    · exact absurd ending (by decide)

theorem file_of_mark (member : Member) (module : String) (marked : Mark member) : member.path ≠ module ++ ".py" := by
  intro same
  have last := marked.1
  rw [same] at last
  simp at last

section

variable {module : String} {body : MemberBody} {headed : Bool} {statements : List Statement}
  (read : Import.statementsOf Import.readSource body = .ok (headed, statements))
include read

theorem type_names_of_body (origin : String) :
    (SourceUnit.typeNames { module, origin, body }).1 = (Source.classNames statements).map (Name.child module) := by
  have names : SourceUnit.classNames? { module, origin, body } = some (Source.classNames statements) := by
    cases body with
    | module own =>
        cases read
        rfl
    | bytes data =>
        simp only [Import.statementsOf, Import.readSource] at read
        simp only [SourceUnit.classNames?]
        cases found : Source.read? data with
        | none => simp [found, Except.map] at read
        | some own =>
            simp only [found, Except.map, Except.ok.injEq, Prod.mk.injEq] at read
            rw [read.2]
            rfl
  rw [SourceUnit.typeNames, names]

variable (valid : Text.isIdentifier module = true) (notInit : module ≠ "__init__") (notMain : module ≠ "__main__")
include valid notInit notMain

omit read in
theorem folder_unit_of_file (root : Path) (content : Content) (held : Import.bodyOf content = some body) :
    folderUnit? root (some [module]) [module ++ ".py"] content =
      some { module, origin := (root.join ⟨.relative, [module ++ ".py"]⟩).toString, body } := by
  have same : bodyOf content = body := by cases content <;> simp_all [Import.bodyOf, bodyOf]
  simp [folderUnit?, module_name_of_file module valid notInit notMain, wanted_alone, same]

theorem types_under_file (archive : Archive) (root : String) (member : Member) (held : member.body = body)
    (found : lastNamed archive (module ++ ".py") = some member) :
    typesUnder archive root (some [module]) (module ++ ".py") = (Source.classNames statements).map (Name.child module) := by
  have file := Path.of_component _ (component_of_file module valid)
  simp only [typesUnder, memberUnit?, file, module_name_of_file module valid notInit notMain, found, wanted_alone, held,
    if_true, Option.map_some, Option.getD_some]
  exact type_names_of_body read _

variable (disk : Disk) (directory : Place) (root : Path)

theorem folder_tells (place : Place) (found : disk.find directory root = .ok (place, .folder))
    (only : ∀ components content, (components, .file content) ∈ disk.below place →
      components = [module ++ ".py"] ∧ Import.bodyOf content = some body) :
    (∀ name ∈ typesAt disk directory (some [module]) root, name ∈ (Source.classNames statements).map (Name.child module)) ∧
      (Import.fileAt? disk (place ++ [module ++ ".py"]) = some body →
        ∀ name ∈ (Source.classNames statements).map (Name.child module),
          name ∈ typesAt disk directory (some [module]) root) := by
  have told (content : Content) (held : Import.bodyOf content = some body) :
      ((folderUnit? root (some [module]) [module ++ ".py"] content).map (·.typeNames.1)).getD [] =
        (Source.classNames statements).map (Name.child module) := by
    rw [folder_unit_of_file valid notInit notMain root content held]
    exact type_names_of_body read _
  rw [types_of_folder disk directory (some [module]) root place found]
  constructor
  · intro name member
    obtain ⟨⟨components, content⟩, inside, own⟩ := List.mem_flatMap.mp member
    obtain ⟨rfl, held⟩ := only components content ((mem_source_files disk place _ _).mp inside).1
    rwa [told content held] at own
  · intro held name own
    unfold Import.fileAt? at held
    split at held
    · rename_i content there
      have source : hasSourceName [module ++ ".py"] = true := by
        simp [hasSourceName, sourceSuffix, List.isSuffixOf_iff_suffix]
      have member := (mem_source_files disk place _ content).mpr
        ⟨Disk.mem_below disk place [module ++ ".py"] _ (by simp) there, source⟩
      exact List.mem_flatMap.mpr ⟨_, member, by rwa [told content held]⟩
    · cases held

theorem archive_tells (place : Place) (archive : Archive)
    (found : disk.find directory root = .ok (place, .file (.archive archive)))
    (only : ∀ member ∈ archive, member.corrupt = false ∧
      (Mark member ∨ member.path = module ++ ".py" ∧ member.body = body)) :
    (∀ name ∈ typesAt disk directory (some [module]) root, name ∈ (Source.classNames statements).map (Name.child module)) ∧
      ((∃ member ∈ archive, member.path = module ++ ".py") →
        ∀ name ∈ (Source.classNames statements).map (Name.child module),
          name ∈ typesAt disk directory (some [module]) root) := by
  have sound : Sound archive := fun member inside => (only member inside).1
  rw [types_of_archive disk directory (some [module]) root place archive found sound]
  constructor
  · intro name member
    obtain ⟨file, inside, told⟩ := List.mem_flatMap.mp member
    obtain ⟨held, stored, same, last⟩ := last_named archive file ((mem_member_names archive file).mp inside)
    rcases (only held stored).2 with marked | ⟨path, body⟩
    · rw [types_under_mark archive root.toString (some [module]) file held last marked.2] at told
      cases told
    · rw [← same, path] at told last
      rwa [types_under_file read valid notInit notMain archive root.toString held body last] at told
  · intro present name own
    obtain ⟨held, stored, same, last⟩ := last_named archive (module ++ ".py") present
    have body := ((only held stored).2.resolve_left fun marked => file_of_mark held module marked same).2
    refine List.mem_flatMap.mpr ⟨_, (mem_member_names archive _).mpr present, ?_⟩
    rwa [types_under_file read valid notInit notMain archive root.toString held body last]

-- The types of a root are types of the module, and all of them if it has the file.
theorem types_tell (offers : Offers disk directory (module ++ ".py") body root) :
    ¬disk.Unaskable directory root ∧
      (∀ name ∈ typesAt disk directory (some [module]) root,
        name ∈ (Source.classNames statements).map (Name.child module)) ∧
      (Holds disk directory (module ++ ".py") body root → Readable disk directory (some [module]) root ∧
        ∀ name ∈ (Source.classNames statements).map (Name.child module),
          name ∈ typesAt disk directory (some [module]) root) := by
  cases offers with
  | folder place found only =>
      obtain ⟨tell, whole⟩ := folder_tells read valid notInit notMain disk directory root place found only
      refine ⟨disk.askable_of_short directory root (by simp [found]), tell, fun holds => ?_⟩
      cases holds with
      | folder other same held =>
          cases found.symm.trans same
          exact ⟨readable_of_folder disk directory _ root place found, whole held⟩
      | archive other archive same => cases found.symm.trans same
  | archive place archive found only =>
      obtain ⟨tell, whole⟩ := archive_tells read valid notInit notMain disk directory root place archive found only
      refine ⟨disk.askable_of_short directory root (by simp [found]), tell, fun holds => ?_⟩
      cases holds with
      | folder other same held => cases found.symm.trans same
      | archive other archive same member inside named =>
          cases found.symm.trans same
          exact ⟨readable_of_archive disk directory _ root place archive found fun member inside => (only member inside).1,
            whole ⟨member, inside, named⟩⟩
  | missing errno absent short =>
      refine ⟨disk.askable_of_short directory root (by simpa [absent] using short), by simp [typesAt, sources?, absent],
        fun holds => ?_⟩
      cases holds with
      | folder other same held => cases absent.symm.trans same
      | archive other archive same => cases absent.symm.trans same
  | foreign place content found other =>
      have nothing : sources? disk directory (some [module]) root = none := by
        rw [sources?, found]
        cases content with
        | archive archive => exact absurd rfl (other archive)
        | bytes data => rfl
        | module own => rfl
      refine ⟨disk.askable_of_short directory root (by simp [found]), by simp [typesAt, nothing], fun holds => ?_⟩
      cases holds with
      | folder other same held => cases found.symm.trans same
      | archive place archive same =>
          cases found.symm.trans same
          exact absurd rfl (other archive)

end

theorem scan_sole_module (disk : Disk) (directory : Place) (roots : List Path) (module : String) (body : MemberBody)
    (home : Path) (sole : SoleModule disk directory roots module body home) (headed : Bool)
    (statements : List Statement) (read : Import.statementsOf Import.readSource body = .ok (headed, statements)) :
    ∃ names, (scanOf disk directory roots (some [module])).1 = .ok names ∧
      ∀ name, name ∈ names ↔ name ∈ (Source.classNames statements).map (Name.child module) := by
  have tell (root : Path) (inside : root ∈ roots) :=
    types_tell read sole.identifier sole.notInit sole.notMain disk directory root (sole.offers root inside)
  obtain ⟨readable, all⟩ := (tell home sole.member).2.2 sole.holds
  have scanned := (scan_ok_iff disk directory (some [module]) roots _).mpr ⟨fun root inside => (tell root inside).1,
    (offered_ok_iff disk directory (some [module]) roots _).mpr ⟨⟨home, sole.member, readable⟩, rfl⟩⟩
  refine ⟨_, scanned, fun name => ?_⟩
  rw [mem_scanned disk directory (some [module]) roots _ scanned]
  exact ⟨fun ⟨root, inside, told⟩ => (tell root inside).2.1 name told, fun own => ⟨home, sole.member, all name own⟩⟩

end ClassPath

/-! ### Importing -/

namespace Import

theorem archive_above_of_rooted (disk : Disk) (rooted : disk.Rooted) (above place : Place) (archive : Archive)
    (held : disk.at? (above ++ place) = some (.file (.archive archive))) (deeper : place ≠ []) :
    archiveAbove disk above place = some (archive, above ++ place, []) := by
  induction place generalizing above with
  | nil => exact absurd rfl deeper
  | cons name rest ih =>
      rw [archiveAbove]
      cases rest with
      | nil => rw [held]
      | cons next more =>
          have held : disk.at? ((above ++ [name]) ++ next :: more) = some (.file (.archive archive)) := by
            rw [List.append_assoc]
            exact held
          rw [Disk.folder_above rooted (above ++ [name]) (next :: more) _ (by simp) held]
          have inner := ih (above ++ [name]) held (by simp)
          rw [List.append_assoc] at inner
          exact inner

section

variable {disk : Disk} {directory : Place} {roots : List Path} {module : String} {body : MemberBody} {home : Path}
  (sole : ClassPath.SoleModule disk directory roots module body home)
include sole

-- The root is found again under the text that it is looked for by.
theorem place_of_home (place : Place) (entry : Entry) (found : disk.find directory home = .ok (place, entry)) :
    (Path.ofString (home.resolve directory).toString).parts = place ∧ disk.at? place = some entry := by
  obtain ⟨rfl, held⟩ := disk.find_folder directory place home entry found
  rw [Path.resolve_eq_folder]
  exact ⟨Path.parts_of_written _ (Path.folder_components directory home sole.settled sole.plain), held⟩

theorem find_in_home : findIn disk (home.resolve directory).toString module =
    .source ((home.resolve directory).toString ++ "/" ++ module ++ ".py") none body := by
  have offers := sole.offers home sole.member
  rw [findIn]
  cases sole.holds with
  | folder place found held =>
      obtain ⟨same, folder⟩ := place_of_home sole place _ found
      cases offers with
      | folder other also only =>
          cases found.symm.trans also
          have package : fileAt? disk (place ++ [module] ++ [initFile]) = none := by
            unfold fileAt?
            split
            · rename_i content there
              rw [List.append_assoc] at there
              obtain ⟨alone, -⟩ := only _ content (disk.mem_below place [module, initFile] _ (by simp) there)
              simp at alone
            · rfl
          rw [same]
          simp only [isFolderAt, folder, if_true, findInFolder, package, held]
      | archive other archive also => cases found.symm.trans also
      | missing errno absent => cases found.symm.trans absent
      | foreign other content also => cases found.symm.trans also
  | archive place archive found member inside named =>
      obtain ⟨same, held⟩ := place_of_home sole place _ found
      cases offers with
      | folder other also only => cases found.symm.trans also
      | archive other archive also only =>
          cases found.symm.trans also
          have deeper : place ≠ [] := by
            rintro rfl
            cases held
          have above := archive_above_of_rooted disk sole.rooted [] place archive held deeper
          have package : member? archive (module ++ "/" ++ initFile) = none := by
            rw [member?, List.find?_eq_none]
            intro other inside same
            obtain ⟨-, marked | ⟨file, -⟩⟩ := only other (List.mem_reverse.mp inside)
            · have last := marked.1
              rw [beq_iff_eq.mp same] at last
              simp [initFile] at last
            · have slashed := beq_iff_eq.mp same
              rw [file] at slashed
              exact (ClassPath.component_of_file module sole.identifier).2.2 (slashed ▸ by simp)
          have whole : ∃ found, member? archive (module ++ ".py") = some found ∧ found.body = body := by
            obtain ⟨last, own, called, seen⟩ := ClassPath.last_named archive (module ++ ".py") ⟨member, inside, named⟩
            obtain ⟨-, marked | ⟨-, body⟩⟩ := only last own
            · exact absurd called (ClassPath.file_of_mark last module marked)
            · exact ⟨last, seen, body⟩
          obtain ⟨last, seen, rfl⟩ := whole
          rw [same, above]
          simp only [isFolderAt, held, Bool.false_eq_true, if_false, findInArchive, List.nil_append, Text.join,
            package, seen]
      | missing errno absent => cases found.symm.trans absent
      | foreign other content also different =>
          cases found.symm.trans also
          exact absurd rfl (different archive)

end

end Import

end StubForge
