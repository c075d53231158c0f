import StubForge.Proofs.Occurrences
import StubForge.Proofs.Runs
import StubForge.Proofs.TypeNames

set_option autoImplicit false

/-!
What a search of a class path comes to, root by root. The types are those of the roots that can be read, in order and each
once; a root that cannot be read leaves a warning and nothing else. Only a name that is too long for the disk stops a
search.
-/

namespace StubForge

def overlongName (root : Path) : Mishap where
  kind := Errno.nameTooLong.kind
  message := Errno.nameTooLong.message root.toString

-- A name in the path is too long for the disk to be asked about it.
def Disk.Unaskable (disk : Disk) (directory : Place) (root : Path) : Prop :=
  disk.isFolder directory root = .error .nameTooLong

theorem Disk.errno_of_ask (disk : Disk) (directory : Place) (path : Path) (question : Entry → Bool) (errno : Errno)
    (failed : disk.ask directory path question = .error errno) : errno = .nameTooLong := by
  rw [ask] at failed
  split at failed
  · cases failed
  · split at failed <;> cases failed
    rfl

theorem Disk.askable_of_short (disk : Disk) (directory : Place) (root : Path)
    (short : disk.find directory root ≠ .error .nameTooLong) : ¬disk.Unaskable directory root := by
  rw [Unaskable, isFolder, ask]
  split
  · nofun
  · split
    · nofun
    · rename_i long
      exact absurd long short
    · nofun

namespace ClassPath

/-! ### First occurrences -/

theorem add_names_eq (names more : List String) : addNames names more = names ++ (more.removeAll names).eraseDups := by
  induction more generalizing names with
  | nil => simp [addNames, List.removeAll]
  | cons name rest ih =>
      rw [add_names_cons, ih]
      by_cases known : name ∈ names
      · simp [List.removeAll, known]
      · have apart (other : String) : (!decide (other = name) && !decide (other ∈ names)) =
            (!other == name && !decide (other ∈ names)) := rfl
        simp [List.removeAll, known, List.eraseDups_cons, List.filter_filter, Bool.and_comm, apart]

theorem unit_names_eq (names : List String) (units : List SourceUnit) :
    unitNames names units = (addNames names (units.flatMap (·.typeNames.1)), units.flatMap (·.typeNames.2)) := by
  refine Prod.ext ?_ ?_
  · rw [unit_names_fst, addNames, List.foldl_flatMap]
    rfl
  · have told (names : List String) (records : List Record) :
        (units.foldl (fun known source => (addNames known.1 source.typeNames.1, known.2 ++ source.typeNames.2))
          (names, records)).2 = records ++ units.flatMap (·.typeNames.2) := by
      induction units generalizing names records with
      | nil => simp
      | cons source rest ih => simpa using ih (addNames names source.typeNames.1) (records ++ source.typeNames.2)
    exact told names []

/-! ### Roots -/

-- A member of an archive that is read and fails its check.
def damaged (archive : Archive) (packages : Option (List String)) (name : String) : Bool :=
  match moduleName? (Path.ofString name), lastNamed archive name with
  | some module, some member => wanted packages module && member.corrupt
  | _, _ => false

theorem undamaged_of_sound (archive : Archive) (sound : Sound archive) (packages : Option (List String)) (name : String) :
    damaged archive packages name = false := by
  rw [damaged]
  split
  · rename_i module member _ held
    rw [sound member (List.mem_reverse.mp (List.mem_of_find?_eq_some held)), Bool.and_false]
  · rfl

def memberUnit? (archive : Archive) (root : String) (packages : Option (List String)) (name : String) :
    Option SourceUnit :=
  match moduleName? (Path.ofString name), lastNamed archive name with
  | some module, some member =>
      if wanted packages module then some { module, origin := root ++ "!" ++ name, body := member.body } else none
  | _, _ => none

-- The types of the source that a member of an archive holds, by the name of the member.
def typesUnder (archive : Archive) (root : String) (packages : Option (List String)) (name : String) : List String :=
  ((memberUnit? archive root packages name).map (·.typeNames.1)).getD []

-- The members of an archive are found under their names.
theorem last_named (archive : Archive) (name : String) (held : ∃ member ∈ archive, member.path = name) :
    ∃ member ∈ archive, member.path = name ∧ lastNamed archive name = some member := by
  cases found : lastNamed archive name with
  | none =>
      obtain ⟨member, inside, named⟩ := held
      have absent := List.find?_eq_none.mp found member (List.mem_reverse.mpr inside)
      exact absurd (by simpa using named) absent
  | some member =>
      exact ⟨member, List.mem_reverse.mp (List.mem_of_find?_eq_some found), by simpa using List.find?_some found, rfl⟩

theorem mem_source_files (disk : Disk) (place : Place) (components : List String) (content : Content) :
    (components, content) ∈ sourceFiles disk place ↔
      (components, .file content) ∈ disk.below place ∧ hasSourceName components = true := by
  rw [sourceFiles, (Order.sort_perm _ _).mem_iff, List.mem_filterMap]
  constructor
  · rintro ⟨⟨found, entry⟩, member, kept⟩
    cases entry with
    | folder => cases kept
    | file own =>
        dsimp only at kept
        split at kept
        · cases kept
          exact ⟨member, by assumption⟩
        · cases kept
  · rintro ⟨member, source⟩
    exact ⟨_, member, by simp [source]⟩

theorem type_names_of_nothing (module origin : String) :
    (SourceUnit.typeNames { module, origin, body := .bytes [] }).1 = [] := by
  have none : Source.read? [] = some [] := rfl
  simp [SourceUnit.typeNames, SourceUnit.classNames?, none, Source.classNames, classNamesIn]

theorem mem_member_names (archive : Archive) (name : String) :
    name ∈ memberNames archive ↔ ∃ member ∈ archive, member.path = name := by
  rw [memberNames, (Order.sort_perm _ _).mem_iff, List.mem_map]

theorem types_under_mark (archive : Archive) (root : String) (packages : Option (List String)) (name : String)
    (member : Member) (held : lastNamed archive name = some member) (empty : member.body = .bytes []) :
    typesUnder archive root packages name = [] := by
  simp only [typesUnder, memberUnit?, held]
  cases moduleName? (Path.ofString name) with
  | none => rfl
  | some module =>
      dsimp only
      split
      · rw [empty]
        exact type_names_of_nothing _ _
      · rfl

theorem flat_map_filter_map {α β : Type} (source? : α → Option β) (told : β → List String) (items : List α) :
    (items.filterMap source?).flatMap told = items.flatMap fun item => ((source? item).map told).getD [] := by
  induction items with
  | nil => rfl
  | cons item rest ih => cases read : source? item <;> simp [read, ih]

section

variable (disk : Disk) (directory : Place) (packages : Option (List String))

-- The sources of a root that can be read: a folder, or an archive of which no member that is read is damaged.
def sources? (root : Path) : Option (List SourceUnit) :=
  match disk.find directory root with
  | .ok (place, .folder) => some (folderUnits disk place root packages)
  | .ok (_, .file (.archive archive)) =>
      if (memberNames archive).any (damaged archive packages) then none
      else some ((memberNames archive).filterMap (memberUnit? archive root.toString packages))
  | _ => none

-- Why a root cannot be read.
def rootFault (root : Path) : ClasspathFault :=
  match disk.find directory root with
  | .ok (_, .file (.archive archive)) =>
      .unreadableArchive root.toString (damageText (((memberNames archive).find? (damaged archive packages)).getD ""))
  | .ok (_, .file _) => .unreadableArchive root.toString notArchiveText
  | _ => .missingRoot root.toString

def Readable (root : Path) : Prop := (sources? disk directory packages root).isSome = true

instance (root : Path) : Decidable (Readable disk directory packages root) := inferInstanceAs (Decidable (_ = true))

-- The names of all types of a root, none of one that cannot be read.
def typesAt (root : Path) : List String :=
  ((sources? disk directory packages root).getD []).flatMap (·.typeNames.1)

theorem types_of_unreadable (root : Path) (refused : ¬Readable disk directory packages root) :
    typesAt disk directory packages root = [] := by
  cases read : sources? disk directory packages root with
  | none => simp [typesAt, read]
  | some sources => exact absurd (by simp [Readable, read]) refused

theorem types_of_readable (roots : List Path) :
    (roots.filter (Readable disk directory packages ·)).flatMap (typesAt disk directory packages) =
      roots.flatMap (typesAt disk directory packages) := by
  induction roots with
  | nil => rfl
  | cons root rest ih =>
      by_cases read : Readable disk directory packages root
      · rw [List.filter_cons_of_pos (by simpa using read), List.flatMap_cons, List.flatMap_cons, ih]
      · rw [List.filter_cons_of_neg (by simpa using read), List.flatMap_cons, types_of_unreadable _ _ _ root read, ih]
        rfl

theorem mem_types (root : Path) (name : String) : name ∈ typesAt disk directory packages root ↔
    ∃ sources, sources? disk directory packages root = some sources ∧ ∃ source ∈ sources, name ∈ source.typeNames.1 := by
  cases read : sources? disk directory packages root with
  | none => simp [typesAt, read]
  | some sources => simp [typesAt, read]

theorem sources_of_archive (root : Path) (place : Place) (archive : Archive)
    (found : disk.find directory root = .ok (place, .file (.archive archive))) (sound : Sound archive) :
    sources? disk directory packages root =
      some ((memberNames archive).filterMap (memberUnit? archive root.toString packages)) := by
  have whole : ¬(memberNames archive).any (damaged archive packages) = true := by
    simpa using fun name _ => undamaged_of_sound archive sound packages name
  simp only [sources?, found, if_neg whole]

theorem types_of_folder (root : Path) (place : Place) (found : disk.find directory root = .ok (place, .folder)) :
    typesAt disk directory packages root =
      (sourceFiles disk place).flatMap fun file => ((folderUnit? root packages file.1 file.2).map (·.typeNames.1)).getD [] := by
  simp only [typesAt, sources?, found, Option.getD_some]
  exact flat_map_filter_map _ _ _

theorem types_of_archive (root : Path) (place : Place) (archive : Archive)
    (found : disk.find directory root = .ok (place, .file (.archive archive))) (sound : Sound archive) :
    typesAt disk directory packages root = (memberNames archive).flatMap (typesUnder archive root.toString packages) := by
  rw [typesAt, sources_of_archive disk directory packages root place archive found sound]
  exact flat_map_filter_map _ _ _

theorem readable_of_folder (root : Path) (place : Place) (found : disk.find directory root = .ok (place, .folder)) :
    Readable disk directory packages root := by
  simp [Readable, sources?, found]

theorem readable_of_archive (root : Path) (place : Place) (archive : Archive)
    (found : disk.find directory root = .ok (place, .file (.archive archive))) (sound : Sound archive) :
    Readable disk directory packages root := by
  rw [Readable, sources_of_archive disk directory packages root place archive found sound]
  rfl

-- Every source is named after a path.
theorem named_of_sources (root : Path) (sources : List SourceUnit)
    (read : sources? disk directory packages root = some sources) (source : SourceUnit) (member : source ∈ sources) :
    ∃ path, moduleName? path = some source.module := by
  rw [sources?] at read
  split at read
  · cases read
    obtain ⟨⟨components, content⟩, -, found⟩ := List.mem_filterMap.mp member
    simp only [folderUnit?] at found
    split at found
    · cases found
    · split at found <;> cases found
      exact ⟨_, by assumption⟩
  · split at read <;> cases read
    obtain ⟨name, -, found⟩ := List.mem_filterMap.mp member
    simp only [memberUnit?] at found
    split at found
    · split at found <;> cases found
      exact ⟨_, by assumption⟩
    · cases found
  · cases read

-- The warnings about a root: about its malformed sources, or about the root itself.
def warningsAt (root : Path) : List Record :=
  match sources? disk directory packages root with
  | some sources => sources.flatMap (·.typeNames.2)
  | none => [{ level := .warning, message := (rootFault disk directory packages root).message }]

theorem archive_units_eq (archive : Archive) (root : String) (names : List String) :
    archiveUnitsFrom archive root packages names =
      match names.find? (damaged archive packages) with
      | some name => .error (damageText name)
      | none => .ok (names.filterMap (memberUnit? archive root packages)) := by
  induction names with
  | nil => rfl
  | cons name rest ih =>
      rw [archiveUnitsFrom, ih]
      cases named : moduleName? (Path.ofString name) with
      | none => simp [damaged, memberUnit?, named]
      | some module =>
          cases held : lastNamed archive name with
          | none => simp [damaged, memberUnit?, named, held]
          | some member =>
              cases chosen : wanted packages module with
              | false => simp [damaged, memberUnit?, named, held, chosen]
              | true =>
                  cases corrupt : member.corrupt with
                  | true => simp [damaged, named, held, chosen, corrupt]
                  | false =>
                      cases later : rest.find? (damaged archive packages) <;>
                        simp [damaged, memberUnit?, named, held, chosen, corrupt, later, Except.map]

theorem root_units_eq (root : Path) (askable : ¬disk.Unaskable directory root) :
    rootUnits disk directory root packages =
      match sources? disk directory packages root with
      | some sources => .ok sources
      | none => .error (.unreadable (rootFault disk directory packages root)) := by
  rw [rootUnits]
  cases asked : disk.isFolder directory root with
  | error errno =>
      cases Disk.errno_of_ask disk directory root _ errno asked
      exact absurd asked askable
  | ok answer =>
      cases found : disk.find directory root with
      | error errno => simp [sources?, rootFault, found]
      | ok held =>
          obtain ⟨place, entry⟩ := held
          cases entry with
          | folder => simp [sources?, found]
          | file content =>
              cases content with
              | bytes data => simp [sources?, rootFault, found]
              | module body => simp [sources?, rootFault, found]
              | archive archive =>
                  simp only [sources?, rootFault, found, archive_units_eq]
                  cases damage : (memberNames archive).find? (damaged archive packages) with
                  | none =>
                      have sound := List.find?_eq_none.mp damage
                      rw [if_neg (by simpa using sound)]
                  | some name =>
                      have any : (memberNames archive).any (damaged archive packages) = true :=
                        List.any_eq_true.mpr ⟨name, List.mem_of_find?_eq_some damage, List.find?_some damage⟩
                      rw [if_pos any]
                      rfl

theorem scan_root_eq (scan : Scan) (root : Path) (askable : ¬disk.Unaskable directory root) :
    scanRoot disk directory packages scan root =
      .ok { names := addNames scan.names (typesAt disk directory packages root)
            readable := scan.readable + if Readable disk directory packages root then 1 else 0
            records := scan.records ++ warningsAt disk directory packages root } := by
  rw [scanRoot, root_units_eq disk directory packages root askable]
  cases read : sources? disk directory packages root with
  | some sources => simp [typesAt, Readable, warningsAt, read, unit_names_eq]
  | none => simp [typesAt, Readable, warningsAt, read, addNames]

-- By induction on the roots: each adds its types and its warnings to those of the roots before it.
theorem scan_roots_eq (roots : List Path) (askable : ∀ root ∈ roots, ¬disk.Unaskable directory root) (scan : Scan) :
    roots.foldlM (scanRoot disk directory packages) scan =
      .ok { names := addNames scan.names (roots.flatMap (typesAt disk directory packages))
            readable := scan.readable + roots.countP (Readable disk directory packages ·)
            records := scan.records ++ roots.flatMap (warningsAt disk directory packages) } := by
  induction roots generalizing scan with
  | nil => simp [addNames, pure, Except.pure]
  | cons root rest ih =>
      obtain ⟨own, others⟩ := List.forall_mem_cons.mp askable
      rw [List.foldlM_cons, scan_root_eq disk directory packages scan root own]
      refine (ih others _).trans ?_
      simp [addNames, List.countP_cons, Nat.add_assoc, Nat.add_comm]

-- What a search returns if all roots can be asked about.
def offered (roots : List Path) : Except Error (List String) :=
  if ∃ root ∈ roots, Readable disk directory packages root then
    .ok (roots.flatMap (typesAt disk directory packages)).eraseDups
  else .error (.classpath (if roots = [] then .noRoots else .noneReadable (roots.map Path.toString)))

theorem offered_ok_iff (roots : List Path) (names : List String) :
    offered disk directory packages roots = .ok names ↔
      (∃ root ∈ roots, Readable disk directory packages root) ∧
        names = (roots.flatMap (typesAt disk directory packages)).eraseDups := by
  rw [offered]
  split <;> simp_all [eq_comm]

-- A root that cannot be read can be left out, if another one can be read.
theorem offered_insert (front back : List Path) (root : Path) (refused : ¬Readable disk directory packages root)
    (some : ∃ other ∈ front ++ back, Readable disk directory packages other) :
    offered disk directory packages (front ++ root :: back) = offered disk directory packages (front ++ back) := by
  have nothing := types_of_unreadable disk directory packages root refused
  have more : ∃ other ∈ front ++ root :: back, Readable disk directory packages other := by
    obtain ⟨other, member, read⟩ := some
    refine ⟨other, ?_, read⟩
    simp only [List.mem_append, List.mem_cons] at member ⊢
    tauto
  rw [offered, offered, if_pos some, if_pos more]
  simp [nothing]

def countRecord (result : Except Error (List String)) : List Record :=
  match result with
  | .ok names => [{ level := .debug, message := foundText names.length }]
  | .error _ => []

theorem count_record_insert (front back : List Path) (root : Path) (refused : ¬Readable disk directory packages root) :
    countRecord (offered disk directory packages (front ++ root :: back)) =
      countRecord (offered disk directory packages (front ++ back)) := by
  by_cases some : ∃ other ∈ front ++ back, Readable disk directory packages other
  · rw [offered_insert disk directory packages front back root refused some]
  · have none : ¬∃ other ∈ front ++ root :: back, Readable disk directory packages other := by
      rintro ⟨other, member, read⟩
      rcases List.mem_append.mp member with before | later
      · exact some ⟨other, List.mem_append_left back before, read⟩
      · rcases List.mem_cons.mp later with rfl | after
        · exact refused read
        · exact some ⟨other, List.mem_append_right front after, read⟩
    rw [offered, offered, if_neg some, if_neg none]
    rfl

theorem warnings_of_unreadable (root : Path) (refused : ¬Readable disk directory packages root) :
    warningsAt disk directory packages root =
      [{ level := .warning, message := (rootFault disk directory packages root).message }] := by
  cases read : sources? disk directory packages root with
  | none => simp [warningsAt, read]
  | some sources => exact absurd (by simp [Readable, read]) refused

theorem scan_of_askable (roots : List Path) (askable : ∀ root ∈ roots, ¬disk.Unaskable directory root) :
    scanOf disk directory roots packages =
      (offered disk directory packages roots,
        roots.flatMap (warningsAt disk directory packages) ++ countRecord (offered disk directory packages roots)) := by
  rw [scanOf]
  cases roots with
  | nil => simp [offered, countRecord]
  | cons root rest =>
      rw [if_neg (by simp), scan_roots_eq disk directory packages _ askable]
      by_cases readable : ∃ other ∈ root :: rest, Readable disk directory packages other
      · have counted : (root :: rest).countP (Readable disk directory packages ·) ≠ 0 :=
          Nat.ne_of_gt (List.countP_pos_iff.mpr (by simpa only [decide_eq_true_eq] using readable))
        simp only [offered, if_pos readable, Nat.zero_add, if_neg counted, countRecord, add_names_eq, List.nil_append,
          List.removeAll, List.elem_nil, Bool.not_false, List.filter_true]
      · have counted : (root :: rest).countP (Readable disk directory packages ·) = 0 := by
          rw [List.countP_eq_zero]
          exact fun other member own => readable ⟨other, member, of_decide_eq_true own⟩
        simp only [offered, if_neg readable, Nat.zero_add, if_pos counted, countRecord, reduceCtorEq, if_false,
          List.nil_append, List.append_nil]

-- The first root of a class path about which the disk cannot be asked.
def Overlong (roots : List Path) (root : Path) : Prop :=
  ∃ before after, roots = before ++ root :: after ∧ (∀ other ∈ before, ¬disk.Unaskable directory other) ∧
    disk.Unaskable directory root

theorem overlong_of_unaskable (roots : List Path) (refused : ∃ root ∈ roots, disk.Unaskable directory root) :
    ∃ root, Overlong disk directory roots root := by
  induction roots with
  | nil => simp at refused
  | cons first rest ih =>
      by_cases here : disk.Unaskable directory first
      · exact ⟨first, [], rest, rfl, nofun, here⟩
      · obtain ⟨root, member, own⟩ := refused
        have later := (List.mem_cons.mp member).resolve_left fun same => here (same ▸ own)
        obtain ⟨found, before, after, split, others, refused⟩ := ih ⟨root, later, own⟩
        exact ⟨found, first :: before, after, by rw [split]; rfl, List.forall_mem_cons.mpr ⟨here, others⟩, refused⟩

theorem scan_of_overlong (roots : List Path) (root : Path) (overlong : Overlong disk directory roots root) :
    (scanOf disk directory roots packages).1 = .error (.mishap (overlongName root)) := by
  obtain ⟨before, after, rfl, askable, refused⟩ := overlong
  have stopped (scan : Scan) : scanRoot disk directory packages scan root =
      .error (.mishap (overlongName root), scan.records) := by
    rw [Disk.Unaskable] at refused
    rw [scanRoot, rootUnits, refused]
    rfl
  have halted : ∃ records, (before ++ root :: after).foldlM (scanRoot disk directory packages) {} =
      .error (.mishap (overlongName root), records) := by
    rw [List.foldlM_append, scan_roots_eq disk directory packages before askable]
    change ∃ records, (root :: after).foldlM (scanRoot disk directory packages) _ = .error (_, records)
    rw [List.foldlM_cons, stopped]
    exact ⟨_, rfl⟩
  obtain ⟨records, halted⟩ := halted
  rw [scanOf, if_neg (by simp), halted]

theorem scan_error (roots : List Path) (error : Error)
    (failed : (scanOf disk directory roots packages).1 = .error error) :
    (∃ fault, error = .classpath fault) ∨
      ∃ root, Overlong disk directory roots root ∧ error = .mishap (overlongName root) := by
  by_cases refused : ∃ root ∈ roots, disk.Unaskable directory root
  · obtain ⟨root, overlong⟩ := overlong_of_unaskable disk directory roots refused
    rw [scan_of_overlong disk directory packages roots root overlong] at failed
    cases failed
    exact .inr ⟨root, overlong, rfl⟩
  · rw [scan_of_askable disk directory packages roots fun root member own => refused ⟨root, member, own⟩, offered] at failed
    split at failed <;> cases failed
    exact .inl ⟨_, rfl⟩

theorem scan_ok_iff (roots : List Path) (names : List String) :
    (scanOf disk directory roots packages).1 = .ok names ↔
      (∀ root ∈ roots, ¬disk.Unaskable directory root) ∧ offered disk directory packages roots = .ok names := by
  by_cases refused : ∃ root ∈ roots, disk.Unaskable directory root
  · obtain ⟨root, overlong⟩ := overlong_of_unaskable disk directory roots refused
    rw [scan_of_overlong disk directory packages roots root overlong]
    refine ⟨nofun, fun ⟨askable, _⟩ => ?_⟩
    obtain ⟨other, member, unaskable⟩ := refused
    exact absurd unaskable (askable other member)
  · have askable : ∀ root ∈ roots, ¬disk.Unaskable directory root := fun root member own => refused ⟨root, member, own⟩
    rw [scan_of_askable disk directory packages roots askable]
    exact ⟨fun done => ⟨askable, done⟩, And.right⟩

-- What a search finds are the types of its roots.
theorem mem_scanned (roots : List Path) (names : List String)
    (scanned : (scanOf disk directory roots packages).1 = .ok names) (name : String) :
    name ∈ names ↔ ∃ root ∈ roots, name ∈ typesAt disk directory packages root := by
  obtain ⟨-, done⟩ := (scan_ok_iff disk directory packages roots names).mp scanned
  obtain ⟨-, rfl⟩ := (offered_ok_iff disk directory packages roots names).mp done
  rw [List.mem_eraseDups, List.mem_flatMap]

theorem scan_nodup (roots : List Path) (names : List String)
    (scanned : (scanOf disk directory roots packages).1 = .ok names) : names.Nodup := by
  obtain ⟨-, done⟩ := (scan_ok_iff disk directory packages roots names).mp scanned
  obtain ⟨-, rfl⟩ := (offered_ok_iff disk directory packages roots names).mp done
  exact nodup_erase_dups _

end

/-! ### Searches in a session -/

-- Looking through the roots of a class path makes records and changes nothing else.
theorem scan_run (roots : List Path) (packages : Option (List String)) (session : Session) :
    scan roots packages session =
      ((scanOf session.world.disk session.directory roots packages).1,
        { session with
          records := session.records ++ (scanOf session.world.disk session.directory roots packages).2 }) := by
  rw [scan, bind_ok (Run.get_run session)]
  obtain ⟨result, records⟩ := scanOf session.world.disk session.directory roots packages
  cases result <;> rfl

section

variable (session : Session) (packages : Option (List String))

-- The disk can be asked about all of the roots.
def Askable (roots : List Path) : Prop := ∀ root ∈ roots, ¬session.world.disk.Unaskable session.directory root

-- A root that can be read in a session.
abbrev Reads (root : Path) : Prop := Readable session.world.disk session.directory packages root

-- The names of the types of a root that can be read, in the order in which they are met.
abbrev types (root : Path) : List String := typesAt session.world.disk session.directory packages root

theorem scan_run_of_askable (roots : List Path) (askable : Askable session roots) :
    scan roots packages session =
      (offered session.world.disk session.directory packages roots,
        { session with
          records := session.records ++ (roots.flatMap (warningsAt session.world.disk session.directory packages)
            ++ countRecord (offered session.world.disk session.directory packages roots)) }) := by
  rw [scan_run, scan_of_askable _ _ _ roots askable]

theorem scan_run_of_overlong (roots : List Path) (root : Path)
    (overlong : Overlong session.world.disk session.directory roots root) :
    (scan roots packages session).1 = .error (.mishap (overlongName root)) := by
  rw [scan_run]
  exact scan_of_overlong _ _ packages roots root overlong

end

/-! ### A class path with a damaged archive -/

def libRoot : Path := ⟨.relative, ["lib"]⟩
def badRoot : Path := ⟨.relative, ["bad.zip"]⟩
def moreRoot : Path := ⟨.relative, ["more"]⟩
def longRoot : Path := ⟨.relative, [String.ofList (List.replicate 256 'n')]⟩

-- The first member of the archive is fine, the second one is not.
def shelf : Session where
  world := World.initial { entries := [(["lib"], .folder),
    (["lib", "shop.py"], .file (.module [.define { name := "Find", bases := [], methods := [] } []])),
    (["bad.zip"], .file (.archive [
      { path := "first.py", body := .module [.define { name := "Lost", bases := [], methods := [] } []] },
      { path := "second.py", body := .module [], corrupt := true }])),
    (["more"], .folder),
    (["more", "shop.py"], .file (.module [.define { name := "Open", bases := [], methods := [] } [],
      .define { name := "Find", bases := [], methods := [] } []]))] }

theorem shelf_askable : Askable shelf [libRoot, moreRoot] ∧ Askable shelf [badRoot] := by
  constructor <;> intro root member unaskable
  · rcases List.mem_pair.mp member with rfl | rfl <;> cases unaskable
  · cases List.mem_singleton.mp member
    cases unaskable

theorem unaskable_of_long (name : String) (long : Disk.tooLong name = true) (plain : name.toList.contains '\x00' = false) :
    shelf.world.disk.Unaskable shelf.directory ⟨.relative, [name]⟩ := by
  have down : name ≠ ".." := by
    rintro rfl
    cases long
  have seen : Path.hasNul ⟨.relative, [name]⟩ = false := by simpa [Path.hasNul] using plain
  rw [Disk.Unaskable, Disk.isFolder, Disk.ask, seen, Disk.find, Disk.locate, Disk.follow, if_neg down, if_pos long]
  rfl

end ClassPath

end StubForge
