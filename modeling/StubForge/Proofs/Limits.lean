import StubForge.Proofs.Scanning

set_option autoImplicit false

/-!
Searches that are limited to packages. The limit takes away sources before they are read, and with them exactly the types
outside the packages: what is found is what an unlimited search finds below the packages, as long as no archive is damaged
where only the unlimited search looks.
-/

namespace StubForge.ClassPath

-- No archive among the roots has a member that fails its check when an unlimited search reads it.
def Intact (disk : Disk) (directory : Place) (roots : List Path) : Prop :=
  ∀ root ∈ roots, ∀ place archive, disk.find directory root = .ok (place, .file (.archive archive)) →
    ∀ name ∈ memberNames archive, damaged archive none name = false

theorem intact_of_sound (disk : Disk) (directory : Place) (roots : List Path) (sound : SoundRoots disk directory roots) :
    Intact disk directory roots :=
  fun root inside place archive found name _ => undamaged_of_sound archive (sound root inside place archive found) none name

section

variable (disk : Disk) (directory : Place) (packages : List String)

theorem damaged_limited (archive : Archive) (name : String) (whole : damaged archive none name = false) :
    damaged archive (some packages) name = false := by
  rw [damaged] at whole ⊢
  split at whole
  · have intact := (Bool.and_eq_false_iff.mp whole).resolve_left (by simp [wanted])
    rw [intact, Bool.and_false]
  · rfl

theorem member_unit_limited (archive : Archive) (root name : String) :
    memberUnit? archive root (some packages) name =
      (memberUnit? archive root none name).filter fun source => wanted (some packages) source.module := by
  simp only [memberUnit?]
  split
  · rename_i module member _ _
    simp [wanted, Option.filter]
  · rfl

-- The sources of a limited search are those that can define types below the packages.
theorem sources_limited (root : Path) (intact : Intact disk directory [root]) :
    sources? disk directory (some packages) root =
      (sources? disk directory none root).map (·.filter fun source => wanted (some packages) source.module) := by
  rw [sources?, sources?]
  split
  · simp only [folder_units_wanted, Option.map_some]
  · rename_i place archive found
    have whole := intact root (List.mem_singleton_self root) place archive found
    have any (packages : Option (List String))
        (kept : ∀ name ∈ memberNames archive, damaged archive packages name = false) :
        ¬(memberNames archive).any (damaged archive packages) = true := by
      simpa using kept
    rw [if_neg (any none whole),
      if_neg (any (some packages) fun name member => damaged_limited packages archive name (whole name member)),
      Option.map_some, List.filter_filterMap]
    congr 1
    exact List.filterMap_congr fun name _ => member_unit_limited packages archive root.toString name
  · rfl

theorem readable_limited (root : Path) (intact : Intact disk directory [root]) :
    Readable disk directory (some packages) root ↔ Readable disk directory none root := by
  rw [Readable, Readable, sources_limited disk directory packages root intact, Option.isSome_map]

theorem types_limited (root : Path) (intact : Intact disk directory [root]) :
    typesAt disk directory (some packages) root =
      (typesAt disk directory none root).filter (Name.inPackages · packages) := by
  rw [typesAt, typesAt, sources_limited disk directory packages root intact]
  cases sources? disk directory none root with
  | none => rfl
  | some sources =>
      simp only [Option.map_some, Option.getD_some, List.filter_flatMap]
      induction sources with
      | nil => rfl
      | cons source rest ih =>
          rw [List.flatMap_cons, source.filter_type_names, ← ih]
          cases contained : Name.mayContain source.module packages <;> simp [wanted, contained]

theorem offered_limited (roots : List Path) (intact : Intact disk directory roots) :
    offered disk directory (some packages) roots =
      (offered disk directory none roots).map (·.filter (Name.inPackages · packages)) := by
  have own (root : Path) (member : root ∈ roots) : Intact disk directory [root] :=
    fun other inside => intact other (List.mem_singleton.mp inside ▸ member)
  have read : (∃ root ∈ roots, Readable disk directory (some packages) root) ↔
      ∃ root ∈ roots, Readable disk directory none root :=
    exists_congr fun root => and_congr_right fun member => readable_limited disk directory packages root (own root member)
  have types : roots.flatMap (typesAt disk directory (some packages)) =
      (roots.flatMap (typesAt disk directory none)).filter (Name.inPackages · packages) := by
    rw [List.filter_flatMap]
    exact List.flatMap_congr fun root member => types_limited disk directory packages root (own root member)
  by_cases readable : ∃ root ∈ roots, Readable disk directory none root
  · rw [offered, offered, if_pos readable, if_pos (read.mpr readable), types, ← erase_dups_filter]
    rfl
  · rw [offered, offered, if_neg readable, if_neg (readable ∘ read.mp)]
    rfl

theorem scan_of_intact (roots : List Path) (intact : Intact disk directory roots) :
    (scanOf disk directory roots (some packages)).1 =
      (scanOf disk directory roots none).1.map (·.filter (Name.inPackages · packages)) := by
  by_cases refused : ∃ root ∈ roots, disk.Unaskable directory root
  · obtain ⟨root, overlong⟩ := overlong_of_unaskable disk directory roots refused
    rw [scan_of_overlong disk directory _ roots root overlong, scan_of_overlong disk directory _ roots root overlong]
    rfl
  · have askable : ∀ root ∈ roots, ¬disk.Unaskable directory root := fun root member own => refused ⟨root, member, own⟩
    rw [scan_of_askable disk directory _ roots askable, scan_of_askable disk directory _ roots askable]
    exact offered_limited disk directory packages roots intact

theorem scan_below (roots : List Path) (sound : SoundRoots disk directory roots) :
    (scanOf disk directory roots (some packages)).1 =
      (scanOf disk directory roots none).1.map (·.filter (Name.inPackages · packages)) :=
  scan_of_intact disk directory packages roots (intact_of_sound disk directory roots sound)

theorem scanned_below (roots : List Path) (sound : SoundRoots disk directory roots) (names : List String)
    (scanned : (scanOf disk directory roots (some packages)).1 = .ok names) (name : String)
    (member : name ∈ names) : Name.inPackages name packages = true := by
  rw [scan_below disk directory packages roots sound] at scanned
  cases all : (scanOf disk directory roots none).1 with
  | error error =>
      rw [all] at scanned
      cases scanned
  | ok found =>
      rw [all] at scanned
      cases scanned
      exact (List.mem_filter.mp member).2

end

-- A limited search finds the types below the packages that an unlimited search finds, in the same order and none besides.
-- It fails exactly when the unlimited search fails, and in the same way.
theorem limited_scan_exact (session : Session) (roots : List Path) (packages : List String)
    (intact : Intact session.world.disk session.directory roots) :
    (∀ names, (scan roots none session).1 = .ok names →
      (scan roots (some packages) session).1 = .ok (names.filter (Name.inPackages · packages))) ∧
    ∀ error, (scan roots (some packages) session).1 = .error error ↔ (scan roots none session).1 = .error error := by
  rw [scan_run, scan_run, scan_of_intact session.world.disk session.directory packages roots intact]
  cases (scanOf session.world.disk session.directory roots none).1 with
  | ok names =>
      refine ⟨fun found same => ?_, fun error => ⟨nofun, nofun⟩⟩
      cases same
      rfl
  | error fault =>
      refine ⟨nofun, fun error => ?_⟩
      simp only [Except.map]

/-! ### A limit through a class path of a folder and an archive -/

def standRoot : Path := ⟨.relative, ["stand.zip"]⟩

def stand : Session where
  world := World.initial { entries := [(["lib"], .folder), (["lib", "shop"], .folder),
    (["lib", "shop", "till.py"], .file (.module [.define { name := "Open", bases := [], methods := [] } []])),
    (["lib", "shopping.py"], .file (.module [.define { name := "List", bases := [], methods := [] } []])),
    (["stand.zip"], .file (.archive [
      { path := "shop.py", body := .module [.define { name := "Find", bases := [], methods := [] } []] },
      { path := "stock.py", body := .module [.define { name := "Item", bases := [], methods := [] } []] }]))] }

theorem stand_limited :
    (scan [libRoot, standRoot] (some ["shop"]) stand).1 = .ok ["shop.till.Open", "shop.Find"] := by
  have intact : Intact stand.world.disk stand.directory [libRoot, standRoot] := by
    intro root inside place archive found
    rcases List.mem_pair.mp inside with rfl | rfl <;> cases found
    decide +kernel
  have all : (scan [libRoot, standRoot] none stand).1 =
      .ok ["shop.till.Open", "shopping.List", "shop.Find", "stock.Item"] := by
    rfl
  exact (limited_scan_exact stand [libRoot, standRoot] ["shop"] intact).1 _ all

end StubForge.ClassPath
