import StubForge.ClassPath
import StubForge.Proofs.DiskGrowth

set_option autoImplicit false

/-!
What is read from a disk that was only added to, and not where it is read: templates, the types below the roots of a
class path, and modules are found as they were.
-/

namespace StubForge

theorem Path.folder_eq_climb (directory : Place) (path : Path) :
    path.folder directory = Path.climb (Disk.start directory path) path.parts := by
  cases known : path.anchor <;> simp [folder, resolve, Disk.start, known]

namespace Disk

-- A path that no file is written at, above or below, and that does not lead up out of a folder that may be made.
structure Spared (folders files : Place → Prop) (first : Disk) (directory : Place) (path : Path) : Prop where
  apart : ∀ place, files place → ¬ place <+: path.folder directory ∧ ¬ path.folder directory <+: place
  led : ∀ front, front ++ [".."] <+: path.parts → folders (Path.climb (start directory path) front) →
    first.at? (Path.climb (start directory path) front) ≠ none

-- Where nothing is made either, and no name that is too long stands below a folder that may be made.
structure Untouched (folders files : Place → Prop) (first : Disk) (directory : Place) (path : Path) : Prop
    extends Spared folders files first directory path where
  kept : ∀ place, path.folder directory <+: place → folders place → first.at? place ≠ none
  short : ∀ front name, front ++ [name] <+: path.parts → tooLong name = true →
    folders (Path.climb (start directory path) front) → first.at? (Path.climb (start directory path) front) ≠ none

theorem paved_start {disk : Disk} {directory : Place} (home : disk.Paved directory) (path : Path) :
    disk.Paved (start directory path) := by
  unfold start
  split
  · exact home
  · exact paved_nil disk

/-! ### Paths on both disks -/

section

variable {first disk : Disk} {start : Place}

theorem entry_of_follow (parts : List String) (place : Place) (paved : disk.Paved start)
    (found : disk.follow start parts = .ok place) : disk.at? place ≠ none := by
  rcases List.eq_nil_or_concat parts with rfl | ⟨front, name, rfl⟩
  · cases found
    rw [paved start List.prefix_rfl]
    simp
  · rw [List.concat_eq_append] at found
    by_cases up : name = ".."
    · subst up
      obtain ⟨middle, -, folders, last⟩ := follow_split front [".."] start place paved (by simp) found
      cases last
      rw [paved_up folders _ List.prefix_rfl]
      simp
    · obtain ⟨_, -, -, -, -, there⟩ := follow_last front name start place paved up found
      exact there

-- By induction on the components from the last: what a path leads to was there, and so was every folder that it leads
-- up out of. Then it led there before.
theorem follow_back (rooted : first.Rooted) (parts : List String) (place : Place) (entry : Entry)
    (paved : disk.Paved start)
    (steady : ∀ front, front ++ [".."] <+: parts → disk.at? (Path.climb start front) = some .folder →
      first.at? (Path.climb start front) = some .folder)
    (found : disk.follow start parts = .ok place) (held : first.at? place = some entry) :
    first.follow start parts = .ok place := by
  induction parts using List.reverseRecOn generalizing place entry with
  | nil => exact found
  | append_singleton front name ih =>
      have earlier (middle : Place) (content : Entry) :=
        ih middle content fun part leads => steady part (leads.trans (List.prefix_append _ _))
      by_cases up : name = ".."
      · subst up
        obtain ⟨middle, led, folders, last⟩ := follow_split front [".."] start place paved (by simp) found
        have there : first.at? middle = some .folder := by
          have same := follow_climb disk _ _ _ led
          rw [same]
          exact steady front List.prefix_rfl (by rw [← same]; exact folders middle List.prefix_rfl)
        rw [follow_append front [".."] start middle (earlier middle _ led there) there]
        exact last
      · obtain ⟨middle, led, -, short, rfl, -⟩ := follow_last front name start place paved up found
        have there := rooted middle name entry held
        rw [follow_append front [name] start middle (earlier middle _ led there) there]
        exact follow_onto up short held

theorem overlong_below (parts : List String) (paved : disk.Paved start)
    (long : disk.follow start parts = .error .nameTooLong) :
    ∃ front name middle, front ++ [name] <+: parts ∧ name ≠ ".." ∧ tooLong name = true ∧
      disk.follow start front = .ok middle ∧ disk.at? middle = some .folder := by
  induction parts generalizing start with
  | nil => cases long
  | cons name rest ih =>
      by_cases up : name = ".."
      · rw [follow, if_pos up] at long
        obtain ⟨front, last, middle, leads, down, large, led, there⟩ := ih (paved_up paved) long
        refine ⟨name :: front, last, middle, List.cons_prefix_cons.mpr ⟨rfl, leads⟩, down, large, ?_, there⟩
        rwa [follow, if_pos up]
      · have long' := long
        rw [follow_down _ _ _ _ up] at long
        split at long
        · rename_i large
          exact ⟨[], name, start, by simp, up, large, rfl, paved start List.prefix_rfl⟩
        · rename_i short
          split at long
          · cases long
          · rename_i there
            obtain ⟨front, last, middle, leads, down, large, led, held⟩ := ih (paved_down paved name there) long
            refine ⟨name :: front, last, middle, List.cons_prefix_cons.mpr ⟨rfl, leads⟩, down, large, ?_, held⟩
            rwa [follow_into up (Bool.eq_false_iff.mpr short) there]
          · split at long <;> cases long

theorem overlong_of_below (parts front : List String) (name : String) (middle : Place) (leads : front ++ [name] <+: parts)
    (down : name ≠ "..") (large : tooLong name = true) (led : disk.follow start front = .ok middle)
    (there : disk.at? middle = some .folder) : disk.follow start parts = .error .nameTooLong := by
  obtain ⟨rest, rfl⟩ := leads
  rw [List.append_assoc, follow_append front _ start middle led there, List.singleton_append, follow_down _ _ _ _ down,
    if_pos large]

end

section

variable {folders files : Place → Prop} {first disk : Disk} {directory : Place} {path : Path}
  (built : Built folders files first disk) (rooted : first.Rooted)
include built

-- Above the path and below it, there is what was there, or a folder where nothing was.
theorem fuller_of_spared (spared : Spared folders files first directory path) (place : Place)
    (near : place <+: path.folder directory ∨ path.folder directory <+: place) : Fuller disk first place := by
  refine fuller_of_built built place fun written => ?_
  rcases near with above | below
  · exact (spared.apart place written).1 above
  · exact (spared.apart place written).2 below

theorem folder_before (place : Place) (there : disk.at? place = some .folder)
    (own : folders place → first.at? place ≠ none) : first.at? place = some .folder :=
  (folder_of_built built place there).resolve_right fun made => own made.2 made.1

variable (home : first.Paved directory)
include rooted home

/-! ### Templates -/

omit built rooted home in
theorem step_up_of_plain {parts pieces front : List String} (plain : ".." ∉ pieces)
    (leads : front ++ [".."] <+: parts ++ pieces) : front ++ [".."] <+: parts := by
  rcases List.prefix_or_prefix_of_prefix leads (List.prefix_append parts pieces) with own | longer
  · exact own
  · rcases List.prefix_concat_iff.mp longer with whole | ⟨more, rfl⟩
    · exact whole ▸ List.prefix_rfl
    · rw [List.append_assoc, List.prefix_append_right_inj] at leads
      exact absurd (leads.subset (by simp)) plain

theorem file_in_built (spared : Spared folders files first directory path) (pieces : List String)
    (plain : ".." ∉ pieces) :
    Engine.fileIn? disk directory pieces path = Engine.fileIn? first directory pieces path := by
  have grows := grows_of_built built
  have reached (now : Disk) (place : Place) (found : now.follow (start directory path) (path.parts ++ pieces) = .ok place) :
      place = path.folder directory ++ pieces := by
    rw [follow_climb now _ _ _ found, Path.climb_append, Path.climb_plain _ _ plain, ← Path.folder_eq_climb]
  have there := fuller_of_spared built spared (path.folder directory ++ pieces) (.inr (List.prefix_append _ _))
  -- A step up is one of the folder of templates.
  have steady (front : List String) (leads : front ++ [".."] <+: path.parts ++ pieces)
      (held : disk.at? (Path.climb (start directory path) front) = some .folder) :
      first.at? (Path.climb (start directory path) front) = some .folder := by
    exact folder_before built _ held (spared.led front (step_up_of_plain plain leads))
  ext data
  rw [file_in_iff, file_in_iff]
  refine and_congr_right fun _ => ⟨?_, ?_⟩
  · rintro ⟨place, found, file⟩
    obtain rfl := reached disk place found
    have held : first.at? (path.folder directory ++ pieces) = some (.file (.bytes data)) := by
      rcases there with same | ⟨folder, -⟩
      · rw [← same, file]
      · rw [folder] at file
        cases file
    exact ⟨_, follow_back rooted _ _ _ (paved_grows grows (paved_start home path)) steady found held, held⟩
  · rintro ⟨place, found, file⟩
    obtain rfl := reached first place found
    refine ⟨_, follow_grows grows _ _ _ found, ?_⟩
    rcases there with same | ⟨-, missing⟩
    · rw [same, file]
    · rw [missing] at file
      cases file

theorem read_built (engine : Engine) (spared : ∀ folder ∈ engine.folders, Spared folders files first directory folder)
    (template : String) : engine.read disk directory template = engine.read first directory template :=
  engine.read_same disk first directory template fun pieces split_path folder member =>
    file_in_built built rooted home (spared folder member) pieces (Engine.pieces_plain template pieces split_path)

/-! ### Roots of a class path -/

omit rooted home in
theorem kept_of_untouched (untouched : Untouched folders files first directory path) (rest : Place) :
    disk.at? (path.folder directory ++ rest) = first.at? (path.folder directory ++ rest) :=
  kept_of_built built _ (fun written => (untouched.apart _ written).2 (List.prefix_append _ _))
    (untouched.kept _ (List.prefix_append _ _))

variable (untouched : Untouched folders files first directory path)
include untouched

-- A path leads where it led, and nowhere if it led nowhere.
theorem locate_untouched (place : Place) :
    disk.locate directory path = .ok place ↔ first.locate directory path = .ok place := by
  refine ⟨fun found => ?_, follow_grows (grows_of_built built) _ _ _⟩
  have paved := paved_grows (grows_of_built built) (paved_start home path)
  have there := entry_of_follow _ _ paved found
  have same := kept_of_untouched built untouched []
  rw [List.append_nil, Path.folder_eq_climb, ← follow_climb disk _ _ _ found] at same
  obtain ⟨entry, held⟩ := Option.ne_none_iff_exists'.mp (same ▸ there)
  exact follow_back rooted path.parts place entry paved
    (fun front leads folder => folder_before built _ folder (untouched.led front leads)) found held

-- It has a name that is too long where it had one.
theorem overlong_untouched : disk.locate directory path = .error .nameTooLong ↔
    first.locate directory path = .error .nameTooLong := by
  have grows := grows_of_built built
  have paved := paved_start home path
  constructor
  · intro long
    obtain ⟨front, name, middle, leads, down, large, led, there⟩ := overlong_below _ (paved_grows grows paved) long
    have own := follow_climb disk _ _ _ led
    subst own
    have held := folder_before built _ there (untouched.short front name leads large)
    refine overlong_of_below _ front name _ leads down large ?_ held
    exact follow_back rooted front _ _ (paved_grows grows paved) (fun part deeper folder =>
      folder_before built _ folder (untouched.led part (deeper.trans ((List.prefix_append _ _).trans leads)))) led held
  · intro long
    obtain ⟨front, name, middle, leads, down, large, led, there⟩ := overlong_below _ paved long
    exact overlong_of_below _ front name middle leads down large (follow_grows grows _ _ _ led) ((grows middle).1 there)

-- What lies at the end of a path that is found is what lay there; a path that was not found is not found, and because
-- of an overlong name only if it was so before.
theorem find_untouched :
    disk.find directory path = first.find directory path ∨
      (∃ errno, disk.find directory path = .error errno ∧ errno ≠ .nameTooLong) ∧
        ∃ errno, first.find directory path = .error errno ∧ errno ≠ .nameTooLong := by
  have lost (now : Disk) (errno : Errno) (nowhere : now.locate directory path = .error errno) :
      now.find directory path = .error errno := by
    simp [find, nowhere, bind, Except.bind]
  have located := locate_untouched built rooted home untouched
  have overlong := overlong_untouched built rooted home untouched
  cases led : first.locate directory path with
  | ok place =>
      have led' := (located place).mpr led
      have same := kept_of_untouched built untouched []
      rw [List.append_nil, Path.folder_eq_climb, ← follow_climb first _ _ _ led] at same
      left
      simp only [find, led, led', bind, Except.bind]
      rw [same]
  | error errno =>
      cases led' : disk.locate directory path with
      | ok place => cases led.symm.trans ((located place).mp led')
      | error errno' =>
          rw [lost disk errno' led', lost first errno led]
          by_cases long : errno = .nameTooLong
          · subst long
            cases led'.symm.trans (overlong.mpr led)
            exact .inl rfl
          · refine .inr ⟨⟨errno', rfl, ?_⟩, errno, rfl, long⟩
            rintro rfl
            cases led.symm.trans (overlong.mp led')
            exact long rfl

theorem root_units_untouched (packages : Option (List String)) :
    ClassPath.rootUnits disk directory path packages = ClassPath.rootUnits first directory path packages := by
  have listed := below_of_built built (path.folder directory) (fun place inside written =>
    (untouched.apart place written).2 inside) untouched.kept
  have asked (now : Disk) (errno : Errno) (absent : now.find directory path = .error errno)
      (short : errno ≠ .nameTooLong) : ClassPath.rootUnits now directory path packages =
        .error (.unreadable (.missingRoot path.toString)) := by
    have answered : now.isFolder directory path = .ok false := by
      rw [isFolder, ask, absent]
      split
      · rfl
      · cases errno <;> simp_all
    rw [ClassPath.rootUnits, answered, absent]
  rcases find_untouched built rooted home untouched with same | ⟨⟨errno, absent, short⟩, other, absent', short'⟩
  · have answer : disk.isFolder directory path = first.isFolder directory path := by
      rw [isFolder, isFolder, ask, ask, same]
    unfold ClassPath.rootUnits
    rw [answer, same]
    cases found : first.find directory path with
    | error errno => rfl
    | ok pair =>
        obtain ⟨place, entry⟩ := pair
        obtain ⟨rfl, -⟩ := find_folder first directory place path entry found
        cases entry with
        | file content => cases content <;> rfl
        | folder =>
            dsimp only
            rw [ClassPath.folderUnits, ClassPath.folderUnits, ClassPath.sourceFiles, ClassPath.sourceFiles, listed]
  · rw [asked disk errno absent short, asked first other absent' short']

omit untouched in
theorem scan_untouched (roots : List Path) (packages : Option (List String))
    (untouched : ∀ root ∈ roots, Untouched folders files first directory root) :
    ClassPath.scanOf disk directory roots packages = ClassPath.scanOf first directory roots packages := by
  have each : ∀ roots : List Path, (∀ root ∈ roots, Untouched folders files first directory root) → ∀ scan,
      roots.foldlM (ClassPath.scanRoot disk directory packages) scan =
        roots.foldlM (ClassPath.scanRoot first directory packages) scan := by
    intro roots
    induction roots with
    | nil => exact fun _ _ => rfl
    | cons root rest ih =>
        intro untouched scan
        obtain ⟨own, later⟩ := List.forall_mem_cons.mp untouched
        rw [List.foldlM_cons, List.foldlM_cons, ClassPath.scanRoot, ClassPath.scanRoot,
          root_units_untouched built rooted home own]
        exact bind_congr fun next => ih later next
  rw [ClassPath.scanOf, ClassPath.scanOf, each roots untouched]

end

end Disk

/-! ### Modules -/

namespace Import

section

variable {first disk : Disk} (rooted : first.Rooted)
include rooted

theorem archive_above_free (place rest : Place) (free : first.at? place = none)
    (fuller : ∀ front, front <+: rest → Disk.Fuller disk first (place ++ front)) :
    archiveAbove disk place rest = none := by
  induction rest generalizing place with
  | nil => rfl
  | cons name rest ih =>
      have next := Disk.empty_below rooted place free [name] (by simp)
      rw [archiveAbove]
      rcases fuller [name] (by simp) with same | ⟨there, -⟩
      · rw [same, next]
      · rw [there]
        exact ih _ next fun front leads => by simpa using fuller (name :: front) (by simpa using leads)

-- By induction on the components: where folders were added on the way, no archive is reached either.
theorem archive_above_fuller (place rest : Place)
    (fuller : ∀ front, front <+: rest → Disk.Fuller disk first (place ++ front)) :
    archiveAbove disk place rest = archiveAbove first place rest := by
  induction rest generalizing place with
  | nil => rfl
  | cons name rest ih =>
      have deeper (front : List String) (leads : front <+: rest) : Disk.Fuller disk first (place ++ [name] ++ front) := by
        simpa using fuller (name :: front) (by simpa using leads)
      rw [archiveAbove, archiveAbove, ih _ deeper]
      rcases fuller [name] (by simp) with same | ⟨there, missing⟩
      · rw [same]
      · rw [there, missing, ← ih _ deeper, archive_above_free rooted _ rest missing deeper]

end

-- A place to look for modules in: it lies at a root of the class path, or below one.
def Within (directory : Place) (roots : List Path) (entry : String) : Prop :=
  ∃ root ∈ roots, root.folder directory <+: (Path.ofString entry).parts

theorem parts_of_joined (entry text : String) :
    (Path.ofString (entry ++ "/" ++ text)).parts = (Path.ofString entry).parts ++ (Path.ofString text).parts := by
  have split := Text.split_at_append '/' entry.toList text.toList
  simp only [Path.ofString, String.toList_append]
  rw [show ("/" : String).toList = ['/'] from rfl, List.append_assoc, List.singleton_append, split,
    List.filter_append, List.map_append]

theorem within_joined (directory : Place) (roots : List Path) (entry text : String)
    (within : Within directory roots entry) : Within directory roots (entry ++ "/" ++ text) := by
  obtain ⟨root, member, leads⟩ := within
  exact ⟨root, member, parts_of_joined entry text ▸ leads.trans (List.prefix_append _ _)⟩

section

variable {folders files : Place → Prop} {first disk : Disk} {directory : Place} {roots : List Path}
  (built : Disk.Built folders files first disk) (rooted : first.Rooted)
  (untouched : ∀ root ∈ roots, Disk.Untouched folders files first directory root)
include built rooted untouched

theorem archive_above_untouched (entry : String) (within : Within directory roots entry) :
    archiveAbove disk [] (Path.ofString entry).parts = archiveAbove first [] (Path.ofString entry).parts := by
  obtain ⟨root, member, leads⟩ := within
  refine archive_above_fuller rooted [] _ fun front above => ?_
  rw [List.nil_append]
  exact Disk.fuller_of_spared built (untouched root member).toSpared front
    (List.prefix_or_prefix_of_prefix above leads)

theorem find_in_untouched (entry name : String) (within : Within directory roots entry) :
    findIn disk entry name = findIn first entry name := by
  have above := archive_above_untouched built rooted untouched entry within
  obtain ⟨root, member, rest, whole⟩ := within
  have kept (more : Place) : disk.at? ((Path.ofString entry).parts ++ more) =
      first.at? ((Path.ofString entry).parts ++ more) := by
    rw [← whole, List.append_assoc]
    exact Disk.kept_of_untouched built (untouched root member) _
  have file (more : Place) : fileAt? disk ((Path.ofString entry).parts ++ more) =
      fileAt? first ((Path.ofString entry).parts ++ more) := by
    rw [fileAt?, fileAt?, kept]
  have folder (more : Place) : isFolderAt disk ((Path.ofString entry).parts ++ more) =
      isFolderAt first ((Path.ofString entry).parts ++ more) := by
    rw [isFolderAt, isFolderAt, kept]
  have here := folder []
  rw [List.append_nil] at here
  have inside : findInFolder disk entry (Path.ofString entry).parts name =
      findInFolder first entry (Path.ofString entry).parts name := by
    rw [findInFolder, findInFolder, List.append_assoc, file, file, folder]
  rw [findIn, findIn, here, above, inside]

theorem search_untouched (name : String) (parts places : List String)
    (within : ∀ entry ∈ places, Within directory roots entry) :
    search disk name parts places = search first name parts places := by
  induction places generalizing parts with
  | nil => rfl
  | cons entry rest ih =>
      obtain ⟨own, others⟩ := List.forall_mem_cons.mp within
      rw [search, search, find_in_untouched built rooted untouched entry name own]
      cases findIn first entry name with
      | source file searchPath body => rfl
      | portion place => exact ih _ others
      | nothing => exact ih _ others

end

end Import

end StubForge
