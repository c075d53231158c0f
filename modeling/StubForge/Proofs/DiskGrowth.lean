import StubForge.Proofs.DiskDependence
import StubForge.Proofs.SoleModule

set_option autoImplicit false

/-!
Making folders and writing files only adds to a disk: what was a folder stays one, and what was a file stays a file. A
path that led somewhere leads there still, and what was done once can be done again on what has become of the disk.
-/

namespace StubForge.Disk

/-! ### Disks that were added to -/

-- Where there was a folder there is one, and where there was a file there is one, though with another content perhaps.
def Grows (disk other : Disk) : Prop :=
  ∀ place, (disk.at? place = some .folder → other.at? place = some .folder) ∧
    ∀ content, disk.at? place = some (.file content) → ∃ later, other.at? place = some (.file later)

theorem grows_refl (disk : Disk) : disk.Grows disk := fun _ => ⟨id, fun content held => ⟨content, held⟩⟩

theorem grows_trans {first middle last : Disk} (before : first.Grows middle) (after : middle.Grows last) :
    first.Grows last := by
  refine fun place => ⟨fun there => (after place).1 ((before place).1 there), fun content there => ?_⟩
  obtain ⟨later, held⟩ := (before place).2 content there
  exact (after place).2 later held

theorem none_before {disk other : Disk} (grows : disk.Grows other) (place : Place) (free : other.at? place = none) :
    disk.at? place = none := by
  cases held : disk.at? place with
  | none => rfl
  | some entry =>
      cases entry with
      | folder => rw [(grows place).1 held] at free; cases free
      | file content =>
          obtain ⟨later, there⟩ := (grows place).2 content held
          rw [there] at free
          cases free

-- The disks that come of one by making folders where nothing is, and by writing files where no folder is, all at places
-- that are allowed.
inductive Built (folders files : Place → Prop) (first : Disk) : Disk → Prop
  | first : Built folders files first first
  | folder (disk : Disk) (place : Place) (free : disk.at? place = none) (allowed : folders place)
      (built : Built folders files first disk) : Built folders files first (disk.set place .folder)
  | file (disk : Disk) (place : Place) (data : Bytes) (open_ : disk.at? place ≠ some .folder) (allowed : files place)
      (built : Built folders files first disk) : Built folders files first (disk.writeFile place data)

section

variable {folders files : Place → Prop} {first : Disk}

theorem built_trans {middle last : Disk} (start : Built folders files first middle)
    (rest : Built folders files middle last) : Built folders files first last := by
  induction rest with
  | first => exact start
  | folder disk place free allowed _ ih => exact .folder disk place free allowed ih
  | file disk place data apart allowed _ ih => exact .file disk place data apart allowed ih

theorem grows_set_folder (disk : Disk) (place : Place) (free : disk.at? place = none) :
    disk.Grows (disk.set place .folder) := by
  intro seen
  by_cases inner : seen = []
  · subst inner
    exact ⟨fun _ => rfl, nofun⟩
  · rw [at_set _ _ _ _ inner]
    split
    · rename_i same
      subst same
      rw [free]
      exact ⟨nofun, nofun⟩
    · exact grows_refl disk seen

theorem grows_write_file (disk : Disk) (place : Place) (data : Bytes) (open_ : disk.at? place ≠ some .folder) :
    disk.Grows (disk.writeFile place data) := by
  intro seen
  by_cases inner : seen = []
  · subst inner
    exact ⟨fun _ => rfl, nofun⟩
  · rw [writeFile, at_set _ _ _ _ inner]
    split
    · rename_i same
      subst same
      exact ⟨fun there => absurd there open_, fun _ _ => ⟨_, rfl⟩⟩
    · exact grows_refl disk seen

theorem grows_of_built {disk : Disk} (built : Built folders files first disk) : first.Grows disk := by
  induction built with
  | first => exact grows_refl first
  | folder disk place free _ _ ih => exact grows_trans ih (grows_set_folder disk place free)
  | file disk place data apart _ _ ih => exact grows_trans ih (grows_write_file disk place data apart)

-- A folder was made where nothing was at first, so that only such places need be allowed.
theorem built_mono {more written : Place → Prop} {disk : Disk}
    (fewer : ∀ place, folders place → first.at? place = none → more place)
    (within : ∀ place, files place → written place) (built : Built folders files first disk) :
    Built more written first disk := by
  induction built with
  | first => exact .first
  | folder disk place free allowed built ih =>
      exact .folder disk place free (fewer place allowed (none_before (grows_of_built built) place free)) ih
  | file disk place data apart allowed _ ih => exact .file disk place data apart (within place allowed) ih

-- Where no file is written, there is what was there, or a folder that was made where nothing was.
theorem made_of_built {disk : Disk} (built : Built folders files first disk) (place : Place)
    (unwritten : ¬ files place) :
    disk.at? place = first.at? place ∨
      disk.at? place = some .folder ∧ first.at? place = none ∧ folders place := by
  by_cases inner : place = []
  · subst inner
    exact .inl rfl
  · induction built with
    | first => exact .inl rfl
    | folder disk made free allowed _ ih =>
        rw [at_set _ _ _ _ inner]
        split
        · rename_i same
          subst same
          rcases ih with kept | ⟨there, -⟩
          · exact .inr ⟨rfl, kept ▸ free, allowed⟩
          · rw [free] at there
            cases there
        · exact ih
    | file disk written data _ allowed _ ih =>
        have other : written ≠ place := by
          rintro rfl
          exact unwritten allowed
        rw [writeFile, at_set _ _ _ _ inner, if_neg other]
        exact ih

-- A folder was there, or was made where nothing was.
theorem folder_of_built {disk : Disk} (built : Built folders files first disk) (place : Place)
    (there : disk.at? place = some .folder) :
    first.at? place = some .folder ∨ first.at? place = none ∧ folders place := by
  by_cases inner : place = []
  · subst inner
    exact .inl rfl
  · induction built with
    | first => exact .inl there
    | folder disk made free allowed built ih =>
        rw [at_set _ _ _ _ inner] at there
        split at there
        · rename_i same
          subst same
          exact .inr ⟨none_before (grows_of_built built) made free, allowed⟩
        · exact ih there
    | file disk written data _ allowed _ ih =>
        rw [writeFile, at_set _ _ _ _ inner] at there
        split at there
        · cases there
        · exact ih there

theorem fuller_of_built {disk : Disk} (built : Built folders files first disk) (place : Place)
    (unwritten : ¬ files place) : Fuller disk first place :=
  (made_of_built built place unwritten).imp_right fun made => ⟨made.1, made.2.1⟩

-- A place at which nothing is allowed to be made keeps what is there.
theorem kept_of_built {disk : Disk} (built : Built folders files first disk) (place : Place)
    (unwritten : ¬ files place) (unmade : folders place → first.at? place ≠ none) :
    disk.at? place = first.at? place :=
  (made_of_built built place unwritten).resolve_right fun made => unmade made.2.2 made.2.1

theorem below_set (disk : Disk) (root place : Place) (entry : Entry) (apart : ¬ root <+: place) :
    (disk.set place entry).below root = disk.below root := by
  have outside (content : Entry) : (if root.isPrefixOf place && place.length != root.length then
      some (place.drop root.length, content) else none) = none := by
    simp [apart]
  obtain ⟨entries⟩ := disk
  simp only [set, below]
  induction entries with
  | nil => exact List.filterMap_cons_none (outside entry)
  | cons head rest ih =>
      obtain ⟨other, content⟩ := head
      rw [put]
      split
      · rename_i same
        subst same
        rw [List.filterMap_cons, List.filterMap_cons, outside, outside]
      · rw [List.filterMap_cons, List.filterMap_cons, ih]

-- What lies below a folder at and below which nothing is allowed is listed as before.
theorem below_of_built {disk : Disk} (built : Built folders files first disk) (root : Place)
    (unwritten : ∀ place, root <+: place → ¬ files place)
    (unmade : ∀ place, root <+: place → folders place → first.at? place ≠ none) :
    disk.below root = first.below root := by
  induction built with
  | first => rfl
  | folder disk place free allowed built ih =>
      rw [below_set, ih]
      intro inside
      exact unmade place inside allowed (none_before (grows_of_built built) place free)
  | file disk place data _ allowed _ ih =>
      rw [writeFile, below_set, ih]
      exact fun inside => unwritten place inside allowed

end

/-! ### Following paths -/

-- A place that folders lead to, and that is one.
def Paved (disk : Disk) (place : Place) : Prop := ∀ front, front <+: place → disk.at? front = some .folder

theorem paved_nil (disk : Disk) : disk.Paved [] := by
  intro front leads
  rw [List.prefix_nil.mp leads]
  rfl

theorem paved_up {disk : Disk} {place : Place} (paved : disk.Paved place) : disk.Paved place.dropLast :=
  fun front leads => paved front (leads.trans (List.dropLast_prefix place))

theorem paved_down {disk : Disk} {place : Place} (paved : disk.Paved place) (name : String)
    (there : disk.at? (place ++ [name]) = some .folder) : disk.Paved (place ++ [name]) := by
  intro front leads
  rcases List.prefix_concat_iff.mp leads with rfl | short
  · exact there
  · exact paved front short

theorem paved_grows {disk other : Disk} {place : Place} (grows : disk.Grows other) (paved : disk.Paved place) :
    other.Paved place := fun front leads => (grows front).1 (paved front leads)

theorem follow_grows {disk other : Disk} (grows : disk.Grows other) (parts : List String) (start place : Place)
    (found : disk.follow start parts = .ok place) : other.follow start parts = .ok place := by
  induction parts generalizing start with
  | nil => exact found
  | cons name rest ih =>
      by_cases up : name = ".."
      · rw [follow, if_pos up] at found ⊢
        exact ih _ found
      · obtain ⟨short, ⟨there, deeper⟩ | ⟨content, there, rfl, rfl⟩⟩ := follow_cases up found
        · rw [follow_into up short ((grows _).1 there)]
          exact ih _ deeper
        · obtain ⟨later, held⟩ := (grows _).2 content there
          exact follow_onto up short held

-- The front of a path that leads on leads to a folder.
theorem follow_split {disk : Disk} (front more : List String) (start place : Place) (paved : disk.Paved start)
    (deeper : more ≠ []) (found : disk.follow start (front ++ more) = .ok place) :
    ∃ middle, disk.follow start front = .ok middle ∧ disk.Paved middle ∧ disk.follow middle more = .ok place := by
  induction front generalizing start with
  | nil => exact ⟨start, rfl, paved, found⟩
  | cons name rest ih =>
      by_cases up : name = ".."
      · rw [List.cons_append, follow, if_pos up] at found
        rw [follow, if_pos up]
        exact ih _ (paved_up paved) found
      · obtain ⟨short, ⟨there, onward⟩ | ⟨content, -, none, -⟩⟩ := follow_cases up found
        · rw [follow_into up short there]
          exact ih _ (paved_down paved name there) onward
        · exact absurd (List.append_eq_nil_iff.mp none).2 deeper

theorem follow_append {disk : Disk} (front more : List String) (start middle : Place)
    (found : disk.follow start front = .ok middle) (there : disk.at? middle = some .folder) :
    disk.follow start (front ++ more) = disk.follow middle more := by
  induction front generalizing start with
  | nil =>
      cases found
      rfl
  | cons name rest ih =>
      rw [List.cons_append]
      by_cases up : name = ".."
      · rw [follow, if_pos up] at found
        rw [follow, if_pos up]
        exact ih _ found
      · obtain ⟨short, ⟨folder, deeper⟩ | ⟨content, file, rfl, rfl⟩⟩ := follow_cases up found
        · rw [follow_into up short folder]
          exact ih _ deeper
        · rw [there] at file
          cases file

-- The last component of a path that leads somewhere.
theorem follow_last {disk : Disk} (front : List String) (name : String) (start place : Place)
    (paved : disk.Paved start) (down : name ≠ "..") (found : disk.follow start (front ++ [name]) = .ok place) :
    ∃ middle, disk.follow start front = .ok middle ∧ disk.Paved middle ∧ tooLong name = false ∧
      place = middle ++ [name] ∧ disk.at? place ≠ none := by
  obtain ⟨middle, led, folders, last⟩ := follow_split front [name] start place paved (by simp) found
  obtain ⟨short, ⟨there, own⟩ | ⟨content, there, -, rfl⟩⟩ := follow_cases down last
  · cases own
    exact ⟨middle, led, folders, short, rfl, by simp [there]⟩
  · exact ⟨middle, led, folders, short, rfl, by simp [there]⟩

-- Folders lead to where a path leads, and are followed by a file at most.
theorem paved_of_follow {disk : Disk} (parts : List String) (start place : Place) (paved : disk.Paved start)
    (found : disk.follow start parts = .ok place) (there : disk.at? place = some .folder) : disk.Paved place := by
  have more : disk.follow start (parts ++ [".."]) = .ok place.dropLast := by
    rw [follow_append parts [".."] start place found there]
    rfl
  obtain ⟨middle, led, folders, -⟩ := follow_split parts [".."] start _ paved (by simp) more
  rw [found] at led
  cases led
  exact folders

/-! ### Making folders and opening files -/

section

variable {disk other : Disk} {directory : Place} {path : Path}

theorem slot_of_follow (front : List String) (name : String) (place : Place) (parts : path.parts = front ++ [name])
    (down : name ≠ "..") (short : tooLong name = false) (led : disk.follow (start directory path) front = .ok place)
    (there : disk.at? place = some .folder) : disk.slotOf directory path = .ok (some (place, name)) := by
  have final : path.parts.getLast? = some name := by simp [parts]
  have above : path.parts.dropLast = front := by simp [parts]
  unfold slotOf
  split
  · simp_all
  · rename_i last
    rw [final] at last
    exact absurd (Option.some.inj last) down
  · rename_i last _ own
    rw [final] at own
    cases own
    simp only [above, led, there, short, bind, Except.bind]
    rfl

-- The places that a path passes through: where its front parts climb to.
def Passes (directory : Place) (path : Path) (place : Place) : Prop :=
  ∃ front, front <+: path.parts ∧ place = Path.climb (start directory path) front

theorem passes_parent (place : Place) (passes : Passes directory path.parent place) : Passes directory path place := by
  obtain ⟨front, leads, same⟩ := passes
  exact ⟨front, leads.trans (List.dropLast_prefix path.parts), same⟩

theorem climb_down (start : List String) (front : List String) (name : String) (down : name ≠ "..") :
    Path.climb start (front ++ [name]) = Path.climb start front ++ [name] := by
  rw [Path.climb_append, Path.climb, if_neg down, Path.climb]

theorem built_make_folder (made : Disk) (done : disk.makeFolder directory path = .ok made) :
    Built (Passes directory path) (fun _ => False) disk made := by
  obtain ⟨place, name, slot, free, rfl⟩ := make_folder_at done
  obtain ⟨parts, down, -, led, -⟩ := slot_at slot
  refine .folder disk _ free ⟨path.parts, List.prefix_rfl, ?_⟩ .first
  rw [parts, climb_down _ _ _ down, ← follow_climb disk _ _ _ led]

-- Every folder that is made is one that the path passes through.
theorem built_ensure_folders (disk : Disk) (path : Path) :
    Built (Passes directory path) (fun _ => False) disk (disk.ensureFolders directory path).2 := by
  apply changes_ensure_folders_from (fun path => Built (Passes directory path) (fun _ => False))
  · exact fun _ disk => .first
  · exact fun path disk => built_make_folder
  · exact fun _ _ _ _ => built_trans
  · exact fun path _ _ => built_mono (fun place passes _ => passes_parent place passes) (fun _ never => never)

-- A path that leads to a folder.
def Reached (disk : Disk) (directory : Place) (path : Path) : Prop :=
  ∃ place, disk.locate directory path = .ok place ∧ disk.at? place = some .folder

theorem reached_grows (grows : disk.Grows other) (reached : disk.Reached directory path) :
    other.Reached directory path := by
  obtain ⟨place, led, there⟩ := reached
  exact ⟨place, follow_grows grows _ _ _ led, (grows place).1 there⟩

theorem reached_of_is_folder (known : disk.isFolder directory path = .ok true) : disk.Reached directory path := by
  unfold isFolder ask at known
  split at known
  · cases known
  · split at known
    · rename_i place entry found
      cases entry with
      | file content => cases known
      | folder =>
          obtain ⟨led, held⟩ := find_at found
          exact ⟨place, led, held⟩
    · cases known
    · cases known

theorem reached_make_folder (made : Disk) (done : disk.makeFolder directory path = .ok made) :
    made.Reached directory path := by
  have grows := grows_of_built (built_make_folder made done)
  obtain ⟨place, name, slot, free, rfl⟩ := make_folder_at done
  obtain ⟨parts, down, short, led, there⟩ := slot_at slot
  have here : (disk.set (place ++ [name]) .folder).at? (place ++ [name]) = some .folder := by
    rw [at_set _ _ _ _ (by simp), if_pos rfl]
  refine ⟨place ++ [name], ?_, here⟩
  rw [locate, parts, follow_append _ [name] _ place (follow_grows grows _ _ _ led) ((grows place).1 there)]
  exact follow_onto down short here

theorem reached_ensure_folder (made : Disk) (done : disk.ensureFolder directory path = .ok made) :
    made.Reached directory path := by
  unfold ensureFolder at done
  split at done
  · rename_i tried
    cases done
    exact reached_make_folder _ tried
  · split at done
    · cases done
    · rename_i known _
      cases done
      exact reached_of_is_folder known
    · cases done

-- Where all folders of a path could be made, it leads to a folder.
theorem reached_ensure_folders (made : Disk) (done : disk.ensureFolders directory path = (.ok (), made)) :
    made.Reached directory path := by
  unfold ensureFolders ensureFoldersFrom at done
  cases tried : disk.makeFolder directory path with
  | ok first =>
      rw [tried] at done
      cases done
      exact reached_make_folder _ tried
  | error errno =>
      rw [tried] at done
      cases errno with
      | noEntry =>
          dsimp only at done
          split at done
          · cases done
          · split at done
            · cases done
            · split at done
              · rename_i last
                cases done
                exact reached_ensure_folder _ last
              · cases done
      | alreadyExists | notFolder | isFolder | nameTooLong =>
          dsimp only at done
          split at done
          · rename_i known
            cases done
            exact reached_of_is_folder known
          · cases done

theorem is_folder_of_reached (free : path.hasNul = false) (reached : disk.Reached directory path) :
    disk.isFolder directory path = .ok true := by
  obtain ⟨place, led, there⟩ := reached
  simp [isFolder, ask, free, find, led, there, bind, Except.bind]

theorem make_folder_again (paved : disk.Paved (start directory path)) (reached : disk.Reached directory path) :
    disk.makeFolder directory path = .error .alreadyExists := by
  obtain ⟨place, led, there⟩ := reached
  unfold makeFolder
  cases final : path.parts.getLast? with
  | none =>
      have slot : disk.slotOf directory path = .ok none := by rw [slotOf, final]
      simp [slot, bind, Except.bind]
  | some name =>
      by_cases up : name = ".."
      · subst up
        have slot : disk.slotOf directory path = .ok none := by
          rw [slotOf, final]
          simp [led, bind, Except.bind]
        simp [slot, bind, Except.bind]
      · have parts := (List.dropLast_append_getLast? _ final).symm
        rw [locate, parts] at led
        obtain ⟨middle, above, folders, short, rfl, -⟩ := follow_last _ name _ place paved up led
        simp [slot_of_follow _ name middle parts up short above (folders middle List.prefix_rfl), there, bind, Except.bind]

-- Where a path leads to a folder, nothing has to be made.
theorem ensure_folders_again (paved : disk.Paved (start directory path)) (free : path.hasNul = false)
    (reached : disk.Reached directory path) : disk.ensureFolders directory path = (.ok (), disk) := by
  rw [ensureFolders, ensureFoldersFrom, make_folder_again paved reached]
  dsimp only
  rw [is_folder_of_reached free reached]

-- A file that was written is opened where it was, whatever else was made since.
theorem open_place_again (place : Place) (opened : disk.openPlace directory path = .ok place) (grows : disk.Grows other)
    (content : Content) (held : other.at? place = some (.file content)) : other.openPlace directory path = .ok place := by
  obtain ⟨above, name, slot, rfl, -⟩ := open_place_at opened
  obtain ⟨parts, down, short, led, there⟩ := slot_at slot
  have slot' : other.slotOf directory path = .ok (some (above, name)) :=
    slot_of_follow _ name above parts down short (follow_grows grows _ _ _ led) ((grows above).1 there)
  simp [openPlace, slot', held, bind, Except.bind]

end

/-! ### Writing texts -/

section

variable {disk other after : Disk} {directory : Place} {parts : List String} {encoding text : String}
  (plain : ".." ∉ parts)
include plain

-- Writing a text makes folders on the way to its file, and writes that file.
theorem built_write_text (disk : Disk) (encoding text : String) :
    Built (· <+: parts) (· = parts) disk (Generator.writeText disk directory ⟨.single, parts⟩ encoding text).2 := by
  have upper : ".." ∉ parts.dropLast := fun inside => plain (List.dropLast_subset parts inside)
  have above : Built (· <+: parts) (· = parts) disk (disk.ensureFolders directory (Path.mk .single parts).parent).2 := by
    refine built_mono ?_ (fun _ never => never.elim) (built_ensure_folders disk _)
    rintro place ⟨front, leads, rfl⟩ -
    change front <+: parts.dropLast at leads
    change Path.climb [] front <+: parts
    rw [Path.climb_plain _ _ fun inside => upper (leads.subset inside)]
    exact leads.trans (List.dropLast_prefix parts)
  unfold Generator.writeText
  generalize disk.ensureFolders directory (Path.mk .single parts).parent = made at above
  obtain ⟨outcome, after⟩ := made
  cases outcome with
  | error failure => exact above
  | ok done =>
      dsimp only
      cases opened : after.openPlace directory ⟨.single, parts⟩ with
      | error errno => exact above
      | ok place =>
          obtain ⟨-, -, -, -, apart⟩ := open_place_at opened
          have own := open_place_plain after directory place parts plain opened
          dsimp only
          split <;> exact .file after place _ apart own above

-- A text that was written can be written again, in the same file and without making folders.
theorem write_text_again (free : (Path.mk .single parts).hasNul = false)
    (done : Generator.writeText disk directory ⟨.single, parts⟩ encoding text = (.ok (), after))
    (grows : after.Grows other) :
    ∃ bytes, after.at? parts = some (.file (.bytes bytes)) ∧
      Generator.writeText other directory ⟨.single, parts⟩ encoding text = (.ok (), other.writeFile parts bytes) := by
  unfold Generator.writeText at done
  split at done
  · cases done
  · rename_i made ensured
    split at done
    · cases done
    · rename_i place opened
      split at done
      · rename_i bytes encoded
        cases done
        obtain rfl := open_place_plain made directory place parts plain opened
        obtain ⟨above, name, -, own, apart⟩ := open_place_at opened
        have inner : place ≠ [] := by simp [own]
        have held : (made.writeFile place bytes).at? place = some (.file (.bytes bytes)) := by
          rw [writeFile, at_set _ _ _ _ inner, if_pos rfl]
        have later := grows_trans (grows_write_file made place bytes apart) grows
        obtain ⟨content, there⟩ := (grows place).2 _ held
        have again := ensure_folders_again (paved_nil other) (parent_has_nul free)
          (reached_grows later (reached_ensure_folders made ensured))
        refine ⟨bytes, held, ?_⟩
        unfold Generator.writeText
        rw [again]
        dsimp only
        rw [open_place_again place opened later content there]
        dsimp only
        rw [encoded]
      · cases done

end

end StubForge.Disk
