import Mathlib.Data.List.Basic
import StubForge.Generator
import StubForge.Proofs.Landing

set_option autoImplicit false

/-!
Which disks come of writing at places of a kind, and that writing a text below a place is such a writing.
-/

namespace StubForge.Disk

-- The disks that come of one by making folders where nothing is, and writing files at places of a kind.
inductive Reaches (writable : Place → Prop) (first : Disk) : Disk → Prop
  | first : Reaches writable first first
  | folder (disk : Disk) (place : Place) (free : disk.at? place = none) (reached : Reaches writable first disk) :
      Reaches writable first (disk.set place .folder)
  | file (disk : Disk) (place : Place) (data : Bytes) (allowed : writable place)
      (reached : Reaches writable first disk) : Reaches writable first (disk.writeFile place data)

section

variable {writable : Place → Prop} {first : Disk}

theorem reaches_trans {middle last : Disk} (start : Reaches writable first middle)
    (rest : Reaches writable middle last) : Reaches writable first last := by
  induction rest with
  | first => exact start
  | folder disk place free _ ih => exact .folder disk place free ih
  | file disk place data allowed _ ih => exact .file disk place data allowed ih

theorem reaches_mono {more : Place → Prop} (fewer : ∀ place, writable place → more place) {disk : Disk}
    (reached : Reaches writable first disk) : Reaches more first disk := by
  induction reached with
  | first => exact .first
  | folder disk place free _ ih => exact .folder disk place free ih
  | file disk place data allowed _ ih => exact .file disk place data (fewer place allowed) ih

-- A place of another kind keeps what is there; where nothing is, a folder may be made.
theorem untouched_of_reaches {disk : Disk} (reached : Reaches writable first disk) (place : Place)
    (inner : place ≠ []) (other : ¬ writable place) :
    disk.at? place = first.at? place ∨ (first.at? place = none ∧ disk.at? place = some .folder) := by
  induction reached with
  | first => exact .inl rfl
  | folder disk made free _ ih =>
      rw [at_set _ _ _ _ inner]
      by_cases same : made = place
      · subst same
        rw [if_pos rfl]
        rcases ih with kept | ⟨missing, -⟩
        · exact .inr ⟨kept ▸ free, rfl⟩
        · exact .inr ⟨missing, rfl⟩
      · rw [if_neg same]
        exact ih
  | file disk written data allowed _ ih =>
      have apart : written ≠ place := fun same => other (same ▸ allowed)
      rw [writeFile, at_set _ _ _ _ inner, if_neg apart]
      exact ih

/-! ### Folders -/

theorem make_folder_at {disk made : Disk} {directory : Place} {path : Path}
    (done : disk.makeFolder directory path = .ok made) :
    ∃ place name, disk.slotOf directory path = .ok (some (place, name)) ∧ disk.at? (place ++ [name]) = none ∧
      made = disk.set (place ++ [name]) .folder := by
  unfold makeFolder at done
  cases slot : disk.slotOf directory path with
  | error errno => simp [slot, bind, Except.bind] at done
  | ok found =>
      cases found with
      | none => simp [slot, bind, Except.bind] at done
      | some entry =>
          obtain ⟨place, name⟩ := entry
          cases there : disk.at? (place ++ [name]) with
          | some entry => simp [slot, bind, Except.bind, there] at done
          | none =>
              simp only [slot, bind, Except.bind, there, Except.ok.injEq] at done
              exact ⟨place, name, rfl, there, done.symm⟩

section

variable {directory : Place} (Changes : Path → Disk → Disk → Prop) (same : ∀ path disk, Changes path disk disk)
  (folder : ∀ path disk made, disk.makeFolder directory path = .ok made → Changes path disk made)
include same folder

theorem changes_ensure_folder {disk made : Disk} {path : Path} (done : disk.ensureFolder directory path = .ok made) :
    Changes path disk made := by
  unfold ensureFolder at done
  split at done
  · rename_i made' tried
    cases done
    exact folder path disk _ tried
  · split at done
    · cases done
    · cases done
      exact same path disk
    · cases done

-- By induction on the levels, from the folder above to the folder itself: what making one folder does to a disk, and
-- doing so in a row, making the folders of a path does.
theorem changes_ensure_folders_from
    (trans : ∀ path first middle last, Changes path first middle → Changes path middle last → Changes path first last)
    (above : ∀ path first last, Changes path.parent first last → Changes path first last)
    (levels : Nat) (disk : Disk) (path : Path) :
    Changes path disk (disk.ensureFoldersFrom levels directory path).2 := by
  induction levels generalizing disk path with
  | zero => exact same path disk
  | succ levels ih =>
      unfold ensureFoldersFrom
      cases tried : disk.makeFolder directory path with
      | ok made => exact folder path disk made tried
      | error errno =>
          cases errno with
          | noEntry =>
              by_cases top : path.parts.isEmpty
              · simp only [top, if_true]
                exact same path disk
              · simp only [top, Bool.false_eq_true, if_false]
                have upper := above path disk _ (ih disk path.parent)
                generalize disk.ensureFoldersFrom levels directory path.parent = tried at upper
                obtain ⟨outcome, after⟩ := tried
                cases outcome with
                | error failure => exact upper
                | ok done =>
                    cases last : after.ensureFolder directory path with
                    | ok made =>
                        simp only [last]
                        exact trans path disk after made upper (changes_ensure_folder Changes same folder last)
                    | error failure =>
                        simp only [last]
                        exact upper
          | alreadyExists | notFolder | isFolder | nameTooLong =>
              dsimp only
              split <;> exact same path disk

end

theorem reaches_ensure_folders (disk : Disk) (directory : Place) (path : Path) :
    Reaches writable disk (disk.ensureFolders directory path).2 := by
  apply changes_ensure_folders_from (fun _ first last => Reaches writable first last)
  · exact fun _ disk => .first
  · intro path disk made done
    obtain ⟨place, name, -, free, rfl⟩ := make_folder_at done
    exact .folder disk _ free .first
  · exact fun _ _ _ _ => reaches_trans
  · exact fun _ _ _ => id

/-! ### Following components -/

section

variable {disk : Disk} {place reached : Place} {name : String} {rest : List String}

theorem follow_down (disk : Disk) (place : Place) (name : String) (rest : List String) (down : name ≠ "..") :
    disk.follow place (name :: rest) =
      if tooLong name then .error .nameTooLong
      else
        match disk.at? (place ++ [name]) with
        | none => .error .noEntry
        | some .folder => disk.follow (place ++ [name]) rest
        | some (.file _) => if rest.isEmpty then .ok (place ++ [name]) else .error .notFolder := by
  rw [follow]
  exact if_neg down

-- A component that leads on names a folder, or a file that nothing follows.
theorem follow_cases (down : name ≠ "..") (found : disk.follow place (name :: rest) = .ok reached) :
    tooLong name = false ∧
      (disk.at? (place ++ [name]) = some .folder ∧ disk.follow (place ++ [name]) rest = .ok reached ∨
        ∃ content, disk.at? (place ++ [name]) = some (.file content) ∧ rest = [] ∧ reached = place ++ [name]) := by
  rw [follow_down disk place name rest down] at found
  by_cases long : tooLong name = true
  · simp [long] at found
  · rw [if_neg long] at found
    refine ⟨Bool.eq_false_iff.mpr long, ?_⟩
    cases there : disk.at? (place ++ [name]) with
    | none => simp [there] at found
    | some entry =>
        rw [there] at found
        cases entry with
        | folder => exact .inl ⟨rfl, found⟩
        | file content =>
            by_cases last : rest.isEmpty
            · simp only [last, if_true, Except.ok.injEq] at found
              exact .inr ⟨content, rfl, List.isEmpty_iff.mp last, found.symm⟩
            · simp [last] at found

theorem follow_into (down : name ≠ "..") (short : tooLong name = false)
    (there : disk.at? (place ++ [name]) = some .folder) (rest : List String) :
    disk.follow place (name :: rest) = disk.follow (place ++ [name]) rest := by
  rw [follow_down disk place name rest down, there]
  simp [short]

theorem follow_onto (down : name ≠ "..") (short : tooLong name = false) {entry : Entry}
    (there : disk.at? (place ++ [name]) = some entry) : disk.follow place [name] = .ok (place ++ [name]) := by
  rw [follow_down disk place name [] down, there]
  cases entry <;> simp [short, follow]

end

-- Following components leads where climbing along them leads.
theorem follow_climb (disk : Disk) (start place : Place) (parts : List String)
    (found : disk.follow start parts = .ok place) : place = Path.climb start parts := by
  induction parts generalizing start with
  | nil =>
      cases found
      rfl
  | cons name rest ih =>
      rw [Path.climb]
      by_cases up : name = ".."
      · rw [follow, if_pos up] at found
        rw [if_pos up]
        exact ih _ found
      · rw [if_neg up]
        obtain ⟨-, ⟨-, deeper⟩ | ⟨content, -, rfl, rfl⟩⟩ := follow_cases up found
        · exact ih _ deeper
        · rfl

-- Following components of which none leads up comes to the place that they name.
theorem follow_plain (disk : Disk) (start place : Place) (parts : List String) (plain : ".." ∉ parts)
    (found : disk.follow start parts = .ok place) : place = start ++ parts := by
  rw [follow_climb disk start place parts found, Path.climb_plain start parts plain]

theorem find_at {disk : Disk} {directory place : Place} {path : Path} {entry : Entry}
    (found : disk.find directory path = .ok (place, entry)) :
    disk.locate directory path = .ok place ∧ disk.at? place = some entry := by
  unfold find at found
  cases led : disk.locate directory path with
  | error errno => simp [led, bind, Except.bind] at found
  | ok reached =>
      simp only [led, bind, Except.bind] at found
      split at found
      · rename_i held
        cases found
        exact ⟨rfl, held⟩
      · cases found

/-! ### Files -/

-- The folder that a path lies in is the one that the components before its last lead to.
theorem slot_at {disk : Disk} {directory place : Place} {path : Path} {name : String}
    (slot : disk.slotOf directory path = .ok (some (place, name))) :
    path.parts = path.parts.dropLast ++ [name] ∧ name ≠ ".." ∧ tooLong name = false ∧
      disk.follow (start directory path) path.parts.dropLast = .ok place ∧ disk.at? place = some .folder := by
  unfold slotOf at slot
  split at slot
  · cases slot
  · cases led : disk.locate directory path <;> simp [led, bind, Except.bind] at slot
  · rename_i last up final
    cases led : disk.follow (start directory path) path.parts.dropLast with
    | error errno => simp [led, bind, Except.bind] at slot
    | ok above =>
        simp only [led, bind, Except.bind] at slot
        split at slot
        · rename_i there
          split at slot
          · cases slot
          · rename_i short
            cases slot
            exact ⟨(List.dropLast_append_getLast? _ final).symm, up, Bool.eq_false_iff.mpr short, rfl, there⟩
        · cases slot
        · cases slot

theorem slot_plain (disk : Disk) (directory place : Place) (parts : List String) (name : String)
    (plain : ".." ∉ parts) (slot : disk.slotOf directory ⟨.single, parts⟩ = .ok (some (place, name))) :
    place ++ [name] = parts := by
  obtain ⟨whole, -, -, led, -⟩ := slot_at slot
  have upper : ".." ∉ parts.dropLast := fun inside => plain (List.dropLast_subset parts inside)
  rw [follow_plain disk [] place parts.dropLast upper led]
  exact whole.symm

theorem open_place_at {disk : Disk} {directory place : Place} {path : Path}
    (opened : disk.openPlace directory path = .ok place) :
    ∃ above name, disk.slotOf directory path = .ok (some (above, name)) ∧ place = above ++ [name] ∧
      disk.at? place ≠ some .folder := by
  unfold openPlace at opened
  cases slot : disk.slotOf directory path with
  | error errno => simp [slot, bind, Except.bind] at opened
  | ok found =>
      cases found with
      | none => simp [slot, bind, Except.bind] at opened
      | some entry =>
          obtain ⟨above, name⟩ := entry
          simp only [slot, bind, Except.bind] at opened
          split at opened
          · cases opened
          · rename_i other
            cases opened
            exact ⟨above, name, rfl, rfl, other⟩

-- A file that is named from the root without leading up is opened at its own place.
theorem open_place_plain (disk : Disk) (directory place : Place) (parts : List String) (plain : ".." ∉ parts)
    (opened : disk.openPlace directory ⟨.single, parts⟩ = .ok place) : place = parts := by
  obtain ⟨above, name, slot, rfl, -⟩ := open_place_at opened
  exact slot_plain disk directory above parts name plain slot

/-! ### Writes in a row -/

-- The disks that come of one by making folders where nothing is, and by writing files in a row.
inductive Written (first : Disk) : List (Place × Bytes) → Disk → Prop
  | first : Written first [] first
  | folder (writes : List (Place × Bytes)) (disk : Disk) (place : Place) (free : disk.at? place = none)
      (reached : Written first writes disk) : Written first writes (disk.set place .folder)
  | file (writes : List (Place × Bytes)) (disk : Disk) (place : Place) (data : Bytes)
      (reached : Written first writes disk) : Written first (writes ++ [(place, data)]) (disk.writeFile place data)

theorem written_trans {writes more : List (Place × Bytes)} {middle last : Disk} (start : Written first writes middle)
    (rest : Written middle more last) : Written first (writes ++ more) last := by
  induction rest with
  | first => rwa [List.append_nil]
  | folder more disk place free _ ih => exact .folder _ disk place free ih
  | file more disk place data _ ih =>
      rw [← List.append_assoc]
      exact .file _ disk place data ih

theorem written_of_unwritten {disk : Disk} (reached : Reaches (fun _ => False) first disk) : Written first [] disk := by
  induction reached with
  | first => exact .first
  | folder disk place free _ ih => exact .folder [] disk place free ih
  | file disk place data never _ _ => exact never.elim

theorem reaches_of_written {writes : List (Place × Bytes)} {disk : Disk} (written : Written first writes disk) :
    Reaches (· ∈ writes.map (·.1)) first disk := by
  induction written with
  | first => exact .first
  | folder writes disk place free _ ih => exact .folder disk place free ih
  | file writes disk place data _ ih =>
      refine .file disk place data (by simp) (reaches_mono (fun other member => ?_) ih)
      rw [List.map_append]
      exact List.mem_append_left _ member

-- A place holds what was last written there: later folders are made where nothing is.
theorem at_of_written {writes : List (Place × Bytes)} {disk : Disk} (written : Written first writes disk)
    (earlier later : List (Place × Bytes)) (place : Place) (data : Bytes) (inner : place ≠ [])
    (split_writes : writes = earlier ++ (place, data) :: later) (last : place ∉ later.map (·.1)) :
    disk.at? place = some (.file (.bytes data)) := by
  induction written generalizing later with
  | first => simp at split_writes
  | folder writes disk made free _ ih =>
      have held := ih later split_writes last
      have apart : made ≠ place := by
        rintro rfl
        rw [free] at held
        cases held
      rw [at_set _ _ _ _ inner, if_neg apart, held]
  | file writes disk made bytes _ ih =>
      rw [writeFile, at_set _ _ _ _ inner]
      rcases List.eq_nil_or_concat later with rfl | ⟨rest, final, rfl⟩
      · obtain ⟨-, same⟩ := List.append_inj' split_writes rfl
        cases same
        rw [if_pos rfl]
      · rw [List.concat_eq_append, ← List.cons_append, ← List.append_assoc] at split_writes
        obtain ⟨before, same⟩ := List.append_inj' split_writes rfl
        cases same
        rw [List.concat_eq_append, List.map_append, List.mem_append, not_or] at last
        have apart : made ≠ place := fun same => last.2 (by simp [same])
        rw [if_neg apart]
        exact ih rest before last.1

-- Writing a text makes folders, and fails there or when the file is opened; or the file is opened, and it gets the bytes
-- of the text, or none if the text cannot be encoded.
theorem write_text_cases (disk : Disk) (directory : Place) (parts : List String) (encoding text : String)
    (plain : ".." ∉ parts) :
    (∃ cause last, Generator.writeText disk directory ⟨.single, parts⟩ encoding text = (.error cause, last) ∧
      Written disk [] last) ∨
    ∃ above, Written disk [] above ∧ Generator.writeText disk directory ⟨.single, parts⟩ encoding text =
      match Generator.encode encoding text with
      | .ok bytes => (.ok (), above.writeFile parts bytes)
      | .error cause => (.error cause, above.writeFile parts []) := by
  unfold Generator.writeText
  have above := written_of_unwritten (reaches_ensure_folders disk directory (Path.mk .single parts).parent)
  generalize disk.ensureFolders directory (Path.mk .single parts).parent = made at above
  obtain ⟨outcome, after⟩ := made
  cases outcome with
  | error failure => exact .inl ⟨_, after, rfl, above⟩
  | ok _ =>
      cases opened : after.openPlace directory ⟨.single, parts⟩ with
      | error errno => exact .inl ⟨errno.message (Path.mk .single parts).toString, after, by simp only [opened], above⟩
      | ok place =>
          obtain rfl := open_place_plain after directory place parts plain opened
          refine .inr ⟨after, above, ?_⟩
          cases Generator.encode encoding text <;> simp only [opened]

section

variable (disk last : Disk) (directory : Place) (parts : List String) (encoding text : String) (plain : ".." ∉ parts)
include plain

-- Writing a text that can be encoded makes folders, and then writes its bytes at one place.
theorem written_write_text
    (done : Generator.writeText disk directory ⟨.single, parts⟩ encoding text = (.ok (), last)) :
    ∃ bytes, Generator.encode encoding text = .ok bytes ∧ Written disk [(parts, bytes)] last := by
  rcases write_text_cases disk directory parts encoding text plain with ⟨cause, _, failed, -⟩ | ⟨above, made, wrote⟩
  · cases failed.symm.trans done
  · rw [wrote] at done
    cases encoded : Generator.encode encoding text with
    | error cause => simp [encoded] at done
    | ok bytes =>
        simp only [encoded, Prod.mk.injEq, true_and] at done
        subst done
        exact ⟨bytes, rfl, .file [] above parts bytes made⟩

-- Writing a text fails before the file is opened, or finds the text unfit for the encoding and leaves the file empty.
theorem written_failed_text (cause : String)
    (failed : Generator.writeText disk directory ⟨.single, parts⟩ encoding text = (.error cause, last)) :
    Written disk [] last ∨
      ∃ reason, Generator.encode encoding text = .error reason ∧ Written disk [(parts, [])] last := by
  rcases write_text_cases disk directory parts encoding text plain with ⟨_, after, same, made⟩ | ⟨above, made, wrote⟩
  · cases same.symm.trans failed
    exact .inl made
  · rw [wrote] at failed
    cases encoded : Generator.encode encoding text with
    | ok bytes => simp [encoded] at failed
    | error reason =>
        simp only [encoded, Prod.mk.injEq] at failed
        obtain ⟨-, rfl⟩ := failed
        exact .inr ⟨reason, rfl, .file [] above parts [] made⟩

omit last in
theorem reaches_write_text {writable : Place → Prop} (allowed : writable parts) :
    Reaches writable disk (Generator.writeText disk directory ⟨.single, parts⟩ encoding text).2 := by
  cases ran : Generator.writeText disk directory ⟨.single, parts⟩ encoding text with
  | mk result last =>
      cases result with
      | ok _ =>
          obtain ⟨bytes, -, written⟩ := written_write_text disk last directory parts encoding text plain ran
          refine reaches_mono (fun place member => ?_) (reaches_of_written written)
          rwa [List.mem_singleton.mp member]
      | error cause =>
          rcases written_failed_text disk last directory parts encoding text plain cause ran with
            written | ⟨-, -, written⟩
          · exact reaches_mono (fun place member => absurd member List.not_mem_nil) (reaches_of_written written)
          · refine reaches_mono (fun place member => ?_) (reaches_of_written written)
            rwa [List.mem_singleton.mp member]

end

end

end StubForge.Disk
