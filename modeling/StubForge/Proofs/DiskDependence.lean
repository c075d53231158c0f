import StubForge.Proofs.DiskWrites
import StubForge.Proofs.Laying

set_option autoImplicit false

/-!
What writing a text and looking for a template depend on: what lies on the way from the root, and no other place.
-/

namespace StubForge.Disk

section

variable {disk other : Disk}

theorem follow_same (place : Place) (parts : List String) (plain : ".." ∉ parts)
    (alike : ∀ front, front <+: parts → disk.at? (place ++ front) = other.at? (place ++ front)) :
    disk.follow place parts = other.follow place parts := by
  induction parts generalizing place with
  | nil => rfl
  | cons name rest ih =>
      obtain ⟨down, others⟩ : name ≠ ".." ∧ ".." ∉ rest := by
        simpa [eq_comm] using plain
      have deeper := ih (place ++ [name]) others fun front leads => by
        simpa using alike (name :: front) (by simpa using leads)
      rw [follow_down _ _ _ _ down, follow_down _ _ _ _ down, alike [name] (by simp), deeper]

/-! ### Writing -/

section

variable {directory : Place} {parts : List String} (plain : ".." ∉ parts)
  (alike : ∀ front, front <+: parts → disk.at? front = other.at? front)
include plain alike

theorem slot_same : disk.slotOf directory ⟨.single, parts⟩ = other.slotOf directory ⟨.single, parts⟩ := by
  unfold slotOf
  split
  · rfl
  · rename_i final
    exact absurd (List.mem_of_getLast? final) plain
  · have upper : ".." ∉ parts.dropLast := fun inside => plain (List.dropLast_subset parts inside)
    have above := @follow_same disk other [] parts.dropLast upper fun front leads =>
      alike front (leads.trans (List.dropLast_prefix parts))
    rw [start, above]
    cases followed : other.follow [] parts.dropLast with
    | error errno => rfl
    | ok place =>
        have reached := follow_plain other [] place parts.dropLast upper followed
        simp only [bind, Except.bind]
        rw [alike place (by rw [reached]; exact List.dropLast_prefix parts)]

theorem open_same : disk.openPlace directory ⟨.single, parts⟩ = other.openPlace directory ⟨.single, parts⟩ := by
  unfold openPlace
  rw [slot_same plain alike]
  cases slot : other.slotOf directory ⟨.single, parts⟩ with
  | error errno => rfl
  | ok found =>
      cases found with
      | none => rfl
      | some entry =>
          obtain ⟨place, name⟩ := entry
          simp only [bind, Except.bind]
          rw [slot_plain other directory place parts name plain slot, alike parts List.prefix_rfl]

-- Two disks that hold the same on the way to a file: writing it comes to the same, and leaves the same wherever it
-- leaves something else.
theorem write_text_same (free : (Path.mk .single parts).hasNul = false) (encoding text : String) :
    (Generator.writeText disk directory ⟨.single, parts⟩ encoding text).1 =
        (Generator.writeText other directory ⟨.single, parts⟩ encoding text).1 ∧
      SameOrKept disk other (Generator.writeText disk directory ⟨.single, parts⟩ encoding text).2
        (Generator.writeText other directory ⟨.single, parts⟩ encoding text).2 := by
  have upper : ".." ∉ (Path.mk .single parts).parent.parts := fun inside => plain (List.dropLast_subset parts inside)
  have laid (first : Disk) : first.ensureFolders directory (Path.mk .single parts).parent = _ :=
    ensure_folders_lays rfl upper (parent_has_nul free) (at_root first)
  obtain ⟨same, changed⟩ := lay_same disk other [] (Path.mk .single parts).parent [] false parts.dropLast
    fun front leads => alike front (leads.trans (List.dropLast_prefix parts))
  unfold Generator.writeText
  rw [laid disk, laid other]
  simp only [start, Path.parent] at same changed ⊢
  generalize lay ⟨.single, parts.dropLast⟩ disk [] [] false parts.dropLast = left at same changed
  generalize lay ⟨.single, parts.dropLast⟩ other [] [] false parts.dropLast = right at same changed
  obtain ⟨result, made⟩ := left
  obtain ⟨result', made'⟩ := right
  cases same
  cases result with
  | error failure => exact ⟨rfl, changed⟩
  | ok done =>
      have still (front : List String) (leads : front <+: parts) : made.at? front = made'.at? front := by
        rcases changed front with same | ⟨kept, kept'⟩
        · exact same
        · rw [kept, kept', alike front leads]
      have opened := @open_same made made' directory parts plain still
      dsimp only
      rw [opened]
      cases made'.openPlace directory ⟨.single, parts⟩ with
      | error errno => exact ⟨rfl, changed⟩
      | ok place =>
          dsimp only
          split
          · exact ⟨rfl, same_or_kept_trans changed (same_or_kept_set made made' place _)⟩
          · exact ⟨rfl, same_or_kept_trans changed (same_or_kept_set made made' place _)⟩

omit alike in
-- Writing a text changes the place of its file, and makes folders on the way to it.
theorem write_text_at (free : (Path.mk .single parts).hasNul = false) (encoding text : String) (seen : Place)
    (inner : seen ≠ parts) :
    (Generator.writeText disk directory ⟨.single, parts⟩ encoding text).2.at? seen = disk.at? seen ∨
      disk.at? seen = none ∧ seen <+: parts := by
  have upper : ".." ∉ (Path.mk .single parts).parent.parts := fun inside => plain (List.dropLast_subset parts inside)
  have laid : disk.ensureFolders directory (Path.mk .single parts).parent = _ :=
    ensure_folders_lays rfl upper (parent_has_nul free) (at_root disk)
  have above := lay_at disk [] (Path.mk .single parts).parent [] false parts.dropLast seen
  unfold Generator.writeText
  rw [laid]
  simp only [start, Path.parent] at above ⊢
  generalize lay ⟨.single, parts.dropLast⟩ disk [] [] false parts.dropLast = ensured at above
  obtain ⟨result, made⟩ := ensured
  have still : made.at? seen = disk.at? seen ∨ disk.at? seen = none ∧ seen <+: parts := by
    rcases above with kept | ⟨missing, -, front, -, leads, rfl⟩
    · exact .inl kept
    · exact .inr ⟨missing, leads.trans (List.dropLast_prefix parts)⟩
  cases result with
  | error failure => exact still
  | ok done =>
      dsimp only
      cases opened : made.openPlace directory ⟨.single, parts⟩ with
      | error errno => exact still
      | ok place =>
          rw [open_place_plain made directory place parts plain opened]
          have written (data : Bytes) : (made.writeFile parts data).at? seen = made.at? seen := by
            by_cases root : seen = []
            · subst root
              rfl
            · rw [writeFile, at_set _ _ _ _ root, if_neg (Ne.symm inner)]
          dsimp only
          split <;> rw [written] <;> exact still

end

/-! ### Templates -/

section

variable {place reached : Place} {parts : List String}

theorem follow_fuller (content : Content) (fuller : ∀ front, front <+: parts → Fuller disk other (place ++ front))
    (found : other.follow place parts = .ok reached) (file : other.at? reached = some (.file content))
    (plain : ".." ∉ parts) :
    disk.follow place parts = .ok reached ∧ disk.at? reached = some (.file content) := by
  induction parts generalizing place with
  | nil =>
      cases found
      rcases fuller [] (by simp) with same | ⟨-, missing⟩
      · rw [List.append_nil] at same
        exact ⟨rfl, same.trans file⟩
      · rw [List.append_nil, file] at missing
        cases missing
  | cons name rest ih =>
      obtain ⟨down, others⟩ : name ≠ ".." ∧ ".." ∉ rest := by
        simpa [eq_comm] using plain
      obtain ⟨short, here⟩ := follow_cases down found
      have same (entry : Entry) (there : other.at? (place ++ [name]) = some entry) :
          disk.at? (place ++ [name]) = some entry := by
        rcases fuller [name] (by simp) with same | ⟨-, missing⟩
        · rw [same, there]
        · rw [missing] at there
          cases there
      rcases here with ⟨there, deeper⟩ | ⟨own, there, rfl, rfl⟩
      · rw [follow_into down short (same _ there)]
        exact ih (fun front leads => by simpa using fuller (name :: front) (by simpa using leads)) deeper others
      · exact ⟨follow_onto down short (same _ there), same _ file⟩

-- Where a path leads somewhere on one disk, it leads to what lies at the same place of another.
theorem follow_rooted (entry : Entry) (rooted : other.Rooted) (found : disk.follow place parts = .ok reached)
    (held : other.at? (place ++ parts) = some entry) (plain : ".." ∉ parts) :
    other.follow place parts = .ok (place ++ parts) := by
  induction parts generalizing place with
  | nil => simp [follow]
  | cons name rest ih =>
      obtain ⟨down, others⟩ : name ≠ ".." ∧ ".." ∉ rest := by
        simpa [eq_comm] using plain
      obtain ⟨short, here⟩ := follow_cases down found
      by_cases last : rest = []
      · subst last
        exact follow_onto down short held
      · rcases here with ⟨-, deeper⟩ | ⟨-, -, none, -⟩
        · have above := folder_above rooted (place ++ [name]) rest entry last
            (by rw [List.append_assoc]; exact held)
          rw [follow_into down short above, ih deeper (by simpa using held) others, List.append_assoc]
          rfl
        · exact absurd none last

end

theorem file_in_iff (disk : Disk) (directory : Place) (pieces : List String) (folder : Path) (data : Bytes) :
    Engine.fileIn? disk directory pieces folder = some data ↔
      (Path.mk folder.anchor (folder.parts ++ pieces)).hasNul = false ∧ ∃ reached,
        disk.follow (start directory folder) (folder.parts ++ pieces) = .ok reached ∧
          disk.at? reached = some (.file (.bytes data)) := by
  have begins : start directory ⟨folder.anchor, folder.parts ++ pieces⟩ = start directory folder := rfl
  rw [Engine.fileIn?]
  simp only [isFile, ask, find, locate, begins]
  cases free : (Path.mk folder.anchor (folder.parts ++ pieces)).hasNul with
  | true => simp
  | false =>
      cases followed : disk.follow (start directory folder) (folder.parts ++ pieces) with
      | error errno => cases errno <;> simp [bind, Except.bind]
      | ok reached =>
          cases there : disk.at? reached with
          | none => simp [bind, Except.bind, there]
          | some entry => 
              cases entry with
              | folder => simp [bind, Except.bind, there]
              | file content => cases content <;> simp [bind, Except.bind, there]

-- A template is found alike as long as only folders were added on the way to where it is looked for.
theorem file_in_fuller (directory : Place) (pieces : List String) (folder : Path) (rooted : other.Rooted)
    (plain : ".." ∉ folder.parts ++ pieces)
    (fuller : ∀ front, front <+: folder.parts ++ pieces → Fuller disk other (start directory folder ++ front)) :
    Engine.fileIn? disk directory pieces folder = Engine.fileIn? other directory pieces folder := by
  ext data
  rw [file_in_iff, file_in_iff]
  refine and_congr_right fun _ => ⟨?_, ?_⟩
  · rintro ⟨reached, found, file⟩
    obtain rfl := follow_plain disk _ reached _ plain found
    rcases fuller _ List.prefix_rfl with same | ⟨made, -⟩
    · rw [same] at file
      exact ⟨_, follow_rooted _ rooted found file plain, file⟩
    · rw [made] at file
      cases file
  · rintro ⟨reached, found, file⟩
    exact ⟨reached, follow_fuller _ fuller found file plain⟩

end

end StubForge.Disk

namespace StubForge.Engine

-- What a template path names depends on the files that the folders of templates have for it.
theorem read_same (engine : Engine) (disk other : Disk) (directory : Place) (path : String)
    (alike : ∀ pieces, pieces? path = some pieces → ∀ folder ∈ engine.folders,
      fileIn? disk directory pieces folder = fileIn? other directory pieces folder) :
    engine.read disk directory path = engine.read other directory path := by
  unfold read
  cases split_path : pieces? path with
  | none => rfl
  | some pieces =>
      have found : engine.folders.findSome? (fileIn? disk directory pieces) =
          engine.folders.findSome? (fileIn? other directory pieces) := by
        have own := alike pieces split_path
        generalize engine.folders = folders at own
        induction folders with
        | nil => rfl
        | cons folder rest ih =>
            rw [List.findSome?_cons, List.findSome?_cons, own folder List.mem_cons_self,
              ih fun other member => own other (List.mem_cons_of_mem folder member)]
      dsimp only
      rw [found]

theorem pieces_plain (path : String) (pieces : List String) (split_path : pieces? path = some pieces) :
    ".." ∉ pieces := by
  unfold pieces? at split_path
  dsimp only at split_path
  split at split_path
  · cases split_path
  · rename_i none
    cases split_path
    intro inside
    exact none (by simpa using (List.mem_filter.mp inside).1)

end StubForge.Engine
