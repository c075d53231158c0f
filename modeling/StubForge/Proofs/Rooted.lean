import Mathlib.Data.List.Induction
import StubForge.Disk

set_option autoImplicit false

/-!
Disks whose entries hang together: on a rooted disk, whatever lies somewhere lies in a folder, and making a folder in a
folder keeps it so.
-/

namespace StubForge.Disk

theorem mem_entries (disk : Disk) (place : Place) (entry : Entry) (inner : place ≠ [])
    (held : disk.at? place = some entry) : (place, entry) ∈ disk.entries := by
  rw [at?, if_neg (by simpa using inner)] at held
  obtain ⟨⟨other, entry⟩, found, rfl⟩ := Option.map_eq_some_iff.mp held
  obtain rfl : other = place := by simpa using List.find?_some found
  exact List.mem_of_find?_eq_some found

theorem mem_below (disk : Disk) (place rest : Place) (entry : Entry) (deeper : rest ≠ [])
    (held : disk.at? (place ++ rest) = some entry) : (rest, entry) ∈ disk.below place := by
  refine List.mem_filterMap.mpr ⟨_, disk.mem_entries _ entry (by simp [deeper]) held, ?_⟩
  simp [deeper]

-- Whatever lies somewhere lies in a folder.
def Rooted (disk : Disk) : Prop :=
  ∀ place name entry, disk.at? (place ++ [name]) = some entry → disk.at? place = some .folder

theorem rooted_of_entries (disk : Disk)
    (above : ∀ entry ∈ disk.entries, disk.at? entry.1.dropLast = some .folder) : disk.Rooted := by
  intro place name entry held
  simpa using above _ (disk.mem_entries _ entry (by simp) held)

section

variable {disk : Disk} (rooted : disk.Rooted) (place : Place)
include rooted

theorem folder_above (rest : Place) (entry : Entry) (deeper : rest ≠ [])
    (held : disk.at? (place ++ rest) = some entry) : disk.at? place = some .folder := by
  induction rest using List.reverseRecOn generalizing entry with
  | nil => exact absurd rfl deeper
  | append_singleton rest name ih =>
      have folder := rooted (place ++ rest) name entry (by rw [List.append_assoc]; exact held)
      by_cases here : rest = []
      · subst here
        rwa [List.append_nil] at folder
      · exact ih .folder here folder

theorem empty_below (free : disk.at? place = none) (rest : Place) (deeper : rest ≠ []) :
    disk.at? (place ++ rest) = none := by
  cases held : disk.at? (place ++ rest) with
  | none => rfl
  | some entry =>
      have above := folder_above rooted place rest entry deeper held
      rw [free] at above
      cases above

theorem rooted_set_folder (name : String) (there : disk.at? place = some .folder) :
    (disk.set (place ++ [name]) .folder).Rooted := by
  intro other next entry held
  by_cases inner : other = []
  · subst inner
    rfl
  · rw [at_set _ _ _ _ inner]
    split
    · rfl
    · rw [at_set _ _ _ _ (by simp)] at held
      split at held
      · rename_i same
        rw [← (List.append_inj' same rfl).1, there]
      · exact rooted other next entry held

end

end StubForge.Disk
