import StubForge.Path
import StubForge.Proofs.Segments

set_option autoImplicit false

/-!
Where a text leads when it is followed from a place component by component, and that resolving a path comes to
the same place.
-/

namespace StubForge

namespace Path

def stepInto (place : List String) (component : List Char) : List String :=
  if component = [] ∨ component = ['.'] then place
  else if component = ['.', '.'] then place.dropLast
  else place ++ [String.ofList component]

-- A text that starts with a slash is followed from the root.
def landing (start : List String) (text : String) : List String :=
  (Text.splitAt '/' text.toList).foldl stepInto (if text.toList.head? = some '/' then [] else start)

def Below (target place : List String) : Prop := ∃ name rest, place = target ++ name :: rest

theorem climb_meaningful (components : List (List Char)) (done : List String) :
    climb done ((components.filter meaningful).map String.ofList) = components.foldl stepInto done := by
  induction components generalizing done with
  | nil => rfl
  | cons component rest ih =>
      rw [List.foldl_cons, ← ih]
      by_cases empty : component = [] ∨ component = ['.']
      · rcases empty with rfl | rfl <;> rfl
      · obtain ⟨filled, real⟩ := not_or.mp empty
        have kept : meaningful component = true := by simp [meaningful, filled, real]
        have up : String.ofList component = ".." ↔ component = ['.', '.'] := by
          rw [show ".." = String.ofList ['.', '.'] from rfl, String.ofList_inj]
        rw [List.filter_cons_of_pos kept, List.map_cons, climb, stepInto, if_neg empty]
        by_cases parent : component = ['.', '.']
        · rw [if_pos parent, if_pos (up.mpr parent)]
        · rw [if_neg parent, if_neg (fun same => parent (up.mp same))]

theorem anchor_relative_iff (text : List Char) : anchorOf text = .relative ↔ text.head? ≠ some '/' := by
  unfold anchorOf
  split
  · simp
  · simp
  · simp
  · rename_i other
    refine ⟨fun _ lead => ?_, fun _ => rfl⟩
    cases text with
    | nil => simp at lead
    | cons c rest => exact other rest (by simpa using lead)

theorem resolve_append (directory : List String) (target : Path) (more : List String) :
    (Path.mk target.anchor (target.parts ++ more)).resolve directory =
      ⟨.single, climb (target.resolve directory).parts more⟩ := by
  cases known : target.anchor <;> simp [resolve, known, climb_append]

-- A text joined to a path and resolved leads where following its components from there leads.
theorem resolve_join (directory : List String) (target : Path) (text : String) :
    (target.join (ofString text)).resolve directory =
      ⟨.single, landing (target.resolve directory).parts text⟩ := by
  by_cases lead : text.toList.head? = some '/'
  · rw [landing, if_pos lead, ← climb_meaningful]
    have rooted : (ofString text).anchor ≠ .relative := fun relative =>
      (anchor_relative_iff text.toList).mp relative lead
    cases known : (ofString text).anchor with
    | relative => exact absurd known rooted
    | single | double =>
        simp only [join, known, resolve]
        rfl
  · rw [landing, if_neg lead, ← climb_meaningful]
    have relative : (ofString text).anchor = .relative := (anchor_relative_iff text.toList).mpr lead
    rw [join, relative]
    exact resolve_append directory target (ofString text).parts

theorem strictly_below_iff (place target : List String) :
    (Path.mk .single place).strictlyBelow ⟨.single, target⟩ = true ↔ Below target place := by
  simp only [strictlyBelow, beq_self_eq_true, Bool.true_and, Bool.and_eq_true, List.isPrefixOf_iff_prefix, bne_iff_ne]
  constructor
  · rintro ⟨⟨rest, rfl⟩, longer⟩
    cases rest with
    | nil => simp at longer
    | cons name rest => exact ⟨name, rest, rfl⟩
  · rintro ⟨name, rest, rfl⟩
    exact ⟨List.prefix_append target _, by simp⟩

theorem nul_in_text (text : String) (held : (ofString text).hasNul = true) : '\x00' ∈ text.toList := by
  obtain ⟨part, inside, nul⟩ := List.any_eq_true.mp held
  obtain ⟨component, among, rfl⟩ := List.mem_map.mp inside
  rw [String.toList_ofList] at nul
  exact Text.mem_of_mem_split_at '/' text.toList component (List.mem_filter.mp among).1 _ (by simpa using nul)

-- A text without NUL characters leaves those of the path it is joined to.
theorem join_has_nul (target : Path) (text : String) (free : '\x00' ∉ text.toList) (plain : target.hasNul = false) :
    (target.join (ofString text)).hasNul = false := by
  have none : (ofString text).hasNul = false := by
    rw [Bool.eq_false_iff]
    exact fun held => free (nul_in_text text held)
  unfold join
  split
  · simpa [hasNul] using And.intro plain none
  · exact none

theorem climb_plain (done parts : List String) (plain : ".." ∉ parts) : climb done parts = done ++ parts := by
  induction parts generalizing done with
  | nil => simp [climb]
  | cons part rest ih =>
      obtain ⟨down, others⟩ : part ≠ ".." ∧ ".." ∉ rest := by
        simpa [eq_comm] using plain
      rw [climb, if_neg down, ih _ others, List.append_assoc]
      rfl

-- The names in a climbed path are among those it was climbed from.
theorem climb_subset (done parts : List String) : climb done parts ⊆ done ++ parts := by
  induction parts generalizing done with
  | nil => simp [climb]
  | cons part rest ih =>
      rw [climb]
      split
      · intro name inside
        rcases List.mem_append.mp (ih _ inside) with above | later
        · exact List.mem_append_left _ (List.dropLast_subset done above)
        · exact List.mem_append_right _ (List.mem_cons_of_mem part later)
      · simpa using ih (done ++ [part])

/-! ### Resolved paths -/

-- A working directory: no component of it leads up or holds a NUL character.
def Settled (directory : List String) : Prop := ∀ part ∈ directory, part ≠ ".." ∧ '\x00' ∉ part.toList

instance (directory : List String) : Decidable (Settled directory) :=
  inferInstanceAs (Decidable (∀ part ∈ directory, part ≠ ".." ∧ '\x00' ∉ part.toList))

-- The folder that a path stands for, as components from the root.
def folder (directory : List String) (path : Path) : List String := (path.resolve directory).parts

theorem resolve_eq_folder (directory : List String) (path : Path) :
    path.resolve directory = ⟨.single, path.folder directory⟩ := by
  unfold folder resolve
  split <;> rfl

theorem folder_plain (directory : List String) (path : Path) (settled : Settled directory) :
    ".." ∉ path.folder directory := by
  have free : ".." ∉ directory := fun inside => (settled _ inside).1 rfl
  unfold folder resolve
  split
  · exact climb_without_up _ _ free
  · exact climb_without_up _ _ (by simp)

theorem folder_has_nul (directory : List String) (path : Path) (settled : Settled directory)
    (free : path.hasNul = false) : (Path.mk .single (path.folder directory)).hasNul = false := by
  have own : ∀ part ∈ path.parts, '\x00' ∉ part.toList := by simpa [hasNul] using free
  have inside : ∀ part ∈ path.folder directory, part ∈ directory ++ path.parts := by
    unfold folder resolve
    split
    · exact fun part member => climb_subset _ _ member
    · exact fun part member => List.mem_append_right _ (by simpa using climb_subset [] path.parts member)
  simp only [hasNul, List.any_eq_false, List.contains_eq_mem, decide_eq_true_eq]
  intro part member
  rcases List.mem_append.mp (inside part member) with above | below
  · exact (settled part above).2
  · exact own part below

-- A text joined to a folder and resolved leads where following its components from the folder leads.
theorem resolve_below (directory : List String) (target : Path) (text : String) (settled : Settled directory) :
    ((target.resolve directory).join (ofString text)).resolve directory =
      ⟨.single, landing (target.folder directory) text⟩ := by
  rw [resolve_join, resolve_eq_folder directory target]
  have same : (Path.mk .single (target.folder directory)).resolve directory = ⟨.single, target.folder directory⟩ := by
    simp [resolve, climb_plain _ _ (folder_plain directory target settled)]
  rw [same]

theorem landing_plain (directory : List String) (target : Path) (text : String) (settled : Settled directory) :
    ".." ∉ landing (target.folder directory) text := by
  have plain := folder_plain directory ((target.resolve directory).join (ofString text)) settled
  rwa [folder, resolve_below directory target text settled] at plain

end Path

end StubForge
