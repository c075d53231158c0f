import Mathlib.Data.List.Lex
import Mathlib.Data.String.Basic
import StubForge.Order

set_option autoImplicit false

/-!
Sorting puts items in order. Names are ordered by their first differing letters, whatever smaller characters follow them.
-/

namespace StubForge.Order

-- What items can be sorted by: it never holds both ways, and leads on.
structure Strict {α : Type} (before : α → α → Bool) : Prop where
  asymm : ∀ a b, before a b = true → before b a = false
  trans : ∀ a b c, before a b = true → before b c = true → before a c = true

-- No item comes before an earlier one.
def Sorted {α : Type} (before : α → α → Bool) (items : List α) : Prop := items.Pairwise fun a b => before b a = false

section

variable {α : Type} {before : α → α → Bool} (strict : Strict before)
include strict

theorem insert_sorted (item : α) (items : List α) (sorted : Sorted before items) :
    Sorted before (insert before item items) := by
  induction items with
  | nil => exact List.pairwise_singleton _ _
  | cons first rest ih =>
      obtain ⟨least, later⟩ := List.pairwise_cons.mp sorted
      unfold insert
      split
      · rename_i stays
        refine List.pairwise_cons.mpr ⟨fun other member => ?_, ih later⟩
        rcases List.mem_cons.mp ((insert_perm before item rest).mem_iff.mp member) with rfl | inside
        · rcases Bool.or_eq_true_iff.mp stays with earlier | level
          · exact strict.asymm first other earlier
          · simpa using level
        · exact least other inside
      · rename_i moves
        have earlier : before item first = true := by
          rw [Bool.or_eq_true_iff, not_or] at moves
          simpa using moves.2
        refine List.pairwise_cons.mpr ⟨fun other member => ?_, sorted⟩
        rcases List.mem_cons.mp member with rfl | inside
        · exact strict.asymm item other earlier
        · cases leads : before other item with
          | false => rfl
          | true => rw [← least other inside, strict.trans other item first leads earlier]

theorem sort_sorted (items : List α) : Sorted before (sort before items) := by
  have fold (sorted : List α) (already : Sorted before sorted) :
      Sorted before (items.foldl (fun sorted item => insert before item sorted) sorted) := by
    induction items generalizing sorted with
    | nil => exact already
    | cons item rest ih => exact ih _ (insert_sorted strict item sorted already)
  exact fold [] List.Pairwise.nil

end

theorem strict_of_lt {α β : Type} [LinearOrder β] (before : α → α → Bool) (key : α → β)
    (lt : ∀ a b, before a b = true ↔ key a < key b) : Strict before where
  asymm a b earlier := by
    rw [← Bool.not_eq_true, lt]
    exact lt_asymm ((lt a b).mp earlier)
  trans a b c first second := (lt a c).mpr (lt_trans ((lt a b).mp first) ((lt b c).mp second))

theorem text_before_iff (a b : String) : textBefore a b = true ↔ a < b := decide_eq_true_iff

theorem names_before_iff (a b : List String) : namesBefore a b = true ↔ a < b := by
  induction a generalizing b with
  | nil => cases b <;> simp [namesBefore]
  | cons name rest ih =>
      cases b with
      | nil => simp [namesBefore]
      | cons other more =>
          rw [namesBefore, List.cons_lt_cons_iff]
          by_cases same : name = other
          · simp [same, ih]
          · simp [same]

-- Letters are larger than the slash and the dot.
def Letters (chars : List Char) : Prop := ∀ c ∈ chars, '/' < c

-- What does not go on with a letter.
def Ends (chars : List Char) : Prop := ∀ c ∈ chars.head?, c ≤ '/'

-- By induction on the common front: the first difference lies in the letters, as no letters follow them.
theorem lt_of_letters (front back after later : List Char) (first : Letters front) (second : Letters back)
    (ends : Ends after) (stops : Ends later) (apart : front ≠ back) :
    front ++ after < back ++ later ↔ front < back := by
  have small (c d : Char) (rest more : List Char) (low : c ≤ '/') (high : '/' < d) : c :: rest < d :: more := by
    rw [List.cons_lt_cons_iff]
    exact .inl (lt_of_le_of_lt low high)
  induction front generalizing back with
  | nil =>
      cases back with
      | nil => exact absurd rfl apart
      | cons d more =>
          refine iff_of_true ?_ (List.nil_lt_cons d more)
          cases after with
          | nil => exact List.nil_lt_cons d _
          | cons c rest => exact small c d rest _ (ends c rfl) (second d List.mem_cons_self)
  | cons c front ih =>
      obtain ⟨high, others⟩ := List.forall_mem_cons.mp first
      cases back with
      | nil =>
          refine iff_of_false (lt_asymm ?_) (List.not_lt_nil _)
          cases later with
          | nil => exact List.nil_lt_cons c _
          | cons d rest => exact small d c rest _ (stops d rfl) high
      | cons d back =>
          rw [List.cons_append, List.cons_append, List.cons_lt_cons_iff, List.cons_lt_cons_iff]
          by_cases same : c = d
          · subst same
            have inner := ih back others (List.forall_mem_cons.mp second).2 fun same => apart (congrArg (c :: ·) same)
            simp [inner]
          · simp [same]

theorem lt_append_left (front a b : List Char) : front ++ a < front ++ b ↔ a < b := by
  induction front with
  | nil => rfl
  | cons c rest ih => simpa using ih

end StubForge.Order
