/-!
Sorting by insertion, which keeps equal items in their order, and the order of lists by their
first difference.
-/

set_option autoImplicit false

namespace StubForge.Order

def insert {α : Type} (before : α → α → Bool) (item : α) : List α → List α
  | [] => [item]
  | first :: rest =>
      if before first item || !before item first then first :: insert before item rest
      else item :: first :: rest

def sort {α : Type} (before : α → α → Bool) (items : List α) : List α :=
  items.foldl (fun sorted item => insert before item sorted) []

-- Lists of names by their first difference; a list comes after its own beginning.
def namesBefore : List String → List String → Bool
  | [], [] => false
  | [], _ :: _ => true
  | _ :: _, [] => false
  | a :: as, b :: bs => if a = b then namesBefore as bs else decide (a < b)

def textBefore (a b : String) : Bool := decide (a < b)

theorem insert_perm {α : Type} (before : α → α → Bool) (item : α) (items : List α) :
    (insert before item items).Perm (item :: items) := by
  induction items with
  | nil => exact List.Perm.refl _
  | cons first rest ih =>
      unfold insert
      split
      · exact (List.Perm.cons first ih).trans (List.Perm.swap item first rest)
      · exact List.Perm.refl _

theorem fold_insert_perm {α : Type} (before : α → α → Bool) (items sorted : List α) :
    (items.foldl (fun sorted item => insert before item sorted) sorted).Perm (items ++ sorted) := by
  induction items generalizing sorted with
  | nil => exact List.Perm.refl _
  | cons item rest ih =>
      have inner := (insert_perm before item sorted).append_left rest
      exact ((ih (insert before item sorted)).trans inner).trans List.perm_middle

theorem sort_perm {α : Type} (before : α → α → Bool) (items : List α) :
    (sort before items).Perm items := by
  simpa [sort] using fold_insert_perm before items []

end StubForge.Order
