import Mathlib.Data.List.Induction
import Mathlib.Data.List.Nodup

set_option autoImplicit false

/-!
First occurrences. Taking repetitions out of a list keeps the first item of each kind, and what is kept stands in the order
in which it was first seen.
-/

namespace StubForge

section

variable {α : Type} [DecidableEq α]

theorem erase_dups_concat (front : List α) (last : α) :
    (front ++ [last]).eraseDups = front.eraseDups ++ if last ∈ front then [] else [last] := by
  rw [List.eraseDups_append]
  by_cases known : last ∈ front <;> simp [List.removeAll, List.eraseDups_cons, known]

theorem nodup_erase_dups (items : List α) : items.eraseDups.Nodup := by
  induction items using List.reverseRecOn with
  | nil => exact List.nodup_nil
  | append_singleton front last ih =>
      rw [erase_dups_concat]
      split
      · simpa using ih
      · rename_i fresh
        exact ih.append (List.nodup_singleton last) (by simpa using fresh)

theorem erase_dups_filter (keep : α → Bool) (items : List α) :
    items.eraseDups.filter keep = (items.filter keep).eraseDups := by
  induction items using List.reverseRecOn with
  | nil => rfl
  | append_singleton front last ih =>
      rw [erase_dups_concat, List.filter_append, List.filter_append, ih]
      by_cases kept : keep last = true
      · rw [List.filter_cons_of_pos kept, List.filter_nil, erase_dups_concat]
        by_cases known : last ∈ front <;> simp [known, kept]
      · rw [List.filter_cons_of_neg kept, List.filter_nil, List.append_nil]
        split <;> simp [kept]

theorem erase_dups_append (items more : List α) :
    (items ++ more).eraseDups = items.eraseDups ++ more.eraseDups.filter (· ∉ items.eraseDups) := by
  rw [List.eraseDups_append, erase_dups_filter]
  congr 2
  apply List.filter_congr
  intro item _
  simp [List.mem_eraseDups]

theorem erase_dups_sublist (items : List α) : items.eraseDups.Sublist items := by
  induction items using List.reverseRecOn with
  | nil => exact List.nil_sublist _
  | append_singleton front last ih =>
      rw [erase_dups_concat]
      refine ih.append ?_
      split <;> simp

theorem erase_dups_of_nodup (items : List α) (distinct : items.Nodup) : items.eraseDups = items := by
  induction items using List.reverseRecOn with
  | nil => rfl
  | append_singleton front last ih =>
      obtain ⟨before, -, apart⟩ := List.nodup_append.mp distinct
      have fresh : last ∉ front := fun known => apart last known last (List.mem_singleton_self last) rfl
      rw [erase_dups_concat, ih before, if_neg fresh]

-- Repetitions may be taken out of a part first.
theorem erase_dups_append_left (items more : List α) : (items.eraseDups ++ more).eraseDups = (items ++ more).eraseDups := by
  rw [erase_dups_append, erase_dups_append, erase_dups_of_nodup _ (nodup_erase_dups items)]

theorem erase_dups_known (items more : List α) (known : ∀ item ∈ more, item ∈ items) :
    (items ++ more).eraseDups = items.eraseDups := by
  rw [erase_dups_append, List.append_right_eq_self, List.filter_eq_nil_iff]
  intro item member
  simpa [List.mem_eraseDups] using known item (List.mem_eraseDups.mp member)

end

-- By induction on the list from its end: a further item comes after all that were seen before it.
theorem erase_dups_in_order {α β : Type} [DecidableEq α] (key : β → Option α) (items : List β) :
    (items.filterMap key).eraseDups.Pairwise fun a b =>
      items.findIdx (key · = some a) < items.findIdx (key · = some b) := by
  induction items using List.reverseRecOn with
  | nil => exact List.Pairwise.nil
  | append_singleton front last ih =>
      have stays (a : α) (known : a ∈ (front.filterMap key).eraseDups) :
          (front ++ [last]).findIdx (key · = some a) = front.findIdx (key · = some a) ∧
            front.findIdx (key · = some a) < front.length := by
        obtain ⟨item, member, found⟩ := List.mem_filterMap.mp (List.mem_eraseDups.mp known)
        have inside : front.findIdx (key · = some a) < front.length :=
          List.findIdx_lt_length.mpr ⟨item, member, by simpa using found⟩
        exact ⟨by rw [List.findIdx_append, if_pos inside], inside⟩
      have kept : (front.filterMap key).eraseDups.Pairwise fun a b =>
          (front ++ [last]).findIdx (key · = some a) < (front ++ [last]).findIdx (key · = some b) := by
        refine ih.imp_of_mem ?_
        intro a b aKnown bKnown before
        rwa [(stays a aKnown).1, (stays b bKnown).1]
      rw [List.filterMap_append]
      cases found : key last with
      | none => simpa [found] using kept
      | some new =>
          have single : [last].filterMap key = [new] := by simp [found]
          rw [single, erase_dups_concat]
          split
          · simpa using kept
          · rename_i fresh
            refine List.pairwise_append.mpr ⟨kept, List.pairwise_singleton _ _, ?_⟩
            intro a known b same
            obtain rfl := List.mem_singleton.mp same
            have unseen : ¬ front.findIdx (key · = some b) < front.length := by
              rw [List.findIdx_lt_length]
              rintro ⟨item, member, own⟩
              exact fresh (List.mem_filterMap.mpr ⟨item, member, by simpa using own⟩)
            have later : (front ++ [last]).findIdx (key · = some b) = front.length := by
              rw [List.findIdx_append, if_neg unseen]
              simp [List.findIdx_cons, found]
            rw [later, (stays a known).1]
            exact (stays a known).2

end StubForge
