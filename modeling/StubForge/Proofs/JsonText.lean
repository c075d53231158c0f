import StubForge.Json

set_option autoImplicit false

/-!
The text of a JSON value, in two steps: the members of all objects are sorted, and then written in
their order.
-/

namespace StubForge.Json

-- The text of a value that keeps the order of members.
mutual
def written : Json → List Char
  | .null => "null".toList
  | .bool value => (if value then "true" else "false").toList
  | .int value => (Text.intText value).toList
  | .float value => floatChars value
  | .string value => stringChars value
  | .array items => '[' :: (writtenItems items ++ [']'])
  | .object members => '\x7b' :: (writtenEntries members ++ ['\x7d'])
termination_by structural value => value
def writtenItems : List Json → List Char
  | [] => []
  | [item] => written item
  | item :: rest => written item ++ ',' :: ' ' :: writtenItems rest
termination_by structural items => items
def writtenEntries : List (String × Json) → List Char
  | [] => []
  | [(key, value)] => stringChars key ++ ':' :: ' ' :: written value
  | (key, value) :: rest => stringChars key ++ ':' :: ' ' :: (written value ++ ',' :: ' ' :: writtenEntries rest)
termination_by structural members => members
end

theorem written_entries_cons (key : String) (value : Json) (rest : List (String × Json)) :
    writtenEntries ((key, value) :: rest) = stringChars key ++ ':' :: ' ' :: (written value ++
      rest.flatMap fun member => ',' :: ' ' :: (stringChars member.1 ++ ':' :: ' ' :: written member.2)) := by
  induction rest generalizing key value with
  | nil => simp [writtenEntries]
  | cons member rest ih =>
      obtain ⟨next, other⟩ := member
      rw [writtenEntries, ih next other, List.flatMap_cons]
      · simp
      · simp

-- The same value with the members of all its objects sorted by key.
mutual
def sorted : Json → Json
  | .array items => .array (sortedItems items)
  | .object members => .object (sortMembers (sortedEntries members))
  | .null => .null
  | .bool value => .bool value
  | .int value => .int value
  | .float value => .float value
  | .string value => .string value
termination_by structural value => value
def sortedItems : List Json → List Json
  | [] => []
  | item :: rest => sorted item :: sortedItems rest
termination_by structural items => items
def sortedEntries : List (String × Json) → List (String × Json)
  | [] => []
  | (key, value) :: rest => (key, sorted value) :: sortedEntries rest
termination_by structural members => members
end

section

variable {α β : Type}

theorem insert_member_map (change : α → β) (key : String) (value : α) (members : List (String × α)) :
    insertMember key (change value) (members.map fun member => (member.1, change member.2)) =
      (insertMember key value members).map fun member => (member.1, change member.2) := by
  induction members with
  | nil => rfl
  | cons first rest ih =>
      obtain ⟨k, v⟩ := first
      simp only [List.map_cons, insertMember, ih]
      split <;> rfl

theorem insert_member_perm (key : String) (value : α) (members : List (String × α)) :
    (insertMember key value members).Perm ((key, value) :: members) := by
  induction members with
  | nil => exact List.Perm.refl _
  | cons first rest ih =>
      obtain ⟨k, v⟩ := first
      rw [insertMember]
      split
      · exact List.Perm.refl _
      · exact (List.Perm.cons _ ih).trans (List.Perm.swap _ _ _)

theorem sort_members_eq (members : List (String × α)) :
    sortMembers members = members.foldl (fun sorted member => insertMember member.1 member.2 sorted) [] := by
  cases members <;> rfl

theorem sort_members_map (change : α → β) (members : List (String × α)) :
    sortMembers (members.map fun member => (member.1, change member.2)) =
      (sortMembers members).map fun member => (member.1, change member.2) := by
  have fold : ∀ (members sorted : List (String × α)),
      (members.map fun member => (member.1, change member.2)).foldl
          (fun sorted member => insertMember member.1 member.2 sorted)
          (sorted.map fun member => (member.1, change member.2)) =
        (members.foldl (fun sorted member => insertMember member.1 member.2 sorted) sorted).map
          fun member => (member.1, change member.2) := by
    intro members
    induction members with
    | nil => exact fun _ => rfl
    | cons member rest ih =>
        intro sorted
        rw [List.map_cons, List.foldl_cons, List.foldl_cons, ← ih,
          ← insert_member_map change member.1 member.2 sorted]
  rw [sort_members_eq, sort_members_eq]
  exact fold members []

theorem sort_members_perm (members : List (String × α)) : (sortMembers members).Perm members := by
  have fold : ∀ (members sorted : List (String × α)),
      (members.foldl (fun sorted member => insertMember member.1 member.2 sorted) sorted).Perm
        (sorted ++ members) := by
    intro members
    induction members with
    | nil => exact fun sorted => by simp
    | cons member rest ih =>
        intro sorted
        refine (ih _).trans ?_
        refine ((insert_member_perm member.1 member.2 sorted).append_right rest).trans ?_
        exact List.perm_middle.symm
  rw [sort_members_eq]
  exact fold members []

theorem find_member_iff (members : List (String × α)) (distinct : (members.map (·.1)).Nodup) (key : String)
    (member : String × α) :
    members.find? (fun entry => entry.1 == key) = some member ↔ member ∈ members ∧ member.1 = key := by
  induction members with
  | nil => simp
  | cons first rest ih =>
      obtain ⟨fresh, others⟩ := List.nodup_cons.mp distinct
      by_cases same : first.1 = key
      · have alone : ∀ entry ∈ rest, entry.1 ≠ key := fun entry inside equal =>
          fresh (List.mem_map.mpr ⟨entry, inside, equal.trans same.symm⟩)
        rw [List.find?_cons_of_pos (by simpa using same)]
        constructor
        · intro found
          cases found
          exact ⟨List.mem_cons_self, same⟩
        · rintro ⟨inside, equal⟩
          rcases List.mem_cons.mp inside with rfl | later
          · rfl
          · exact absurd equal (alone member later)
      · rw [List.find?_cons_of_neg (by simpa using same), ih others, List.mem_cons]
        constructor
        · exact fun ⟨inside, equal⟩ => ⟨.inr inside, equal⟩
        · rintro ⟨rfl | inside, equal⟩
          · exact absurd equal same
          · exact ⟨inside, equal⟩

end

theorem sorted_entries_eq (members : List (String × Json)) :
    sortedEntries members = members.map fun member => (member.1, sorted member.2) := by
  induction members with
  | nil => rfl
  | cons first rest ih => rw [sortedEntries, ih, List.map_cons]

-- Sorting changes the order of members, but not what is found under a key.
theorem field_sorted (members : List (String × Json)) (distinct : (members.map (·.1)).Nodup) (key : String) :
    (sorted (.object members)).field? key = (field? key (.object members)).map sorted := by
  have perm := sort_members_perm (sortedEntries members)
  have entries := sorted_entries_eq members
  have keys : (sortedEntries members).map (·.1) = members.map (·.1) := by
    rw [entries, List.map_map]
    rfl
  have same : (sortMembers (sortedEntries members)).find? (fun entry => entry.1 == key) =
      (sortedEntries members).find? (fun entry => entry.1 == key) := by
    refine Option.ext fun member => ?_
    rw [find_member_iff _ ((perm.map (·.1)).nodup_iff.mpr (keys ▸ distinct)), find_member_iff _ (keys ▸ distinct),
      perm.mem_iff]
  rw [sorted, field?, field?, same, entries, List.find?_map, Option.map_map, Option.map_map]
  rfl

theorem written_members_eq (members : List (String × Json)) :
    writtenMembers (members.map fun member => (member.1, written member.2)) = writtenEntries members := by
  induction members with
  | nil => rfl
  | cons first rest ih =>
      cases rest with
      | nil => rfl
      | cons next others =>
          simp only [List.map_cons, writtenMembers, writtenEntries] at ih ⊢
          rw [ih]

-- Writing a value sorts the members of its objects first.
mutual
theorem chars_eq_written : ∀ value : Json, chars value = written value.sorted
  | .null => rfl
  | .bool _ => rfl
  | .int _ => rfl
  | .float _ => rfl
  | .string _ => rfl
  | .array items => by rw [chars, sorted, written, item_chars_eq_written items]
  | .object members => by
      rw [chars, sorted, written, member_texts_eq_written members, sorted_entries_eq, ← written_members_eq,
        ← sort_members_map, List.map_map]
      rfl
termination_by structural value => value
theorem item_chars_eq_written : ∀ items : List Json, itemChars items = writtenItems (sortedItems items)
  | [] => rfl
  | [item] => by rw [itemChars, sortedItems, sortedItems, writtenItems, chars_eq_written item]
  | item :: next :: rest => by
      rw [itemChars, sortedItems, chars_eq_written item, item_chars_eq_written (next :: rest), sortedItems]
      · rfl
      · simp
termination_by structural items => items
theorem member_texts_eq_written : ∀ members : List (String × Json),
    memberTexts members = members.map fun member => (member.1, written member.2.sorted)
  | [] => rfl
  | (key, value) :: rest => by
      rw [memberTexts, chars_eq_written value, member_texts_eq_written rest, List.map_cons]
termination_by structural members => members
end

end StubForge.Json
