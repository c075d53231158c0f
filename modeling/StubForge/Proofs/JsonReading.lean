import StubForge.Proofs.JsonFloats
import StubForge.Proofs.JsonStrings
import StubForge.Proofs.JsonText

set_option autoImplicit false

/-!
Reading the text of a JSON value gives the value back, with the members of its objects sorted.
-/

namespace StubForge.Json

-- Values that JSON has a text for: floats are numbers, and no object has two members of one key.
mutual
def Valid : Json → Prop
  | .float value => value.IsNumber
  | .array items => ValidItems items
  | .object members => (members.map (·.1)).Nodup ∧ ValidEntries members
  | .null => True
  | .bool _ => True
  | .int _ => True
  | .string _ => True
termination_by structural value => value
def ValidItems : List Json → Prop
  | [] => True
  | item :: rest => Valid item ∧ ValidItems rest
termination_by structural items => items
def ValidEntries : List (String × Json) → Prop
  | [] => True
  | (_, value) :: rest => Valid value ∧ ValidEntries rest
termination_by structural members => members
end

theorem valid_items_iff (items : List Json) : ValidItems items ↔ ∀ item ∈ items, item.Valid := by
  induction items with
  | nil => simp [ValidItems]
  | cons item rest ih => simp [ValidItems, ih]

theorem valid_entries_iff (members : List (String × Json)) :
    ValidEntries members ↔ ∀ member ∈ members, member.2.Valid := by
  induction members with
  | nil => simp [ValidEntries]
  | cons member rest ih => simp [ValidEntries, ih]

-- What follows a value does not go on with the text of a number.
def Ends (rest : List Char) : Prop := ∀ c ∈ rest.head?, isNumberChar c = false

theorem skip_space_cons (c : Char) (rest : List Char) (filled : isSpace c = false) :
    skipSpace (c :: rest) = c :: rest := by
  rw [skipSpace, List.dropWhile_cons, filled]
  rfl

theorem read_value_space (fuel : Nat) (s : List Char) : readValue fuel (' ' :: s) = readValue fuel s := by
  cases fuel with
  | zero => rw [readValue, readValue]
  | succ fuel =>
      have skipped : skipSpace (' ' :: s) = skipSpace s := rfl
      rw [readValue, readValue, skipped]

theorem digit_not_space (c : Char) (digit : c.isDigit = true) : isSpace c = false := by
  rw [isSpace]
  simp only [Bool.or_eq_false_iff, decide_eq_false_iff_not]
  refine ⟨⟨⟨?_, ?_⟩, ?_⟩, ?_⟩
  all_goals
    rintro rfl
    exact absurd digit (by decide)

theorem read_value_digit (fuel : Nat) (first : Char) (rest : List Char) (digit : first.isDigit = true) :
    readValue (fuel + 1) (first :: rest) =
      (readNumber ((first :: rest).takeWhile isNumberChar)).map
        fun value => (value, (first :: rest).dropWhile isNumberChar) := by
  rw [readValue, skip_space_cons first rest (digit_not_space first digit)]
  -- No other form of a value starts with a digit.
  split
  iterate 9
    · rename_i same
      cases same
      exact absurd digit (by decide)
  · rfl

theorem read_value_negative (fuel : Nat) (first : Char) (rest : List Char) (digit : first.isDigit = true) :
    readValue (fuel + 1) ('-' :: first :: rest) =
      (readNumber (('-' :: first :: rest).takeWhile isNumberChar)).map
        fun value => (value, ('-' :: first :: rest).dropWhile isNumberChar) := by
  rw [readValue, skip_space_cons '-' _ rfl]
  split
  iterate 8
    · rename_i same
      cases same
  · rename_i same
    cases same
    exact absurd digit (by decide)
  · rfl

theorem read_number_text (s rest : List Char) (value : Json) (text : NumberText s) (ends : Ends rest)
    (number : readNumber s = some value) (fuel : Nat) :
    readValue (fuel + 1) (s ++ rest) = some (value, rest) := by
  obtain ⟨taken, dropped⟩ := Text.take_run isNumberChar s rest text.chars ends
  rcases text.front with ⟨first, more, rfl, digit⟩ | ⟨first, more, rfl, digit⟩
  · refine (read_value_digit fuel first (more ++ rest) digit).trans ?_
    rw [← List.cons_append, taken, dropped, number]
    rfl
  · refine (read_value_negative fuel first (more ++ rest) digit).trans ?_
    rw [← List.cons_append, ← List.cons_append, taken, dropped, number]
    rfl

-- A value starts with a character that neither is skipped nor closes an array.
theorem front_of_number (s : List Char) (text : NumberText s) :
    ∃ c more, s = c :: more ∧ isSpace c = false ∧ c ≠ ']' := by
  rcases text.front with ⟨first, more, rfl, digit⟩ | ⟨first, more, rfl, -⟩
  · refine ⟨first, more, rfl, digit_not_space first digit, ?_⟩
    rintro rfl
    exact absurd digit (by decide)
  · exact ⟨'-', first :: more, rfl, rfl, by decide⟩

theorem float_chars_of_number (x : Real64) (number : x.IsNumber) : floatChars x = x.text.toList := by
  cases x with
  | finite negative mantissa exponent => rfl
  | infinite negative => exact number.elim
  | notANumber => exact number.elim

theorem front_of_written (value : Json) (valid : value.Valid) :
    ∃ c more, written value = c :: more ∧ isSpace c = false ∧ c ≠ ']' := by
  cases value with
  | null => exact ⟨_, _, rfl, rfl, by decide⟩
  | bool value => cases value <;> exact ⟨_, _, rfl, rfl, by decide⟩
  | int value => exact front_of_number _ (number_text_of_int value)
  | float value =>
      rw [written, float_chars_of_number value valid]
      exact front_of_number _ (number_text_of_float value valid)
  | string value => exact ⟨'"', _, rfl, rfl, by decide⟩
  | array items => exact ⟨'[', _, rfl, rfl, by decide⟩
  | object members => exact ⟨'\x7b', _, rfl, rfl, by decide⟩

theorem written_pos (value : Json) (valid : value.Valid) : 0 < (written value).length := by
  obtain ⟨c, more, shape, -⟩ := front_of_written value valid
  simp [shape]

theorem front_of_items (items : List Json) (valid : ValidItems items) (present : items ≠ []) :
    ∃ c more, writtenItems items = c :: more ∧ isSpace c = false ∧ c ≠ ']' := by
  cases items with
  | nil => exact absurd rfl present
  | cons item rest =>
      obtain ⟨c, more, shape, filled, other⟩ := front_of_written item valid.1
      cases rest with
      | nil => exact ⟨c, more, shape, filled, other⟩
      | cons next others =>
          refine ⟨c, more ++ ',' :: ' ' :: writtenItems (next :: others), ?_, filled, other⟩
          rw [writtenItems, shape]
          · rfl
          · simp

theorem front_of_entries (members : List (String × Json)) (present : members ≠ []) :
    ∃ more, writtenEntries members = '"' :: more := by
  cases members with
  | nil => exact absurd rfl present
  | cons member rest =>
      obtain ⟨key, value⟩ := member
      cases rest with
      | nil => exact ⟨_, rfl⟩
      | cons next others => exact ⟨_, rfl⟩

theorem set_member_fresh (key : String) (value : Json) (members : List (String × Json))
    (fresh : key ∉ members.map (·.1)) : setMember key value members = members ++ [(key, value)] := by
  induction members with
  | nil => rfl
  | cons first rest ih =>
      obtain ⟨k, v⟩ := first
      have different : k ≠ key := fun same => fresh (by simp [same])
      rw [setMember, if_neg different, ih fun inside => fresh (List.mem_cons_of_mem k inside)]
      rfl

theorem fresh_of_distinct (key : String) (value : Json) (before after : List (String × Json))
    (distinct : ((before ++ (key, value) :: after).map (·.1)).Nodup) : key ∉ before.map (·.1) := by
  rw [List.map_append, List.nodup_append] at distinct
  exact fun inside => distinct.2.2 key inside key List.mem_cons_self rfl

theorem ends_cons (c : Char) (rest : List Char) (other : isNumberChar c = false) : Ends (c :: rest) := by
  intro d same
  cases same
  exact other

theorem string_shape (s : String) (rest : List Char) :
    stringChars s ++ rest = '"' :: (s.toList.flatMap escapeChar ++ '"' :: rest) := by
  simp [stringChars]

theorem read_string_text (s : String) (fuel : Nat) (rest : List Char) :
    readValue (fuel + 1) (stringChars s ++ rest) = some (.string s, rest) := by
  rw [string_shape, readValue, skip_space_cons '"' _ rfl]
  simp only [read_string_chars, Option.map_some, String.ofList_toList]

theorem read_array (items : List Json) (valid : ValidItems items) (present : items ≠ []) (fuel : Nat)
    (rest : List Char) (read : readItems fuel (writtenItems items ++ ']' :: rest) = some (items, rest)) :
    readValue (fuel + 1) ('[' :: (writtenItems items ++ ']' :: rest)) = some (.array items, rest) := by
  obtain ⟨c, more, shape, filled, other⟩ := front_of_items items valid present
  rw [shape] at read ⊢
  rw [readValue, skip_space_cons '[' _ rfl]
  simp only [List.cons_append, skip_space_cons c _ filled] at read ⊢
  split
  · rename_i same
    exact absurd (List.cons.inj same).1 other
  · rw [read]
    rfl

theorem read_object (members : List (String × Json)) (present : members ≠ []) (fuel : Nat) (rest : List Char)
    (read : readMembers fuel [] (writtenEntries members ++ '\x7d' :: rest) = some (members, rest)) :
    readValue (fuel + 1) ('\x7b' :: (writtenEntries members ++ '\x7d' :: rest)) = some (.object members, rest) := by
  obtain ⟨more, shape⟩ := front_of_entries members present
  rw [shape] at read ⊢
  rw [readValue, skip_space_cons '\x7b' _ rfl]
  simp only [List.cons_append, skip_space_cons '"' _ rfl] at read ⊢
  split
  · rename_i same
    cases same
  · rw [read]
    rfl

-- One item, and what is done with what follows it.
theorem read_last_item (item : Json) (fuel : Nat) (s rest : List Char)
    (read : readValue fuel s = some (item, ']' :: rest)) : readItems (fuel + 1) s = some ([item], rest) := by
  rw [readItems, read]
  rfl

theorem read_item (item : Json) (items : List Json) (fuel : Nat) (s next rest : List Char)
    (read : readValue fuel s = some (item, ',' :: next)) (others : readItems fuel next = some (items, rest)) :
    readItems (fuel + 1) s = some (item :: items, rest) := by
  rw [readItems, read]
  simp only [Option.bind_eq_bind, Option.bind_some, skip_space_cons ',' next rfl, others]
  rfl

theorem read_items_space (fuel : Nat) (s : List Char) : readItems fuel (' ' :: s) = readItems fuel s := by
  cases fuel with
  | zero => rw [readItems, readItems]
  | succ fuel => rw [readItems, readItems, read_value_space]

theorem read_last_member (key : String) (value : Json) (before : List (String × Json))
    (fresh : key ∉ before.map (·.1)) (fuel : Nat) (s rest : List Char)
    (read : readValue fuel s = some (value, '\x7d' :: rest)) :
    readMembers (fuel + 1) before (stringChars key ++ ':' :: s) = some (before ++ [(key, value)], rest) := by
  rw [string_shape, readMembers, skip_space_cons '"' _ rfl]
  simp only [read_string_chars, Option.bind_eq_bind, Option.bind_some, skip_space_cons ':' s rfl, read,
    skip_space_cons '\x7d' rest rfl, String.ofList_toList, set_member_fresh key value before fresh]
  rfl

theorem read_member (key : String) (value : Json) (before found : List (String × Json))
    (fresh : key ∉ before.map (·.1)) (fuel : Nat) (s next rest : List Char)
    (read : readValue fuel s = some (value, ',' :: next))
    (others : readMembers fuel (before ++ [(key, value)]) next = some (found, rest)) :
    readMembers (fuel + 1) before (stringChars key ++ ':' :: s) = some (found, rest) := by
  rw [string_shape, readMembers, skip_space_cons '"' _ rfl]
  simp only [read_string_chars, Option.bind_eq_bind, Option.bind_some, skip_space_cons ':' s rfl, read,
    skip_space_cons ',' next rfl, String.ofList_toList, set_member_fresh key value before fresh, others]

theorem read_members_space (fuel : Nat) (before : List (String × Json)) (s : List Char) :
    readMembers fuel before (' ' :: s) = readMembers fuel before s := by
  cases fuel with
  | zero => rw [readMembers, readMembers]
  | succ fuel =>
      have skipped : skipSpace (' ' :: s) = skipSpace s := rfl
      rw [readMembers, readMembers, skipped]

-- A value is read back with as many levels as its text has characters, and so are items and members.
mutual
theorem read_written : ∀ (value : Json), value.Valid → ∀ (fuel : Nat) (rest : List Char),
    (written value).length ≤ fuel → Ends rest → readValue fuel (written value ++ rest) = some (value, rest)
  | value, valid, 0, rest, enough, _ => by
      have positive := written_pos value valid
      omega
  | .null, _, fuel + 1, rest, _, _ => rfl
  | .bool true, _, fuel + 1, rest, _, _ => rfl
  | .bool false, _, fuel + 1, rest, _, _ => rfl
  | .int value, _, fuel + 1, rest, _, ends =>
      read_number_text _ rest (.int value) (number_text_of_int value) ends (read_int value) fuel
  | .float value, valid, fuel + 1, rest, _, ends => by
      rw [written, float_chars_of_number value valid]
      exact read_number_text _ rest (.float value) (number_text_of_float value valid) ends (read_float value valid) fuel
  | .string value, _, fuel + 1, rest, _, _ => read_string_text value fuel rest
  | .array [], _, fuel + 1, rest, _, _ => rfl
  | .array (item :: items), valid, fuel + 1, rest, enough, _ => by
      have length : (written (.array (item :: items))).length = (writtenItems (item :: items)).length + 2 := by
        simp [written]
      have read := read_written_items (item :: items) valid (by simp) fuel rest (by omega)
      rw [written, List.cons_append, List.append_assoc]
      exact read_array (item :: items) valid (by simp) fuel rest read
  | .object [], _, fuel + 1, rest, _, _ => rfl
  | .object (member :: members), valid, fuel + 1, rest, enough, _ => by
      have length : (written (.object (member :: members))).length =
          (writtenEntries (member :: members)).length + 2 := by
        simp [written]
      have read := read_written_entries (member :: members) valid.2 (by simp) fuel [] rest valid.1 (by omega)
      rw [written, List.cons_append, List.append_assoc]
      exact read_object (member :: members) (by simp) fuel rest read
termination_by structural value => value
theorem read_written_items : ∀ (items : List Json), ValidItems items → items ≠ [] →
    ∀ (fuel : Nat) (rest : List Char),
    (writtenItems items).length < fuel →
      readItems fuel (writtenItems items ++ ']' :: rest) = some (items, rest)
  | _, _, _, 0, _, enough => absurd enough (Nat.not_lt_zero _)
  | [], _, present, _, _, _ => absurd rfl present
  | [item], valid, _, fuel + 1, rest, enough => by
      have read := read_written item valid.1 fuel (']' :: rest) (Nat.le_of_lt_succ enough) (ends_cons ']' rest rfl)
      exact read_last_item item fuel _ rest read
  | item :: next :: more, valid, _, fuel + 1, rest, enough => by
      have shape : writtenItems (item :: next :: more) ++ ']' :: rest =
          written item ++ ',' :: ' ' :: (writtenItems (next :: more) ++ ']' :: rest) := by
        rw [writtenItems]
        · simp
        · simp
      have length : (writtenItems (item :: next :: more)).length =
          (written item).length + (writtenItems (next :: more)).length + 2 := by
        rw [writtenItems]
        · simp; omega
        · simp
      have read := read_written item valid.1 fuel (',' :: ' ' :: (writtenItems (next :: more) ++ ']' :: rest))
        (by omega) (ends_cons ',' _ rfl)
      have positive := written_pos item valid.1
      have others := read_written_items (next :: more) valid.2 (by simp) fuel rest (by omega)
      rw [shape]
      exact read_item item (next :: more) fuel _ _ rest read ((read_items_space fuel _).trans others)
termination_by structural items => items
theorem read_written_entries : ∀ (members : List (String × Json)), ValidEntries members → members ≠ [] →
    ∀ (fuel : Nat) (before : List (String × Json)) (rest : List Char),
    ((before ++ members).map (·.1)).Nodup → (writtenEntries members).length < fuel →
      readMembers fuel before (writtenEntries members ++ '\x7d' :: rest) = some (before ++ members, rest)
  | _, _, _, 0, _, _, _, enough => absurd enough (Nat.not_lt_zero _)
  | [], _, present, _, _, _, _, _ => absurd rfl present
  | [(key, value)], valid, _, fuel + 1, before, rest, distinct, enough => by
      have fresh := fresh_of_distinct key value before _ distinct
      have length : (writtenEntries [(key, value)]).length = (stringChars key).length + (written value).length + 2 := by
        simp [writtenEntries]; omega
      have read := read_written value valid.1 fuel ('\x7d' :: rest) (by omega) (ends_cons '\x7d' rest rfl)
      rw [writtenEntries, List.append_assoc]
      exact read_last_member key value before fresh fuel _ rest ((read_value_space fuel _).trans read)
  | (key, value) :: next :: more, valid, _, fuel + 1, before, rest, distinct, enough => by
      have fresh := fresh_of_distinct key value before _ distinct
      have shape : writtenEntries ((key, value) :: next :: more) ++ '\x7d' :: rest =
          stringChars key ++ ':' :: ' ' :: (written value ++ ',' :: ' ' ::
            (writtenEntries (next :: more) ++ '\x7d' :: rest)) := by
        rw [writtenEntries]
        · simp
        · simp
      have length : (writtenEntries ((key, value) :: next :: more)).length =
          (stringChars key).length + (written value).length + (writtenEntries (next :: more)).length + 4 := by
        rw [writtenEntries]
        · simp; omega
        · simp
      have read := read_written value valid.1 fuel (',' :: ' ' :: (writtenEntries (next :: more) ++ '\x7d' :: rest))
        (by omega) (ends_cons ',' _ rfl)
      have others := read_written_entries (next :: more) valid.2 (by simp) fuel (before ++ [(key, value)]) rest
        (by simpa using distinct) (by omega)
      rw [shape]
      refine read_member key value before _ fresh fuel _ _ rest ((read_value_space fuel _).trans read) ?_
      rw [read_members_space, others, List.append_assoc]
      rfl
termination_by structural members => members
end

theorem ends_of_blank (blank : List Char) (spaces : ∀ c ∈ blank, isSpace c = true) : Ends blank := by
  intro c first
  have space := spaces c (List.mem_of_mem_head? first)
  simp only [isSpace, Bool.or_eq_true, decide_eq_true_eq] at space
  rcases space with ((rfl | rfl) | rfl) | rfl
  all_goals rfl

-- The text of a value, and blanks after it.
theorem read_of_written (value : Json) (valid : value.Valid) (blank : List Char)
    (spaces : ∀ c ∈ blank, isSpace c = true) :
    read? (String.ofList (written value ++ blank)) = some value := by
  have read := read_written value valid ((written value ++ blank).length + 1) blank (by simp; omega)
    (ends_of_blank blank spaces)
  have skipped : skipSpace blank = [] := by
    have dropped := (Text.take_run isSpace blank [] spaces (by simp)).2
    rwa [List.append_nil] at dropped
  rw [read?, String.toList_ofList]
  simp only [read, skipped, List.isEmpty_nil, if_true]

-- Sorting members keeps a value valid.
mutual
theorem valid_sorted : ∀ value : Json, value.Valid → value.sorted.Valid
  | .null, _ => trivial
  | .bool _, _ => trivial
  | .int _, _ => trivial
  | .float _, valid => valid
  | .string _, _ => trivial
  | .array items, valid => valid_sorted_items items valid
  | .object members, ⟨distinct, valid⟩ => by
      have perm := sort_members_perm (sortedEntries members)
      have keys : (sortedEntries members).map (·.1) = members.map (·.1) := by
        rw [sorted_entries_eq, List.map_map]
        rfl
      refine ⟨(perm.map (·.1)).nodup_iff.mpr (keys ▸ distinct), ?_⟩
      rw [valid_entries_iff]
      intro member inside
      exact (valid_entries_iff _).mp (valid_sorted_entries members valid) member (perm.mem_iff.mp inside)
termination_by structural value => value
theorem valid_sorted_items : ∀ items : List Json, ValidItems items → ValidItems (sortedItems items)
  | [], _ => trivial
  | item :: rest, ⟨first, others⟩ => ⟨valid_sorted item first, valid_sorted_items rest others⟩
termination_by structural items => items
theorem valid_sorted_entries : ∀ members : List (String × Json), ValidEntries members →
    ValidEntries (sortedEntries members)
  | [], _ => trivial
  | (_, value) :: rest, ⟨first, others⟩ => ⟨valid_sorted value first, valid_sorted_entries rest others⟩
termination_by structural members => members
end

end StubForge.Json
