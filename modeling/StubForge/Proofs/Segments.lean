import StubForge.Name

set_option autoImplicit false

/-!
Dotted names as lists of segments. The tests on leading parts of names compare characters; here they
are shown to compare whole segments.
-/

namespace StubForge.Text

theorem split_at_of_not_mem (separator : Char) (s : List Char) (plain : separator ∉ s) :
    splitAt separator s = [s] := by
  induction s with
  | nil => rfl
  | cons c rest ih =>
      simp only [List.mem_cons, not_or] at plain
      simp [splitAt, ih plain.2, Ne.symm plain.1]

theorem split_at_append (separator : Char) (before after : List Char) :
    splitAt separator (before ++ separator :: after) =
      splitAt separator before ++ splitAt separator after := by
  induction before with
  | nil =>
      cases pieces : splitAt separator after with
      | nil => exact absurd pieces (split_at_ne_nil separator after)
      | cons piece more => simp [splitAt, pieces]
  | cons c rest ih =>
      cases pieces : splitAt separator rest with
      | nil => exact absurd pieces (split_at_ne_nil separator rest)
      | cons piece more =>
          by_cases same : c = separator
          · simp [splitAt, ih, pieces, same]
          · simp [splitAt, ih, pieces, same]

-- The characters of a piece are those of the text, without the separator.
theorem split_at_piece (separator : Char) (s piece : List Char) (member : piece ∈ splitAt separator s) :
    ∀ c ∈ piece, c ∈ s ∧ c ≠ separator := by
  induction s generalizing piece with
  | nil => simp_all [splitAt]
  | cons c rest ih =>
      have later (other : List Char) (inside : other ∈ splitAt separator rest) :
          ∀ d ∈ other, d ∈ c :: rest ∧ d ≠ separator :=
        fun d held => (ih other inside d held).imp_left (List.mem_cons_of_mem c)
      rw [splitAt] at member
      cases pieces : splitAt separator rest with
      | nil => exact absurd pieces (split_at_ne_nil separator rest)
      | cons first more =>
          rw [pieces] at later
          by_cases same : c = separator
          · simp only [pieces, same, if_true, List.mem_cons] at member
            rcases member with rfl | inside
            · simp
            · exact later piece (List.mem_cons.mpr inside)
          · simp only [pieces, same, if_false, List.mem_cons] at member
            rcases member with rfl | inside
            · intro d held
              rcases List.mem_cons.mp held with rfl | deeper
              · exact ⟨List.mem_cons_self, same⟩
              · exact later first List.mem_cons_self d deeper
            · exact later piece (List.mem_cons_of_mem first inside)

theorem mem_of_mem_split_at (separator : Char) (s piece : List Char) (member : piece ∈ splitAt separator s) :
    ∀ c ∈ piece, c ∈ s := fun c held => (split_at_piece separator s piece member c held).1

theorem not_mem_of_mem_split_at (separator : Char) (s piece : List Char)
    (member : piece ∈ splitAt separator s) : separator ∉ piece :=
  fun held => (split_at_piece separator s piece member separator held).2 rfl

theorem split_at_head (separator : Char) (s : List Char) :
    (splitAt separator s).head? = some (s.takeWhile (· ≠ separator)) := by
  induction s with
  | nil => rfl
  | cons c rest ih =>
      cases pieces : splitAt separator rest with
      | nil => exact absurd pieces (split_at_ne_nil separator rest)
      | cons first more =>
          by_cases same : c = separator
          · simp [splitAt, pieces, same]
          · have first_eq : first = rest.takeWhile (· ≠ separator) := by simpa [pieces] using ih
            simp [splitAt, pieces, same, first_eq]

theorem length_split_at (separator : Char) (s : List Char) :
    (splitAt separator s).length = s.count separator + 1 := by
  induction s with
  | nil => rfl
  | cons c rest ih =>
      cases pieces : splitAt separator rest with
      | nil => exact absurd pieces (split_at_ne_nil separator rest)
      | cons first more =>
          have shorter : (first :: more).length = rest.count separator + 1 := by simpa [pieces] using ih
          by_cases same : c = separator
          · simpa [splitAt, pieces, same] using shorter
          · simpa [splitAt, pieces, same] using shorter

theorem split_at_join_with (separator : Char) (pieces : List (List Char)) (present : pieces ≠ [])
    (plain : ∀ piece ∈ pieces, separator ∉ piece) : splitAt separator (joinWith [separator] pieces) = pieces := by
  induction pieces with
  | nil => exact absurd rfl present
  | cons piece rest ih =>
      obtain ⟨own, others⟩ := List.forall_mem_cons.mp plain
      cases rest with
      | nil => exact split_at_of_not_mem separator piece own
      | cons next more =>
          have inner := ih (List.cons_ne_nil next more) others
          have whole : joinWith [separator] (piece :: next :: more) =
              piece ++ separator :: joinWith [separator] (next :: more) := by simp [joinWith]
          rw [whole, split_at_append, split_at_of_not_mem separator piece own, inner]
          rfl

theorem join_append (separator : String) (parts : List String) (first : String) (more : List String)
    (present : parts ≠ []) :
    join separator (parts ++ first :: more) =
      join separator parts ++ separator ++ join separator (first :: more) := by
  induction parts with
  | nil => exact absurd rfl present
  | cons part rest ih =>
      cases rest with
      | nil => rfl
      | cons next others =>
          have inner := ih (List.cons_ne_nil next others)
          simp only [List.cons_append] at inner
          simp only [List.cons_append, join, inner, String.append_assoc]

end StubForge.Text

namespace StubForge.Name

theorem segments_ne_nil (name : String) : segments name ≠ [] := by
  simpa [segments] using Text.split_at_ne_nil '.' name.toList

theorem length_segments (name : String) : (segments name).length = depth name := by
  simp [segments, depth, Text.length_split_at]

theorem segments_injective (a b : String) (same : segments a = segments b) : a = b := by
  rw [← of_segments_segments a, same, of_segments_segments b]

theorem plain_of_mem_segments (name segment : String) (member : segment ∈ segments name) :
    '.' ∉ segment.toList := by
  obtain ⟨piece, inside, rfl⟩ := List.mem_map.mp member
  simpa using Text.not_mem_of_mem_split_at '.' name.toList piece inside

theorem segments_of_plain (name : String) (plain : '.' ∉ name.toList) : segments name = [name] := by
  simp [segments, Text.split_at_of_not_mem '.' name.toList plain]

theorem segments_append (above rest : String) :
    segments (above ++ "." ++ rest) = segments above ++ segments rest := by
  have chars : (above ++ "." ++ rest).toList = above.toList ++ '.' :: rest.toList := by simp
  rw [segments, chars, Text.split_at_append, List.map_append]
  rfl

theorem segments_child (above segment : String) (plain : '.' ∉ segment.toList) :
    segments (child above segment) = segments above ++ [segment] := by
  rw [child, segments_append, segments_of_plain segment plain]

theorem segments_of_segments (parts : List String) (present : parts ≠ [])
    (plain : ∀ part ∈ parts, '.' ∉ part.toList) : segments (ofSegments parts) = parts := by
  have pieces := Text.split_at_join_with '.' (parts.map String.toList) (by simpa using present) (by simpa using plain)
  have chars : (ofSegments parts).toList = Text.joinWith ['.'] (parts.map String.toList) := Text.to_list_join "." parts
  rw [segments, chars, pieces, List.map_map]
  simp [Function.comp_def]

theorem eq_append_of_segments (name above : String) (first : String) (more : List String)
    (longer : segments name = segments above ++ first :: more) :
    name = above ++ "." ++ ofSegments (first :: more) ∧
      segments (ofSegments (first :: more)) = first :: more := by
  constructor
  · have joined := Text.join_append "." (segments above) first more (segments_ne_nil above)
    rw [← longer] at joined
    have back : Text.join "." (segments above) = above := of_segments_segments above
    rw [back] at joined
    exact (of_segments_segments name).symm.trans joined
  · apply segments_of_segments _ (List.cons_ne_nil first more)
    intro part member
    apply plain_of_mem_segments name
    rw [longer]
    exact List.mem_append_right _ member

-- What is left of a name behind another one and a dot: the segments that follow.
theorem strip_leading_dot_iff (name above : String) (rest : List Char) :
    Text.stripLeading? (above ++ ".").toList name.toList = some rest ↔
      segments name = segments above ++ segments (String.ofList rest) := by
  rw [Text.strip_leading_eq_some]
  constructor
  · intro leads
    have whole : name = above ++ "." ++ String.ofList rest := by
      apply String.toList_inj.mp
      simpa using leads
    rw [whole, segments_append]
  · intro longer
    cases pieces : segments (String.ofList rest) with
    | nil => exact absurd pieces (segments_ne_nil _)
    | cons first more =>
        have whole := (eq_append_of_segments name above first more (pieces ▸ longer)).1
        rw [← pieces, of_segments_segments] at whole
        simp [whole]

theorem is_below_iff (name package : String) :
    isBelow name package = true ↔ ∃ first more, segments name = segments package ++ first :: more := by
  rw [isBelow, startsWith, Text.startsWithChars, Option.isSome_iff_exists]
  constructor
  · rintro ⟨rest, stripped⟩
    rw [strip_leading_dot_iff] at stripped
    cases pieces : segments (String.ofList rest) with
    | nil => exact absurd pieces (segments_ne_nil _)
    | cons first more => exact ⟨first, more, pieces ▸ stripped⟩
  · rintro ⟨first, more, longer⟩
    refine ⟨(ofSegments (first :: more)).toList, ?_⟩
    rw [strip_leading_dot_iff, String.ofList_toList, (eq_append_of_segments name package first more longer).2]
    exact longer

theorem is_below_iff_leads (name package : String) :
    isBelow name package = true ↔ segments package <+: segments name ∧ package ≠ name := by
  rw [is_below_iff]
  constructor
  · rintro ⟨first, more, longer⟩
    refine ⟨⟨first :: more, longer.symm⟩, ?_⟩
    rintro rfl
    simp at longer
  · rintro ⟨⟨rest, longer⟩, different⟩
    cases rest with
    | nil => exact absurd (segments_injective package name (by simpa using longer)) different
    | cons first more => exact ⟨first, more, longer.symm⟩

theorem child_parent_last (name : String) (dotted : '.' ∈ name.toList) :
    name = child (parent name) (last name) ∧ '.' ∉ (last name).toList := by
  have split : ∀ s : List Char, '.' ∈ s → ∃ before after,
      splitLast s = (some before, after) ∧ s = before ++ '.' :: after ∧ '.' ∉ after := by
    intro s
    induction s with
    | nil => simp
    | cons c rest ih =>
        intro inside
        by_cases later : '.' ∈ rest
        · obtain ⟨before, after, splits, whole, plain⟩ := ih later
          exact ⟨c :: before, after, by simp [splitLast, splits], by simp [whole], plain⟩
        · have here : c = '.' := by
            rcases List.mem_cons.mp inside with same | again
            · exact same.symm
            · exact absurd again later
          exact ⟨[], rest, by simp [splitLast, split_last_of_not_mem rest later, here], by simp [here],
            later⟩
  obtain ⟨before, after, splits, whole, plain⟩ := split name.toList dotted
  refine ⟨?_, by simpa [last, splits] using plain⟩
  apply String.toList_inj.mp
  simpa [child, parent, last, splits] using whole

theorem parent_eq_iff (name above : String) (filled : above ≠ "") :
    parent name = above ↔ ∃ segment, segments name = segments above ++ [segment] := by
  constructor
  · intro inside
    by_cases dotted : '.' ∈ name.toList
    · obtain ⟨whole, plain⟩ := child_parent_last name dotted
      refine ⟨last name, ?_⟩
      rw [← inside, ← segments_child _ _ plain, ← whole]
    · have outermost : parent name = "" := by simp [parent, split_last_of_not_mem _ dotted]
      exact absurd (inside.symm.trans outermost) filled
  · rintro ⟨segment, longer⟩
    have plain : '.' ∉ segment.toList := by
      apply plain_of_mem_segments name
      simp [longer]
    have whole : name = child above segment :=
      segments_injective _ _ (longer.trans (segments_child above segment plain).symm)
    rw [whole, parent_child above segment plain]

end StubForge.Name
