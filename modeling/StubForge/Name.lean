import StubForge.Text.Char

set_option autoImplicit false

/-!
Dotted names. A name is a text; its segments are the pieces between the dots. The tests on leading
parts compare characters; `segments` gives the view that they are to be read in.
-/

namespace StubForge.Name

def segments (name : String) : List String := (Text.splitAt '.' name.toList).map String.ofList

def ofSegments (parts : List String) : String := Text.join "." parts

-- The characters before and after the last dot; the first part is `none` without a dot.
def splitLast : List Char → Option (List Char) × List Char
  | [] => (none, [])
  | c :: rest =>
      match splitLast rest with
      | (some before, last) => (some (c :: before), last)
      | (none, last) => if c = '.' then (some [], last) else (none, c :: last)

-- All but the last segment, empty if there is only one.
def parent (name : String) : String := String.ofList ((splitLast name.toList).1.getD [])

def last (name : String) : String := String.ofList (splitLast name.toList).2

def child (parent segment : String) : String := parent ++ "." ++ segment

def startsWith (name lead : String) : Bool := Text.startsWithChars lead.toList name.toList

def isBelow (name package : String) : Bool := startsWith name (package ++ ".")

-- The name lies strictly below one of the packages.
def inPackages (name : String) (packages : List String) : Bool := packages.any (isBelow name)

-- A module of this name can define types below one of the packages.
def mayContain (module : String) (packages : List String) : Bool :=
  packages.any fun package => module == package || isBelow module package

def depth (name : String) : Nat := name.toList.count '.' + 1

theorem of_segments_segments (name : String) : ofSegments (segments name) = name := by
  apply String.toList_inj.mp
  have back : ((Text.splitAt '.' name.toList).map String.ofList).map String.toList =
      Text.splitAt '.' name.toList := by
    simp [List.map_map, Function.comp_def]
  rw [ofSegments, Text.to_list_join, segments, back]
  exact Text.join_split_at '.' name.toList

theorem split_last_of_not_mem (s : List Char) (plain : '.' ∉ s) : splitLast s = (none, s) := by
  induction s with
  | nil => rfl
  | cons c rest ih =>
      have different : c ≠ '.' := fun same => plain (same ▸ List.mem_cons_self)
      have step := ih fun inside => plain (List.mem_cons_of_mem c inside)
      simp [splitLast, step, different]

theorem split_last_append (before last : List Char) (plain : '.' ∉ last) :
    splitLast (before ++ '.' :: last) = (some before, last) := by
  induction before with
  | nil => simp [splitLast, split_last_of_not_mem last plain]
  | cons c rest ih => simp [splitLast, ih]

theorem parent_child (above segment : String) (plain : '.' ∉ segment.toList) :
    parent (child above segment) = above := by
  simp [parent, child, split_last_append above.toList segment.toList plain]

theorem last_child (above segment : String) (plain : '.' ∉ segment.toList) :
    last (child above segment) = segment := by
  simp [last, child, split_last_append above.toList segment.toList plain]

end StubForge.Name
