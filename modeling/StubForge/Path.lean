import StubForge.Text.Char

set_option autoImplicit false

/-!
File paths in normal form: an anchor and the components after it. Empty and `.` components carry no
meaning and are dropped when a path is read; `..` stays until a path is resolved.
-/

namespace StubForge

inductive Anchor where
  | relative
  | single
  | double
  deriving DecidableEq, Repr

structure Path where
  anchor : Anchor
  parts : List String
  deriving DecidableEq, Repr

namespace Path

def meaningful (part : List Char) : Bool := part ≠ [] && part ≠ ['.']

def anchorOf : List Char → Anchor
  | '/' :: '/' :: '/' :: _ => .single
  | '/' :: '/' :: _ => .double
  | '/' :: _ => .single
  | _ => .relative

def ofString (text : String) : Path :=
  { anchor := anchorOf text.toList
    parts := ((Text.splitAt '/' text.toList).filter meaningful).map String.ofList }

def anchorText : Anchor → String
  | .relative => ""
  | .single => "/"
  | .double => "//"

def toString (p : Path) : String :=
  match p.anchor, p.parts with
  | .relative, [] => "."
  | anchor, parts => anchorText anchor ++ Text.join "/" parts

def here : Path := ⟨.relative, []⟩

-- The second path taken relative to the first; an absolute path stands for itself.
def join (base relative : Path) : Path :=
  match relative.anchor with
  | .relative => ⟨base.anchor, base.parts ++ relative.parts⟩
  | _ => relative

def child (base : Path) (name : String) : Path := join base (ofString name)

def entry (base : Path) (name : String) : Path := ⟨base.anchor, base.parts ++ [name]⟩

def parent (p : Path) : Path := ⟨p.anchor, p.parts.dropLast⟩

def components (p : Path) : List String :=
  match p.anchor with
  | .relative => p.parts
  | anchor => anchorText anchor :: p.parts

-- Applies `..` components by dropping what stands before them.
def climb (done : List String) : List String → List String
  | [] => done
  | part :: rest => if part = ".." then climb done.dropLast rest else climb (done ++ [part]) rest

def resolve (directory : List String) (p : Path) : Path :=
  match p.anchor with
  | .relative => ⟨.single, climb directory p.parts⟩
  | _ => ⟨.single, climb [] p.parts⟩

def strictlyBelow (p target : Path) : Bool :=
  p.anchor == target.anchor && target.parts.isPrefixOf p.parts && p.parts.length != target.parts.length

-- Splits a final component into stem and suffix; the suffix starts at the last dot, which may neither lead
-- nor end the component.
def splitSuffix (name : List Char) : List Char × List Char :=
  let ending := (name.reverse.takeWhile (· ≠ '.')).reverse
  let stem := name.take (name.length - ending.length - 1)
  if ending.length < name.length && ending ≠ [] && stem ≠ [] then (stem, '.' :: ending) else (name, [])

def hasNul (p : Path) : Bool := p.parts.any fun part => part.toList.contains '\x00'

-- No component of a path that was climbed leads up, unless one of the components above did.
theorem climb_without_up (done parts : List String) (settled : ".." ∉ done) :
    ".." ∉ climb done parts := by
  induction parts generalizing done with
  | nil => exact settled
  | cons part rest ih =>
      unfold climb
      split
      · exact ih done.dropLast fun inside => settled (List.dropLast_subset done inside)
      · rename_i different
        apply ih
        simp [settled, Ne.symm different]

theorem climb_append (done parts more : List String) :
    climb done (parts ++ more) = climb (climb done parts) more := by
  induction parts generalizing done with
  | nil => rfl
  | cons part rest ih =>
      simp only [List.cons_append, climb]
      split <;> exact ih _

end Path

end StubForge
