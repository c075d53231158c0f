import StubForge.Proofs.Placement

set_option autoImplicit false

/-!
Outlines: namespaces as plain trees, without slots and numbers. Building a forest from commands lays
an outline out in slots, a namespace right in front of everything below it.
-/

namespace StubForge

-- Namespaces side by side: the first one, with its commands and the ones below it, and the rest.
inductive Outline where
  | empty
  | node (fullName : String) (commands : List Command) (below beside : Outline)

def keepFirst (commands : List Command) : List Command := commands.foldl Command.addNew []

namespace Outline

def size : Outline → Nat
  | empty => 0
  | node _ _ below beside => below.size + beside.size + 1

-- The numbers of the namespaces side by side, when all are numbered from a first number on.
def tops (first : Nat) : Outline → List Nat
  | empty => []
  | node _ _ below beside => first :: beside.tops (first + 1 + below.size)

def slots (parent : Option Nat) (first : Nat) : Outline → List Slot
  | empty => []
  | node fullName commands below beside =>
      { fullName, parent, children := below.tops (first + 1), commands }
        :: (below.slots (some first) (first + 1) ++ beside.slots parent (first + 1 + below.size))

def toForest (outline : Outline) : Forest := { slots := outline.slots none 0, roots := outline.tops 0 }

-- The outline that groups of commands come to: one namespace for each group in turn, filled with what sorting
-- the members of the group below it gives.
def Follows : Groups → Outline → Prop
  | groups, empty => groups = []
  | groups, node fullName commands below beside =>
      ∃ members rest, groups = (fullName, members) :: rest ∧
        (sortBelow (some fullName) {} members).fault = none ∧
        commands = keepFirst (sortBelow (some fullName) {} members).here ∧
        below.Follows (sortBelow (some fullName) {} members).groups ∧ beside.Follows rest

@[simp] theorem length_slots (outline : Outline) (parent : Option Nat) (first : Nat) :
    (outline.slots parent first).length = outline.size := by
  induction outline generalizing parent first with
  | empty => rfl
  | node fullName commands below beside ihBelow ihBeside => simp [slots, size, ihBelow, ihBeside]

theorem tops_bounds (outline : Outline) (first node : Nat) (member : node ∈ outline.tops first) :
    first ≤ node ∧ node < first + outline.size := by
  induction outline generalizing first with
  | empty => simp [tops] at member
  | node fullName commands below beside _ ihBeside =>
      simp only [tops, List.mem_cons] at member
      simp only [size]
      rcases member with rfl | later
      · omega
      · have bounds := ihBeside (first + 1 + below.size) later
        omega

theorem tops_nodup (outline : Outline) (first : Nat) : (outline.tops first).Nodup := by
  induction outline generalizing first with
  | empty => exact List.nodup_nil
  | node fullName commands below beside _ ihBeside =>
      refine List.nodup_cons.mpr ⟨?_, ihBeside _⟩
      intro again
      have bounds := tops_bounds beside (first + 1 + below.size) first again
      omega

end Outline

end StubForge
