import StubForge.Library.Execute
import StubForge.Proofs.Worlds

set_option autoImplicit false

/-!
What a class statement makes of its body: a class with the names that the body bound, in front of the classes that it is
derived from. If that fails, nothing is changed.
-/

namespace StubForge.Exec

/-! ### Names of a body -/

-- No name is added but the one that tells protocols apart, and methods stay methods.
def Spares (members after : Bindings) : Prop :=
  ∀ name, name ≠ "_is_protocol" → (World.lookup name members = none → World.lookup name after = none) ∧
    ∀ declared, World.lookup name members = some (.function declared) →
      World.lookup name after = some (.function declared)

theorem spares_refl (members : Bindings) : Spares members members := fun _ _ => ⟨id, fun _ => id⟩

theorem spares_protocol_mark (members : Bindings) (value : Object) :
    Spares members (Json.setMember "_is_protocol" value members) := by
  intro name other
  have same : World.lookup name (Json.setMember "_is_protocol" value members) = World.lookup name members := by
    rw [World.lookup, Json.find_set_member, if_neg (Ne.symm other), World.lookup]
  rw [same]
  exact ⟨id, fun _ => id⟩

theorem spares_enumeration (members : Bindings) (enumeration : String) :
    Spares members (enumMembers enumeration members) := by
  intro name _
  induction members with
  | nil => exact ⟨id, fun _ => id⟩
  | cons entry rest ih =>
      obtain ⟨key, value⟩ := entry
      by_cases here : key = name
      · subst here
        constructor
        · intro absent
          simp [World.lookup] at absent
        · intro declared found
          have same : value = .function declared := by simpa [World.lookup] using found
          simp [World.lookup, enumMembers, same]
      · have skipped (rest : Bindings) (value : Object) : World.lookup name ((key, value) :: rest) =
            World.lookup name rest := by simp [World.lookup, here]
        have kept : ∃ kept, enumMembers enumeration ((key, value) :: rest) =
            (key, kept) :: enumMembers enumeration rest := by
          cases value with
          | function declared => exact ⟨_, rfl⟩
          | _ =>
              simp only [enumMembers, List.map_cons]
              split <;> exact ⟨_, rfl⟩
        obtain ⟨kept, map⟩ := kept
        rw [map, skipped, skipped]
        exact ih

/-! ### Making a class -/

-- A class as a statement makes it of the members that its body left.
structure Made (frame : Frame) (head : ClassHead) (members : Bindings) (world : World) (record : ClassRecord) : Prop where
  name : record.name = head.name.text
  module : record.module = frame.module
  plain : record.tags = []
  marked : record.marked = head.marked
  first : ∃ order, record.order = world.classes.size :: order
  spared : Spares members record.members

-- What making a class comes to: the class is added, or nothing is changed by a failure.
def Makes (frame : Frame) (head : ClassHead) (members : Bindings) (world : World) (steps : Exec ClassId) : Prop :=
  (∃ mishap, steps world = (.error mishap, world)) ∨
  ∃ record, Made frame head members world record ∧
    steps world = (.ok world.classes.size, { world with classes := world.classes.push record })

section

variable (frame : Frame) (head : ClassHead) (bases : List ClassId) (metaclass : Metaclass) (members : Bindings)
  (world : World)

theorem makes_read {next : World → Exec ClassId} (rest : Makes frame head members world (next world)) :
    Makes frame head members world (get >>= next) := rest

theorem class_made : Makes frame head members world (createClass frame head bases metaclass members) := by
  have spared (isProtocol declared : Bool) (value : Object) :
      Spares members (if metaclass = .enumeration then enumMembers head.name.text members
        else if isProtocol && !declared then Json.setMember "_is_protocol" value members else members) := by
    split
    · exact spares_enumeration members head.name.text
    · split
      · exact spares_protocol_mark members value
      · exact spares_refl members
  refine makes_read frame head members world ?_
  dsimp only
  generalize (if bases.isEmpty then [World.objectId] else bases) = bases
  split
  · exact .inl ⟨_, rfl⟩
  · rename_i order resolved
    split
    · exact .inl ⟨_, rfl⟩
    · rename_i suits
      have marked : (order.contains World.tagId && head.marked) = head.marked := by
        cases within : order.contains World.tagId <;> simp_all
      split
      · split
        · exact .inl ⟨_, rfl⟩
        · exact .inr ⟨_, ⟨rfl, rfl, rfl, marked, ⟨order, rfl⟩, spared _ _ _⟩, rfl⟩
      · exact .inr ⟨_, ⟨rfl, rfl, rfl, marked, ⟨order, rfl⟩, spared _ _ _⟩, rfl⟩

theorem made_of_create (own : ClassId) (after : World)
    (done : createClass frame head bases metaclass members world = (.ok own, after)) :
    ∃ record, Made frame head members world record ∧ own = world.classes.size ∧
      after = { world with classes := world.classes.push record } := by
  rcases class_made frame head bases metaclass members world with ⟨mishap, failed⟩ | ⟨record, made, added⟩
  · cases failed.symm.trans done
  · cases added.symm.trans done
    exact ⟨record, made, rfl, rfl⟩

end

end StubForge.Exec
