import StubForge.Namespace.Calls
import StubForge.Proofs.Runs
import StubForge.Proofs.SoundForests

set_option autoImplicit false

/-!
Nodes and the forests that they belong to. Effect by effect, a call comes to what it is as a whole: it reads slots that are
there, and if it is given a node of another forest, it refuses the first such node before it has changed anything.
-/

namespace StubForge.Grove

-- The node has a slot.
def Holds (grove : Grove) (ref : NodeRef) : Prop := ref.node < (grove.forest ref.forest).size

section

variable {grove : Grove}

theorem forest_plant (number : Nat) : Grove.forest (grove.plant {}) number = grove.forest number := by
  rw [forest, forest, plant, List.getElem?_append]
  split
  · rfl
  · rename_i beyond
    rw [List.getElem?_eq_none (Nat.le_of_not_lt beyond)]
    cases number - grove.length <;> rfl

theorem forest_modify (number other : Nat) (step : Forest → Forest) (planted : number < grove.length) :
    Grove.forest (grove.modify number step) other =
      if other = number then step (grove.forest number) else grove.forest other := by
  rw [forest, List.getElem?_modify]
  by_cases same : other = number
  · subst same
    simp [forest, List.getElem?_eq_getElem planted]
  · simp [forest, same, Ne.symm same]

theorem modify_of_same (number : Nat) (step : Forest → Forest) (same : step (grove.forest number) = grove.forest number) :
    grove.modify number step = grove := by
  apply Forest.modify_of_fixed
  intro forest found
  have own : grove.forest number = forest := by
    rw [Grove.forest, Option.mem_def.mp found]
    rfl
  rw [← own, same]

/-! ### What the effects of a call come to -/

namespace Tending

theorem slot_run {ref : NodeRef} (slot : Slot) (found : (grove.forest ref.forest).slot? ref.node = some slot) :
    Tending.slot ref grove = (.ok slot, grove) := by
  have read : (get : Tending Grove) grove = (.ok grove, grove) := rfl
  rw [Tending.slot, bind_ok read, found]
  rfl

theorem slot_of_held {ref : NodeRef} (held : grove.Holds ref) :
    ∃ slot, (grove.forest ref.forest).slot? ref.node = some slot ∧ Tending.slot ref grove = (.ok slot, grove) :=
  ⟨_, List.getElem?_eq_getElem held, slot_run _ (List.getElem?_eq_getElem held)⟩

theorem own_run {ref : NodeRef} (number : Nat) (held : grove.Holds ref) :
    own number ref grove = ((grove.own number ref).mapError GroveFault.toError, grove) := by
  rw [own, Grove.own]
  by_cases same : ref.forest = number
  · rw [if_pos same, if_pos same]
    rfl
  · obtain ⟨slot, found, read⟩ := slot_of_held held
    have name : grove.fullName ref = slot.fullName := by
      rw [Grove.fullName, Forest.fullName, found]
      rfl
    rw [if_neg same, if_neg same, bind_ok read, name]
    rfl

theorem own_parent_run (number : Nat) (parent : Option NodeRef) (held : ∀ ref ∈ parent, grove.Holds ref) :
    ownParent number parent grove = ((grove.ownParent number parent).mapError GroveFault.toError, grove) := by
  cases parent with
  | none => rfl
  | some ref =>
      rw [ownParent, Grove.ownParent, bind_run, own_run number (held ref rfl)]
      cases grove.own number ref <;> rfl

theorem linked_run (number : Nat) (parent : Option Nat) (held : ∀ node ∈ parent, grove.Holds ⟨number, node⟩) :
    linked number parent grove =
      (.ok (parent.elim (grove.forest number).roots (grove.forest number).children), grove) := by
  cases parent with
  | none => rfl
  | some node =>
      obtain ⟨slot, found, read⟩ := slot_of_held (held node rfl)
      rw [linked, bind_ok read, Option.elim_some, Forest.children, found]
      rfl

end Tending

/-! ### Calls as a whole -/

theorem own_own (number : Nat) (ref : NodeRef) (same : ref.forest = number) : grove.own number ref = .ok ref.node :=
  if_pos same

theorem own_stranger (number : Nat) (given ref : NodeRef)
    (first : (strangersAmong (some number) [given]).head? = some ref) :
    grove.own number given = .error (.foreignNode (grove.fullName ref)) := by
  by_cases same : given.forest = number
  · simp [strangersAmong, same] at first
  · obtain rfl : given = ref := by simpa [strangersAmong, same] using first
    exact if_neg same

theorem own_parent_own (number : Nat) (parent : Option NodeRef) (same : ∀ ref ∈ parent, ref.forest = number) :
    grove.ownParent number parent = .ok (parent.map (·.node)) := by
  cases parent with
  | none => rfl
  | some ref =>
      rw [ownParent, own_own number ref (same ref rfl)]
      rfl

theorem own_parent_stranger (number : Nat) (parent : Option NodeRef) (ref : NodeRef)
    (first : (strangersAmong (some number) parent.toList).head? = some ref) :
    grove.ownParent number parent = .error (.foreignNode (grove.fullName ref)) := by
  cases parent with
  | none => cases first
  | some above =>
      rw [ownParent, own_stranger number above ref first]
      rfl

theorem own_ok {number node : Nat} {ref : NodeRef} (owned : grove.own number ref = .ok node) : ref = ⟨number, node⟩ := by
  rw [own] at owned
  split at owned
  · rename_i same
    cases owned
    rw [← same]
  · cases owned

theorem own_parent_ok {number : Nat} {parent : Option NodeRef} {above : Option Nat}
    (owned : grove.ownParent number parent = .ok above) : parent = above.map (NodeRef.mk number) := by
  cases parent with
  | none =>
      cases owned
      rfl
  | some ref =>
      cases own : grove.own number ref with
      | error fault => simp [ownParent, own, Except.map] at owned
      | ok node =>
          rw [ownParent, own] at owned
          cases owned
          rw [own_ok own]
          rfl

namespace Call

-- What the call comes to if nothing is seen between its effects.
def outcome (grove : Grove) : Call → Except GroveFault (Option NodeRef × Grove)
  | .plant => .ok (none, grove.plant {})
  | .addNode number fullName parent =>
      (grove.addNode number fullName parent).map fun (after, ref) => (some ref, after)
  | .attachChild number parent child => (grove.attachChild number parent child).map fun after => (none, after)
  | .addCommand number ref command => (grove.addCommand number ref command).map fun after => (none, after)

-- A fault leaves the grove as it is.
def settle (grove : Grove) : Except GroveFault (Option NodeRef × Grove) → Except Error (Option NodeRef) × Grove
  | .ok (result, after) => (.ok result, after)
  | .error fault => (.error fault.toError, grove)

theorem add_node_run (number : Nat) (fullName : String) (parent : Option NodeRef) (planted : number < grove.length)
    (held : ∀ ref ∈ parent, grove.Holds ref) :
    (addNode number fullName parent).perform grove = settle grove ((addNode number fullName parent).outcome grove) := by
  rw [perform, bind_run, Tending.addNode, bind_run, Tending.own_parent_run number parent held, outcome, Grove.addNode]
  cases grove.ownParent number parent with
  | error fault => rfl
  | ok above =>
      have place : (Grove.forest (grove.modify number (·.addNode fullName above)) number).size - 1 =
          (grove.forest number).size := by
        rw [forest_modify number number _ planted, if_pos rfl, Forest.size_add_node, Nat.add_sub_cancel]
      change (Except.ok (some (NodeRef.mk number _)), _) = (Except.ok (some (NodeRef.mk number _)), _)
      rw [place]

theorem attach_child_run (number : Nat) (parent : Option NodeRef) (child : NodeRef)
    (held : ∀ ref ∈ parent, grove.Holds ref) (heldChild : grove.Holds child) :
    (attachChild number parent child).perform grove = settle grove ((attachChild number parent child).outcome grove) := by
  rw [perform, bind_run, Tending.attachChild, bind_run, Tending.own_parent_run number parent held, outcome,
    Grove.attachChild]
  cases owned : grove.ownParent number parent with
  | error fault => rfl
  | ok above =>
      obtain rfl := own_parent_ok owned
      have read := Tending.linked_run number above fun node member =>
        held ⟨number, node⟩ (Option.mem_map_of_mem _ member)
      dsimp only [Except.mapError]
      rw [bind_ok read, bind_run, Tending.own_run number heldChild]
      cases grove.own number child with
      | error fault => rfl
      | ok node =>
          by_cases linked : node ∈ above.elim (grove.forest number).roots (grove.forest number).children
          · have same := (grove.forest number).attach_child_linked above node linked
            dsimp only [Except.mapError]
            rw [if_pos (List.contains_iff_mem.mpr linked)]
            change (Except.ok none, grove) = (Except.ok none, grove.modify number (·.attachChild above node))
            rw [modify_of_same number (·.attachChild above node) same]
          · dsimp only [Except.mapError]
            rw [if_neg fun found => linked (List.contains_iff_mem.mp found)]
            rfl

theorem add_command_run (number : Nat) (ref : NodeRef) (command : Command) (held : grove.Holds ref) :
    (addCommand number ref command).perform grove = settle grove ((addCommand number ref command).outcome grove) := by
  rw [perform, bind_run, Tending.addCommand, bind_run, Tending.own_run number held, outcome, Grove.addCommand]
  cases owned : grove.own number ref with
  | error fault => rfl
  | ok node =>
      obtain rfl := own_ok owned
      obtain ⟨slot, found, read⟩ := Tending.slot_of_held held
      have taken : (grove.forest number).commands node = slot.commands := by
        rw [Forest.commands, found]
        rfl
      dsimp only [Except.mapError]
      rw [bind_ok read]
      by_cases known : slot.commands.any (·.fullName == command.fullName) = true
      · have same := (grove.forest number).add_command_known node command (taken ▸ known)
        rw [if_pos known]
        change (Except.ok none, grove) = (Except.ok none, grove.modify number (·.addCommand node command))
        rw [modify_of_same number (·.addCommand node command) same]
      · rw [if_neg known]
        rfl

theorem perform_eq (call : Call) (planted : ∀ number ∈ call.number?, number < grove.length)
    (held : ∀ ref ∈ call.refs, grove.Holds ref) : call.perform grove = settle grove (call.outcome grove) := by
  cases call with
  | plant => rfl
  | addNode number fullName parent =>
      exact add_node_run number fullName parent (planted number rfl) fun ref given => held ref (by simpa [refs] using given)
  | attachChild number parent child =>
      refine attach_child_run number parent child (fun ref given => held ref ?_) (held child ?_)
      · simp [refs, Option.mem_def.mp given]
      · simp [refs]
  | addCommand number ref command => exact add_command_run number ref command (held ref (by simp [refs]))

-- The node that the call makes, and the grove that it leaves, if it is given nodes of its own forest only.
def made (grove : Grove) : Call → Option NodeRef
  | .addNode number _ _ => some ⟨number, (grove.forest number).size⟩
  | _ => none

def done (grove : Grove) : Call → Grove
  | .plant => grove.plant {}
  | .addNode number fullName parent => grove.modify number (·.addNode fullName (parent.map (·.node)))
  | .attachChild number parent child => grove.modify number (·.attachChild (parent.map (·.node)) child.node)
  | .addCommand number ref command => grove.modify number (·.addCommand ref.node command)

theorem own_of_strangers (call : Call) (none : call.strangers = []) (number : Nat) (on : call.number? = some number)
    (ref : NodeRef) (given : ref ∈ call.refs) : ref.forest = number := by
  have kept := List.filter_eq_nil_iff.mp none ref given
  simpa [on] using kept

theorem outcome_own (call : Call) (none : call.strangers = []) :
    call.outcome grove = .ok (call.made grove, call.done grove) := by
  have same := own_of_strangers call none
  cases call with
  | plant => rfl
  | addNode number fullName parent =>
      have above : grove.ownParent number parent = .ok (parent.map (·.node)) :=
        own_parent_own number parent fun ref given => same number rfl ref (by simpa [refs] using given)
      rw [outcome, Grove.addNode, above]
      rfl
  | attachChild number parent child =>
      have above : grove.ownParent number parent = .ok (parent.map (·.node)) :=
        own_parent_own number parent fun ref given => same number rfl ref (by simp [refs, Option.mem_def.mp given])
      have below : grove.own number child = .ok child.node :=
        own_own number child (same number rfl child (by simp [refs]))
      rw [outcome, Grove.attachChild, above, below]
      rfl
  | addCommand number ref command =>
      have node : grove.own number ref = .ok ref.node :=
        own_own number ref (same number rfl ref (by simp [refs]))
      rw [outcome, Grove.addCommand, node]
      rfl

theorem outcome_stranger (call : Call) (ref : NodeRef) (first : call.strangers.head? = some ref) :
    call.outcome grove = .error (.foreignNode (grove.fullName ref)) := by
  cases call with
  | plant => cases first
  | addNode number fullName parent =>
      rw [outcome, Grove.addNode, own_parent_stranger number parent ref first]
      rfl
  | attachChild number parent child =>
      have either : (strangersAmong (some number) parent.toList).head?.or
          (strangersAmong (some number) [child]).head? = some ref := by
        rw [← first, strangers, refs, number?, strangersAmong, strangersAmong, strangersAmong, List.filter_append,
          List.head?_append]
      rw [outcome, Grove.attachChild]
      cases upper : (strangersAmong (some number) parent.toList).head? with
      | some above =>
          rw [upper, Option.some_or] at either
          cases either
          rw [own_parent_stranger number parent ref upper]
          rfl
      | none =>
          rw [upper, Option.none_or] at either
          have same : ∀ above ∈ parent, above.forest = number := by
            simpa [strangersAmong] using upper
          rw [own_parent_own number parent same, own_stranger number child ref either]
          rfl
  | addCommand number given command =>
      rw [outcome, Grove.addCommand, own_stranger number given ref first]
      rfl

end Call

end

end StubForge.Grove
