import StubForge.Proofs.Ownership

set_option autoImplicit false

/-!
Callers of a grove. A caller keeps the nodes that its calls returned and may hand them to any forest, at any later time.
Whatever it calls, all forests stay sound, and every node holds, for each name, the first command of that name that was put
into it.
-/

namespace StubForge.Grove

def commands (grove : Grove) (ref : NodeRef) : List Command := (grove.forest ref.forest).commands ref.node

-- A node of a forest that has a slot in it.
def Owns (grove : Grove) (number : Nat) (ref : NodeRef) : Prop := ref.forest = number ∧ grove.Holds ref

theorem inside_of_owns {grove : Grove} {number : Nat} {ref : NodeRef} (owns : grove.Owns number ref) :
    ref.node < (grove.forest number).size := by
  obtain ⟨rfl, held⟩ := owns
  exact held

theorem inside_of_owned {grove : Grove} {number : Nat} {parent : Option NodeRef}
    (owned : ∀ ref ∈ parent, grove.Owns number ref) :
    ∀ node ∈ parent.map (·.node), node < (grove.forest number).size := by
  intro node member
  obtain ⟨ref, given, rfl⟩ := Option.map_eq_some_iff.mp member
  exact inside_of_owns (owned ref given)

structure Caller where
  grove : Grove := []
  returned : List NodeRef := []

namespace Caller

-- A call that fails returns nothing; the caller goes on with what it has.
def after (caller : Caller) (call : Call) : Caller :=
  let (result, grove) := call.perform caller.grove
  { grove, returned := caller.returned ++ result.toOption.join.toList }

-- The call is made on a forest that is there, with nodes that earlier calls returned.
def MayMake (caller : Caller) (call : Call) : Prop :=
  (∀ number ∈ call.number?, number < caller.grove.length) ∧ ∀ ref ∈ call.refs, ref ∈ caller.returned

instance (caller : Caller) (call : Call) : Decidable (caller.MayMake call) := inferInstanceAs (Decidable (_ ∧ _))

-- Every call is made by what the calls before it left of the caller.
def MayMakeAll : Caller → List Call → Prop
  | _, [] => True
  | caller, call :: rest => caller.MayMake call ∧ MayMakeAll (caller.after call) rest

instance decidableMayMakeAll : (caller : Caller) → (calls : List Call) → Decidable (caller.MayMakeAll calls)
  | _, [] => .isTrue trivial
  | caller, call :: rest => @instDecidableAnd _ _ inferInstance (decidableMayMakeAll (caller.after call) rest)

def afterAll (caller : Caller) (calls : List Call) : Caller := calls.foldl after caller

end Caller

/-! ### What was put into a node -/

def Call.gives? (ref : NodeRef) : Call → Option Command
  | .addCommand number node command => if node = ref ∧ number = ref.forest then some command else none
  | _ => none

-- The commands that calls put into a node, in the order of the calls.
def given (ref : NodeRef) (calls : List Call) : List Command := calls.filterMap (Call.gives? ref)

theorem given_concat (ref : NodeRef) (calls : List Call) (call : Call) :
    given ref (calls ++ [call]) = given ref calls ++ (call.gives? ref).toList := by
  rw [given, List.filterMap_append, given]
  cases gives : call.gives? ref <;> simp [gives]

theorem given_other (ref : NodeRef) (calls : List Call) (call : Call) (none : call.gives? ref = none) :
    given ref (calls ++ [call]) = given ref calls := by
  rw [given_concat, none, Option.toList_none, List.append_nil]

-- A call with a node of another forest puts nothing anywhere.
theorem own_of_gives (ref : NodeRef) (call : Call) (command : Command) (gives : call.gives? ref = some command) :
    call.number? = some ref.forest ∧ call.strangers = [] := by
  cases call with
  | addCommand number node held =>
      rw [Call.gives?] at gives
      split at gives
      · rename_i here
        obtain ⟨rfl, rfl⟩ := here
        exact ⟨rfl, by simp [Call.strangers, strangersAmong, Call.refs, Call.number?]⟩
      · cases gives
  | _ => cases gives

/-! ### One call after the other -/

-- What every sequence of calls keeps.
structure Tended (calls : List Call) (caller : Caller) : Prop where
  sound : ∀ number, (caller.grove.forest number).Sound
  holds : ∀ ref ∈ caller.returned, caller.grove.Holds ref
  taken : ∀ ref, caller.grove.commands ref = keepFirst (given ref calls)

theorem tended_start : Tended [] {} where
  sound := fun _ => Forest.sound_empty
  holds := nofun
  taken := fun _ => rfl

section

variable {calls : List Call} {caller : Caller} {call : Call}

theorem perform_own (may : caller.MayMake call) (tended : Tended calls caller) (none : call.strangers = []) :
    call.perform caller.grove = (.ok (call.made caller.grove), call.done caller.grove) := by
  rw [call.perform_eq may.1 fun ref given => tended.holds ref (may.2 ref given), call.outcome_own none]
  rfl

theorem perform_stranger (may : caller.MayMake call) (tended : Tended calls caller) (ref : NodeRef)
    (first : call.strangers.head? = some ref) :
    call.perform caller.grove =
      (.error (GroveFault.foreignNode (caller.grove.fullName ref)).toError, caller.grove) := by
  rw [call.perform_eq may.1 fun ref given => tended.holds ref (may.2 ref given), call.outcome_stranger ref first]
  rfl

theorem after_own (may : caller.MayMake call) (tended : Tended calls caller) (none : call.strangers = []) :
    caller.after call = ⟨call.done caller.grove, caller.returned ++ (call.made caller.grove).toList⟩ := by
  rw [Caller.after, perform_own may tended none]
  rfl

theorem after_stranger (may : caller.MayMake call) (tended : Tended calls caller) (ref : NodeRef)
    (first : call.strangers.head? = some ref) : caller.after call = caller := by
  rw [Caller.after, perform_stranger may tended ref first]
  exact congrArg (Caller.mk caller.grove) (List.append_nil caller.returned)

-- A change of one forest.
theorem tended_change (tended : Tended calls caller) (number : Nat) (step : Forest → Forest) (new : List NodeRef)
    (planted : number < caller.grove.length) (sound : (step (caller.grove.forest number)).Sound)
    (grows : (caller.grove.forest number).size ≤ (step (caller.grove.forest number)).size)
    (fresh : ∀ ref ∈ new, ref.forest = number ∧ ref.node < (step (caller.grove.forest number)).size)
    (elsewhere : ∀ ref, ref.forest ≠ number → call.gives? ref = none)
    (taken : ∀ node, (step (caller.grove.forest number)).commands node =
      keepFirst (given ⟨number, node⟩ (calls ++ [call]))) :
    Tended (calls ++ [call]) ⟨caller.grove.modify number step, caller.returned ++ new⟩ where
  sound := by
    intro other
    rw [forest_modify number other step planted]
    split
    · exact sound
    · exact tended.sound other
  holds := by
    intro ref member
    rw [Holds, forest_modify number ref.forest step planted]
    rcases List.mem_append.mp member with old | made
    · have held : ref.node < (caller.grove.forest ref.forest).size := tended.holds ref old
      split
      · rename_i same
        exact Nat.lt_of_lt_of_le (same ▸ held) grows
      · exact held
    · obtain ⟨same, inside⟩ := fresh ref made
      rw [if_pos same]
      exact inside
  taken := by
    intro ref
    rw [commands, forest_modify number ref.forest step planted]
    split
    · rename_i same
      rw [taken ref.node, ← same]
    · rename_i different
      rw [given_other ref calls call (elsewhere ref different)]
      exact tended.taken ref

theorem tended_plant (tended : Tended calls caller) :
    Tended (calls ++ [.plant]) ⟨caller.grove.plant {}, caller.returned ++ []⟩ where
  sound := by
    intro number
    rw [forest_plant]
    exact tended.sound number
  holds := by
    intro ref member
    rw [Holds, forest_plant]
    exact tended.holds ref (by simpa using member)
  taken := by
    intro ref
    rw [commands, forest_plant, given_other ref calls .plant rfl]
    exact tended.taken ref

section

variable (tended : Tended calls caller) (number : Nat) (planted : number < caller.grove.length)
include tended planted

theorem tended_add_node (fullName : String) (parent : Option NodeRef)
    (owned : ∀ ref ∈ parent, caller.grove.Owns number ref) :
    Tended (calls ++ [.addNode number fullName parent])
      ⟨caller.grove.modify number (·.addNode fullName (parent.map (·.node))),
        caller.returned ++ [⟨number, (caller.grove.forest number).size⟩]⟩ := by
  refine tended_change tended number _ _ planted ?_ ?_ ?_ (fun _ _ => rfl) ?_
  · exact Forest.sound_add_node (tended.sound number) fullName _ (inside_of_owned owned)
  · simp
  · simp
  · intro node
    rw [Forest.commands_add_node, given_other _ calls _ rfl]
    exact tended.taken ⟨number, node⟩

theorem tended_attach_child (parent : Option NodeRef) (child : NodeRef)
    (owned : ∀ ref ∈ parent, caller.grove.Owns number ref) (ownedChild : caller.grove.Owns number child) :
    Tended (calls ++ [.attachChild number parent child])
      ⟨caller.grove.modify number (·.attachChild (parent.map (·.node)) child.node), caller.returned ++ []⟩ := by
  refine tended_change tended number _ _ planted ?_ ?_ nofun (fun _ _ => rfl) ?_
  · exact Forest.sound_attach_child (tended.sound number) _ child.node (inside_of_owned owned)
      (inside_of_owns ownedChild)
  · simp
  · intro node
    rw [given_other _ calls _ rfl]
    cases parent with
    | none => exact tended.taken ⟨number, node⟩
    | some above =>
        rw [Option.map_some, Forest.commands_attach_child]
        exact tended.taken ⟨number, node⟩

theorem tended_add_command (ref : NodeRef) (command : Command) (owned : caller.grove.Owns number ref) :
    Tended (calls ++ [.addCommand number ref command])
      ⟨caller.grove.modify number (·.addCommand ref.node command), caller.returned ++ []⟩ := by
  obtain ⟨rfl, held⟩ := owned
  refine tended_change tended ref.forest _ _ planted ?_ ?_ nofun ?_ ?_
  · exact Forest.sound_add_command (tended.sound ref.forest) ref.node command
  · simp
  · intro other elsewhere
    exact if_neg fun here => elsewhere here.2.symm
  · intro node
    rw [Forest.commands_add_command _ ref.node command held, given_concat]
    have before : (caller.grove.forest ref.forest).commands node = keepFirst (given ⟨ref.forest, node⟩ calls) :=
      tended.taken ⟨ref.forest, node⟩
    by_cases same : node = ref.node
    · subst same
      have gives : (Call.addCommand ref.forest ref command).gives? ref = some command := if_pos ⟨rfl, rfl⟩
      rw [if_pos rfl, gives, Option.toList_some, keep_first_append, before]
    · have gives : (Call.addCommand ref.forest ref command).gives? ⟨ref.forest, node⟩ = none :=
        if_neg fun here => same (congrArg NodeRef.node here.1).symm
      rw [if_neg same, gives, Option.toList_none, List.append_nil, before]

end

theorem tended_next (tended : Tended calls caller) (may : caller.MayMake call) :
    Tended (calls ++ [call]) (caller.after call) := by
  cases first : call.strangers.head? with
  | some ref =>
      rw [after_stranger may tended ref first]
      refine ⟨tended.sound, tended.holds, fun other => ?_⟩
      rw [given_other other calls call ?_]
      · exact tended.taken other
      · cases gives : call.gives? other with
        | none => rfl
        | some command => simp [(own_of_gives other call command gives).2] at first
  | none =>
      have none : call.strangers = [] := List.head?_eq_none_iff.mp first
      have owned (number : Nat) (on : call.number? = some number) (ref : NodeRef) (member : ref ∈ call.refs) :
          caller.grove.Owns number ref :=
        ⟨call.own_of_strangers none number on ref member, tended.holds ref (may.2 ref member)⟩
      rw [after_own may tended none]
      cases call with
      | plant => exact tended_plant tended
      | addNode number fullName parent =>
          refine tended_add_node tended number (may.1 number rfl) fullName parent fun ref member => ?_
          exact owned number rfl ref (by simpa [Call.refs] using member)
      | attachChild number parent child =>
          refine tended_attach_child tended number (may.1 number rfl) parent child (fun ref member => ?_) ?_
          · exact owned number rfl ref (by simp [Call.refs, Option.mem_def.mp member])
          · exact owned number rfl child (by simp [Call.refs])
      | addCommand number ref command =>
          exact tended_add_command tended number (may.1 number rfl) ref command
            (owned number rfl ref (by simp [Call.refs]))

-- By induction on the calls that are still to be made.
theorem tended_after (more : List Call) (tended : Tended calls caller) (may : caller.MayMakeAll more) :
    Tended (calls ++ more) (caller.afterAll more) := by
  induction more generalizing calls caller with
  | nil => simpa [Caller.afterAll] using tended
  | cons call rest ih =>
      have later := ih (tended_next tended may.1) may.2
      rw [List.append_assoc] at later
      exact later

end

-- What is known of a caller and the forests after a sequence of calls, and of every call that it may make next.
structure Safe (calls : List Call) (caller : Caller) : Prop where
  sound : ∀ forest ∈ caller.grove, forest.Sound
  lineages : ∀ forest ∈ caller.grove, ∀ node < forest.size,
    ∃ chain, forest.Lineage node chain ∧ chain.length ≤ forest.size
  -- A name leads to one command of a node at most, the first one of that name that was put there.
  named : ∀ ref, ((caller.grove.commands ref).map (·.fullName)).Nodup
  first : ∀ ref name, (caller.grove.commands ref).find? (·.fullName == name) =
    (given ref calls).find? (·.fullName == name)
  holds : ∀ ref ∈ caller.returned, caller.grove.Holds ref
  -- Nothing is seen of the single effects of a call.
  whole : ∀ call, caller.MayMake call → call.perform caller.grove = Call.settle caller.grove (call.outcome caller.grove)
  does : ∀ call, caller.MayMake call → call.strangers = [] →
    call.perform caller.grove = (.ok (call.made caller.grove), call.done caller.grove)
  refuses : ∀ call, caller.MayMake call → ∀ ref, call.strangers.head? = some ref →
    call.perform caller.grove =
      (.error (.raised "ValueError" ("node " ++ caller.grove.fullName ref ++ " belongs to another tree")), caller.grove)

theorem safe_after_calls (calls : List Call) (may : Caller.MayMakeAll {} calls) :
    Safe calls (Caller.afterAll {} calls) := by
  have tended : Tended calls (Caller.afterAll {} calls) := tended_after calls tended_start may
  generalize Caller.afterAll {} calls = caller at tended
  have sound (forest : Forest) (member : forest ∈ caller.grove) : forest.Sound := by
    obtain ⟨number, bound, rfl⟩ := List.getElem_of_mem member
    simpa [Grove.forest, List.getElem?_eq_getElem bound] using tended.sound number
  constructor
  case sound => exact sound
  case lineages =>
    intro forest member node inside
    obtain ⟨chain, lineage, length⟩ := Forest.lineage_of_sound (sound forest member) node
    exact ⟨chain, lineage, Nat.le_trans length inside⟩
  case named =>
    intro ref
    rw [tended.taken ref]
    exact keep_first_nodup _
  case first =>
    intro ref name
    rw [tended.taken ref]
    exact find_of_keep_first _ name
  case holds => exact tended.holds
  case whole => exact fun call may => call.perform_eq may.1 fun ref given => tended.holds ref (may.2 ref given)
  case does => exact fun call may => perform_own may tended
  case refuses => exact fun call may => perform_stranger may tended

-- Two forests: one whose nodes are linked in a circle, and one that is handed a node of the first and stays empty.
def orchard : List Call :=
  [.plant, .plant, .addNode 0 "a" none, .addNode 0 "a.b" (some ⟨0, 0⟩), .addNode 1 "z" (some ⟨0, 0⟩),
    .attachChild 0 (some ⟨0, 0⟩) ⟨0, 1⟩, .attachChild 0 (some ⟨0, 0⟩) ⟨0, 1⟩, .attachChild 0 (some ⟨0, 1⟩) ⟨0, 0⟩,
    .addCommand 0 ⟨0, 1⟩ { fullName := "a.b.X", definedAt := "first.X" },
    .addCommand 0 ⟨0, 1⟩ { fullName := "a.b.X", definedAt := "second.X" }]

theorem orchard_safe :
    Caller.MayMakeAll {} orchard ∧ Safe orchard (Caller.afterAll {} orchard) ∧
      (Caller.afterAll {} orchard).grove =
        [⟨[⟨"a", none, [1], []⟩, ⟨"a.b", some 0, [0], [{ fullName := "a.b.X", definedAt := "first.X" }]⟩], []⟩,
          ⟨[], []⟩] ∧
      (Call.attachChild 1 none ⟨0, 1⟩).perform (Caller.afterAll {} orchard).grove =
        (.error (.raised "ValueError" "node a.b belongs to another tree"), (Caller.afterAll {} orchard).grove) := by
  have may : Caller.MayMakeAll {} orchard := by decide
  have safe := safe_after_calls orchard may
  have grove : (Caller.afterAll {} orchard).grove =
      [⟨[⟨"a", none, [1], []⟩, ⟨"a.b", some 0, [0], [{ fullName := "a.b.X", definedAt := "first.X" }]⟩], []⟩,
        ⟨[], []⟩] := rfl
  have next : (Caller.afterAll {} orchard).MayMake (.attachChild 1 none ⟨0, 1⟩) := by decide
  refine ⟨may, safe, grove, ?_⟩
  rw [safe.refuses _ next ⟨0, 1⟩ rfl, grove]
  rfl

end StubForge.Grove
