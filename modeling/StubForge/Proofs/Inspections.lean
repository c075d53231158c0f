import StubForge.Proofs.TagStore

set_option autoImplicit false

/-!
Inspecting a class, and inspecting it through a descriptor. The two agree for every class in whose order of ancestors no
body binds the name `command`. Where one does, what stands behind that name is read in place of the class.
-/

namespace StubForge

namespace World

/-! ### Attributes -/

-- The body of a class leaves a name bound to a value.
def Binds (world : World) (id : ClassId) (name : String) (value : Object) : Prop :=
  ∃ record, world.class? id = some record ∧ lookup name record.members = some value

-- The first among a class and its ancestors that binds a name binds it to a value.
def FirstBinds (world : World) (id : ClassId) (name : String) (value : Object) : Prop :=
  ∃ earlier ancestor later, world.orderOf id = earlier ++ ancestor :: later ∧ world.Binds ancestor name value ∧
    ∀ other ∈ earlier, ∀ value, ¬ world.Binds other name value

section

variable (world : World) (id : ClassId) (name : String)

theorem bound_iff (value : Object) :
    ((world.class? id).bind fun record => lookup name record.members) = some value ↔ world.Binds id name value :=
  Option.bind_eq_some_iff

theorem unbound_iff :
    ((world.class? id).bind fun record => lookup name record.members) = none ↔
      ∀ value, ¬ world.Binds id name value := by
  simp only [← bound_iff, Option.eq_none_iff_forall_ne_some]

theorem attribute_iff (value : Object) : world.attribute? id name = some value ↔ world.FirstBinds id name value := by
  simp only [attribute?, List.findSome?_eq_some_iff, bound_iff, unbound_iff, FirstBinds]

theorem no_attribute_iff :
    world.attribute? id name = none ↔ ∀ ancestor ∈ world.orderOf id, ∀ value, ¬ world.Binds ancestor name value := by
  simp only [attribute?, List.findSome?_eq_none_iff, unbound_iff]

end

/-! ### What is read -/

-- The body of a class leaves a mark of deprecation.
def marked (world : World) (id : ClassId) : Bool :=
  ((world.class? id).bind fun record => lookup deprecationMark record.members).isSome

def moduleMarked (world : World) (name : String) : Bool :=
  ((world.module? name).bind fun record => lookup deprecationMark record.globals).isSome

-- A class without an own statement: no tag, and no mark of deprecation.
def Bare (world : World) (id : ClassId) : Prop := world.tagsOf id = [] ∧ world.marked id = false

-- What is read off a value is what a class states.
def SaysSame (world : World) (id : ClassId) : Object → Prop
  | .cls other => world.metadata other = world.metadata id
  | .module name => world.tagsOf id = [] ∧ world.marked id = world.moduleMarked name
  | .function _ => world.Bare id
  | .instance _ => world.Bare id
  | .constant _ => False

-- Inspecting a class gives what every descriptor of it has as metadata.
def Agrees (world : World) (id : ClassId) : Prop :=
  ∀ fullName, world.inspect id = .ok (world.command fullName id).metadata

section

variable (world : World) (id : ClassId)

theorem metadata_eq : world.metadata id = Metadata.ofTags (world.marked id) (world.tagsOf id) := by
  rw [metadata, marked, tagsOf]
  cases world.class? id <;> rfl

theorem untagged_iff (mark : Bool) :
    Metadata.ofTags mark [] = world.metadata id ↔ world.tagsOf id = [] ∧ world.marked id = mark := by
  rw [metadata_eq]
  constructor
  · intro same
    have tags : world.tagsOf id = [] := (congrArg Metadata.tags same).symm
    rw [tags] at same
    exact ⟨tags, (congrArg Metadata.deprecated same).symm⟩
  · rintro ⟨tags, same⟩
    rw [tags, same]

theorem says_same_iff (value : Object) :
    world.metadataOfValue value = .ok (world.metadata id) ↔ world.SaysSame id value := by
  have bare : Except.ok (ε := Mishap) {} = .ok (world.metadata id) ↔ world.Bare id := by
    rw [Except.ok.injEq, Bare, ← untagged_iff]
    rfl
  cases value with
  | cls other => rw [metadataOfValue, Except.ok.injEq, SaysSame]
  | module name => rw [metadataOfValue, Except.ok.injEq, SaysSame, ← untagged_iff, moduleMarked]
  | function declared => exact bare
  | «instance» name => exact bare
  | constant value =>
      constructor
      · intro same
        cases same
      · exact False.elim

theorem agrees_of_unbound (unbound : ∀ ancestor ∈ world.orderOf id, ∀ value, ¬ world.Binds ancestor "command" value) :
    world.Agrees id := by
  intro fullName
  rw [inspect, (world.no_attribute_iff id "command").mpr unbound]
  rfl

theorem agrees_iff_of_bound (value : Object) (bound : world.FirstBinds id "command" value) :
    world.Agrees id ↔ world.SaysSame id value := by
  have inspected : world.inspect id = world.metadataOfValue value := by
    rw [inspect, (world.attribute_iff id "command" value).mpr bound]
  rw [← says_same_iff, ← inspected]
  exact ⟨fun agrees => agrees "", fun same fullName => same⟩

end

end World

/-! ### Class statements -/

namespace Exec

section

variable {frame : Frame} {head : ClassHead} {inner : Exec Unit} {tags : List Tag} {members : Bindings} {own : ClassId}
  {after : World} (steps : Steps frame head inner tags members own after)
include steps

theorem class_of_steps : ∃ record order, after.class? own = some record ∧ record.order = own :: order ∧
    record.tags = tags ∧ Spares members record.members := by
  obtain ⟨-, bases, metaclass, before, declared, tagged, -, made, stacked, named⟩ := steps
  obtain ⟨record, ⟨-, -, plain, -, ⟨order, first⟩, spared⟩, rfl, rfl⟩ :=
    made_of_create frame head bases metaclass members before own _ made
  have present : { before with classes := before.classes.push record }.class? before.classes.size = some record :=
    Array.getElem?_push_size
  obtain ⟨-, rfl⟩ := (stack_iff _ _ (by rw [present]; rfl) tags tagged).mp stacked
  refine ⟨{ record with tags := tags ++ record.tags }, order, ?_, first, by rw [plain, List.append_nil], spared⟩
  rw [World.class?, classes_after_bind _ _ _ _ _ named, ← World.class?, World.class_with_tags, if_pos rfl, present]
  rfl

-- Neither the body nor an ancestor binds the name.
theorem agrees_of_steps (unbound : World.lookup "command" members = none)
    (above : ∀ ancestor ∈ (after.orderOf own).tail, ∀ value, ¬ after.Binds ancestor "command" value) :
    after.Agrees own := by
  obtain ⟨record, order, found, first, -, spared⟩ := class_of_steps steps
  have line : after.orderOf own = own :: order := by
    rw [World.orderOf, found, ← first]
    rfl
  refine after.agrees_of_unbound own fun ancestor member value bound => ?_
  rw [line] at member above
  rcases List.mem_cons.mp member with same | inherited
  · subst same
    obtain ⟨held, known, bound⟩ := bound
    cases found.symm.trans known
    rw [(spared "command" (by decide)).1 unbound] at bound
    cases bound
  · exact above ancestor inherited value bound

-- A tagged class with a method of the name never agrees, whatever it is derived from.
theorem disagrees_of_steps (declared : Bool) (bound : World.lookup "command" members = some (.function declared))
    (tagged : tags ≠ []) : ¬ after.Agrees own := by
  obtain ⟨record, order, found, first, held, spared⟩ := class_of_steps steps
  have line : after.orderOf own = own :: order := by
    rw [World.orderOf, found, ← first]
    rfl
  have bound : after.FirstBinds own "command" (.function declared) :=
    ⟨[], own, order, line, ⟨record, found, (spared "command" (by decide)).2 declared bound⟩,
      fun _ absent => absurd absent List.not_mem_nil⟩
  rw [after.agrees_iff_of_bound own _ bound]
  rintro ⟨untagged, -⟩
  rw [World.tagsOf, found] at untagged
  exact tagged (held ▸ untagged)

end

end Exec

namespace World

-- Inspection agrees with the metadata of a descriptor for the classes that neither have nor inherit the name `command`;
-- for the others, exactly if what the name is bound to says the same. In terms of class statements: a statement whose
-- body and ancestors leave the name alone makes a class of the first kind, and a method of the name is enough for a
-- tagged class to disagree.
theorem inspection_agrees (world : World) :
    (∀ id, (∀ ancestor ∈ world.orderOf id, ∀ value, ¬ world.Binds ancestor "command" value) → world.Agrees id) ∧
    (∀ id value, world.FirstBinds id "command" value → (world.Agrees id ↔ world.SaysSame id value)) ∧
    ∀ frame head inner before, Exec.define frame head inner before = (.ok (), world) →
      ∃ tags members own, Exec.Steps frame head inner tags members own world ∧
        (lookup "command" members = none →
          (∀ ancestor ∈ (world.orderOf own).tail, ∀ value, ¬ world.Binds ancestor "command" value) →
          world.Agrees own) ∧
        ∀ declared, lookup "command" members = some (.function declared) → tags ≠ [] → ¬ world.Agrees own := by
  refine ⟨world.agrees_of_unbound, world.agrees_iff_of_bound, fun frame head inner before done => ?_⟩
  obtain ⟨tags, -, members, own, -, steps⟩ := Exec.define_steps frame head inner before world done
  exact ⟨tags, members, own, steps, Exec.agrees_of_steps steps, Exec.disagrees_of_steps steps⟩

-- Two commands with a description, of which the second has a method `command`.
def runHead (methods : List String) : ClassHead :=
  { name := "Run", bases := ["IpcCommand"], methods,
    tags := [.call "Description" [.constant (.string "Runs.")] []] }

def emptyModuleWorld : World := (World.initial {}).setModule { name := "m", globals := headerBindings }

def describedWorld (methods : List String) : World :=
  (Exec.define { module := "m" } (runHead methods) (pure ()) emptyModuleWorld).2

theorem described_commands_inspected :
    (describedWorld ["execute"]).Agrees 16 ∧ ¬ (describedWorld ["execute", "command"]).Agrees 16 ∧
    ∃ tags members own, Exec.Steps { module := "m" } (runHead ["execute", "command"]) (pure ()) tags members own
      (describedWorld ["execute", "command"]) := by
  have done : Exec.define { module := "m" } (runHead ["execute", "command"]) (pure ()) emptyModuleWorld =
      (.ok (), describedWorld ["execute", "command"]) := pair_of_fst rfl
  have bound : (describedWorld ["execute", "command"]).FirstBinds 16 "command" (.function false) :=
    (attribute_iff _ _ _ _).mp rfl
  refine ⟨(inspection_agrees (describedWorld ["execute"])).1 16 ((no_attribute_iff _ _ _).mp rfl), ?_, ?_⟩
  · rw [(inspection_agrees (describedWorld ["execute", "command"])).2.1 16 _ bound]
    rintro ⟨untagged, -⟩
    cases untagged
  · obtain ⟨tags, members, own, steps, -⟩ :=
      (inspection_agrees (describedWorld ["execute", "command"])).2.2 _ _ _ _ done
    exact ⟨tags, members, own, steps⟩

-- The description is lost when the class itself is inspected.
theorem command_method_hides_tags :
    (describedWorld ["execute", "command"]).inspect 16 = .ok {} ∧
    ((describedWorld ["execute", "command"]).command "m.Run" 16).metadata.description =
      .constant (.string "Runs.") ∧
    ¬ (describedWorld ["execute", "command"]).Agrees 16 := by
  have empty : (describedWorld ["execute", "command"]).inspect 16 = .ok {} := rfl
  refine ⟨empty, rfl, fun agrees => ?_⟩
  have same := empty.symm.trans (agrees "m.Run")
  cases congrArg Metadata.tags (Except.ok.inj same)

end World

end StubForge
