import Mathlib.Data.List.Nodup
import StubForge.Library.Inspect
import StubForge.Proofs.ClassGrowth
import StubForge.Proofs.Keeping
import StubForge.Proofs.MadeClasses

set_option autoImplicit false

/-!
Which tags a class has: those that were put on the class itself, the last one first. A class that others derive from and
the classes derived from it have theirs apart from it, and an application that fails changes nothing. What a class body
sets under the name of the store is not looked at.
-/

namespace StubForge

namespace World

-- The tags that a class has itself.
def tagsOf (world : World) (id : ClassId) : List Tag := ((world.class? id).map (·.tags)).getD []

def withTags (world : World) (id : ClassId) (tags : List Tag) : World :=
  world.modifyClass id fun record => { record with tags := tags ++ record.tags }

section

variable (world : World) (id : ClassId)

theorem tags_of_metadata : (world.metadata id).tags = world.tagsOf id := by
  rw [metadata, tagsOf]
  cases world.class? id <;> rfl

theorem class_with_tags (tags : List Tag) (other : ClassId) : (world.withTags id tags).class? other =
    if id = other then (world.class? other).map fun record => { record with tags := tags ++ record.tags }
    else world.class? other := by
  rw [class?, withTags, modifyClass, Array.getElem?_modify]
  rfl

theorem tags_of_own (tags : List Tag) (known : (world.class? id).isSome = true) :
    (world.withTags id tags).tagsOf id = tags ++ world.tagsOf id := by
  obtain ⟨record, found⟩ := Option.isSome_iff_exists.mp known
  rw [tagsOf, tagsOf, class_with_tags, if_pos rfl, found]
  rfl

theorem tags_of_other (tags : List Tag) (other : ClassId) (different : id ≠ other) :
    (world.withTags id tags).tagsOf other = world.tagsOf other := by
  rw [tagsOf, tagsOf, class_with_tags, if_neg different]

theorem with_tags_nothing : world.withTags id [] = world := by
  have same : world.classes.modify id (fun record => { record with tags := [] ++ record.tags }) = world.classes :=
    Array.ext_getElem? fun k => by
      rw [Array.getElem?_modify]
      split
      · cases world.classes[k]? <;> rfl
      · rfl
  rw [withTags, modifyClass, same]

theorem with_tags_twice (first second : List Tag) :
    (world.withTags id first).withTags id second = world.withTags id (second ++ first) := by
  have same :
      (world.withTags id first).classes.modify id (fun record => { record with tags := second ++ record.tags }) =
        world.classes.modify id fun record => { record with tags := second ++ first ++ record.tags } :=
    Array.ext_getElem? fun k => by
      simp only [withTags, modifyClass, Array.getElem?_modify]
      split
      · cases world.classes[k]? <;> simp
      · rfl
  rw [withTags, modifyClass, same]
  rfl

theorem grown_with_tags (tags : List Tag) : Grown world (world.withTags id tags) :=
  grown_modify world id _ fun _ => ⟨rfl, fun _ inside => inside⟩

theorem tags_of_pushed (record : ClassRecord) (plain : record.tags = []) :
    { world with classes := world.classes.push record }.tagsOf id = world.tagsOf id := by
  change (((world.classes.push record)[id]?).map (·.tags)).getD [] = ((world.classes[id]?).map (·.tags)).getD []
  rw [Array.getElem?_push]
  split
  · rename_i last
    rw [last, Array.getElem?_eq_none (Nat.le_refl _)]
    exact plain
  · rfl

end

end World

namespace Exec

/-! ### One application -/

section

variable (tag : Tag) (id : ClassId) (world : World)

def presentText : String :=
  tag.type.name ++ " is already present on " ++ ((world.class? id).map (·.qualifiedName)).getD ""

theorem apply_run : applyTag tag (.cls id) world =
    if (world.tagsOf id).any fun other => other.type.id == tag.type.id then
      (.error { kind := "ValueError", message := presentText tag id world }, world)
    else if id = World.objectId then (.error { kind := "TypeError", message := fixedClassText }, world)
    else (.ok (), world.withTags id [tag]) := by
  change (if (world.tagsOf id).any fun other => other.type.id == tag.type.id then fail "ValueError" _
    else if id = World.objectId then fail "TypeError" fixedClassText else set _ : Exec Unit) world = _
  by_cases present : ((world.tagsOf id).any fun other => other.type.id == tag.type.id) = true
  · rw [if_pos present, if_pos present]
    rfl
  · rw [if_neg present, if_neg present]
    split <;> rfl

theorem apply_ok_iff (after : World) : applyTag tag (.cls id) world = (.ok (), after) ↔
    (∀ other ∈ world.tagsOf id, other.type.id ≠ tag.type.id) ∧ id ≠ World.objectId ∧
      after = world.withTags id [tag] := by
  constructor
  · intro done
    rw [apply_run] at done
    split at done
    · cases done
    · rename_i absent
      split at done
      · cases done
      · exact ⟨by simpa using absent, ‹_›, (congrArg Prod.snd done).symm⟩
  · rintro ⟨fresh, object, rfl⟩
    rw [apply_run, if_neg (by simpa using fresh), if_neg object]

theorem value_error_iff : (∃ message after, applyTag tag (.cls id) world =
    (.error { kind := "ValueError", message }, after)) ↔ ∃ other ∈ world.tagsOf id, other.type.id = tag.type.id := by
  rw [apply_run]
  split
  · rename_i present
    refine ⟨fun _ => ?_, fun _ => ⟨_, _, rfl⟩⟩
    simpa using present
  · rename_i absent
    refine ⟨fun ⟨message, after, failed⟩ => ?_, fun held => absurd (by simpa using held) absent⟩
    split at failed
    · have kinds : Except.error _ = Except.error _ := congrArg Prod.fst failed
      simp at kinds
    · cases failed

theorem apply_to_no_class (value : Object) (other : ∀ id, value ≠ .cls id) : applyTag tag value world =
    (.error {
      kind := "TypeError"
      message := tag.type.name ++ " can only decorate classes, got " ++ world.valueText value }, world) := by
  cases value with
  | cls id => exact absurd rfl (other id)
  | constant value => rfl
  | module name => rfl
  | function declared => rfl
  | «instance» name => rfl

-- An application fails and changes nothing, or puts the tag in front of those of a class.
theorem apply_cases (value : Object) : (∃ mishap, applyTag tag value world = (.error mishap, world)) ∨
    ∃ id, value = .cls id ∧ applyTag tag value world = (.ok (), world.withTags id [tag]) := by
  by_cases named : ∃ id, value = .cls id
  · obtain ⟨id, rfl⟩ := named
    rw [apply_run]
    split
    · exact .inl ⟨_, rfl⟩
    · split
      · exact .inl ⟨_, rfl⟩
      · exact .inr ⟨id, rfl, rfl⟩
  · exact .inl ⟨_, apply_to_no_class tag world value (not_exists.mp named)⟩

theorem world_of_failed_application (value : Object) (mishap : Mishap) (after : World)
    (failed : applyTag tag value world = (.error mishap, after)) : after = world := by
  rcases apply_cases tag world value with ⟨_, same⟩ | ⟨_, -, done⟩
  · exact congrArg Prod.snd (failed.symm.trans same)
  · cases failed.symm.trans done

theorem class_after_apply (value : Object) (other : value ≠ .cls id) :
    (applyTag tag value world).2.class? id = world.class? id := by
  rcases apply_cases tag world value with ⟨_, failed⟩ | ⟨own, rfl, done⟩
  · rw [failed]
  · rw [done, World.class_with_tags, if_neg fun same => other (congrArg Object.cls same)]

theorem grown_apply (value : Object) : Grown world (applyTag tag value world).2 := by
  rcases apply_cases tag world value with ⟨_, failed⟩ | ⟨own, rfl, done⟩
  · rw [failed]
    exact grown_refl world
  · rw [done]
    exact World.grown_with_tags world own [tag]

end

/-! ### Stacked tags -/

-- Puts tags on a value as the decorators of a class statement do: the lowest one comes first.
def stack (tags : List Tag) (value : Object) : Exec Unit := tags.reverse.forM fun tag => applyTag tag value

theorem stack_cons (tag : Tag) (rest : List Tag) (value : Object) :
    stack (tag :: rest) value = (stack rest value >>= fun _ => applyTag tag value) := by
  simp only [stack, List.reverse_cons, List.forM_eq_forM, List.forM_append, List.forM_cons, List.forM_nil,
    bind_pure_unit]

theorem class_after_stack (tags : List Tag) (value : Object) (world : World) (id : ClassId) (other : value ≠ .cls id) :
    (stack tags value world).2.class? id = world.class? id := by
  induction tags with
  | nil => rfl
  | cons tag rest ih =>
      rw [stack_cons, bind_run]
      cases done : stack rest value world with
      | mk result after =>
          rw [done] at ih
          cases result with
          | error mishap => exact ih
          | ok _ => exact (class_after_apply tag id after value other).trans ih

-- When tags can be stacked on a class.
structure Stackable (world : World) (id : ClassId) (tags : List Tag) : Prop where
  apart : (tags.map (·.type.id)).Nodup
  fresh : ∀ tag ∈ tags, ∀ other ∈ world.tagsOf id, other.type.id ≠ tag.type.id
  changeable : tags ≠ [] → id ≠ World.objectId

theorem Stackable.of_perm {world : World} {id : ClassId} {tags others : List Tag} (stackable : Stackable world id tags)
    (same : others.Perm tags) : Stackable world id others where
  apart := (same.map _).nodup_iff.mpr stackable.apart
  fresh tag member := stackable.fresh tag (same.mem_iff.mp member)
  changeable filled := stackable.changeable fun none => filled (List.perm_nil.mp (none ▸ same))

section

variable (world : World) (id : ClassId) (known : (world.class? id).isSome = true)
include known

omit known in
theorem stackable_cons (tag : Tag) (rest : List Tag) : Stackable world id (tag :: rest) ↔
    Stackable world id rest ∧ (∀ other ∈ rest ++ world.tagsOf id, other.type.id ≠ tag.type.id) ∧
      id ≠ World.objectId := by
  constructor
  · rintro ⟨apart, fresh, changeable⟩
    obtain ⟨new, apart⟩ := List.nodup_cons.mp apart
    have object := changeable (List.cons_ne_nil tag rest)
    refine ⟨⟨apart, fun other member => fresh other (List.mem_cons_of_mem tag member), fun _ => object⟩, ?_, object⟩
    intro other member same
    rcases List.mem_append.mp member with stacked | present
    · exact new (List.mem_map.mpr ⟨other, stacked, same⟩)
    · exact fresh tag List.mem_cons_self other present same
  · rintro ⟨⟨apart, fresh, -⟩, new, object⟩
    refine ⟨List.nodup_cons.mpr ⟨?_, apart⟩, ?_, fun _ => object⟩
    · intro member
      obtain ⟨other, stacked, same⟩ := List.mem_map.mp member
      exact new other (List.mem_append_left _ stacked) same
    · exact List.forall_mem_cons.mpr ⟨fun other present => new other (List.mem_append_right _ present), fresh⟩

-- By induction from the lowest tag on.
theorem stack_iff (tags : List Tag) (after : World) : stack tags (.cls id) world = (.ok (), after) ↔
    Stackable world id tags ∧ after = world.withTags id tags := by
  induction tags generalizing after with
  | nil =>
      have empty : Stackable world id [] :=
        ⟨List.nodup_nil, fun _ member => absurd member List.not_mem_nil, fun filled => absurd rfl filled⟩
      rw [World.with_tags_nothing, and_iff_right empty, eq_comm]
      exact ⟨fun done => congrArg Prod.snd done, fun same => congrArg (Prod.mk _) same⟩
  | cons tag rest ih =>
      have held : (world.withTags id rest).tagsOf id = rest ++ world.tagsOf id := world.tags_of_own id rest known
      have both : (world.withTags id rest).withTags id [tag] = world.withTags id (tag :: rest) :=
        world.with_tags_twice id rest [tag]
      rw [stack_cons, stackable_cons, ← both]
      constructor
      · intro done
        obtain ⟨⟨⟩, middle, below, top⟩ := ok_of_bind done
        obtain ⟨stackable, rfl⟩ := (ih middle).mp below
        obtain ⟨fresh, object, same⟩ := (apply_ok_iff tag id _ after).mp top
        exact ⟨⟨stackable, held ▸ fresh, object⟩, same⟩
      · rintro ⟨⟨stackable, fresh, object⟩, rfl⟩
        rw [bind_ok ((ih _).mpr ⟨stackable, rfl⟩)]
        exact (apply_ok_iff tag id _ _).mpr ⟨held ▸ fresh, object, rfl⟩

end

/-! ### Class statements -/

-- What making a class comes to: the class is added without tags, or nothing is changed by a failure.
def Declares (frame : Frame) (head : ClassHead) (world : World) (steps : Exec ClassId) : Prop :=
  (∃ mishap, steps world = (.error mishap, world)) ∨
  ∃ record, record.name = head.name.text ∧ record.module = frame.module ∧ record.tags = [] ∧
    record.marked = head.marked ∧
    steps world = (.ok world.classes.size, { world with classes := world.classes.push record })

theorem class_declared (frame : Frame) (head : ClassHead) (bases : List ClassId) (metaclass : Metaclass)
    (members : Bindings) (world : World) :
    Declares frame head world (createClass frame head bases metaclass members) := by
  rcases class_made frame head bases metaclass members world with failed | ⟨record, made, added⟩
  · exact .inl failed
  · exact .inr ⟨record, made.name, made.module, made.plain, made.marked, added⟩

-- A decorator is not a row of tags, which only the field of a group is.
theorem evaluated_tag (frame : Frame) (expression : TagExpr) (world after : World) (field : TagField)
    (done : evaluateTag frame expression world = (.ok field, after)) :
    (∃ value, field = .constant value) ∨ ∃ tag, field = .tag tag := by
  cases expression with
  | constant value =>
      cases done
      exact .inl ⟨value, rfl⟩
  | call type args named =>
      rw [evaluateTag] at done
      obtain ⟨value, _, -, done⟩ := ok_of_bind done
      obtain ⟨args, _, -, done⟩ := ok_of_bind done
      obtain ⟨named, _, -, done⟩ := ok_of_bind done
      obtain ⟨tag, _, -, done⟩ := ok_of_bind done
      cases done
      exact .inr ⟨tag, rfl⟩

theorem evaluated_tags (frame : Frame) (expressions : List TagExpr) (world after : World) (fields : List TagField)
    (done : expressions.mapM (evaluateTag frame) world = (.ok fields, after)) :
    ∀ field ∈ fields, (∃ value, field = .constant value) ∨ ∃ tag, field = .tag tag := by
  induction expressions generalizing world fields with
  | nil =>
      cases done
      exact fun _ member => absurd member List.not_mem_nil
  | cons expression rest ih =>
      rw [List.mapM_cons] at done
      obtain ⟨field, _, first, done⟩ := ok_of_bind done
      obtain ⟨more, _, others, done⟩ := ok_of_bind done
      cases done
      exact List.forall_mem_cons.mpr ⟨evaluated_tag frame expression _ _ field first, ih _ more others⟩

def decorate (value : Object) : TagField → Exec Unit
  | .tag tag => applyTag tag value
  | .constant given => fail "TypeError" (Text.quoted (Literal.typeName given) ++ " object is not callable")
  | .items _ => pure ()

theorem stack_of_decorate (value : Object) (world after : World) (fields : List TagField)
    (single : ∀ field ∈ fields, (∃ value, field = .constant value) ∨ ∃ tag, field = .tag tag)
    (done : fields.reverse.forM (decorate value) world = (.ok (), after)) :
    ∃ tags, fields = tags.map .tag ∧ stack tags value world = (.ok (), after) := by
  induction fields generalizing after with
  | nil => exact ⟨[], rfl, done⟩
  | cons field rest ih =>
      obtain ⟨own, others⟩ := List.forall_mem_cons.mp single
      simp only [List.reverse_cons, List.forM_eq_forM, List.forM_append, List.forM_cons, List.forM_nil,
        bind_pure_unit] at done
      obtain ⟨⟨⟩, middle, below, top⟩ := ok_of_bind done
      obtain ⟨tags, rfl, stacked⟩ := ih middle others below
      rcases own with ⟨given, rfl⟩ | ⟨tag, rfl⟩
      · cases top
      · refine ⟨tag :: tags, rfl, ?_⟩
        rw [stack_cons, bind_ok stacked]
        exact top

-- Whatever steps that succeed start from, they end in a world of a kind.
def Ends {α : Type} (holds : World → Prop) (steps : Exec α) : Prop :=
  ∀ world value after, steps world = (.ok value, after) → holds after

theorem ends_fail {α : Type} (holds : World → Prop) (kind message : String) :
    Ends holds (fail kind message : Exec α) := by
  intro world value after done
  cases done

theorem ends_bind {α β : Type} {holds : World → Prop} {block : Exec α} {next : α → Exec β}
    (rest : ∀ value, Ends holds (next value)) : Ends holds (block >>= next) := by
  intro world value after done
  obtain ⟨first, middle, -, done⟩ := ok_of_bind done
  exact rest first middle value after done

theorem ends_fail_then {α β : Type} (holds : World → Prop) (kind message : String) (next : α → Exec β) :
    Ends holds (fail kind message >>= next) := by
  intro world value after done
  cases done

theorem ends_bind_from {α β : Type} {holds : World → Prop} {block : Exec α} {next : α → Exec β}
    (rest : ∀ world value middle, block world = (.ok value, middle) →
      ∀ result after, next value middle = (.ok result, after) → holds after) : Ends holds (block >>= next) := by
  intro world value after done
  obtain ⟨first, middle, ran, done⟩ := ok_of_bind done
  exact rest world first middle ran value after done

-- The steps of a class statement: its body leaves the members, the class is made of them, the tags are stacked on it,
-- and then it gets its name.
def Steps (frame : Frame) (head : ClassHead) (inner : Exec Unit) (tags : List Tag) (members : Bindings)
    (own : ClassId) (after : World) : Prop :=
  ∃ start bases metaclass ended declared tagged,
    inScope (do bindMethods frame head; inner) start = (.ok members, ended) ∧
    createClass frame head bases metaclass members ended = (.ok own, declared) ∧
    stack tags (.cls own) declared = (.ok (), tagged) ∧ bind frame head.name.text (.cls own) tagged = (.ok (), after)

theorem define_steps (frame : Frame) (head : ClassHead) (inner : Exec Unit) (world after : World)
    (done : define frame head inner world = (.ok (), after)) :
    ∃ tags evaluated members own, head.tags.mapM (evaluateTag frame) world = (.ok (tags.map .tag), evaluated) ∧
      Steps frame head inner tags members own after := by
  obtain ⟨fields, evaluated, decorators, done⟩ := ok_of_bind done
  have single := evaluated_tags frame head.tags world evaluated fields decorators
  have last (bases : List ClassId) (metaclass : Metaclass) :
      Ends (fun after => ∃ tags members own, fields = tags.map .tag ∧ Steps frame head inner tags members own after) (do
        let members ← inScope (do bindMethods frame head; inner)
        let own ← createClass frame head bases metaclass members
        fields.reverse.forM (decorate (.cls own))
        bind frame head.name.text (.cls own)) := by
    refine ends_bind_from fun start members ended body => ?_
    rintro ⟨⟩ after done
    obtain ⟨own, declared, made, done⟩ := ok_of_bind done
    obtain ⟨⟨⟩, tagged, decorated, named⟩ := ok_of_bind done
    obtain ⟨tags, rfl, stacked⟩ := stack_of_decorate _ _ _ _ single decorated
    exact ⟨tags, members, own, rfl, start, bases, metaclass, ended, declared, tagged, body, made, stacked, named⟩
  have conclude (steps : Exec Unit) (done : steps evaluated = (.ok (), after))
      (rest : Ends (fun after => ∃ tags members own, fields = tags.map .tag ∧
        Steps frame head inner tags members own after) steps) :
      ∃ tags evaluated members own, head.tags.mapM (evaluateTag frame) world = (.ok (tags.map .tag), evaluated) ∧
        Steps frame head inner tags members own after := by
    obtain ⟨tags, members, own, rfl, steps⟩ := rest _ _ _ done
    exact ⟨tags, evaluated, members, own, decorators, steps⟩
  refine conclude _ done (ends_bind fun bases => ends_bind fun world => ?_)
  dsimp only
  repeat' split
  all_goals first
    | exact ends_fail _ _ _
    | exact ends_fail_then _ _ _ _
    | exact ends_bind fun _ => ends_fail _ _ _
    | exact last _ _

-- A class is made, the tags are stacked on it, and then it gets its name.
def Decorated (frame : Frame) (head : ClassHead) (tags : List Tag) (after : World) : Prop :=
  ∃ bases metaclass members before own declared tagged,
    createClass frame head bases metaclass members before = (.ok own, declared) ∧
    stack tags (.cls own) declared = (.ok (), tagged) ∧ bind frame head.name.text (.cls own) tagged = (.ok (), after)

theorem define_inversion (frame : Frame) (head : ClassHead) (inner : Exec Unit) (world after : World)
    (done : define frame head inner world = (.ok (), after)) :
    ∃ tags evaluated, head.tags.mapM (evaluateTag frame) world = (.ok (tags.map .tag), evaluated) ∧
      Decorated frame head tags after := by
  obtain ⟨tags, evaluated, members, own, decorators, start, bases, metaclass, ended, declared, tagged, -, made, stacked,
    named⟩ := define_steps frame head inner world after done
  exact ⟨tags, evaluated, decorators, bases, metaclass, members, ended, own, declared, tagged, made, stacked, named⟩

theorem classes_after_bind (frame : Frame) (name : String) (value : Object) (world after : World)
    (done : bind frame name value world = (.ok (), after)) : after.classes = world.classes := by
  have kept : Keeps (fun now : World => now.classes = world.classes) (fun _ => True) (bind frame name value) := by
    refine keeps_modify _ fun now same => ?_
    split
    · exact same
    · split <;> exact same
  have same := (kept world rfl).1
  rwa [done] at same

-- The decorators of a class statement are the tags of its class, from top to bottom.
theorem tags_of_decorated (frame : Frame) (head : ClassHead) (tags : List Tag) (after : World)
    (decorated : Decorated frame head tags after) : ∃ own record, own + 1 = after.classes.size ∧
      after.class? own = some record ∧ record.name = head.name.text ∧ record.module = frame.module ∧
      record.tags = tags := by
  obtain ⟨bases, metaclass, members, before, own, declared, tagged, made, stacked, named⟩ := decorated
  rcases class_declared frame head bases metaclass members before with ⟨mishap, failed⟩ |
    ⟨record, name, module, plain, -, added⟩
  · rw [failed] at made
    cases made
  · rw [added] at made
    cases made
    have present : { before with classes := before.classes.push record }.class? before.classes.size = some record :=
      Array.getElem?_push_size
    have classes := classes_after_bind _ _ _ _ _ named
    obtain ⟨-, rfl⟩ := (stack_iff _ _ (by rw [present]; rfl) tags tagged).mp stacked
    refine ⟨before.classes.size, { record with tags := tags ++ record.tags }, ?_, ?_, name, module,
      by rw [plain, List.append_nil]⟩
    · rw [classes, World.withTags, World.modifyClass, Array.size_modify, Array.size_push]
    · rw [World.class?, classes, ← World.class?, World.class_with_tags, if_pos rfl, present]
      rfl

end Exec

/-! ### Applications among declarations -/

-- What can be done with tags and classes.
inductive Deed where
  | apply (tag : Tag) (value : Object)
  | declare (frame : Frame) (head : ClassHead) (bases : List ClassId) (metaclass : Metaclass) (members : Bindings)

namespace Deed

def run : Deed → Exec Unit
  | apply tag value => Exec.applyTag tag value
  | declare frame head bases metaclass members => do
      let _ ← Exec.createClass frame head bases metaclass members

-- What comes of each of some deeds, and the world in the end. A deed that fails does not keep the others from being
-- done.
def perform : List Deed → World → List (Deed × Except Mishap Unit) × World
  | [], world => ([], world)
  | deed :: rest, world =>
      let (result, after) := deed.run world
      let (told, ended) := perform rest after
      ((deed, result) :: told, ended)

-- The tag that a deed put on a class.
def puts (id : ClassId) : Deed × Except Mishap Unit → Option Tag
  | (apply tag (.cls other), .ok ()) => if other = id then some tag else none
  | _ => none

-- The tags that were put on a class, the first one first.
def putOn (id : ClassId) (told : List (Deed × Except Mishap Unit)) : List Tag := told.filterMap (puts id)

-- A tag is applied to a class only when there is one.
def Grounded (world : World) : Deed → Prop
  | apply _ (.cls id) => (world.class? id).isSome = true
  | _ => True

def Sound : List Deed → World → Prop
  | [], _ => True
  | deed :: rest, world => deed.Grounded world ∧ Sound rest (deed.run world).2

section

variable (id : ClassId)

-- One deed puts in front what it says that it put on the class.
theorem tags_of_run (deed : Deed) (world : World) (grounded : deed.Grounded world) :
    (deed.run world).2.tagsOf id = (puts id (deed, (deed.run world).1)).toList ++ world.tagsOf id := by
  cases deed with
  | apply tag value =>
      rcases Exec.apply_cases tag world value with ⟨mishap, failed⟩ | ⟨own, rfl, done⟩
      · rw [run, failed]
        cases value <;> rfl
      · rw [run, done]
        by_cases same : own = id
        · subst same
          simp only [puts, if_pos, Option.toList_some]
          exact world.tags_of_own own [tag] grounded
        · simp only [puts, if_neg same, Option.toList_none, List.nil_append]
          exact world.tags_of_other own [tag] id same
  | declare frame head bases metaclass members =>
      rcases Exec.class_declared frame head bases metaclass members world with ⟨mishap, failed⟩ |
        ⟨record, -, -, plain, -, added⟩
      · rw [run, bind_error failed]
        rfl
      · rw [run, bind_ok added]
        exact world.tags_of_pushed id record plain

theorem tags_of_perform (deeds : List Deed) (world : World) (sound : Sound deeds world) :
    (perform deeds world).2.tagsOf id = (putOn id (perform deeds world).1).reverse ++ world.tagsOf id := by
  induction deeds generalizing world with
  | nil => rfl
  | cons deed rest ih =>
      change (perform rest (deed.run world).2).2.tagsOf id =
        (putOn id ((deed, (deed.run world).1) :: (perform rest (deed.run world).2).1)).reverse ++ world.tagsOf id
      rw [ih (deed.run world).2 sound.2, tags_of_run id deed world sound.1, putOn, putOn, List.filterMap_cons]
      cases puts id (deed, (deed.run world).1) <;> simp

-- What a deed puts on a class is of another type than all that the class has.
theorem fresh_of_puts (deed : Deed) (world : World) (tag : Tag) (put : puts id (deed, (deed.run world).1) = some tag) :
    ∀ other ∈ world.tagsOf id, other.type.id ≠ tag.type.id := by
  cases deed with
  | declare frame head bases metaclass members => cases put
  | apply given value =>
      cases value with
      | cls own =>
          cases done : Exec.applyTag given (.cls own) world with
          | mk result after =>
              rw [run, done] at put
              cases result with
              | error mishap => cases put
              | ok _ =>
                  obtain ⟨same, applied⟩ := Option.ite_none_right_eq_some.mp put
                  cases applied
                  exact same ▸ ((Exec.apply_ok_iff tag own world after).mp done).1
      | _ => cases put

theorem distinct_after_perform (deeds : List Deed) (world : World) (sound : Sound deeds world)
    (distinct : ((world.tagsOf id).map (·.type.id)).Nodup) :
    (((perform deeds world).2.tagsOf id).map (·.type.id)).Nodup := by
  induction deeds generalizing world with
  | nil => exact distinct
  | cons deed rest ih =>
      refine ih (deed.run world).2 sound.2 ?_
      rw [tags_of_run id deed world sound.1]
      cases put : puts id (deed, (deed.run world).1) with
      | none => exact distinct
      | some tag =>
          refine List.nodup_cons.mpr ⟨fun member => ?_, distinct⟩
          obtain ⟨other, present, same⟩ := List.mem_map.mp member
          exact fresh_of_puts id deed world tag put other present same

end

theorem perform_append (first rest : List Deed) (world : World) :
    (perform (first ++ rest) world).2 = (perform rest (perform first world).2).2 := by
  induction first generalizing world with
  | nil => rfl
  | cons deed more ih => exact ih (deed.run world).2

theorem grown_run (deed : Deed) (world : World) : Grown world (deed.run world).2 := by
  cases deed with
  | apply tag value => exact Exec.grown_apply tag world value
  | declare frame head bases metaclass members =>
      rcases Exec.class_declared frame head bases metaclass members world with ⟨mishap, failed⟩ |
        ⟨record, -, -, -, -, added⟩
      · rw [run, bind_error failed]
        exact grown_refl world
      · rw [run, bind_ok added]
        exact grown_push world record

theorem grown_perform (deeds : List Deed) (world : World) : Grown world (perform deeds world).2 := by
  induction deeds generalizing world with
  | nil => exact grown_refl world
  | cons deed rest ih => exact grown_trans (grown_run deed world) (ih (deed.run world).2)

-- What the tags of a class are after some deeds, and what comes of the next application.
structure Holds (told : List (Deed × Except Mishap Unit)) (ended : World) (id : ClassId) : Prop where
  tags : ended.tagsOf id = (putOn id told).reverse
  inspected : (ended.metadata id).tags = ended.tagsOf id
  distinct : ((putOn id told).map (·.type.id)).Nodup
  repeated : ∀ tag, (∃ message after, Exec.applyTag tag (.cls id) ended =
    (.error { kind := "ValueError", message }, after)) ↔ ∃ other ∈ putOn id told, other.type.id = tag.type.id
  accepted : ∀ tag, id ≠ World.objectId → (∀ other ∈ putOn id told, other.type.id ≠ tag.type.id) →
    (Exec.applyTag tag (.cls id) ended).1 = .ok ()
  classesOnly : ∀ tag value, (∀ other, value ≠ .cls other) →
    ∃ message after, Exec.applyTag tag value ended = (.error { kind := "TypeError", message }, after)
  failed : ∀ tag value mishap after, Exec.applyTag tag value ended = (.error mishap, after) → after = ended
  apart : ∀ tag other, other ≠ id → (Exec.applyTag tag (.cls id) ended).2.tagsOf other = ended.tagsOf other
  stacked : ∀ frame head inner after, Exec.define frame head inner ended = (.ok (), after) →
    ∃ tags own record, (head.tags.mapM (Exec.evaluateTag frame) ended).1 = .ok (tags.map .tag) ∧
      own + 1 = after.classes.size ∧ after.class? own = some record ∧ record.name = head.name.text ∧
      after.tagsOf own = tags

theorem tags_as_put_on (world : World) (deeds : List Deed) (sound : Sound deeds world) (id : ClassId)
    (untagged : world.tagsOf id = []) : Holds (perform deeds world).1 (perform deeds world).2 id := by
  have tags := tags_of_perform id deeds world sound
  rw [untagged, List.append_nil] at tags
  have distinct := distinct_after_perform id deeds world sound (by rw [untagged]; exact List.nodup_nil)
  have among (other : Tag) : other ∈ (perform deeds world).2.tagsOf id ↔ other ∈ putOn id (perform deeds world).1 := by
    rw [tags, List.mem_reverse]
  constructor
  case tags => exact tags
  case inspected => exact World.tags_of_metadata _ id
  case distinct => rwa [tags, List.map_reverse, List.nodup_reverse] at distinct
  case repeated =>
    intro tag
    simp only [Exec.value_error_iff, among]
  case accepted =>
    intro tag changeable new
    exact congrArg Prod.fst ((Exec.apply_ok_iff tag id _ _).mpr
      ⟨fun other member => new other ((among other).mp member), changeable, rfl⟩)
  case classesOnly => exact fun tag value other => ⟨_, _, Exec.apply_to_no_class tag _ value other⟩
  case failed => exact fun tag value mishap after => Exec.world_of_failed_application tag _ value mishap after
  case apart =>
    intro tag other different
    have elsewhere : Object.cls id ≠ .cls other := fun same => different (Object.cls.inj same).symm
    rw [World.tagsOf, World.tagsOf, Exec.class_after_apply tag other _ _ elsewhere]
  case stacked =>
    intro frame head inner after done
    obtain ⟨tags, evaluated, decorators, decorated⟩ := Exec.define_inversion frame head inner _ after done
    obtain ⟨own, record, last, found, name, -, held⟩ := Exec.tags_of_decorated frame head tags after decorated
    exact ⟨tags, own, record, by rw [decorators], last, found, name, by rw [World.tagsOf, found, ← held]; rfl⟩

-- A class, one derived from it, and a type of tags derived from a bundled one. The second tag of the bundled type is
-- refused, and so is a tag of what is not a class.
def plainParam : Tag :=
  .of { id := 10, name := "Param", family := .param, bundled := true, declaresMeta := false } 0
    [("name", .constant (.string "a"))]

def ownParam : Tag :=
  .of { id := 16, name := "Own", family := .param, bundled := false, declaresMeta := false } 1
    [("name", .constant (.string "b"))]

def mixedDeeds : List Deed := [
  .declare { module := "m" } { name := "Own" } [10] .plain [],
  .declare { module := "m" } { name := "Base" } [World.commandId] .abstractBase [],
  .apply plainParam (.cls 17),
  .declare { module := "m" } { name := "Derived" } [17] .abstractBase [],
  .apply ownParam (.cls 17),
  .apply plainParam (.cls 18),
  .apply plainParam (.cls 17),
  .apply plainParam (.function false)]

theorem mixed_tags_as_put_on :
    Sound mixedDeeds (World.initial {}) ∧ (World.initial {}).tagsOf 17 = [] ∧
    Holds (perform mixedDeeds (World.initial {})).1 (perform mixedDeeds (World.initial {})).2 17 ∧
    putOn 17 (perform mixedDeeds (World.initial {})).1 = [plainParam, ownParam] ∧
    (perform mixedDeeds (World.initial {})).2.tagsOf 17 = [ownParam, plainParam] ∧
    (perform mixedDeeds (World.initial {})).2.tagsOf 18 = [plainParam] := by
  have sound : Sound mixedDeeds (World.initial {}) :=
    ⟨trivial, trivial, rfl, trivial, rfl, rfl, rfl, trivial, trivial⟩
  exact ⟨sound, rfl, tags_as_put_on _ _ sound 17 rfl, rfl, rfl, rfl⟩

end Deed

end StubForge
