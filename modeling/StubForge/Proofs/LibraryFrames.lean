import StubForge.Library.Import
import StubForge.Proofs.ClassGrowth
import StubForge.Proofs.Keeping

set_option autoImplicit false

/-!
Running a part of a library changes the world in a few ways only. What these ways keep is kept by running statements
and by loading modules, whether they fail or not.
-/

namespace StubForge

-- Every change that running statements makes to a world keeps an invariant. The names in a module are changed only
-- where the module is one that may be changed.
structure Steady (invariant : World → Prop) (changeable : String → Prop) : Prop where
  scopes : ∀ world scopes, invariant world → invariant { world with scopes := scopes }
  tagged : ∀ world, invariant world → invariant { world with tagsMade := world.tagsMade + 1 }
  decorated : ∀ world id tag, invariant world →
    invariant (world.modifyClass id fun record => { record with tags := tag :: record.tags })
  registered : ∀ world id other, invariant world →
    invariant (world.modifyClass id fun record => { record with virtuals := record.virtuals ++ [other] })
  defined : ∀ world record, Founded world record → invariant world →
    invariant { world with classes := world.classes.push record }
  bound : ∀ world name change, changeable name → (∀ record, (change record).name = record.name) → invariant world →
    invariant (world.modifyModule name change)

theorem Steady.and {first second : World → Prop} {changeable : String → Prop} (one : Steady first changeable)
    (other : Steady second changeable) : Steady (fun world => first world ∧ second world) changeable where
  scopes world scopes holds := ⟨one.scopes world scopes holds.1, other.scopes world scopes holds.2⟩
  tagged world holds := ⟨one.tagged world holds.1, other.tagged world holds.2⟩
  decorated world id tag holds := ⟨one.decorated world id tag holds.1, other.decorated world id tag holds.2⟩
  registered world id added holds := ⟨one.registered world id added holds.1, other.registered world id added holds.2⟩
  defined world record founded holds :=
    ⟨one.defined world record founded holds.1, other.defined world record founded holds.2⟩
  bound world name change free kept holds :=
    ⟨one.bound world name change free kept holds.1, other.bound world name change free kept holds.2⟩

theorem steady_of_grown (first : World) (changeable : String → Prop) : Steady (Grown first) changeable where
  scopes _ _ grown := grown_trans grown (grown_of_same_classes rfl)
  tagged _ grown := grown_trans grown (grown_of_same_classes rfl)
  decorated world id _ grown := grown_trans grown (grown_modify world id _ fun _ => ⟨rfl, fun _ inside => inside⟩)
  registered world id _ grown :=
    grown_trans grown (grown_modify world id _ fun _ => ⟨rfl, fun _ inside => List.mem_append_left _ inside⟩)
  defined world record _ grown := grown_trans grown (grown_push world record)
  bound world name change _ _ grown :=
    grown_trans grown (grown_of_same_classes (World.classes_of_modify world name change))

-- Running a part of a library keeps an invariant.
abbrev Still {α : Type} (invariant : World → Prop) (steps : Exec α) : Prop := Keeps invariant (fun _ => True) steps

namespace Exec

section

variable {invariant : World → Prop}

theorem still_fail {α : Type} (kind message : String) : Still invariant (fail kind message : Exec α) :=
  keeps_throw _ trivial

-- Nothing that follows a failure is run.
theorem still_fail_then {α β : Type} (kind message : String) (next : α → Exec β) :
    Still invariant (fail kind message >>= next) :=
  still_fail kind message

theorem still_undefined {α : Type} (name : String) : Still invariant (undefined name : Exec α) :=
  still_fail _ _

theorem still_throw {α : Type} (mishap : Mishap) : Still invariant (throw mishap : Exec α) :=
  keeps_throw _ trivial

theorem still_lookup (frame : Frame) (name : String) : Still invariant (lookup? frame name) :=
  keeps_read fun _ _ => keeps_pure _

theorem still_member_of (value : Object) (name : String) : Still invariant (memberOf value name) := by
  refine keeps_read fun world holds => ?_
  repeat' split
  all_goals first | exact keeps_pure _ | exact still_fail _ _

theorem still_evaluate (frame : Frame) (expression : String) : Still invariant (evaluate frame expression) := by
  unfold evaluate
  split
  · exact still_undefined _
  · refine keeps_bind (still_lookup _ _) fun found => ?_
    split
    · exact still_undefined _
    · exact keeps_fold _ still_member_of

theorem still_absolute_name (frame : Frame) (name : String) : Still invariant (absoluteName frame name) := by
  unfold absoluteName
  dsimp only
  split
  · exact keeps_pure _
  · refine keeps_read fun world holds => ?_
    repeat' split
    all_goals first | exact still_fail _ _ | exact keeps_pure _

theorem still_outcome {block : Exec Unit} (still : Still invariant block) : Still invariant (outcome block) :=
  keeps_catch _ (keeps_bind still fun _ => keeps_pure _) fun _ _ => keeps_pure _

theorem still_handles (frame : Frame) (handler : Option String) (mishap : Mishap) :
    Still invariant (handles frame handler mishap) := by
  unfold handles
  split
  · exact keeps_pure _
  · refine keeps_bind (still_lookup _ _) fun found => ?_
    repeat' split
    all_goals first | exact still_fail _ _ | exact keeps_pure _

theorem still_first_handler (frame : Frame) (mishap : Mishap) (handlers : List (Option String × Exec Unit))
    (still : ∀ handler ∈ handlers, Still invariant handler.2) :
    Still invariant (firstHandler frame mishap handlers) := by
  induction handlers with
  | nil => exact still_throw _
  | cons handler rest ih =>
      rw [firstHandler]
      refine keeps_bind (still_handles _ _ _) fun fits => keeps_if (still handler List.mem_cons_self) ?_
      exact ih fun other inside => still other (List.mem_cons_of_mem _ inside)

theorem still_in_group {handler : Exec Unit} (still : Still invariant handler) : Still invariant (inGroup handler) := by
  refine keeps_bind (still_outcome still) fun result => ?_
  split
  · exact keeps_pure _
  · exact still_fail _ _

theorem still_attempt (frame : Frame) {body orelse cleanup : Exec Unit} (handlers : List (Option String × Exec Unit))
    (first : Still invariant body) (caught : ∀ handler ∈ handlers, Still invariant handler.2)
    (other : Still invariant orelse) (last : Still invariant cleanup) :
    Still invariant (attempt frame body handlers orelse cleanup) := by
  refine keeps_bind (still_outcome (keeps_bind (still_outcome first) fun result => ?_)) fun result =>
    keeps_bind last fun _ => ?_
  · split
    · exact other
    · exact still_first_handler _ _ _ caught
  · split
    · exact still_throw _
    · exact keeps_pure _

end

/-! ### What classes are made as -/

theorem protocol_of_join (winner other : Metaclass) (joined : joinMetaclass winner other = some .protocolBase) :
    winner = .protocolBase ∨ other = .protocolBase := by
  cases winner <;> cases other <;> simp [joinMetaclass] at joined ⊢

-- What a class is made as after one more base has been looked at.
def joinBase (world : World) (winner : Metaclass) : Object → Except String Metaclass
  | .cls id => ((joinMetaclass winner (world.metaclassOf id)).map Except.ok).getD (.error conflictText)
  | _ => .ok winner

theorem protocol_of_join_base (world : World) (winner : Metaclass) (base : Object)
    (made : joinBase world winner base = .ok .protocolBase) :
    winner = .protocolBase ∨ ∃ id, base = .cls id ∧ world.metaclassOf id = .protocolBase := by
  cases base with
  | cls id =>
      rw [joinBase] at made
      cases next : joinMetaclass winner (world.metaclassOf id) with
      | none => simp [next] at made
      | some joint =>
          rw [next] at made
          refine (protocol_of_join winner _ ?_).imp_right fun own => ⟨id, rfl, own⟩
          rw [next, Except.ok.inj made]
  | constant value => exact .inl (Except.ok.inj made)
  | module name => exact .inl (Except.ok.inj made)
  | function declared => exact .inl (Except.ok.inj made)
  | «instance» name => exact .inl (Except.ok.inj made)

-- By induction on the bases that are left: a class is made as protocols are only where one of its bases is.
theorem protocol_among (world : World) (bases : List Object) (winner : Metaclass)
    (made : bases.foldlM (joinBase world) winner = .ok .protocolBase) :
    winner = .protocolBase ∨ ∃ base ∈ classIds bases, world.metaclassOf base = .protocolBase := by
  induction bases generalizing winner with
  | nil => exact .inl (Except.ok.inj made)
  | cons base rest ih =>
      rw [List.foldlM_cons] at made
      cases first : joinBase world winner base with
      | error text =>
          rw [first] at made
          cases made
      | ok next =>
          rw [first] at made
          rcases ih next made with same | ⟨other, member, own⟩
          · rcases protocol_of_join_base world winner base (same ▸ first) with before | ⟨id, rfl, own⟩
            · exact .inl before
            · exact .inr ⟨id, by simp [classIds], own⟩
          · refine .inr ⟨other, ?_, own⟩
            rw [classIds, List.filterMap_cons]
            split
            · exact member
            · exact List.mem_cons_of_mem _ member

theorem protocol_among_bases (world : World) (bases : List Object)
    (made : basesMetaclass world bases = .ok .protocolBase) :
    ∃ base ∈ classIds bases, world.metaclassOf base = .protocolBase := by
  have folded : basesMetaclass world bases = bases.foldlM (joinBase world) .plain := by
    rw [basesMetaclass]
    congr 1
  exact (protocol_among world bases .plain (folded ▸ made)).resolve_left (by simp)

theorem known_of_metaclass (world : World) (id : ClassId) (same : world.metaclassOf id = .protocolBase) :
    (world.class? id).isSome = true := by
  rw [World.metaclassOf] at same
  cases found : world.class? id with
  | none => simp [found] at same
  | some record => rfl

-- What a class says of being a protocol is found among its members when it is one.
theorem marked_of_protocol (name : String) (members : Bindings) (order : List ClassId) (direct : Bool)
    (inside : World.protocolId ∈ order) :
    (World.lookup "_is_protocol" (if Metaclass.protocolBase = .enumeration then enumMembers name members
      else if order.contains World.protocolId &&
          !((World.lookup "_is_protocol" members).map World.isTruthy).getD false then
        Json.setMember "_is_protocol" (.constant (.bool direct)) members
      else members)).isSome = true := by
  rw [if_neg (by simp)]
  split
  · rw [World.lookup, Json.find_set_member, if_pos rfl]
    rfl
  · rename_i plain
    cases held : World.lookup "_is_protocol" members with
    | none => simp [held, inside] at plain
    | some value => rfl

/-! ### Changes -/

section

variable {invariant : World → Prop} {changeable : String → Prop} (steady : Steady invariant changeable)
include steady

theorem holds_after_binding (world : World) (name : String) (record : ModuleRecord) (globals : Bindings → Bindings)
    (free : changeable name) (found : world.module? name = some record) (holds : invariant world) :
    invariant (world.setModule { record with globals := globals record.globals }) := by
  have kept := steady.bound world name (fun record => { record with globals := globals record.globals }) free
    (fun _ => rfl) holds
  rwa [World.modifyModule, found] at kept

theorem still_bind (frame : Frame) (free : changeable frame.module) (name : String) (value : Object) :
    Still invariant (bind frame name value) := by
  refine keeps_modify _ fun world holds => ?_
  split
  · exact steady.scopes world _ holds
  · split
    · rename_i record found
      exact holds_after_binding steady world frame.module record (Json.setMember name value) free found holds
    · exact holds

theorem still_unbind (frame : Frame) (free : changeable frame.module) (name : String) :
    Still invariant (unbind frame name) := by
  refine keeps_read fun world holds => ?_
  dsimp only
  split
  · split
    · exact still_undefined _
    · exact keeps_set _ (steady.scopes world _ holds)
  · split
    · rename_i record found
      split
      · exact still_undefined _
      · exact keeps_set _ (holds_after_binding steady world frame.module record _ free found holds)
    · exact still_undefined _

/-! ### Tags -/

theorem still_make_tag (value : Object) (args : List TagField) (named : List (String × TagField)) :
    Still invariant (makeTag value args named) := by
  refine keeps_read fun world holds => ?_
  split
  · split
    · dsimp only
      split
      · exact keeps_bind (keeps_set _ (steady.tagged world holds)) fun _ => keeps_pure _
      · exact still_throw _
    · repeat' split
      all_goals exact still_fail _ _
  · exact still_fail _ _

omit steady in
mutual
theorem still_evaluate_tag (steady : Steady invariant changeable) (frame : Frame) :
    ∀ expression, Still invariant (evaluateTag frame expression)
  | .constant value => by
      rw [evaluateTag]
      exact keeps_pure _
  | .call type args named => by
      rw [evaluateTag]
      exact keeps_bind (still_evaluate _ _) fun _ => keeps_bind (still_evaluate_tags steady frame args) fun _ =>
        keeps_bind (still_evaluate_named steady frame named) fun _ =>
          keeps_bind (still_make_tag steady _ _ _) fun _ => keeps_pure _
termination_by structural expression => expression
theorem still_evaluate_tags (steady : Steady invariant changeable) (frame : Frame) :
    ∀ expressions, Still invariant (evaluateTags frame expressions)
  | [] => keeps_pure _
  | expression :: rest => by
      rw [evaluateTags]
      exact keeps_bind (still_evaluate_tag steady frame expression) fun _ =>
        keeps_bind (still_evaluate_tags steady frame rest) fun _ => keeps_pure _
termination_by structural expressions => expressions
theorem still_evaluate_named (steady : Steady invariant changeable) (frame : Frame) :
    ∀ named, Still invariant (evaluateNamed frame named)
  | [] => keeps_pure _
  | (name, expression) :: rest => by
      rw [evaluateNamed]
      exact keeps_bind (still_evaluate_tag steady frame expression) fun _ =>
        keeps_bind (still_evaluate_named steady frame rest) fun _ => keeps_pure _
termination_by structural named => named
end

theorem still_apply_tag (tag : Tag) (value : Object) : Still invariant (applyTag tag value) := by
  refine keeps_read fun world holds => ?_
  split
  · dsimp only
    split
    · exact still_fail _ _
    · exact keeps_if (still_fail _ _) (keeps_set _ (steady.decorated world _ tag holds))
  · exact still_fail _ _

/-! ### Classes -/

theorem still_create_class (frame : Frame) (head : ClassHead) (bases : List ClassId) (metaclass : Metaclass)
    (members : Bindings) (inherited : ∀ world, invariant world → metaclass = .protocolBase →
      ∃ base ∈ bases, world.metaclassOf base = .protocolBase) :
    Still invariant (createClass frame head bases metaclass members) := by
  refine keeps_read fun world holds => ?_
  have protocol : metaclass = .protocolBase → ∃ base ∈ (if bases.isEmpty then [World.objectId] else bases),
      world.metaclassOf base = .protocolBase := by
    intro kind
    obtain ⟨base, member, same⟩ := inherited world holds kind
    exact ⟨base, by rwa [if_neg (by simp [List.ne_nil_of_mem member])], same⟩
  dsimp only
  generalize (if bases.isEmpty then [World.objectId] else bases) = bases at protocol ⊢
  split
  · exact still_fail _ _
  · rename_i order resolved
    have last (record : ClassRecord) (own : record.order = world.classes.size :: order) (derived : record.bases = bases)
        (kind : record.metaclass = metaclass)
        (marked : metaclass = .protocolBase → World.protocolId ∈ order →
          (World.lookup "_is_protocol" record.members).isSome = true) :
        Still invariant (do set { world with classes := world.classes.push record }; return world.classes.size) := by
      have founded : Founded world record :=
        ⟨⟨order, own, derived ▸ world.mem_ancestor_order _ _ resolved, kind ▸ marked⟩, derived ▸ kind ▸ protocol⟩
      exact keeps_bind (keeps_set _ (steady.defined world record founded holds)) fun _ => keeps_pure _
    have marked (direct : Bool) := fun (kind : metaclass = .protocolBase) (inside : World.protocolId ∈ order) =>
      kind ▸ marked_of_protocol head.name.text members order direct inside
    split
    · exact still_fail_then _ _ _
    · split
      · split
        · exact still_fail_then _ _ _
        · exact last _ rfl rfl rfl (marked _)
      · exact last _ rfl rfl rfl (marked _)

theorem still_in_scope {body : Exec Unit} (still : Still invariant body) : Still invariant (inScope body) := by
  refine keeps_read fun outer _ => keeps_bind (keeps_modify _ fun world holds => steady.scopes world _ holds) fun _ =>
    keeps_bind (still_outcome still) fun result => keeps_read fun inner _ =>
      keeps_bind (keeps_modify _ fun world holds => steady.scopes world _ holds) fun _ => ?_
  split
  · exact still_throw _
  · exact keeps_pure _

theorem still_bind_methods (frame : Frame) (free : changeable frame.module) (head : ClassHead) :
    Still invariant (bindMethods frame head) :=
  keeps_bind (keeps_each fun _ => still_bind steady _ free _ _) fun _ =>
    keeps_bind (keeps_each fun _ => still_bind steady _ free _ _) fun _ =>
      keeps_each fun _ => still_bind steady _ free _ _

-- The body of a class also keeps what classes there were when it was begun.
theorem still_define (frame : Frame) (free : changeable frame.module) (head : ClassHead) {inner : Exec Unit}
    (still : ∀ first, Still (fun world => invariant world ∧ Grown first world) inner) :
    Still invariant (define frame head inner) := by
  refine keeps_bind (keeps_map_each (still_evaluate_tag steady frame)) fun decorators =>
    keeps_bind (keeps_map_each (still_evaluate frame)) fun bases => keeps_read_on Grown grown_refl fun world holds => ?_
  have both := steady.and (steady_of_grown world changeable)
  dsimp only
  split
  · exact still_fail _ _
  · rename_i metaclass joined
    have inside := still_in_scope both (keeps_bind (still_bind_methods both _ free head) fun _ => still world)
    have inherited : ∀ later, invariant later ∧ Grown world later → metaclass = .protocolBase →
        ∃ base ∈ classIds bases, later.metaclassOf base = .protocolBase := by
      intro later ⟨_, grown⟩ kind
      obtain ⟨base, member, same⟩ := protocol_among_bases world bases (kind ▸ joined)
      exact ⟨base, member, (World.metaclass_of_known grown base (known_of_metaclass world base same)).trans same⟩
    repeat' split
    all_goals first
      | exact still_fail_then _ _ _
      | exact keeps_bind inside fun _ => still_fail _ _
      | refine keeps_bind inside fun _ => keeps_bind (still_create_class both _ _ _ _ _ inherited) fun id =>
          keeps_bind (keeps_each fun decorator => ?_) fun _ => still_bind both _ free _ _
    all_goals
      split
      · exact still_apply_tag both _ _
      · exact still_fail _ _
      · exact keeps_pure _

/-! ### Statements -/

theorem still_register (base virtual : Object) : Still invariant (register base virtual) := by
  refine keeps_read fun world holds => ?_
  dsimp only
  repeat' split
  all_goals first
    | exact still_fail _ _
    | exact still_fail_then _ _ _
    | exact keeps_pure _
    | exact keeps_set _ (steady.registered world _ _ holds)

theorem still_from_import {load : String → Exec Unit} (still : ∀ name, Still invariant (load name)) (frame : Frame)
    (free : changeable frame.module) (module name : String) : Still invariant (fromImport load frame module name) := by
  refine keeps_bind (still_absolute_name _ _) fun module => keeps_bind (still module) fun _ => ?_
  dsimp only
  split
  · refine keeps_read fun world _ => keeps_each fun entry => ?_
    split
    · exact keeps_pure _
    · exact still_bind steady _ free _ _
  · have found : Still invariant (do
        let world ← get
        return (world.module? module).bind fun record => World.lookup name record.globals) :=
      keeps_read fun _ _ => keeps_pure _
    refine keeps_bind found fun value => ?_
    split
    · exact still_bind steady _ free _ _
    · refine keeps_read fun world _ => ?_
      split
      · refine keeps_bind (keeps_catch _ (still _) fun mishap _ => keeps_if (keeps_pure _) (still_throw _)) fun _ => ?_
        refine keeps_read fun world _ => keeps_bind found fun value => ?_
        split
        · exact still_bind steady _ free _ _
        · exact still_bind steady _ free _ _
        · exact still_fail _ _
      · refine keeps_read fun world _ => keeps_bind found fun value => ?_
        split
        · exact still_bind steady _ free _ _
        · exact still_bind steady _ free _ _
        · exact still_fail _ _

-- Running statements keeps every invariant that loading modules keeps, as long as loading also keeps the classes.
omit steady in
mutual
theorem still_run {load : String → Exec Unit} (grows : ∀ first name, Still (Grown first) (load name)) :
    ∀ (statement : Statement) {invariant : World → Prop}, Steady invariant changeable →
      (∀ name, Still invariant (load name)) → ∀ frame : Frame, changeable frame.module →
        Still invariant (run load frame statement)
  | .define head inner, _, steady, still, frame, free => by
      rw [run]
      refine still_define steady _ free _ fun first => ?_
      exact still_run_all grows inner (steady.and (steady_of_grown first changeable))
        (fun name => keeps_and (still name) (grows first name)) { frame with classes := _ } free
  | .branch condition body orelse, _, steady, still, frame, free => by
      rw [run]
      exact keeps_if (still_run_all grows body steady still _ free) (still_run_all grows orelse steady still _ free)
  | .attempt grouped body handlers orelse cleanup, _, steady, still, frame, free => by
      rw [run]
      exact still_attempt _ _ (still_run_all grows body steady still _ free)
        (still_run_handlers grows handlers steady still frame free grouped)
        (still_run_all grows orelse steady still _ free) (still_run_all grows cleanup steady still _ free)
  | .once body, _, steady, still, frame, free => by
      rw [run]
      exact still_run_all grows body steady still _ free
  | .function name _, _, steady, still, frame, free => by
      rw [run]
      exact still_bind steady _ free _ _
  | .fromImport module name, _, steady, still, frame, free => by
      rw [run]
      exact still_from_import steady still _ free _ _
  | .importModule module, _, steady, still, frame, free => by
      rw [run]
      exact keeps_bind (still module) fun _ => still_bind steady _ free _ _
  | .raise exception message, _, steady, still, frame, free => by
      rw [run]
      refine keeps_bind (still_lookup _ _) fun found => ?_
      repeat' split
      all_goals exact still_throw _
  | .assign name value, _, steady, still, frame, free => by
      rw [run]
      exact still_bind steady _ free _ _
  | .rebind name expression, _, steady, still, frame, free => by
      rw [run]
      exact keeps_bind (still_evaluate _ _) fun _ => still_bind steady _ free _ _
  | .delete name, _, steady, still, frame, free => by
      rw [run]
      exact still_unbind steady _ free _
  | .register base virtual, _, steady, still, frame, free => by
      rw [run]
      exact keeps_bind (still_evaluate _ _) fun _ => keeps_bind (still_evaluate _ _) fun _ => still_register steady _ _
termination_by structural statement => statement
theorem still_run_all {load : String → Exec Unit} (grows : ∀ first name, Still (Grown first) (load name)) :
    ∀ (statements : List Statement) {invariant : World → Prop}, Steady invariant changeable →
      (∀ name, Still invariant (load name)) → ∀ frame : Frame, changeable frame.module →
        Still invariant (runAll load frame statements)
  | [], _, _, _, _, _ => keeps_pure _
  | statement :: rest, _, steady, still, frame, free => by
      rw [runAll]
      exact keeps_bind (still_run grows statement steady still frame free) fun _ =>
        still_run_all grows rest steady still frame free
termination_by structural statements => statements
theorem still_run_handlers {load : String → Exec Unit} (grows : ∀ first name, Still (Grown first) (load name)) :
    ∀ (handlers : List (Option String × List Statement)) {invariant : World → Prop}, Steady invariant changeable →
      (∀ name, Still invariant (load name)) → ∀ frame : Frame, changeable frame.module → ∀ grouped : Bool,
        ∀ handler ∈ runHandlers load frame grouped handlers, Still invariant handler.2
  | [], _, _, _, _, _, _ => by simp [runHandlers]
  | (name, body) :: rest, _, steady, still, frame, free, grouped => by
      rw [runHandlers, List.forall_mem_cons]
      refine ⟨?_, still_run_handlers grows rest steady still frame free grouped⟩
      dsimp only
      split
      · exact still_in_group (still_run_all grows body steady still frame free)
      · exact still_run_all grows body steady still frame free
termination_by structural handlers => handlers
end

end

end Exec

end StubForge
