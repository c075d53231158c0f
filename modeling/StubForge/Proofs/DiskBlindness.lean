import StubForge.Proofs.DiskReading
import StubForge.Proofs.Imports

set_option autoImplicit false

/-!
Running a library looks at the disk for one thing: to find the modules that it loads. On another disk on which the same
modules are found, it comes to the same.
-/

namespace StubForge

/-! ### Two programs in step -/

section

variable {ε σ α β : Type}

-- From related states, two programs come to the same, and to related states.
def InStep (related : σ → σ → Prop) (steps twin : ExceptT ε (StateM σ) α) : Prop :=
  ∀ state other, related state other →
    (steps state).1 = (twin other).1 ∧ related (steps state).2 (twin other).2

variable {related : σ → σ → Prop}

theorem in_step_pure (value : α) : InStep related (pure value : ExceptT ε (StateM σ) α) (pure value) :=
  fun _ _ begins => ⟨rfl, begins⟩

theorem in_step_throw (error : ε) : InStep related (throw error : ExceptT ε (StateM σ) α) (throw error) :=
  fun _ _ begins => ⟨rfl, begins⟩

theorem in_step_bind {block twin : ExceptT ε (StateM σ) α} {next next' : α → ExceptT ε (StateM σ) β}
    (first : InStep related block twin) (rest : ∀ value, InStep related (next value) (next' value)) :
    InStep related (block >>= next) (twin >>= next') := by
  intro state other begins
  rw [bind_run, bind_run]
  obtain ⟨same, still⟩ := first state other begins
  generalize block state = left at same still
  generalize twin other = right at same still
  obtain ⟨result, after⟩ := left
  obtain ⟨result', after'⟩ := right
  cases same
  cases result with
  | ok value => exact rest value after after' still
  | error error => exact ⟨rfl, still⟩

theorem in_step_get {next next' : σ → ExceptT ε (StateM σ) α}
    (rest : ∀ state other, related state other → InStep related (next state) (next' other)) :
    InStep related ((get : ExceptT ε (StateM σ) σ) >>= next) ((get : ExceptT ε (StateM σ) σ) >>= next') :=
  fun state other begins => rest state other begins state other begins

theorem in_step_set (state other : σ) (last : related state other) :
    InStep related (set state : ExceptT ε (StateM σ) PUnit) (set other) :=
  fun _ _ _ => ⟨rfl, last⟩

theorem in_step_modify (change change' : σ → σ)
    (still : ∀ state other, related state other → related (change state) (change' other)) :
    InStep related (modify change : ExceptT ε (StateM σ) PUnit) (modify change') :=
  fun state other begins => ⟨rfl, still state other begins⟩

theorem in_step_if {condition : Prop} [Decidable condition] {yes yes' no no' : ExceptT ε (StateM σ) α}
    (left : InStep related yes yes') (right : InStep related no no') :
    InStep related (if condition then yes else no) (if condition then yes' else no') := by
  split
  · exact left
  · exact right

theorem in_step_catch {block twin : ExceptT ε (StateM σ) α} {handle handle' : ε → ExceptT ε (StateM σ) α}
    (first : InStep related block twin) (caught : ∀ error, InStep related (handle error) (handle' error)) :
    InStep related (tryCatch block handle) (tryCatch twin handle') := by
  intro state other begins
  rw [try_catch_run, try_catch_run]
  obtain ⟨same, still⟩ := first state other begins
  generalize block state = left at same still
  generalize twin other = right at same still
  obtain ⟨result, after⟩ := left
  obtain ⟨result', after'⟩ := right
  cases same
  cases result with
  | ok value => exact ⟨rfl, still⟩
  | error error => exact caught error after after' still

end

/-! ### Worlds on two disks -/

-- On two disks the same is found in places of a kind, and what is found there leads to such places again.
structure Import.Agree (first other : Disk) (good : String → Prop) : Prop where
  joined : ∀ entry text, good entry → good (entry ++ "/" ++ text)
  archived : ∀ entry, good entry → archiveAbove other [] (Path.ofString entry).parts =
    archiveAbove first [] (Path.ofString entry).parts
  searched : ∀ name parts places, (∀ entry ∈ places, good entry) →
    search other name parts places = search first name parts places

namespace World

-- Modules are looked for in places of a kind only.
structure Confined (first : Disk) (good : String → Prop) (world : World) : Prop where
  disk : world.disk = first
  path : ∀ entry ∈ world.path, good entry
  places : ∀ name record, world.module? name = some record → ∀ places, record.searchPath = some places →
    ∀ entry ∈ places, good entry

def Moved (first other : Disk) (good : String → Prop) (world twin : World) : Prop :=
  Confined first good world ∧ twin = world.onto other

section

variable {first other : Disk} {good : String → Prop} {world : World} (confined : Confined first good world)
include confined

theorem confined_of_same (later : World) (disk : later.disk = world.disk) (path : later.path = world.path)
    (modules : later.modules = world.modules) : Confined first good later where
  disk := disk.trans confined.disk
  path := path ▸ confined.path
  places name record found := by
    refine confined.places name record ?_
    rwa [module?, ← modules]

theorem confined_set_module (record : ModuleRecord)
    (places : ∀ places, record.searchPath = some places → ∀ entry ∈ places, good entry) :
    Confined first good (world.setModule record) where
  disk := confined.disk
  path := confined.path
  places name other found := by
    rw [module_of_set] at found
    split at found
    · cases found
      exact places
    · exact confined.places name other found

theorem confined_modify_module (name : String) (change : ModuleRecord → ModuleRecord)
    (kept : ∀ record, (change record).searchPath = record.searchPath) :
    Confined first good (world.modifyModule name change) := by
  rw [modifyModule]
  split
  · rename_i record found
    exact confined_set_module confined _ fun places same =>
      confined.places name record found places ((kept record).symm.trans same)
  · exact confined

theorem confined_forget_module (name : String) : Confined first good (world.forgetModule name) where
  disk := confined.disk
  path := confined.path
  places other record found := by
    rw [module_of_forget] at found
    split at found
    · cases found
    · exact confined.places other record found

end

end World

namespace Exec

section

variable {first other : Disk} {good : String → Prop}

-- Steps of a library that come to the same on another disk.
abbrev Blind (first other : Disk) (good : String → Prop) {α : Type} (steps : Exec α) : Prop :=
  InStep (World.Moved first other good) steps steps

-- What is read from the world but for its disk.
theorem blind_read {α : Type} {next : World → Exec α} (same : ∀ world, next (World.onto other world) = next world)
    (rest : ∀ world, World.Confined first good world → Blind first other good (next world)) :
    Blind first other good (get >>= next) := by
  refine in_step_get ?_
  rintro world _ ⟨confined, rfl⟩
  rw [same]
  exact rest world confined

theorem blind_fail {α : Type} (kind message : String) : Blind first other good (fail kind message : Exec α) :=
  in_step_throw _

-- Nothing that follows a failure is run.
theorem blind_fail_then {α β : Type} (kind message : String) (next next' : α → Exec β) :
    InStep (World.Moved first other good) (fail kind message >>= next) (fail kind message >>= next') :=
  blind_fail kind message

theorem blind_fold {α β : Type} {next : β → α → Exec β} (values : List α) (value : β)
    (each : ∀ value item, Blind first other good (next value item)) :
    Blind first other good (values.foldlM next value) := by
  induction values generalizing value with
  | nil => exact in_step_pure _
  | cons item rest ih => exact in_step_bind (each _ _) fun _ => ih _

theorem blind_map_each {α β : Type} {make : α → Exec β} (values : List α)
    (each : ∀ value, Blind first other good (make value)) : Blind first other good (values.mapM make) := by
  induction values with
  | nil => exact in_step_pure _
  | cons value rest ih =>
      rw [List.mapM_cons]
      exact in_step_bind (each _) fun _ => in_step_bind ih fun _ => in_step_pure _

theorem blind_each {α : Type} {make : α → Exec PUnit} (values : List α)
    (each : ∀ value, Blind first other good (make value)) : Blind first other good (values.forM make) := by
  induction values with
  | nil => exact in_step_pure _
  | cons value rest ih => exact in_step_bind (each _) fun _ => ih

theorem blind_lookup (frame : Frame) (name : String) : Blind first other good (lookup? frame name) :=
  blind_read (fun _ => rfl) fun _ _ => in_step_pure _

theorem blind_member_of (value : Object) (name : String) : Blind first other good (memberOf value name) := by
  refine blind_read (fun _ => rfl) fun world _ => ?_
  repeat' split
  all_goals first | exact in_step_pure _ | exact blind_fail _ _

theorem blind_evaluate (frame : Frame) (expression : String) : Blind first other good (evaluate frame expression) := by
  unfold evaluate
  split
  · exact blind_fail _ _
  · refine in_step_bind (blind_lookup _ _) fun found => ?_
    split
    · exact blind_fail _ _
    · exact blind_fold _ _ blind_member_of

theorem blind_absolute_name (frame : Frame) (name : String) : Blind first other good (absoluteName frame name) := by
  unfold absoluteName
  dsimp only
  split
  · exact in_step_pure _
  · refine blind_read (fun _ => rfl) fun world _ => ?_
    repeat' split
    all_goals first | exact blind_fail _ _ | exact in_step_pure _

theorem blind_outcome {block : Exec Unit} (blind : Blind first other good block) : Blind first other good (outcome block) :=
  in_step_catch (in_step_bind blind fun _ => in_step_pure _) fun _ => in_step_pure _

theorem blind_handles (frame : Frame) (handler : Option String) (mishap : Mishap) :
    Blind first other good (handles frame handler mishap) := by
  unfold handles
  split
  · exact in_step_pure _
  · refine in_step_bind (blind_lookup _ _) fun found => ?_
    repeat' split
    all_goals first | exact blind_fail _ _ | exact in_step_pure _

theorem blind_first_handler (frame : Frame) (mishap : Mishap) (handlers : List (Option String × Exec Unit))
    (blind : ∀ handler ∈ handlers, Blind first other good handler.2) :
    Blind first other good (firstHandler frame mishap handlers) := by
  induction handlers with
  | nil => exact in_step_throw _
  | cons handler rest ih =>
      rw [firstHandler]
      refine in_step_bind (blind_handles _ _ _) fun fits => in_step_if (blind handler List.mem_cons_self) ?_
      exact ih fun other inside => blind other (List.mem_cons_of_mem _ inside)

theorem blind_in_group {handler : Exec Unit} (blind : Blind first other good handler) :
    Blind first other good (inGroup handler) := by
  refine in_step_bind (blind_outcome blind) fun result => ?_
  split
  · exact in_step_pure _
  · exact blind_fail _ _

theorem blind_attempt (frame : Frame) {body orelse cleanup : Exec Unit} (handlers : List (Option String × Exec Unit))
    (inner : Blind first other good body) (caught : ∀ handler ∈ handlers, Blind first other good handler.2)
    (more : Blind first other good orelse) (last : Blind first other good cleanup) :
    Blind first other good (attempt frame body handlers orelse cleanup) := by
  refine in_step_bind (blind_outcome (in_step_bind (blind_outcome inner) fun result => ?_)) fun result =>
    in_step_bind last fun _ => ?_
  · split
    · exact more
    · exact blind_first_handler _ _ _ caught
  · split
    · exact in_step_throw _
    · exact in_step_pure _

/-! ### Changes -/

theorem blind_bind (frame : Frame) (name : String) (value : Object) : Blind first other good (bind frame name value) := by
  refine in_step_modify _ _ ?_
  rintro world _ ⟨confined, rfl⟩
  rw [World.onto_scopes, World.onto_module]
  cases world.scopes with
  | cons scope outer => exact ⟨World.confined_of_same confined _ rfl rfl rfl, rfl⟩
  | nil =>
      cases found : world.module? frame.module with
      | none => exact ⟨confined, rfl⟩
      | some record => exact ⟨World.confined_set_module confined _ (confined.places _ record found), rfl⟩

theorem blind_unbind (frame : Frame) (name : String) : Blind first other good (unbind frame name) := by
  refine in_step_get ?_
  rintro world _ ⟨confined, rfl⟩
  rw [World.onto_scopes, World.onto_module]
  cases world.scopes with
  | cons scope outer =>
      exact in_step_if (blind_fail _ _) (in_step_set _ _ ⟨World.confined_of_same confined _ rfl rfl rfl, rfl⟩)
  | nil =>
      cases found : world.module? frame.module with
      | none => exact blind_fail _ _
      | some record =>
          refine in_step_if (blind_fail _ _) (in_step_set _ _ ⟨World.confined_set_module confined _ ?_, rfl⟩)
          exact confined.places _ record found

theorem blind_make_tag (value : Object) (args : List TagField) (named : List (String × TagField)) :
    Blind first other good (makeTag value args named) := by
  refine in_step_get ?_
  rintro world _ ⟨confined, rfl⟩
  cases value with
  | cls id =>
      have fields : tagFields (World.onto other world) = tagFields world := rfl
      have type : tagTypeOf (World.onto other world) = tagTypeOf world := rfl
      dsimp only
      rw [World.onto_is_subtype, World.onto_is_abstract, World.onto_class, World.onto_name_of, World.onto_tags_made,
        fields, type]
      refine in_step_if ?_ (in_step_if (blind_fail _ _) (in_step_if (blind_fail _ _) (blind_fail _ _)))
      cases tagFields world (tagTypeOf world id) args named with
      | ok fields =>
          exact in_step_bind (in_step_set _ _ ⟨World.confined_of_same confined _ rfl rfl rfl, rfl⟩) fun _ =>
            in_step_pure _
      | error mishap => exact in_step_throw _
  | constant value => exact blind_fail _ _
  | module name => exact blind_fail _ _
  | function declared => exact blind_fail _ _
  | «instance» name => exact blind_fail _ _

mutual
theorem blind_evaluate_tag (frame : Frame) : ∀ expression, Blind first other good (evaluateTag frame expression)
  | .constant value => by
      rw [evaluateTag]
      exact in_step_pure _
  | .call type args named => by
      rw [evaluateTag]
      exact in_step_bind (blind_evaluate _ _) fun _ => in_step_bind (blind_evaluate_tags frame args) fun _ =>
        in_step_bind (blind_evaluate_named frame named) fun _ =>
          in_step_bind (blind_make_tag _ _ _) fun _ => in_step_pure _
termination_by structural expression => expression
theorem blind_evaluate_tags (frame : Frame) : ∀ expressions, Blind first other good (evaluateTags frame expressions)
  | [] => in_step_pure _
  | expression :: rest => by
      rw [evaluateTags]
      exact in_step_bind (blind_evaluate_tag frame expression) fun _ =>
        in_step_bind (blind_evaluate_tags frame rest) fun _ => in_step_pure _
termination_by structural expressions => expressions
theorem blind_evaluate_named (frame : Frame) : ∀ named, Blind first other good (evaluateNamed frame named)
  | [] => in_step_pure _
  | (name, expression) :: rest => by
      rw [evaluateNamed]
      exact in_step_bind (blind_evaluate_tag frame expression) fun _ =>
        in_step_bind (blind_evaluate_named frame rest) fun _ => in_step_pure _
termination_by structural named => named
end

theorem blind_apply_tag (tag : Tag) (value : Object) : Blind first other good (applyTag tag value) := by
  refine in_step_get ?_
  rintro world _ ⟨confined, rfl⟩
  rw [World.onto_class, World.onto_value_text]
  cases value with
  | cls id =>
      exact in_step_if (blind_fail _ _) (in_step_if (blind_fail _ _)
        (in_step_set _ _ ⟨World.confined_of_same confined _ rfl rfl rfl, rfl⟩))
  | constant value => exact blind_fail _ _
  | module name => exact blind_fail _ _
  | function declared => exact blind_fail _ _
  | «instance» name => exact blind_fail _ _

/-! ### Classes -/

theorem blind_create_class (frame : Frame) (head : ClassHead) (bases : List ClassId) (metaclass : Metaclass)
    (members : Bindings) : Blind first other good (createClass frame head bases metaclass members) := by
  refine in_step_get ?_
  rintro world _ ⟨confined, rfl⟩
  have unmet : nonProtocolBase (World.onto other world) = nonProtocolBase world := rfl
  have names : abstractNamesOf (World.onto other world) = abstractNamesOf world := rfl
  dsimp only
  rw [World.onto_ancestor_order, World.onto_classes, World.onto_class_text, unmet, names]
  cases world.ancestorOrder (if bases.isEmpty = true then [World.objectId] else bases) with
  | error fault => exact blind_fail _ _
  | ok order =>
      dsimp only
      have last (record : ClassRecord) : InStep (World.Moved first other good)
          (set { world with classes := world.classes.push record } : Exec PUnit)
          (set { World.onto other world with classes := world.classes.push record }) :=
        in_step_set _ _ ⟨World.confined_of_same confined _ rfl rfl rfl, rfl⟩
      refine in_step_if (blind_fail_then _ _ _ _) (in_step_if ?_ (in_step_bind (last _) fun _ => in_step_pure _))
      split
      · exact blind_fail_then _ _ _ _
      · exact in_step_bind (last _) fun _ => in_step_pure _

theorem blind_in_scope {body : Exec Unit} (blind : Blind first other good body) :
    Blind first other good (inScope body) := by
  refine blind_read (fun _ => rfl) fun outer _ => in_step_bind (in_step_modify _ _ ?_) fun _ =>
    in_step_bind (blind_outcome blind) fun result => blind_read (fun _ => rfl) fun inner _ =>
      in_step_bind (in_step_modify _ _ ?_) fun _ => ?_
  · rintro world _ ⟨confined, rfl⟩
    exact ⟨World.confined_of_same confined _ rfl rfl rfl, rfl⟩
  · rintro world _ ⟨confined, rfl⟩
    exact ⟨World.confined_of_same confined _ rfl rfl rfl, rfl⟩
  · split
    · exact in_step_throw _
    · exact in_step_pure _

theorem blind_bind_methods (frame : Frame) (head : ClassHead) : Blind first other good (bindMethods frame head) :=
  in_step_bind (blind_each _ fun _ => blind_bind _ _ _) fun _ =>
    in_step_bind (blind_each _ fun _ => blind_bind _ _ _) fun _ => blind_each _ fun _ => blind_bind _ _ _

theorem blind_define (frame : Frame) (head : ClassHead) {inner : Exec Unit} (blind : Blind first other good inner) :
    Blind first other good (define frame head inner) := by
  refine in_step_bind (blind_map_each _ (blind_evaluate_tag frame)) fun decorators =>
    in_step_bind (blind_map_each _ (blind_evaluate frame)) fun bases => blind_read (fun _ => rfl) fun world _ => ?_
  have inside := blind_in_scope (in_step_bind (blind_bind_methods frame head) fun _ => blind)
  dsimp only
  split
  · exact blind_fail _ _
  · repeat' split
    all_goals first
      | exact blind_fail_then _ _ _ _
      | exact in_step_bind inside fun _ => blind_fail _ _
      | refine in_step_bind inside fun _ => in_step_bind (blind_create_class _ _ _ _ _) fun id =>
          in_step_bind (blind_each _ fun decorator => ?_) fun _ => blind_bind _ _ _
    all_goals
      split
      · exact blind_apply_tag _ _
      · exact blind_fail _ _
      · exact in_step_pure _

/-! ### Statements -/

theorem blind_register (base virtual : Object) : Blind first other good (register base virtual) := by
  refine in_step_get ?_
  rintro world _ ⟨confined, rfl⟩
  rw [World.onto_metaclass_of, World.onto_name_of, World.onto_is_subclass, World.onto_type_name]
  cases base with
  | cls id =>
      refine in_step_if (blind_fail_then _ _ _ _) ?_
      cases virtual with
      | cls added =>
          exact in_step_if (in_step_pure _) (in_step_if (blind_fail _ _)
            (in_step_set _ _ ⟨World.confined_of_same confined _ rfl rfl rfl, rfl⟩))
      | constant value => exact blind_fail _ _
      | module name => exact blind_fail _ _
      | function declared => exact blind_fail _ _
      | «instance» name => exact blind_fail _ _
  | constant value => exact blind_fail _ _
  | module name => exact blind_fail _ _
  | function declared => exact blind_fail _ _
  | «instance» name => exact blind_fail _ _

theorem blind_from_import {load : String → Exec Unit} (blind : ∀ name, Blind first other good (load name))
    (frame : Frame) (module name : String) : Blind first other good (fromImport load frame module name) := by
  refine in_step_bind (blind_absolute_name _ _) fun module => in_step_bind (blind module) fun _ => ?_
  dsimp only
  split
  · refine blind_read (fun _ => rfl) fun world _ => blind_each _ fun entry => ?_
    split
    · exact in_step_pure _
    · exact blind_bind _ _ _
  · have found : Blind first other good (do
        let world ← get
        return (world.module? module).bind fun record => World.lookup name record.globals) :=
      blind_read (fun _ => rfl) fun _ _ => in_step_pure _
    refine in_step_bind found fun value => ?_
    split
    · exact blind_bind _ _ _
    · refine blind_read (fun _ => rfl) fun world _ => ?_
      split
      · refine in_step_bind (in_step_catch (blind _) fun mishap => in_step_if (in_step_pure _) (in_step_throw _))
          fun _ => ?_
        refine blind_read (fun _ => rfl) fun world _ => in_step_bind found fun value => ?_
        split
        · exact blind_bind _ _ _
        · exact blind_bind _ _ _
        · exact blind_fail _ _
      · refine blind_read (fun _ => rfl) fun world _ => in_step_bind found fun value => ?_
        split
        · exact blind_bind _ _ _
        · exact blind_bind _ _ _
        · exact blind_fail _ _

mutual
theorem blind_run {load : String → Exec Unit} (blind : ∀ name, Blind first other good (load name)) :
    ∀ (statement : Statement) (frame : Frame), Blind first other good (run load frame statement)
  | .define head inner, frame => by
      rw [run]
      exact blind_define frame head (blind_run_all blind inner { frame with classes := _ })
  | .branch condition body orelse, frame => by
      rw [run]
      exact in_step_if (blind_run_all blind body frame) (blind_run_all blind orelse frame)
  | .attempt grouped body handlers orelse cleanup, frame => by
      rw [run]
      exact blind_attempt _ _ (blind_run_all blind body frame) (blind_run_handlers blind handlers frame grouped)
        (blind_run_all blind orelse frame) (blind_run_all blind cleanup frame)
  | .once body, frame => by
      rw [run]
      exact blind_run_all blind body frame
  | .function name _, frame => by
      rw [run]
      exact blind_bind _ _ _
  | .fromImport module name, frame => by
      rw [run]
      exact blind_from_import blind _ _ _
  | .importModule module, frame => by
      rw [run]
      exact in_step_bind (blind module) fun _ => blind_bind _ _ _
  | .raise exception message, frame => by
      rw [run]
      refine in_step_bind (blind_lookup _ _) fun found => ?_
      repeat' split
      all_goals exact in_step_throw _
  | .assign name value, frame => by
      rw [run]
      exact blind_bind _ _ _
  | .rebind name expression, frame => by
      rw [run]
      exact in_step_bind (blind_evaluate _ _) fun _ => blind_bind _ _ _
  | .delete name, frame => by
      rw [run]
      exact blind_unbind _ _
  | .register base virtual, frame => by
      rw [run]
      exact in_step_bind (blind_evaluate _ _) fun _ => in_step_bind (blind_evaluate _ _) fun _ => blind_register _ _
termination_by structural statement => statement
theorem blind_run_all {load : String → Exec Unit} (blind : ∀ name, Blind first other good (load name)) :
    ∀ (statements : List Statement) (frame : Frame), Blind first other good (runAll load frame statements)
  | [], _ => in_step_pure _
  | statement :: rest, frame => by
      rw [runAll]
      exact in_step_bind (blind_run blind statement frame) fun _ => blind_run_all blind rest frame
termination_by structural statements => statements
theorem blind_run_handlers {load : String → Exec Unit} (blind : ∀ name, Blind first other good (load name)) :
    ∀ (handlers : List (Option String × List Statement)) (frame : Frame) (grouped : Bool),
      ∀ handler ∈ runHandlers load frame grouped handlers, Blind first other good handler.2
  | [], _, _ => by simp [runHandlers]
  | (name, body) :: rest, frame, grouped => by
      rw [runHandlers, List.forall_mem_cons]
      refine ⟨?_, blind_run_handlers blind rest frame grouped⟩
      exact in_step_if (blind_in_group (blind_run_all blind body frame)) (blind_run_all blind body frame)
termination_by structural handlers => handlers
end

end

end Exec

/-! ### Loading modules -/

namespace Import

-- What was found lies in places of a kind.
def Inside (good : String → Prop) : Finding → Prop
  | .source file searchPath _ => good file ∧ ∀ places, searchPath = some places → ∀ entry ∈ places, good entry
  | .portion place => good place
  | .nothing => True

section

variable {good : String → Prop} (joined : ∀ entry text, good entry → good (entry ++ "/" ++ text))
include joined

-- A package, a module and a portion of a name lie below the place that the name is looked for in.
theorem inside_of_name (entry name : String) (own : good entry) :
    (∀ body, Inside good (.source (entry ++ "/" ++ name ++ "/" ++ initFile) (some [entry ++ "/" ++ name]) body)) ∧
      (∀ body, Inside good (.source (entry ++ "/" ++ name ++ ".py") none body)) ∧
        Inside good (.portion (entry ++ "/" ++ name)) := by
  have base := joined entry name own
  refine ⟨fun body => ⟨joined _ _ base, ?_⟩, fun body => ⟨?_, nofun⟩, base⟩
  · rintro places ⟨⟩
    simpa using base
  · rw [String.append_assoc]
    exact joined entry (name ++ ".py") own

theorem inside_find_in_folder (disk : Disk) (entry name : String) (place : Place) (own : good entry) :
    Inside good (findInFolder disk entry place name) := by
  obtain ⟨package, module, portion⟩ := inside_of_name joined entry name own
  unfold findInFolder
  dsimp only
  split
  · exact package _
  · split
    · exact module _
    · split
      · exact portion
      · trivial

theorem inside_find_in_archive (archive : Archive) (entry name : String) (inner : List String) (own : good entry) :
    Inside good (findInArchive archive entry inner name) := by
  obtain ⟨package, module, portion⟩ := inside_of_name joined entry name own
  unfold findInArchive
  dsimp only
  split
  · exact package _
  · split
    · exact module _
    · split
      · exact portion
      · trivial

theorem inside_find_in (disk : Disk) (entry name : String) (own : good entry) : Inside good (findIn disk entry name) := by
  unfold findIn
  dsimp only
  split
  · exact inside_find_in_folder joined disk entry name _ own
  · split
    · exact inside_find_in_archive joined _ entry name _ own
    · trivial

theorem inside_search (disk : Disk) (name : String) (parts places : List String) (own : ∀ entry ∈ places, good entry)
    (earlier : ∀ entry ∈ parts, good entry) :
    Inside good (search disk name parts places).1 ∧ ∀ entry ∈ (search disk name parts places).2, good entry := by
  induction places generalizing parts with
  | nil => exact ⟨trivial, earlier⟩
  | cons entry rest ih =>
      obtain ⟨here, others⟩ := List.forall_mem_cons.mp own
      have inside := inside_find_in joined disk entry name here
      rw [search]
      cases found : findIn disk entry name with
      | source file searchPath body =>
          rw [found] at inside
          exact ⟨inside, earlier⟩
      | portion place =>
          rw [found] at inside
          refine ih _ others fun other member => ?_
          rcases List.mem_append.mp member with before | same
          · exact earlier other before
          · exact List.mem_singleton.mp same ▸ inside
      | nothing => exact ih _ others earlier

end

section

variable {first other : Disk} {good : String → Prop} (agree : Agree first other good)
  (readSource : Bytes → Except Mishap (List Statement))

theorem blind_outside_scopes {block : Exec Unit} (blind : Exec.Blind first other good block) :
    Exec.Blind first other good (outsideScopes block) := by
  refine Exec.blind_read (fun _ => rfl) fun outer _ => in_step_bind (in_step_modify _ _ ?_) fun _ =>
    in_step_bind (Exec.blind_outcome blind) fun result => in_step_bind (in_step_modify _ _ ?_) fun _ => ?_
  · rintro world _ ⟨confined, rfl⟩
    exact ⟨World.confined_of_same confined _ rfl rfl rfl, rfl⟩
  · rintro world _ ⟨confined, rfl⟩
    exact ⟨World.confined_of_same confined _ rfl rfl rfl, rfl⟩
  · split
    · exact in_step_throw _
    · exact in_step_pure _

theorem blind_change_module (name : String) (change : ModuleRecord → ModuleRecord)
    (kept : ∀ record, (change record).searchPath = record.searchPath) :
    Exec.Blind first other good (modify fun world => world.modifyModule name change) := by
  refine in_step_modify _ _ ?_
  rintro world _ ⟨confined, rfl⟩
  exact ⟨World.confined_modify_module confined name change kept, World.onto_modify_module other world name change⟩

theorem blind_set_module (record : ModuleRecord)
    (places : ∀ places, record.searchPath = some places → ∀ entry ∈ places, good entry) :
    Exec.Blind first other good (modify fun world => world.setModule record) := by
  refine in_step_modify _ _ ?_
  rintro world _ ⟨confined, rfl⟩
  exact ⟨World.confined_set_module confined record places, rfl⟩

include agree

theorem blind_install (run : Frame → List Statement → Exec Unit)
    (blind : ∀ frame statements, Exec.Blind first other good (run frame statements)) (name : String) (finding : Finding)
    (parts : List String) (inside : Inside good finding) (within : ∀ entry ∈ parts, good entry) :
    Exec.Blind first other good (install run readSource name finding parts) := by
  have collected : Exec.Blind first other good (install run readSource name .nothing parts) := by
    refine in_step_if (Exec.blind_fail _ _) (blind_set_module _ ?_)
    rintro places ⟨⟩
    exact within
  cases finding with
  | nothing => exact collected
  | portion place => exact collected
  | source file searchPath body =>
      obtain ⟨own, places⟩ := inside
      refine in_step_get ?_
      rintro world _ ⟨confined, rfl⟩
      have same : (archiveAbove (World.onto other world).disk [] (Path.ofString file).parts).isSome =
          (archiveAbove world.disk [] (Path.ofString file).parts).isSome := by
        rw [confined.disk]
        exact congrArg _ (agree.archived file own)
      dsimp only
      rw [same]
      refine in_step_bind (blind_set_module _ places) fun _ => in_step_bind (Exec.blind_outcome ?_) fun result => ?_
      · split
        · exact in_step_throw _
        · split
          · exact in_step_bind (blind_change_module _ _ fun _ => rfl) fun _ => blind_outside_scopes (blind _ _)
          · exact blind_outside_scopes (blind _ _)
      · split
        · refine in_step_bind (in_step_modify _ _ ?_) fun _ => in_step_throw _
          rintro world _ ⟨confined, rfl⟩
          exact ⟨World.confined_forget_module confined name, rfl⟩
        · exact blind_change_module _ _ fun _ => rfl

-- By induction on how deep loads may be nested.
theorem blind_load_from (fuel : Nat) (name : String) : Exec.Blind first other good (loadFrom readSource fuel name) := by
  induction fuel generalizing name with
  | zero => exact Exec.blind_fail _ _
  | succ fuel ih =>
      have runs := fun frame statements => Exec.blind_run_all ih statements frame
      have found (world : World) (confined : World.Confined first good world) (sought : String) (places : List String)
          (own : ∀ entry ∈ places, good entry) :
          InStep (World.Moved first other good)
            (install (Exec.runAll (loadFrom readSource fuel)) readSource name (search world.disk sought [] places).1
              (search world.disk sought [] places).2)
            (install (Exec.runAll (loadFrom readSource fuel)) readSource name (search other sought [] places).1
              (search other sought [] places).2) := by
        rw [confined.disk, agree.searched _ _ _ own]
        obtain ⟨inside, within⟩ := inside_search agree.joined first sought [] places own (by simp)
        exact blind_install agree readSource _ runs name _ _ inside within
      rw [loadFrom]
      refine Exec.blind_read (fun _ => rfl) fun world _ => in_step_if (in_step_pure _) ?_
      split
      · refine in_step_get ?_
        rintro world _ ⟨confined, rfl⟩
        exact found world confined name world.path confined.path
      · rename_i above _
        refine in_step_if (Exec.blind_fail_then _ _ _ _) (in_step_bind (ih _) fun _ => in_step_get ?_)
        rintro world _ ⟨confined, rfl⟩
        refine in_step_if (in_step_pure _) ?_
        rw [World.onto_module]
        cases held : (world.module? (String.ofList above)).bind (·.searchPath) with
        | none => exact Exec.blind_fail _ _
        | some places =>
            obtain ⟨record, known, own⟩ := Option.bind_eq_some_iff.mp held
            refine in_step_bind (found world confined _ places (confined.places _ record known places own)) fun _ => ?_
            exact blind_change_module _ _ fun _ => rfl

theorem blind_load (name : String) : Exec.Blind first other good (load readSource name) := by
  unfold load
  exact in_step_if (Exec.blind_fail _ _) (in_step_if (Exec.blind_fail _ _) (blind_load_from agree readSource _ name))

end

end Import

end StubForge
