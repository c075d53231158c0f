import StubForge.Generator
import StubForge.Proofs.Keeping
import StubForge.Proofs.TemplateValues

set_option autoImplicit false

/-!
What renderings keep. Looking at values changes nothing, so a rendering keeps whatever the calls in it keep; and
of the program's own failures it can only bring about those that a run may collect.
-/

namespace StubForge.Template

/-! ### Calls in templates -/

-- Whether rendering may call a fragment or the generator.
mutual
def Expr.calls : Expr → Bool
  | .constant _ => false
  | .name _ => false
  | .list items => callsIn items
  | .tuple items => callsIn items
  | .dictionary entries => callsInPairs entries
  | .attribute inner _ => inner.calls
  | .item inner key => inner.calls || key.calls
  | .call _ _ _ => true
  | .filtered inner _ args named _ => inner.calls || callsIn args || callsInNamed named
  | .tested inner _ args _ => inner.calls || callsIn args
  | .negation inner => inner.calls
  | .minus inner => inner.calls
  | .plus inner => inner.calls
  | .binary _ left right => left.calls || right.calls
  | .joined parts => callsIn parts
  | .compared first rest => first.calls || callsInCompared rest
  | .both left right => left.calls || right.calls
  | .either left right => left.calls || right.calls
  | .choice condition yes no => condition.calls || yes.calls || no.calls
  | .guarded condition yes _ => condition.calls || yes.calls
termination_by structural e => e
def callsIn : List Expr → Bool
  | [] => false
  | e :: rest => e.calls || callsIn rest
termination_by structural items => items
def callsInPairs : List (Expr × Expr) → Bool
  | [] => false
  | (key, value) :: rest => key.calls || value.calls || callsInPairs rest
termination_by structural entries => entries
def callsInNamed : List (String × Expr) → Bool
  | [] => false
  | (_, value) :: rest => value.calls || callsInNamed rest
termination_by structural named => named
def callsInCompared : List (Relation × Expr) → Bool
  | [] => false
  | (_, value) :: rest => value.calls || callsInCompared rest
termination_by structural rest => rest
end

mutual
def Stmt.calls : Stmt → Bool
  | .data _ => false
  | .output value => value.calls
  | .loop _ items test body orelse => items.calls || test.calls || callsInAll body || callsInAll orelse
  | .branch condition body orelse => condition.calls || callsInAll body || callsInAll orelse
  | .assign _ value => value.calls
  | .capture _ body => callsInAll body
  | .define .. => false
  | .insert .. => true
  | .scoped bindings body => callsInBindings bindings || callsInAll body
termination_by structural statement => statement
def callsInAll : List Stmt → Bool
  | [] => false
  | statement :: rest => statement.calls || callsInAll rest
termination_by structural statements => statements
def callsInBindings : List (Target × Expr) → Bool
  | [] => false
  | (_, value) :: rest => value.calls || callsInBindings rest
termination_by structural bindings => bindings
end

/-! ### Errors of renderings -/

-- The program's own failures among the troubles are those that a run may collect.
def Trouble.Usual : Trouble → Prop
  | .failure own => own.isCollectable = true
  | _ => True

-- A trouble that is none of the program's own failures.
def Trouble.Foreign : Trouble → Prop
  | .failure _ => False
  | _ => True

theorem trouble_foreign {α : Type} {result : Except Trouble α} (foreign : Template.Foreign result) (trouble : Trouble)
    (failed : result = .error trouble) : trouble.Foreign := by
  cases trouble with
  | failure failure => exact absurd failed (foreign failure)
  | complaint text => trivial
  | mishap mishap => trivial

theorem Trouble.Foreign.usual {trouble : Trouble} (foreign : trouble.Foreign) : trouble.Usual := by
  cases trouble with
  | failure failure => exact foreign.elim
  | complaint text => trivial
  | mishap mishap => trivial

theorem usual_blame (scheme template : String) (trouble : Trouble) (usual : trouble.Usual) :
    (Generator.blame scheme template trouble).Usual := by
  cases trouble with
  | failure failure => exact usual
  | complaint text => rfl
  | mishap mishap => rfl

/-! ### Evaluation -/

-- A kind of renderings to which belongs whatever is put together of renderings of the kind. Looking at values only
-- brings about troubles that are foreign to the program.
class Composed (P : (α : Type) → Render α → Prop) : Prop where
  pure : ∀ {α : Type} (value : α), P α (pure value)
  throw : ∀ {α : Type} (trouble : Trouble), trouble.Foreign → P α (throw trouble)
  bind : ∀ {α β : Type} {block : Render α} {next : α → Render β}, P α block → (∀ value, P β (next value)) →
    P β (block >>= next)

-- A kind that does not tell apart the failures that a run may collect, nor the templates that they are blamed on.
class Framed (P : (α : Type) → Render α → Prop) : Prop where
  pure : ∀ {α : Type} (value : α), P α (pure value)
  throw : ∀ {α : Type} (trouble : Trouble), trouble.Usual → P α (throw trouble)
  bind : ∀ {α β : Type} {block : Render α} {next : α → Render β}, P α block → (∀ value, P β (next value)) →
    P β (block >>= next)
  blamed : ∀ {α : Type} {block : Render α} {change : Trouble → Trouble}, P α block →
    (∀ trouble, trouble.Usual → (change trouble).Usual) →
      P α (tryCatch block fun trouble => MonadExcept.throw (change trouble))

instance framed_composed {P : (α : Type) → Render α → Prop} [Framed P] : Composed P where
  pure := Framed.pure
  throw trouble foreign := Framed.throw trouble foreign.usual
  bind := Framed.bind

structure Serves (P : (α : Type) → Render α → Prop) (services : Services) : Prop where
  call : ∀ template env callee args named, P Value (services.call template env callee args named)
  insert : ∀ names path ignoreMissing, P String (services.insert names path ignoreMissing)

section

variable {P : (α : Type) → Render α → Prop} [Composed P]

omit [Composed P] in
theorem framed_if {α : Type} {condition : Prop} [Decidable condition] {yes no : Render α} (left : P α yes)
    (right : P α no) : P α (if condition then yes else no) := by
  split
  · exact left
  · exact right

theorem framed_result {α : Type} {result : Except Trouble α} (foreign : Foreign result) :
    P α (Render.ofResult result) := by
  cases known : result with
  | ok value => exact Composed.pure value
  | error trouble => exact Composed.throw trouble (trouble_foreign foreign trouble known)

theorem composed_result_bind {α β : Type} {result : Except Trouble α} {next : α → Render β} (foreign : Foreign result)
    (rest : ∀ value, result = .ok value → P β (next value)) : P β (Render.ofResult result >>= next) := by
  cases known : result with
  | ok value => exact rest value known
  | error trouble => exact Composed.throw trouble (trouble_foreign foreign trouble known)

variable {services : Services} {scene : Scene} {template : String}

theorem call_framed (serves : Serves P services) (env : Env) (callee : Value) (args : List Value)
    (named : List (String × Value)) :
    P _ (call services scene template env callee args named) := by
  unfold call
  split
  · exact Composed.throw _ trivial
  · exact serves.call _ _ _ _ _
  · exact serves.call _ _ _ _ _
  · exact framed_result (Value.call_method_foreign scene _ _ _ _)
  · exact Composed.throw _ trivial

theorem truth_framed {β : Type} (value : Value) {next : Bool → Render β}
    (rest : ∀ holds, P _ (next holds)) :
    P _ (Render.ofResult (value.isTrue scene) >>= next) :=
  Composed.bind (framed_result (Value.is_true_foreign scene value)) rest

mutual
theorem evaluate_framed (env : Env) : ∀ e : Expr, (e.calls = true → Serves P services) →
    P _ (evaluate services scene template env e)
  | .constant value, _ => by
      rw [evaluate]
      exact Composed.pure _
  | .name name, _ => by
      rw [evaluate]
      exact Composed.pure _
  | .list items, serves => by
      rw [evaluate]
      exact Composed.bind (evaluate_all_framed env items serves) fun _ => Composed.pure _
  | .tuple items, serves => by
      rw [evaluate]
      exact Composed.bind (evaluate_all_framed env items serves) fun _ => Composed.pure _
  | .dictionary entries, serves => by
      rw [evaluate]
      exact Composed.bind (evaluate_entries_framed env entries serves) fun _ => Composed.pure _
  | .attribute inner name, serves => by
      rw [evaluate]
      exact Composed.bind (evaluate_framed env inner serves) fun _ => framed_result (Value.member_foreign scene _ _)
  | .item inner key, serves => by
      rw [evaluate]
      exact Composed.bind (evaluate_framed env inner fun calls => serves (by simp [Expr.calls, calls])) fun _ =>
        Composed.bind (evaluate_framed env key fun calls => serves (by simp [Expr.calls, calls])) fun _ =>
          framed_result (Value.item_foreign scene _ _)
  | .call callee args named, serves => by
      rw [evaluate]
      exact Composed.bind (evaluate_framed env callee fun _ => serves rfl) fun _ =>
        Composed.bind (evaluate_all_framed env args fun _ => serves rfl) fun _ =>
          Composed.bind (evaluate_named_framed env named fun _ => serves rfl) fun _ => call_framed (serves rfl) _ _ _ _
  | .filtered inner filter args named line, serves => by
      rw [evaluate]
      exact Composed.bind (evaluate_framed env inner fun calls => serves (by simp [Expr.calls, calls])) fun _ =>
        Composed.bind (evaluate_all_framed env args fun calls => serves (by simp [Expr.calls, calls])) fun _ =>
          Composed.bind (evaluate_named_framed env named fun calls => serves (by simp [Expr.calls, calls])) fun _ =>
            framed_result (Value.apply_filter_foreign scene _ _ _ _)
  | .tested inner test args line, serves => by
      rw [evaluate]
      exact Composed.bind (evaluate_framed env inner fun calls => serves (by simp [Expr.calls, calls])) fun _ =>
        Composed.bind (evaluate_all_framed env args fun calls => serves (by simp [Expr.calls, calls])) fun _ =>
          Composed.bind (framed_result (Value.apply_test_foreign scene _ _ _)) fun _ => Composed.pure _
  | .negation inner, serves => by
      rw [evaluate]
      exact Composed.bind (evaluate_framed env inner serves) fun _ => truth_framed _ fun _ => Composed.pure _
  | .minus inner, serves => by
      rw [evaluate]
      exact Composed.bind (evaluate_framed env inner serves) fun _ => framed_result (Value.signed_foreign _ _ _)
  | .plus inner, serves => by
      rw [evaluate]
      exact Composed.bind (evaluate_framed env inner serves) fun _ => framed_result (Value.signed_foreign _ _ _)
  | .binary op left right, serves => by
      rw [evaluate]
      exact Composed.bind (evaluate_framed env left fun calls => serves (by simp [Expr.calls, calls])) fun _ =>
        Composed.bind (evaluate_framed env right fun calls => serves (by simp [Expr.calls, calls])) fun _ =>
          framed_result (Value.binary_foreign _ _ _)
  | .joined parts, serves => by
      rw [evaluate]
      exact Composed.bind (evaluate_all_framed env parts serves) fun _ =>
        Composed.bind (framed_result (foreign_map_each (Value.plain_foreign scene))) fun _ => Composed.pure _
  | .compared first rest, serves => by
      rw [evaluate]
      exact Composed.bind (evaluate_framed env first fun calls => serves (by simp [Expr.calls, calls])) fun value =>
        Composed.bind
          (evaluate_compared_framed env rest (fun calls => serves (by simp [Expr.calls, calls])) value) fun _ =>
          Composed.pure _
  | .both left right, serves => by
      rw [evaluate]
      refine Composed.bind (evaluate_framed env left fun calls => serves (by simp [Expr.calls, calls])) fun _ =>
        truth_framed _ fun _ => framed_if ?_ (Composed.pure _)
      exact evaluate_framed env right fun calls => serves (by simp [Expr.calls, calls])
  | .either left right, serves => by
      rw [evaluate]
      refine Composed.bind (evaluate_framed env left fun calls => serves (by simp [Expr.calls, calls])) fun _ =>
        truth_framed _ fun _ => framed_if (Composed.pure _) ?_
      exact evaluate_framed env right fun calls => serves (by simp [Expr.calls, calls])
  | .choice condition yes no, serves => by
      rw [evaluate]
      refine Composed.bind (evaluate_framed env condition fun calls => serves (by simp [Expr.calls, calls])) fun _ =>
        truth_framed _ fun _ => framed_if ?_ ?_
      · exact evaluate_framed env yes fun calls => serves (by simp [Expr.calls, calls])
      · exact evaluate_framed env no fun calls => serves (by simp [Expr.calls, calls])
  | .guarded condition yes line, serves => by
      rw [evaluate]
      refine Composed.bind (evaluate_framed env condition fun calls => serves (by simp [Expr.calls, calls])) fun _ =>
        truth_framed _ fun _ => framed_if ?_ (Composed.pure _)
      exact evaluate_framed env yes fun calls => serves (by simp [Expr.calls, calls])
termination_by structural e => e
theorem evaluate_all_framed (env : Env) : ∀ items : List Expr, (callsIn items = true → Serves P services) →
    P _ (evaluateAll services scene template env items)
  | [], _ => Composed.pure _
  | e :: rest, serves => by
      rw [evaluateAll]
      exact Composed.bind (evaluate_framed env e fun calls => serves (by simp [callsIn, calls])) fun _ =>
        Composed.bind (evaluate_all_framed env rest fun calls => serves (by simp [callsIn, calls])) fun _ =>
          Composed.pure _
termination_by structural items => items
theorem evaluate_entries_framed (env : Env) : ∀ entries : List (Expr × Expr),
    (callsInPairs entries = true → Serves P services) →
    P _ (evaluateEntries services scene template env entries)
  | [], _ => Composed.pure _
  | (key, value) :: rest, serves => by
      rw [evaluateEntries]
      exact Composed.bind (evaluate_framed env key fun calls => serves (by simp [callsInPairs, calls])) fun _ =>
        Composed.bind (evaluate_framed env value fun calls => serves (by simp [callsInPairs, calls])) fun _ =>
          Composed.bind (evaluate_entries_framed env rest fun calls => serves (by simp [callsInPairs, calls])) fun _ =>
            Composed.pure _
termination_by structural entries => entries
theorem evaluate_named_framed (env : Env) : ∀ named : List (String × Expr),
    (callsInNamed named = true → Serves P services) →
    P _ (evaluateNamed services scene template env named)
  | [], _ => Composed.pure _
  | (name, value) :: rest, serves => by
      rw [evaluateNamed]
      exact Composed.bind (evaluate_framed env value fun calls => serves (by simp [callsInNamed, calls])) fun _ =>
        Composed.bind (evaluate_named_framed env rest fun calls => serves (by simp [callsInNamed, calls])) fun _ =>
          Composed.pure _
termination_by structural named => named
theorem evaluate_compared_framed (env : Env) : ∀ rest : List (Relation × Expr),
    (callsInCompared rest = true → Serves P services) → ∀ left : Value,
    P _ (evaluateCompared services scene template env left rest)
  | [], _, _ => Composed.pure _
  | (relation, e) :: rest, serves, left => by
      rw [evaluateCompared]
      refine Composed.bind (evaluate_framed env e fun calls => serves (by simp [callsInCompared, calls])) fun right =>
        Composed.bind (framed_result (Value.relate_foreign scene relation left right)) fun _ =>
          framed_if ?_ (Composed.pure _)
      exact evaluate_compared_framed env rest (fun calls => serves (by simp [callsInCompared, calls])) right
termination_by structural rest => rest
end

/-! ### Statements -/

theorem bound_framed {β : Type} (target : Target) (value : Value) {next : Scope → Render β}
    (rest : ∀ names, P _ (next names)) :
    P _ (Render.ofResult (Value.bind scene target value) >>= next) :=
  Composed.bind (framed_result (Value.bind_foreign scene target value)) rest

theorem loop_scopes_framed (target : Target) {passes : Scope → Render Bool}
    (each : ∀ scope, P _ (passes scope)) (items : List Value) :
    P _ (loopScopes scene target passes items) := by
  induction items with
  | nil => exact Composed.pure _
  | cons value rest ih =>
      rw [loopScopes]
      exact bound_framed target value fun scope => Composed.bind (each scope) fun _ =>
        framed_if (Composed.bind ih fun _ => Composed.pure _) ih

theorem each_scope_framed {body : Scope → Render String} (each : ∀ scope, P _ (body scope))
    (total index : Nat) (scopes : List Scope) :
    P _ (eachScope body total index scopes) := by
  induction scopes generalizing index with
  | nil => exact Composed.pure _
  | cons scope rest ih =>
      rw [eachScope]
      exact Composed.bind (each _) fun _ => Composed.bind (ih _) fun _ => Composed.pure _

theorem each_value_framed (target : Target) {body : Scope → Render String}
    (each : ∀ scope, P _ (body scope)) (total index : Nat) (items : List Value) :
    P _ (eachValue scene target body total index items) := by
  induction items generalizing index with
  | nil => exact Composed.pure _
  | cons value rest ih =>
      rw [eachValue]
      exact bound_framed target value fun _ => Composed.bind (each _) fun _ => Composed.bind (ih _) fun _ =>
        Composed.pure _

mutual
theorem render_stmt_framed : ∀ (statement : Stmt) (env : Env), (statement.calls = true → Serves P services) →
    P _ (renderStmt services scene template env statement)
  | .data text, env, _ => by
      rw [renderStmt]
      exact Composed.pure _
  | .output e, env, serves => by
      rw [renderStmt]
      exact Composed.bind (evaluate_framed env e serves) fun _ =>
        Composed.bind (framed_result (Value.plain_foreign scene _)) fun _ => Composed.pure _
  | .loop target items test body orelse, env, serves => by
      rw [renderStmt]
      have inside (env : Env) : P _
          (do return (← renderAll services scene template env body).2) :=
        Composed.bind (render_all_framed body env fun calls => serves (by simp [Stmt.calls, calls])) fun _ =>
          Composed.pure _
      have otherwise : P _
          (do return (env, (← renderAll services scene template (env.enter []) orelse).2)) :=
        Composed.bind (render_all_framed orelse _ fun calls => serves (by simp [Stmt.calls, calls])) fun _ =>
          Composed.pure _
      have passes (scope : Scope) : P _ (do
          let value ← evaluate services scene template (env.enter scope) test
          Render.ofResult (value.isTrue scene)) :=
        Composed.bind (evaluate_framed _ test fun calls => serves (by simp [Stmt.calls, calls])) fun _ =>
          framed_result (Value.is_true_foreign scene _)
      refine Composed.bind (evaluate_framed env items fun calls => serves (by simp [Stmt.calls, calls])) fun value =>
        Composed.bind (framed_result (Value.iterate_foreign scene value)) fun values => ?_
      refine framed_if (framed_if otherwise ?_) ?_
      · exact Composed.bind (each_value_framed target (fun _ => inside _) _ _ _) fun _ => Composed.pure _
      · refine Composed.bind (loop_scopes_framed target passes values) fun scopes => framed_if otherwise ?_
        exact Composed.bind (each_scope_framed (fun _ => inside _) _ _ _) fun _ => Composed.pure _
  | .branch condition body orelse, env, serves => by
      rw [renderStmt]
      refine Composed.bind (evaluate_framed env condition fun calls => serves (by simp [Stmt.calls, calls])) fun _ =>
        truth_framed _ fun _ => framed_if ?_ ?_
      · exact render_all_framed body env fun calls => serves (by simp [Stmt.calls, calls])
      · exact render_all_framed orelse env fun calls => serves (by simp [Stmt.calls, calls])
  | .assign target e, env, serves => by
      rw [renderStmt]
      exact Composed.bind (evaluate_framed env e serves) fun _ => bound_framed target _ fun _ => Composed.pure _
  | .capture target body, env, serves => by
      rw [renderStmt]
      exact Composed.bind (render_all_framed body _ serves) fun _ => bound_framed target _ fun _ => Composed.pure _
  | .define name parameters defaults body, env, _ => by
      rw [renderStmt]
      exact Composed.pure _
  | .insert e ignoreMissing withContext, env, serves => by
      rw [renderStmt]
      refine Composed.bind (evaluate_framed env e fun _ => serves rfl) fun value => ?_
      split
      · exact Composed.throw _ trivial
      · exact Composed.bind ((serves rfl).insert _ _ _) fun _ => Composed.pure _
      · exact Composed.throw _ trivial
  | .scoped bindings body, env, serves => by
      rw [renderStmt]
      exact Composed.bind
          (render_bindings_framed bindings env fun calls => serves (by simp [Stmt.calls, calls])) fun _ =>
        Composed.bind (render_all_framed body _ fun calls => serves (by simp [Stmt.calls, calls])) fun _ =>
          Composed.pure _
termination_by structural statement => statement
theorem render_all_framed : ∀ (statements : List Stmt) (env : Env),
    (callsInAll statements = true → Serves P services) →
    P _ (renderAll services scene template env statements)
  | [], env, _ => Composed.pure _
  | statement :: rest, env, serves => by
      rw [renderAll]
      exact Composed.bind (render_stmt_framed statement env fun calls => serves (by simp [callsInAll, calls])) fun _ =>
        Composed.bind (render_all_framed rest _ fun calls => serves (by simp [callsInAll, calls])) fun _ =>
          Composed.pure _
termination_by structural statements => statements
theorem render_bindings_framed : ∀ (bindings : List (Target × Expr)) (env : Env),
    (callsInBindings bindings = true → Serves P services) →
    P _ (renderBindings services scene template env bindings)
  | [], env, _ => Composed.pure _
  | (target, e) :: rest, env, serves => by
      rw [renderBindings]
      exact Composed.bind (evaluate_framed env e fun calls => serves (by simp [callsInBindings, calls])) fun _ =>
        bound_framed target _ fun _ => Composed.bind
          (render_bindings_framed rest env fun calls => serves (by simp [callsInBindings, calls])) fun _ =>
            Composed.pure _
termination_by structural bindings => bindings
end

/-! ### Fragments -/

theorem fragment_arguments_foreign (name : String) (parameters : List String) (args : List Value)
    (named : List (String × Value)) : Foreign (fragmentArguments name parameters args named) := by
  simp only [fragmentArguments]
  split
  · exact foreign_type _
  · split
    · exact foreign_type _
    · exact foreign_ok _

theorem fill_defaults_framed (serves : Serves P services) (env : Env)
    (found : List (String × Option Value)) (scope : Scope) (defaults : List (Option Expr)) :
    P _ (fillDefaults services scene template env scope found defaults) := by
  induction found generalizing scope defaults with
  | nil =>
      rw [fillDefaults] <;> first | exact Composed.pure _ | simp
  | cons first rest ih =>
      obtain ⟨parameter, value⟩ := first
      cases defaults with
      | nil =>
          rw [fillDefaults] <;> first | exact Composed.pure _ | simp
      | cons default defaults =>
          cases value with
          | some value =>
              rw [fillDefaults]
              exact ih _ _
          | none =>
              cases default with
              | none =>
                  rw [fillDefaults]
                  exact ih _ _
              | some e =>
                  rw [fillDefaults]
                  exact Composed.bind (evaluate_framed _ e fun _ => serves) fun _ => ih _ _

theorem call_fragment_framed (serves : Serves P services) (env : Env) (name : String)
    (parameters : List String) (defaults : List Expr) (body : List Stmt) (args : List Value)
    (named : List (String × Value)) :
    P _
      (callFragment services scene template env name parameters defaults body args named) := by
  rw [callFragment]
  exact Composed.bind (framed_result (fragment_arguments_foreign _ _ _ _)) fun _ =>
    Composed.bind (fill_defaults_framed serves env _ _ _) fun _ =>
      Composed.bind (render_all_framed body _ fun _ => serves) fun _ => Composed.pure _

end

/-! ### The generator -/

def onDisk (disk : Disk) (session : Session) : Session := { session with world := { session.world with disk } }

def noted (record : Record) (stage : Stage) : Stage :=
  { stage with session := { stage.session with records := stage.session.records ++ [record] } }

theorem say_run_stage (level : Level) (message : String) (stage : Stage) :
    Render.ofRun (Run.say level message) stage = (.ok (), noted { level, message } stage) := rfl

-- What looking for a template comes to, by what is read.
def sought (scheme template : String) : Except Engine.Fault (List Stmt) → Except Error (List Stmt)
  | .ok body => .ok body
  | .error .missing => .error (.ofFault (.template .notFound scheme template))
  | .error (.malformed line) => .error (.ofFault (.template (.badSyntax line) scheme template))
  | .error (.undecodable fault) => .error (.raised "UnicodeDecodeError" fault.message)

-- Looking for a template changes nothing.
theorem template_run (engine : Engine) (scheme template : String) (session : Session) :
    engine.template scheme template session =
      (sought scheme template
        (engine.read session.world.disk session.directory (Engine.templatePath scheme template)), session) := by
  rw [Engine.template, bind_ok (Run.get_run session)]
  cases engine.read session.world.disk session.directory (Engine.templatePath scheme template) with
  | ok body => rfl
  | error fault => cases fault <;> rfl

theorem file_for_usual (directory : Place) (scene : Scene) (scheme : String) (relative : Path)
    (relativeText : String) (trouble : Trouble)
    (failed : Generator.fileFor directory scene scheme relative relativeText = .error trouble) : trouble.Usual := by
  simp only [Generator.fileFor] at failed
  split at failed
  · cases failed
    trivial
  · split at failed
    · cases failed
    · cases failed
      rfl

theorem path_of_text (value : Value) {path : Path} {text : String}
    (known : Generator.pathOf value = .ok (path, text)) : path = Path.ofString text := by
  unfold Generator.pathOf at known
  split at known
  all_goals cases known
  all_goals rfl

theorem path_of_foreign (value : Value) : Foreign (Generator.pathOf value) := by
  unfold Generator.pathOf
  split <;> simp

-- Looking what a template path names is of a kind.
structure Looks (P : (α : Type) → Render α → Prop) (generator : Generator) : Prop where
  read : ∀ {α : Type} (path : String) (next : Except Engine.Fault (List Stmt) → Render α), (∀ found, P α (next found)) →
    P α (do
      let session := (← get).session
      next (generator.engine.read session.world.disk session.directory path))

-- What a generator does to render is of a kind: it looks what a template path names, looks for templates, and makes
-- records.
structure Draws (P : (α : Type) → Render α → Prop) (generator : Generator) : Prop extends Looks P generator where
  said : ∀ level message, P Unit (Render.ofRun (Run.say level message))
  sought : ∀ scheme template, P (List Stmt) (Render.ofRun (generator.engine.template scheme template))

-- Generating a file is of a kind.
def Generates (P : (α : Type) → Render α → Prop) (services : Services) (generator : Generator) : Prop :=
  ∀ text template args, P Unit (Generator.generateFile services generator (Path.ofString text) text template args)

-- All that a generator does itself is of a kind: it also looks where it is, and writes files that lie below its target
-- as seen from a directory.
structure Backs (P : (α : Type) → Render α → Prop) (generator : Generator) (directory : Place) : Prop
    extends Draws P generator where
  placed : ∀ {α : Type} (next : Place → Render α), P α (next directory) →
    P α (do next (← get).session.directory)
  wrote : ∀ relative relativeText file text,
    Generator.fileFor directory generator.scene generator.scheme relative relativeText = .ok file →
      P Unit (generator.writeFile file text)

-- Rendering a template is of a kind.
def Renders (P : (α : Type) → Render α → Prop) (services : Services) (generator : Generator) : Prop :=
  ∀ template args, P String (Generator.renderArgs services generator template args)

section

variable {P : (α : Type) → Render α → Prop} [Composed P] {services : Services} {generator : Generator}

theorem call_generator_composed (renders : Renders P services generator) (generates : Generates P services generator)
    (method : String) (args : List Value) (named : List (String × Value)) :
    P Value (Generator.callGenerator services generator method args named) := by
  unfold Generator.callGenerator
  refine framed_if ?_ (framed_if ?_ ?_)
  · refine Composed.bind (framed_result (Value.bound_foreign _ _ _ _)) fun found => ?_
    split
    · refine composed_result_bind (path_of_foreign _) fun (path, text) known => ?_
      obtain rfl : path = Path.ofString text := path_of_text _ known
      dsimp only
      split
      · exact Composed.throw _ trivial
      · exact Composed.bind (framed_result (Value.plain_foreign _ _)) fun _ =>
          Composed.bind (generates _ _ _) fun _ => Composed.pure _
    · exact Composed.pure _
  · exact Composed.bind (framed_result (Value.bound_foreign _ _ _ _)) fun _ => Composed.pure _
  · refine Composed.bind (framed_result (Value.bound_foreign _ _ _ _)) fun found => ?_
    split
    · exact Composed.bind (framed_result (Value.plain_foreign _ _)) fun _ =>
        Composed.bind (renders _ _) fun _ => Composed.pure _
    · exact Composed.pure _

theorem insert_template_framed (serves : Serves P services) (looks : Looks P generator) (names : Scope)
    (path : String) (ignoreMissing : Bool) :
    P String (Generator.insertTemplate services generator names path ignoreMissing) := by
  refine looks.read path (fun found => match found with
    | .ok body => do return (← renderAll services generator.scene path { globals := names } body).2
    | .error .missing => if ignoreMissing then return "" else throw (.complaint path)
    | .error (.malformed _) => throw (.complaint "invalid template syntax")
    | .error (.undecodable fault) =>
        throw (.mishap { kind := "UnicodeDecodeError", message := fault.message })) fun found => ?_
  split
  · exact Composed.bind (render_all_framed _ _ fun _ => serves) fun _ => Composed.pure _
  · exact framed_if (Composed.pure _) (Composed.throw _ trivial)
  · exact Composed.throw _ trivial
  · exact Composed.throw _ trivial

-- By induction on the depth of calls: everything that templates can call is of the kind, if rendering a template and
-- generating a file are.
theorem services_composed (looks : Looks P generator)
    (renders : ∀ depth, Serves P (generator.services depth) → Renders P (generator.services depth) generator)
    (generates : ∀ depth, Serves P (generator.services depth) → Generates P (generator.services depth) generator)
    (depth : Nat) : Serves P (generator.services depth) := by
  induction depth with
  | zero => exact ⟨fun _ _ _ _ _ => Composed.throw _ trivial, fun _ _ _ => Composed.throw _ trivial⟩
  | succ depth ih =>
      refine ⟨?_, fun names path ignoreMissing => insert_template_framed ih looks names path ignoreMissing⟩
      intro template env callee args named
      rw [Generator.services]
      dsimp only
      split
      · exact call_fragment_framed ih _ _ _ _ _ _ _
      · exact call_generator_composed (renders depth ih) (generates depth ih) _ _ _
      · exact Composed.throw _ trivial

end

section

variable {P : (α : Type) → Render α → Prop} [Framed P] {services : Services} {generator : Generator}
  {directory : Place}

theorem framed_result_bind {α β : Type} {result : Except Trouble α} {next : α → Render β}
    (usual : ∀ trouble, result = .error trouble → trouble.Usual)
    (rest : ∀ value, result = .ok value → P β (next value)) : P β (Render.ofResult result >>= next) := by
  cases known : result with
  | ok value => exact rest value known
  | error trouble => exact Framed.throw trouble (usual trouble known)

theorem render_args_framed (serves : Serves P services) (draws : Draws P generator) (template : String)
    (args : Value) : P String (Generator.renderArgs services generator template args) := by
  rw [Generator.renderArgs, Generator.renderWith]
  refine Framed.bind (draws.sought _ _) fun body => Framed.bind (draws.said _ _) fun _ =>
    Framed.blamed ?_ (usual_blame _ template)
  exact Framed.bind (render_all_framed body _ fun _ => serves) fun _ => Framed.pure _

theorem generate_file_framed (serves : Serves P services) (backs : Backs P generator directory) (relative : Path)
    (relativeText template : String) (args : Value) :
    P Unit (Generator.generateFile services generator relative relativeText template args) := by
  refine backs.placed (fun directory => do
    let file ← Render.ofResult (Generator.fileFor directory generator.scene generator.scheme relative relativeText)
    let text ← Generator.renderArgs services generator template args
    Render.ofRun (Run.say .info ("Generating " ++ file.toString ++ "..."))
    generator.writeFile file text) ?_
  refine framed_result_bind (file_for_usual _ _ _ _ _) fun file inside => ?_
  exact Framed.bind (render_args_framed serves backs.toDraws template args) fun text =>
    Framed.bind (backs.said _ _) fun _ => backs.wrote relative relativeText file text inside

theorem services_framed_of (draws : Draws P generator)
    (generates : ∀ depth, Serves P (generator.services depth) → Generates P (generator.services depth) generator)
    (depth : Nat) : Serves P (generator.services depth) :=
  services_composed draws.toLooks (fun _ serves => render_args_framed serves draws) generates depth

theorem services_framed (backs : Backs P generator directory) (depth : Nat) : Serves P (generator.services depth) :=
  services_framed_of backs.toDraws
    (fun _ serves text => generate_file_framed serves backs (Path.ofString text) text) depth

theorem render_framed (backs : Backs P generator directory) (template : String) (args : Value) :
    P String (generator.render template args) :=
  render_args_framed (services_framed backs generator.depthLimit) backs.toDraws template args

end

/-! ### Invariants -/

-- Renderings that keep an invariant, and fail in ways that a run may collect.
abbrev Keeping (invariant : Stage → Prop) (α : Type) (steps : Render α) : Prop := Keeps invariant Trouble.Usual steps

instance keeping_framed (invariant : Stage → Prop) : Framed (Keeping invariant) where
  pure := keeps_pure
  throw := keeps_throw
  bind := keeps_bind
  blamed kept usual := keeps_catch Trouble.Usual kept fun trouble raised => keeps_throw _ (usual trouble raised)

-- What a generator keeps by all that it does itself.
structure Upholds (generator : Generator) (directory : Place) (invariant : Stage → Prop) : Prop where
  seen : ∀ stage, invariant stage → stage.session.directory = directory
  said : ∀ stage record, invariant stage → invariant (noted record stage)
  wrote : ∀ stage relative relativeText file text, invariant stage →
    Generator.fileFor directory generator.scene generator.scheme relative relativeText = .ok file →
    invariant (generator.writeFile file text stage).2

-- Writing a file comes down to writing a text to the disk.
theorem write_file_run (generator : Generator) (file : Path) (text : String) (stage : Stage) :
    generator.writeFile file text stage =
      match Generator.writeText stage.session.world.disk stage.session.directory file generator.config.fileEncoding
          text with
      | (.ok (), disk) =>
          (.ok (), { session := onDisk disk stage.session, files := stage.files ++ [file] })
      | (.error cause, disk) =>
          (.error (.failure (.of none
              (.output (.fileNotCreated file.toString cause) (some generator.scheme)))),
            { stage with session := onDisk disk stage.session }) := by
  have known : (get : Render Stage) stage = (.ok stage, stage) := rfl
  rw [Generator.writeFile, bind_ok known]
  obtain ⟨result, disk⟩ := Generator.writeText stage.session.world.disk stage.session.directory file
    generator.config.fileEncoding text
  cases result <;> rfl

theorem write_file_usual (generator : Generator) (file : Path) (text : String) (stage : Stage) (trouble : Trouble)
    (failed : (generator.writeFile file text stage).1 = .error trouble) : trouble.Usual := by
  rw [write_file_run] at failed
  split at failed
  · cases failed
  · cases failed
    rfl

section

variable {invariant : Stage → Prop}

theorem say_keeps (said : ∀ stage record, invariant stage → invariant (noted record stage)) (level : Level)
    (message : String) : Keeps invariant Trouble.Usual (Render.ofRun (Run.say level message)) := by
  intro stage holds
  rw [say_run_stage]
  refine ⟨said stage _ holds, ?_⟩
  intro trouble failed
  cases failed

theorem find_template_keeps (engine : Engine) (scheme template : String) :
    Keeps invariant Trouble.Usual (Render.ofRun (engine.template scheme template)) := by
  intro stage holds
  rw [Render.ofRun, template_run]
  cases engine.read stage.session.world.disk stage.session.directory (Engine.templatePath scheme template) with
  | ok body => exact keeps_pure body stage holds
  | error fault =>
      cases fault with
      | missing => exact ⟨holds, by rintro trouble ⟨⟩; rfl⟩
      | malformed line => exact ⟨holds, by rintro trouble ⟨⟩; rfl⟩
      | undecodable fault => exact ⟨holds, by rintro trouble ⟨⟩; trivial⟩

variable {services : Services} {generator : Generator} {directory : Place}

theorem backs_of_upholds (upholds : Upholds generator directory invariant) :
    Backs (Keeping invariant) generator directory where
  placed next kept := keeps_read fun stage holds => by rw [upholds.seen stage holds]; exact kept
  read path next kept := keeps_read fun _ _ => kept _
  said := say_keeps upholds.said
  sought := find_template_keeps generator.engine
  wrote relative relativeText file text inside := fun stage holds =>
    ⟨upholds.wrote stage relative relativeText file text holds inside, write_file_usual generator file text stage⟩

theorem services_keep (upholds : Upholds generator directory invariant) (depth : Nat) :
    Serves (Keeping invariant) (generator.services depth) :=
  services_framed (backs_of_upholds upholds) depth

theorem generate_file_keeps (serves : Serves (Keeping invariant) services)
    (upholds : Upholds generator directory invariant) (relative : Path) (relativeText template : String) (args : Value) :
    Keeps invariant Trouble.Usual
      (Generator.generateFile services generator relative relativeText template args) :=
  generate_file_framed serves (backs_of_upholds upholds) relative relativeText template args

theorem render_keeps (upholds : Upholds generator directory invariant) (template : String) (args : Value) :
    Keeps invariant Trouble.Usual (generator.render template args) :=
  render_framed (backs_of_upholds upholds) template args

theorem render_all_keeps {scene : Scene} {template : String} (statements : List Stmt) (env : Env)
    (serves : callsInAll statements = true → Serves (Keeping invariant) services) :
    Keeps invariant Trouble.Usual (renderAll services scene template env statements) :=
  @render_all_framed (Keeping invariant) _ _ _ _ statements env serves

end

end StubForge.Template
