import StubForge.Proofs.Layout
import StubForge.Proofs.Rendering

set_option autoImplicit false

/-!
The files that the stubs of a forest come to. The entry template goes through the namespaces and asks for one file
after the other; a call that fails ends it.
-/

namespace StubForge

open Template

-- A call for a file: where it goes, the template it is rendered from, and what is rendered.
structure Call where
  path : String
  template : String
  args : Value

def Call.perform (services : Services) (generator : Generator) (call : Call) : Render Unit :=
  Generator.generateFile services generator (Path.ofString call.path) call.path call.template call.args

-- Calls are made in a row until one fails, each from templates that are nested in some depth.
inductive Makes (generator : Generator) : List Call → Stage → Except Trouble Unit → Stage → Prop
  | done (stage : Stage) : Makes generator [] stage (.ok ()) stage
  | next (call : Call) (rest : List Call) (depth : Nat) (before middle last : Stage) (result : Except Trouble Unit)
      (made : call.perform (generator.services (depth + 1)) generator before = (.ok (), middle))
      (others : Makes generator rest middle result last) : Makes generator (call :: rest) before result last
  | failed (call : Call) (rest : List Call) (depth : Nat) (before last : Stage) (trouble : Trouble)
      (made : call.perform (generator.services (depth + 1)) generator before = (.error trouble, last)) :
      Makes generator (call :: rest) before (.error trouble) last

section

variable {generator : Generator}

theorem makes_append {calls more : List Call} {before middle last : Stage} {result : Except Trouble Unit}
    (first : Makes generator calls before (.ok ()) middle) (others : Makes generator more middle result last) :
    Makes generator (calls ++ more) before result last := by
  generalize whole : (Except.ok () : Except Trouble Unit) = good at first
  induction first with
  | done stage => exact others
  | next call rest depth before between last' result' made _ ih =>
      exact .next call _ depth before between _ _ made (ih others whole)
  | failed => cases whole

theorem makes_of_failed {calls : List Call} (more : List Call) {before last : Stage} {trouble : Trouble}
    (first : Makes generator calls before (.error trouble) last) :
    Makes generator (calls ++ more) before (.error trouble) last := by
  generalize whole : (Except.error trouble : Except Trouble Unit) = bad at first
  induction first with
  | done => cases whole
  | next call rest depth before between last' result' made _ ih =>
      exact .next call _ depth before between _ _ made (ih whole)
  | failed call rest depth before last' trouble' made => exact .failed call _ depth before _ _ made

-- A rendering does nothing but make calls, and what it gives is of a kind.
def Performs {α : Type} (generator : Generator) (calls : List Call) (kind : α → Prop) (block : Render α) : Prop :=
  ∀ stage, ∃ result last, Makes generator calls stage (result.map fun _ => ()) last ∧ block stage = (result, last) ∧
    ∀ value, result = .ok value → kind value

variable {α β : Type}

theorem performs_pure (kind : α → Prop) (value : α) (own : kind value) :
    Performs generator [] kind (pure value : Render α) :=
  fun stage => ⟨.ok value, stage, .done stage, rfl, by rintro _ ⟨⟩; exact own⟩

theorem performs_bind {calls more : List Call} {kind : α → Prop} {after : β → Prop} {block : Render α}
    {next : α → Render β} (first : Performs generator calls kind block)
    (others : ∀ value, kind value → Performs generator more after (next value)) :
    Performs generator (calls ++ more) after (block >>= next) := by
  intro stage
  obtain ⟨result, middle, made, run, own⟩ := first stage
  cases result with
  | error trouble => exact ⟨.error trouble, middle, makes_of_failed more made, bind_error run next, nofun⟩
  | ok value =>
      obtain ⟨result, last, rest, ran, good⟩ := others value (own value rfl) middle
      exact ⟨result, last, makes_append made rest, (bind_ok run next).trans ran, good⟩

-- A rendering that makes no calls may come first or last.
theorem performs_then {calls : List Call} {kind : α → Prop} {after : β → Prop} {block : Render α} {next : α → Render β}
    (first : Performs generator calls kind block)
    (others : ∀ value, kind value → Performs generator [] after (next value)) :
    Performs generator calls after (block >>= next) := by
  rw [← List.append_nil calls]
  exact performs_bind first others

theorem performs_call (depth : Nat) (call : Call) :
    Performs generator [call] (fun _ => True) (call.perform (generator.services (depth + 1)) generator) := by
  intro stage
  cases ran : call.perform (generator.services (depth + 1)) generator stage with
  | mk result last =>
      cases result with
      | ok done => exact ⟨.ok done, last, .next call [] depth stage last last _ ran (.done last), rfl, by simp⟩
      | error trouble => exact ⟨.error trouble, last, .failed call [] depth stage last trouble ran, rfl, nofun⟩

end

/-! ### Statements -/

namespace Template

section

variable {generator : Generator} {template : String} {depth : Nat} {env : Env}

-- The names known after a statement are those before it.
def Same {α : Type} (env : Env) (result : Env × α) : Prop := result.1 = env

theorem performs_data (services : Services) (text : String) :
    Performs generator [] (Same env) (renderStmt services generator.scene template env (.data text)) := by
  rw [renderStmt]
  exact performs_pure _ _ rfl

theorem performs_nil (services : Services) :
    Performs generator [] (Same env) (renderAll services generator.scene template env []) :=
  performs_pure _ _ rfl

theorem performs_cons {calls more : List Call} (services : Services) (statement : Stmt) (rest : List Stmt)
    (first : Performs generator calls (Same env) (renderStmt services generator.scene template env statement))
    (others : Performs generator more (Same env) (renderAll services generator.scene template env rest)) :
    Performs generator (calls ++ more) (Same env)
      (renderAll services generator.scene template env (statement :: rest)) := by
  rw [renderAll]
  refine performs_bind first ?_
  rintro ⟨_, text⟩ ⟨⟩
  refine performs_then others ?_
  rintro ⟨_, more⟩ ⟨⟩
  exact performs_pure _ _ rfl

theorem performs_generated (path template' : String) (place : Expr) (args : List Expr) (values : List Value)
    (known : env.lookup "generator" = .generator)
    (placed : evaluate (generator.services (depth + 2)) generator.scene template env place = pure (.text path))
    (given : evaluateAll (generator.services (depth + 2)) generator.scene template env args = pure values)
    (few : values.length ≤ 1) :
    Performs generator [⟨path, template', values.head?.getD .null⟩] (Same env)
      (renderStmt (generator.services (depth + 2)) generator.scene template env
        (Bundled.generated (place :: Bundled.constant template' :: args))) := by
  have callee : evaluate (generator.services (depth + 2)) generator.scene template env
      (Bundled.member "generator" "generate_file") = pure (.method .generator "generate_file") :=
    evaluate_member env "generator" "generate_file" _ _ known rfl
  have called : call (generator.services (depth + 2)) generator.scene template env (.method .generator "generate_file")
      (.text path :: .text template' :: values) [] = do
        Call.perform (generator.services (depth + 1)) generator ⟨path, template', values.head?.getD .null⟩
        return .text "" := by
    match values, few with
    | [], _ => rfl
    | [value], _ => rfl
  simp only [Bundled.generated, renderStmt, evaluate, callee, evaluateAll, placed, evaluate_constant, given,
    evaluateNamed, pure_bind, called, bind_assoc]
  exact performs_then (performs_call depth _) fun _ _ => performs_pure _ _ rfl

theorem performs_called {calls : List Call} {kind : Env × String → Prop} (fragment parameter : String)
    (body : List Stmt) (argument : Expr) (value : Value)
    (known : env.lookup fragment = .fragment fragment [parameter] [] body [])
    (given : evaluate (generator.services (depth + 1)) generator.scene template env argument = pure value)
    (performed : Performs generator calls kind
      (renderAll (generator.services depth) generator.scene template { env with locals := [[(parameter, value)]] }
        body)) :
    Performs generator calls (Same env)
      (renderStmt (generator.services (depth + 1)) generator.scene template env
        (Bundled.called fragment [argument])) := by
  have arguments : fragmentArguments fragment [parameter] [value] [] = .ok [(parameter, some value)] := rfl
  have called : call (generator.services (depth + 1)) generator.scene template env
      (.fragment fragment [parameter] [] body []) [value] [] =
        callFragment (generator.services depth) generator.scene template { env with locals := [] } fragment
          [parameter] [] body [value] [] := rfl
  simp only [Bundled.called, renderStmt, evaluate, evaluateAll, evaluateNamed, known, given, called, callFragment,
    arguments, Render.ofResult, fillDefaults, Env.enter, pure_bind, bind_assoc, List.length_singleton, List.length_nil,
    Nat.sub_zero, List.replicate_one, List.map_nil, List.append_nil, List.nil_append]
  exact performs_then performed fun _ _ => performs_pure _ _ rfl

theorem performs_each_value {services : Services} (name : String) (body : List Stmt) (values : List Value)
    (calls : List (List Call)) (index total : Nat)
    (bodies : List.Forall₂ (fun value own => ∀ index, Performs generator own (Same (turn env name value index total))
      (renderAll services generator.scene template (turn env name value index total) body)) values calls) :
    Performs generator calls.flatten (fun _ => True)
      (eachValue generator.scene (.name name)
        (fun scope => do return (← renderAll services generator.scene template (env.enter scope) body).2)
        total index values) := by
  induction bodies generalizing index with
  | nil => exact performs_pure _ _ trivial
  | @cons value own values calls first others ih =>
      have performed := first index
      rw [turn] at performed
      simp only [eachValue, Value.bind, Render.ofResult, pure_bind, List.cons_append, List.nil_append, bind_assoc,
        List.flatten_cons]
      exact performs_bind performed fun _ _ => performs_then (ih (index + 1)) fun _ _ => performs_pure _ _ trivial

-- A loop makes the calls of its turns, one turn after the other.
theorem performs_each {services : Services} (name : String) (items : Expr) (body : List Stmt) (value : Value)
    (values : List Value) (calls : List (List Call))
    (given : evaluate services generator.scene template env items = pure value)
    (iterated : value.iterate generator.scene = .ok values)
    (bodies : List.Forall₂ (fun value own => ∀ index total,
      Performs generator own (Same (turn env name value index total))
        (renderAll services generator.scene template (turn env name value index total) body)) values calls) :
    Performs generator calls.flatten (Same env)
      (renderStmt services generator.scene template env (Bundled.each name items body)) := by
  have looped := @performs_each_value generator template env services name body values calls 0 values.length
    (bodies.imp fun value own performed index => performed index values.length)
  simp only [Bundled.each, renderStmt, given, iterated, Render.ofResult, isTrivialTest, pure_bind, if_true]
  cases bodies with
  | nil => exact performs_pure _ _ rfl
  | cons first others =>
      simp only [List.isEmpty_cons, Bool.false_eq_true, if_false]
      exact performs_then looped fun _ _ => performs_pure _ _ rfl

end

end Template

/-! ### The stubs of a forest -/

namespace Stubs

def slashed (name : String) : String := Text.replace "." "/" name

def packagePath (name : String) : String := slashed name ++ "/_package.php"

def commandPath (name : String) : String := slashed name ++ ".php"

def indexPath : String := "ipcstub.php"

def packageCall (forest : Forest) (node : Nat) : Call := ⟨packagePath (forest.fullName node), "package", .node node⟩

def commandCall (command : Command) : Call := ⟨commandPath command.fullName, "command", .command command⟩

def indexCall : Call := ⟨indexPath, "index", .null⟩

-- The calls for a namespace itself: its package file, and one file for each of its commands.
def ownCalls (forest : Forest) (node : Nat) : List Call :=
  packageCall forest node :: (forest.commands node).map commandCall

def calls (forest : Forest) : List Call := forest.nodes.flatMap (ownCalls forest) ++ [indexCall]

def walkBody : List Stmt :=
  match Bundled.phpMain with
  | .define _ _ _ body :: _ => body
  | _ => []

def walk : Value := .fragment "walk" ["node"] [] walkBody []

-- The names known in the entry template once the walk is, and those known in its body.
def entering (generator : Generator) : Env := { root := [("walk", walk)], globals := generator.globals .null }

def walking (generator : Generator) (node : Nat) : Env :=
  { entering generator with locals := [[("node", .node node)]] }

section

variable {generator : Generator} {template : String} {depth : Nat}

theorem evaluate_undotted (services : Services) (scene : Scene) (env : Env) (thing text name : String) (value : Value)
    (known : env.lookup thing = value) (has : value.member scene "full_name" = .ok (.text name)) :
    evaluate services scene template env (Bundled.undotted (Bundled.member thing "full_name") text) =
      pure (.text (Text.replace "." text name)) := by
  have member := @evaluate_member services scene template env thing "full_name" value (.text name) known has
  have replaced : (Value.text name).applyFilter scene "replace" [.text ".", .text text] [] =
      .ok (.text (Text.replace "." text name)) := rfl
  simp [Bundled.undotted, evaluate, evaluateAll, evaluateNamed, member, evaluate_constant, replaced, Render.ofResult]

theorem evaluate_file (services : Services) (scene : Scene) (env : Env) (thing ending name : String) (value : Value)
    (known : env.lookup thing = value) (has : value.member scene "full_name" = .ok (.text name)) :
    evaluate services scene template env (Bundled.phpFile thing ending) = pure (.text (slashed name ++ ending)) := by
  have undotted := @evaluate_undotted template services scene env thing "/" name value known has
  have plain : [Value.text (Text.replace "." "/" name), .text ending].mapM (Value.plain scene) =
      .ok [Text.replace "." "/" name, ending] := rfl
  simp [Bundled.phpFile, evaluate, evaluateAll, undotted, evaluate_constant, Render.ofResult, plain, String.join,
    slashed]

-- The walk of a namespace makes its own calls, and then those of its children.
theorem performs_walk (node : Nat) (below : List (List Call))
    (children : List.Forall₂ (fun child own => Performs generator own (Same (walking generator child))
      (renderAll (generator.services (depth + 1)) generator.scene template (walking generator child) walkBody))
      (generator.scene.forest.children node) below) :
    Performs generator (ownCalls generator.scene.forest node ++ below.flatten) (Same (walking generator node))
      (renderAll (generator.services (depth + 2)) generator.scene template (walking generator node) walkBody) := by
  let env := walking generator node
  have package := @performs_generated generator template depth env
    (packagePath (generator.scene.forest.fullName node)) "package" (Bundled.phpFile "node" "/_package.php")
    [.name "node"] [.node node] rfl (evaluate_file _ _ _ "node" _ _ (.node node) rfl rfl) rfl (by simp)
  have commands := @performs_each generator template env (generator.services (depth + 2)) "command"
    (Bundled.member "node" "commands")
    [Bundled.generated [Bundled.phpFile "command" ".php", Bundled.constant "command", .name "command"], .data "\n"]
    (Value.ofCommands (generator.scene.forest.commands node)) ((generator.scene.forest.commands node).map .command)
    ((generator.scene.forest.commands node).map fun command => [commandCall command]) rfl rfl (by
      rw [List.forall₂_map_left_iff, List.forall₂_map_right_iff, List.forall₂_same]
      intro command member index total
      have own := @performs_generated generator template depth (turn env "command" (.command command) index total)
        (commandPath command.fullName) "command" (Bundled.phpFile "command" ".php") [.name "command"]
        [.command command] rfl (evaluate_file _ _ _ "command" _ _ (.command command) rfl rfl) rfl (by simp)
      exact performs_cons _ _ _ own (performs_cons _ _ _ (performs_data _ _) (performs_nil _)))
  have deeper := @performs_each generator template env (generator.services (depth + 2)) "child"
    (Bundled.member "node" "packages") [Bundled.called "walk" [.name "child"], .data "\n"]
    (Value.ofNodes (generator.scene.forest.children node)) ((generator.scene.forest.children node).map .node)
    below rfl rfl (by
      rw [List.forall₂_map_left_iff]
      refine children.imp ?_
      intro child own performed index total
      have walked := @performs_called generator template (depth + 1) (turn env "child" (.node child) index total) own
        _ "walk" "node" walkBody (.name "child") (.node child) rfl rfl performed
      rw [← List.append_nil own]
      exact performs_cons _ _ _ walked (performs_cons _ _ _ (performs_data _ _) (performs_nil _)))
  have whole := performs_cons _ _ _ package (performs_cons _ _ _ (performs_data _ "\n")
    (performs_cons _ _ _ commands (performs_cons _ _ _ deeper (performs_nil _))))
  have flat : ((generator.scene.forest.commands node).map fun command => [commandCall command]).flatten =
      (generator.scene.forest.commands node).map commandCall := by
    rw [← List.flatMap_def, ← List.map_eq_flatMap]
  rw [flat, List.nil_append, List.append_nil] at whole
  exact whole

-- By induction on the outline that the forest is laid out from: walking the nodes side by side makes the calls of
-- all nodes that a walk of the forest meets.
theorem performs_layout (outline : Outline) (parent : Option Nat) (first : Nat)
    (lies : outline.LiesIn parent first generator.scene.forest) (levels : Nat) (enough : outline.size ≤ levels + 1)
    (deep : outline.size ≤ depth) :
    List.Forall₂ (fun node own => Performs generator own (Same (walking generator node))
        (renderAll (generator.services (depth + 1)) generator.scene template (walking generator node) walkBody))
      (outline.tops first)
      ((outline.tops first).map fun node =>
        (generator.scene.forest.walkFrom levels node).flatMap (ownCalls generator.scene.forest)) := by
  induction outline generalizing parent first levels depth with
  | empty => exact .nil
  | node fullName own below beside ihBelow ihBeside =>
      obtain ⟨slot, liesBelow, liesBeside⟩ := Outline.lies_in_node _ _ _ _ _ _ _ lies
      rw [Outline.size] at enough deep
      obtain ⟨fewer, rfl⟩ := Nat.exists_eq_add_of_le' (show 1 ≤ depth by omega)
      have children : generator.scene.forest.children first = below.tops (first + 1) := by
        simp [Forest.children, slot]
      refine .cons ?_ (ihBeside _ _ liesBeside levels (by omega) (by omega))
      cases levels with
      | zero =>
          have bare : below = .empty := by
            cases below with
            | empty => rfl
            | node _ _ _ _ =>
                rw [Outline.size] at enough
                omega
          have walked := @performs_walk generator template fewer first [] (by rw [children, bare]; exact .nil)
          simpa [Forest.walkFrom] using walked
      | succ levels =>
          have walked := @performs_walk generator template fewer first _ (by
            rw [children]
            exact ihBelow _ _ liesBelow levels (by omega) (by omega))
          simp only [Forest.walkFrom, List.flatMap_cons, children, List.flatMap_assoc]
          rw [List.flatMap_def]
          exact walked

-- The entry template makes the calls of the stubs.
theorem performs_main (commands : List Command) (built : Forest.ofCommands commands = .ok generator.scene.forest)
    (deep : generator.scene.forest.size + 2 ≤ depth) :
    Performs generator (calls generator.scene.forest) (Same (entering generator))
      (renderAll (generator.services depth) generator.scene template { globals := generator.globals .null }
        Bundled.phpMain) := by
  obtain ⟨-, outline, -, -, layout⟩ := Forest.of_commands_grown commands _ built
  have size : generator.scene.forest.size = outline.size := by simp [layout, Forest.size, Outline.toForest]
  have roots : generator.scene.forest.roots = outline.tops 0 := by rw [layout]; rfl
  obtain ⟨fewer, rfl⟩ := Nat.exists_eq_add_of_le' (show 2 ≤ depth by omega)
  have walked := @performs_layout generator template fewer outline none 0 (layout ▸ outline.lies_in_forest)
    outline.size (by omega) (by omega)
  rw [← roots, ← size] at walked
  have trees := @performs_each generator template (entering generator) (generator.services (fewer + 2)) "root"
    (.name "packages") [Bundled.called "walk" [.name "root"], .data "\n"]
    (Value.ofNodes generator.scene.forest.roots) (generator.scene.forest.roots.map .node) _ rfl rfl (by
      rw [List.forall₂_map_left_iff]
      refine walked.imp ?_
      intro root own performed index total
      have called := @performs_called generator template (fewer + 1) (turn (entering generator) "root" (.node root) index
        total) own _ "walk" "node" walkBody (.name "root") (.node root) rfl rfl performed
      rw [← List.append_nil own]
      exact performs_cons _ _ _ called (performs_cons _ _ _ (performs_data _ _) (performs_nil _)))
  have index : Performs generator [indexCall] _ _ := @performs_generated generator template fewer (entering generator)
    indexPath "index" (Bundled.constant indexPath) [] [] rfl rfl rfl (by simp)
  have whole := performs_cons _ _ _ trees (performs_cons _ _ _ index (performs_cons _ _ _ (performs_data _ "\n")
    (performs_nil _)))
  have flat : ((generator.scene.forest.roots.map fun node =>
      (generator.scene.forest.walkFrom generator.scene.forest.size node).flatMap
        (ownCalls generator.scene.forest)).flatten ++ ([indexCall] ++ ([] ++ []))) = calls generator.scene.forest := by
    rw [calls, Forest.nodes, List.flatMap_assoc, List.flatMap_def]
    rfl
  rw [flat] at whole
  -- Defining the walk, which comes first, prints nothing.
  change Performs _ _ _ (renderAll _ _ _ (entering generator) Bundled.phpMain.tail >>= fun result =>
    pure (result.1, "" ++ result.2))
  exact performs_then whole fun result same => performs_pure _ (result.1, "" ++ result.2) same

-- Rendering the entry template is making the calls of the stubs, of which the first that fails ends it.
theorem render_main_makes (commands : List Command) (built : Forest.ofCommands commands = .ok generator.scene.forest)
    (stage : Stage)
    (entry : generator.engine.read stage.session.world.disk stage.session.directory
      (Engine.templatePath generator.scheme Engine.entryTemplate) = .ok Bundled.phpMain) :
    ∃ (result : Except Trouble String) (last : Stage), Makes generator (calls generator.scene.forest)
        (announced generator.scheme Engine.entryTemplate stage) (result.map fun _ => ()) last ∧
      generator.render Engine.entryTemplate .null stage =
        (result.mapError (Generator.blame generator.scheme Engine.entryTemplate), last) := by
  have performed := @performs_main generator (Engine.templatePath generator.scheme Engine.entryTemplate)
    generator.depthLimit commands built (by rw [Generator.depthLimit]; omega)
  obtain ⟨result, last, made, run, -⟩ := performed (announced generator.scheme Engine.entryTemplate stage)
  rw [Generator.render, Generator.renderArgs, render_with_body _ _ _ _ _ entry, try_catch_run]
  cases result with
  | ok printed => exact ⟨.ok printed.2, last, made, by rw [bind_ok run]; rfl⟩
  | error trouble => exact ⟨.error trouble, last, made, by rw [bind_error run]; rfl⟩

end

end Stubs

end StubForge
