import Mathlib.Data.List.Forall2
import StubForge.Generator
import StubForge.Proofs.JsonText
import StubForge.Proofs.Runs

set_option autoImplicit false

/-!
What statements of templates print. A statement that only looks at values leaves the stage of the
rendering alone, so its text is a fact about the names that are known.
-/

namespace StubForge.Template

section

variable (services : Services) (scene : Scene) (template : String)

-- Statements print a text and leave names behind.
def Prints (env : Env) (statements : List Stmt) (after : Env) (text : List Char) : Prop :=
  renderAll services scene template env statements = pure (after, String.ofList text)

def PrintsOne (env : Env) (statement : Stmt) (after : Env) (text : List Char) : Prop :=
  renderStmt services scene template env statement = pure (after, String.ofList text)

end

section

variable {services : Services} {scene : Scene} {template : String}

theorem prints_nil (env : Env) : Prints services scene template env [] env [] := rfl

theorem prints_cons (env middle after : Env) (statement : Stmt) (rest : List Stmt) (text more : List Char)
    (first : PrintsOne services scene template env statement middle text)
    (others : Prints services scene template middle rest after more) :
    Prints services scene template env (statement :: rest) after (text ++ more) := by
  rw [PrintsOne] at first
  rw [Prints] at others
  simp [Prints, renderAll, first, others]

theorem render_all_append (env : Env) (statements rest : List Stmt) :
    renderAll services scene template env (statements ++ rest) = do
      let (middle, text) ← renderAll services scene template env statements
      let (after, more) ← renderAll services scene template middle rest
      return (after, text ++ more) := by
  induction statements generalizing env with
  | nil => simp [renderAll]
  | cons statement statements ih => simp [renderAll, ih, String.append_assoc]

theorem prints_append (env middle after : Env) (statements rest : List Stmt) (text more : List Char)
    (first : Prints services scene template env statements middle text)
    (others : Prints services scene template middle rest after more) :
    Prints services scene template env (statements ++ rest) after (text ++ more) := by
  rw [Prints] at first others
  rw [Prints, render_all_append]
  simp [first, others]

theorem prints_same_text (env after : Env) (statements : List Stmt) (text same : List Char)
    (printed : Prints services scene template env statements after text) (equal : text = same) :
    Prints services scene template env statements after same :=
  equal ▸ printed

theorem prints_data (env : Env) (text : String) :
    PrintsOne services scene template env (.data text) env text.toList := by
  rw [PrintsOne, renderStmt, String.ofList_toList]

theorem evaluate_member (env : Env) (thing name : String) (value found : Value)
    (known : env.lookup thing = value) (has : value.member scene name = .ok found) :
    evaluate services scene template env (Bundled.member thing name) = pure found := by
  simp [Bundled.member, evaluate, known, has, Render.ofResult]

theorem evaluate_constant (env : Env) (text : String) :
    evaluate services scene template env (Bundled.constant text) = pure (.text text) := rfl

theorem evaluate_either (env : Env) (left right : Expr) (value : Value) (holds : Bool)
    (given : evaluate services scene template env left = pure value) (test : value.isTrue scene = .ok holds) :
    evaluate services scene template env (.either left right) =
      if holds then pure value else evaluate services scene template env right := by
  simp [evaluate, given, test, Render.ofResult]

theorem apply_to_json (value : Value) (json : Json) (writable : value.toJson = .ok json) :
    value.applyFilter scene "tojson" [] [] = .ok (.text json.text) := by
  have unfolded : value.applyFilter scene "tojson" [] [] = do return Value.text (← value.toJson).text := rfl
  rw [unfolded, writable]
  rfl

theorem prints_json (env : Env) (e : Expr) (value : Value) (json : Json)
    (given : evaluate services scene template env e = pure value) (writable : value.toJson = .ok json) :
    PrintsOne services scene template env (Bundled.json e) env json.chars := by
  simp [PrintsOne, Bundled.json, renderStmt, evaluate, evaluateAll, evaluateNamed, given,
    apply_to_json value json writable, Render.ofResult, Value.plain, Json.text]

-- A member of an object, with the text in front of it.
theorem prints_json_member (env : Env) (before thing name : String) (value found : Value) (json : Json)
    (known : env.lookup thing = value) (has : value.member scene name = .ok found)
    (writable : found.toJson = .ok json) :
    Prints services scene template env (Bundled.jsonMember before thing name) env (before.toList ++ json.chars) := by
  have member := @evaluate_member services scene template env thing name value found known has
  refine prints_cons _ _ _ _ _ _ _ (prints_data env before) ?_
  rw [← List.append_nil json.chars]
  exact prints_cons _ _ _ _ _ _ _ (prints_json env _ found json member writable) (prints_nil env)

theorem prints_output (env : Env) (e : Expr) (text : String)
    (given : evaluate services scene template env e = pure (.text text)) :
    PrintsOne services scene template env (.output e) env text.toList := by
  simp [PrintsOne, renderStmt, given, Render.ofResult, Value.plain]

theorem prints_shown (env : Env) (thing name : String) (value : Value) (text : String)
    (known : env.lookup thing = value) (has : value.member scene name = .ok (.text text)) :
    PrintsOne services scene template env (Bundled.shown thing name) env text.toList :=
  prints_output env _ text (evaluate_member env thing name value (.text text) known has)

theorem prints_given (env after : Env) (condition : Expr) (body : List Stmt) (value : Value) (holds : Bool)
    (text : List Char) (given : evaluate services scene template env condition = pure value)
    (test : value.isTrue scene = .ok holds) (same : holds = false → after = env)
    (printed : holds = true → Prints services scene template env body after text) :
    PrintsOne services scene template env (Bundled.given condition body) after (if holds then text else []) := by
  cases holds with
  | true =>
      have shown := printed rfl
      rw [Prints] at shown
      simp [PrintsOne, Bundled.given, renderStmt, given, test, Render.ofResult, shown]
  | false =>
      rw [same rfl]
      simp [PrintsOne, Bundled.given, renderStmt, given, test, Render.ofResult, renderAll]

/-! ### Loops -/

-- Texts with commas between them.
def separated : List (List Char) → List Char
  | [] => []
  | [text] => text
  | text :: rest => text ++ ',' :: ' ' :: separated rest

theorem prints_separator (env : Env) (index total : Nat) (known : env.lookup "loop" = .loop index total) :
    PrintsOne services scene template env Bundled.separator env (if index + 1 = total then [] else [',', ' ']) := by
  have last : evaluate services scene template env (Bundled.member "loop" "last") =
      pure (.bool (index + 1 = total)) := evaluate_member env "loop" "last" _ _ known rfl
  by_cases final : index + 1 = total
  · simp [PrintsOne, Bundled.separator, renderStmt, evaluate, last, Render.ofResult, Value.isTrue, final,
      evaluate_constant, Value.plain]
  · simp [PrintsOne, Bundled.separator, renderStmt, evaluate, last, Render.ofResult, Value.isTrue, final,
      evaluate_constant, Value.plain]

-- The names known in a turn of a loop.
def turn (env : Env) (name : String) (value : Value) (index total : Nat) : Env :=
  env.enter [(name, value), ("loop", .loop index total)]

theorem lookup_loop (env : Env) (name : String) (value : Value) (index total : Nat) (other : name ≠ "loop") :
    (turn env name value index total).lookup "loop" = .loop index total := by
  simp [turn, Env.lookup, Env.scopes, Env.enter, Env.find?, other]

theorem lookup_turn (env : Env) (name : String) (value : Value) (index total : Nat) :
    (turn env name value index total).lookup name = value := by
  simp [turn, Env.lookup, Env.scopes, Env.enter, Env.find?]

theorem lookup_outside_turn (env : Env) (name other : String) (value : Value) (index total : Nat)
    (named : other ≠ name) (free : other ≠ "loop") :
    (turn env name value index total).lookup other = env.lookup other := by
  simp [turn, Env.lookup, Env.scopes, Env.enter, Env.find?, named.symm, free.symm]

theorem each_value_separated (env : Env) (name : String) (body : List Stmt) (other : name ≠ "loop")
    (values : List Value) (texts : List (List Char)) (index total : Nat) (count : index + values.length = total)
    (bodies : List.Forall₂ (fun value text => ∀ index total,
      Prints services scene template (turn env name value index total) body (turn env name value index total) text)
      values texts) :
    eachValue scene (.name name)
        (fun scope => do
          return (← renderAll services scene template (env.enter scope) (body ++ [Bundled.separator])).2)
        total index values =
      pure (String.ofList (separated texts)) := by
  induction bodies generalizing index with
  | nil => rfl
  | @cons value text values texts first others ih =>
      simp only [List.length_cons] at count
      have whole := prints_append _ _ _ _ _ _ _ (first index total)
        (prints_cons _ _ _ _ _ _ _ (prints_separator _ index total (lookup_loop env name value index total other))
          (prints_nil _))
      rw [Prints, turn] at whole
      have next := ih (index + 1) (by omega)
      simp only [eachValue, Value.bind, Render.ofResult, pure_bind, List.cons_append, List.nil_append, whole, next]
      -- The last turn writes no comma, all others do.
      cases others with
      | nil =>
          have final : index + 1 = total := by simpa using count
          simp [final, separated]
      | @cons second more values texts _ _ =>
          have between : index + 1 ≠ total := by
            rw [List.length_cons] at count
            omega
          simp [between, separated, ← String.ofList_append]

theorem prints_separated (env : Env) (name : String) (items : Expr) (body : List Stmt) (other : name ≠ "loop")
    (value : Value) (values : List Value) (texts : List (List Char))
    (given : evaluate services scene template env items = pure value)
    (iterated : value.iterate scene = .ok values)
    (bodies : List.Forall₂ (fun value text => ∀ index total,
      Prints services scene template (turn env name value index total) body (turn env name value index total) text)
      values texts) :
    PrintsOne services scene template env (Bundled.each name items (body ++ [Bundled.separator])) env
      (separated texts) := by
  have texts_eq := each_value_separated env name body other values texts 0 values.length (by simp) bodies
  cases values with
  | nil =>
      cases bodies
      simp [PrintsOne, Bundled.each, renderStmt, given, iterated, Render.ofResult, isTrivialTest, renderAll]
      rfl
  | cons first rest =>
      simp only [PrintsOne, Bundled.each, renderStmt, given, iterated, Render.ofResult, isTrivialTest, pure_bind,
        if_true, List.isEmpty_cons, Bool.false_eq_true, if_false, texts_eq]

theorem each_value_prints (env : Env) (target : Target) (body : List Stmt) (values : List Value)
    (texts : List (List Char)) (index total : Nat)
    (bodies : List.Forall₂ (fun value text => ∀ index, ∃ scope after, Value.bind scene target value = .ok scope ∧
      Prints services scene template (env.enter (scope ++ [("loop", .loop index total)])) body after text)
      values texts) :
    eachValue scene target
        (fun scope => do return (← renderAll services scene template (env.enter scope) body).2) total index values =
      pure (String.ofList texts.flatten) := by
  induction bodies generalizing index with
  | nil => rfl
  | @cons value text values texts first others ih =>
      obtain ⟨scope, after, bound, printed⟩ := first index
      rw [Prints] at printed
      simp only [eachValue, bound, Render.ofResult, pure_bind, printed, ih (index + 1), List.flatten_cons]
      rw [String.ofList_append]

-- A loop prints what its turns print.
theorem prints_loop (env : Env) (target : Target) (items : Expr) (body : List Stmt) (value : Value)
    (values : List Value) (texts : List (List Char))
    (given : evaluate services scene template env items = pure value) (iterated : value.iterate scene = .ok values)
    (bodies : List.Forall₂ (fun value text => ∀ index total, ∃ scope after, Value.bind scene target value = .ok scope ∧
      Prints services scene template (env.enter (scope ++ [("loop", .loop index total)])) body after text)
      values texts) :
    PrintsOne services scene template env (.loop target items (.constant (.bool true)) body []) env texts.flatten := by
  have printed := each_value_prints env target body values texts 0 values.length
    (bodies.imp fun value text turn index => turn index values.length)
  cases values with
  | nil =>
      cases bodies
      simp [PrintsOne, renderStmt, given, iterated, Render.ofResult, isTrivialTest, renderAll]
  | cons first rest =>
      simp only [PrintsOne, renderStmt, given, iterated, Render.ofResult, isTrivialTest, pure_bind, if_true,
        List.isEmpty_cons, Bool.false_eq_true, if_false, printed]

theorem prints_each {α : Type} (env : Env) (name : String) (items : Expr) (body : List Stmt) (value : Value)
    (things : List α) (wrap : α → Value) (text : α → List Char)
    (given : evaluate services scene template env items = pure value)
    (iterated : value.iterate scene = .ok (things.map wrap))
    (bodies : ∀ thing ∈ things, ∀ index total, Prints services scene template (turn env name (wrap thing) index total)
      body (turn env name (wrap thing) index total) (text thing)) :
    PrintsOne services scene template env (Bundled.each name items body) env (things.flatMap text) := by
  rw [List.flatMap_def]
  refine prints_loop env (.name name) items body value _ _ given iterated ?_
  rw [List.forall₂_map_left_iff, List.forall₂_map_right_iff, List.forall₂_same]
  intro thing member index total
  exact ⟨_, _, rfl, bodies thing member index total⟩

/-! ### Fragments -/

-- Calling a fragment of one parameter prints what its body prints, with nothing known around it but the argument.
theorem prints_called (generator : Generator) (depth : Nat) (env after : Env) (fragment parameter : String)
    (body : List Stmt) (argument : Expr) (value : Value) (text : List Char)
    (known : env.lookup fragment = .fragment fragment [parameter] [] body [])
    (given : evaluate (generator.services (depth + 1)) generator.scene template env argument = pure value)
    (printed : Prints (generator.services depth) generator.scene template
      { env with locals := [[(parameter, value)]] } body after text) :
    PrintsOne (generator.services (depth + 1)) generator.scene template env (Bundled.called fragment [argument]) env
      text := by
  have arguments : fragmentArguments fragment [parameter] [value] [] = .ok [(parameter, some value)] := rfl
  rw [Prints] at printed
  have rendered : callFragment (generator.services depth) generator.scene template { env with locals := [] }
      fragment [parameter] [] body [value] [] = pure (.text (String.ofList text)) := by
    simp [callFragment, arguments, Render.ofResult, fillDefaults, Env.enter, printed]
  have called : call (generator.services (depth + 1)) generator.scene template env
      (.fragment fragment [parameter] [] body []) [value] [] = pure (.text (String.ofList text)) := rendered
  simp [PrintsOne, Bundled.called, renderStmt, evaluate, evaluateAll, evaluateNamed, known, given, called,
    Render.ofResult, Value.plain]

-- A loop that calls a fragment for each value.
theorem prints_call_loop (generator : Generator) (depth : Nat) (env : Env) (name fragment parameter : String)
    (body : List Stmt) (items : Expr) (value : Value) (values : List Value) (texts : List (List Char))
    (other : name ≠ "loop") (apart : fragment ≠ name) (free : fragment ≠ "loop")
    (known : env.lookup fragment = .fragment fragment [parameter] [] body [])
    (given : evaluate (generator.services (depth + 1)) generator.scene template env items = pure value)
    (iterated : value.iterate generator.scene = .ok values)
    (bodies : List.Forall₂ (fun value text => ∃ after, Prints (generator.services depth) generator.scene template
      { env with locals := [[(parameter, value)]] } body after text) values texts) :
    PrintsOne (generator.services (depth + 1)) generator.scene template env
      (Bundled.each name items [Bundled.called fragment [.name name], Bundled.separator]) env (separated texts) := by
  refine prints_separated env name items [Bundled.called fragment [.name name]] other value values texts given
    iterated (bodies.imp ?_)
  rintro value text ⟨after, printed⟩ index total
  have called := prints_called generator depth (turn env name value index total) after fragment parameter body
    (.name name) value text ((lookup_outside_turn env name fragment value index total apart free).trans known)
    (congrArg pure (lookup_turn env name value index total)) printed
  rw [← List.append_nil text]
  exact prints_cons _ _ _ _ _ _ _ called (prints_nil _)

-- The stage after a record of the rendering of a template.
def announced (scheme template : String) (stage : Stage) : Stage :=
  { stage with session :=
    { stage.session with records := stage.session.records ++
      [{ level := .debug, message := "Rendering " ++ Engine.templatePath scheme template }] } }

theorem render_with_body (engine : Engine) (scheme : String) (globals : Scope) (stage : Stage) (body : List Stmt)
    (found : engine.read stage.session.world.disk stage.session.directory (Engine.templatePath scheme template) =
      .ok body) :
    Generator.renderWith services engine scene scheme template globals stage =
      (tryCatch
        (do return (← renderAll services scene (Engine.templatePath scheme template) { globals } body).2)
        (fun trouble => throw (Generator.blame scheme template trouble)) : Render String)
        (announced scheme template stage) := by
  have read : engine.template scheme template stage.session = (.ok body, stage.session) := by
    rw [Engine.template, bind_ok (Run.get_run _), found]
    rfl
  have taken : Render.ofRun (engine.template scheme template) stage = (.ok body, stage) := by
    rw [Render.ofRun, read]
  have said : Render.ofRun (Run.say .debug ("Rendering " ++ Engine.templatePath scheme template)) stage =
      (.ok (), announced scheme template stage) := rfl
  rw [Generator.renderWith, bind_ok taken]
  simp only [bind_ok said]

theorem render_with_prints (engine : Engine) (scheme : String) (globals : Scope) (stage : Stage) (body : List Stmt)
    (after : Env) (text : List Char)
    (found : engine.read stage.session.world.disk stage.session.directory (Engine.templatePath scheme template) =
      .ok body)
    (printed : Prints services scene (Engine.templatePath scheme template) { globals } body after text) :
    Generator.renderWith services engine scene scheme template globals stage =
      (.ok (String.ofList text), announced scheme template stage) := by
  rw [Prints] at printed
  rw [render_with_body engine scheme globals stage body found, printed]
  rfl

end

end StubForge.Template
