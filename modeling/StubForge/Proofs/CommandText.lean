import StubForge.Proofs.StubFragments

set_option autoImplicit false

/-!
The text of the file of a command: what its template prints, for commands whose metadata has all the parts that the
template asks for.
-/

namespace StubForge

open Template

/-! ### Loops whose turns are told apart -/

namespace Template

section

variable {services : Services} {scene : Scene} {template : String}

theorem prints_plain (env : Env) (e : Expr) (value : Value) (text : String)
    (given : evaluate services scene template env e = pure value) (plain : value.plain scene = .ok text) :
    PrintsOne services scene template env (.output e) env text.toList := by
  simp [PrintsOne, renderStmt, given, Render.ofResult, plain]

theorem each_value_numbered {α : Type} (env : Env) (name : String) (body : List Stmt) (things : List α)
    (wrap : α → Value) (text : α → Nat → List Char) (index total : Nat)
    (bodies : ∀ thing ∈ things, ∀ index, Prints services scene template (turn env name (wrap thing) index total)
      body (turn env name (wrap thing) index total) (text thing index)) :
    eachValue scene (.name name)
        (fun scope => do return (← renderAll services scene template (env.enter scope) body).2) total index
        (things.map wrap) =
      pure (String.ofList ((things.zipIdx index).flatMap fun entry => text entry.1 entry.2)) := by
  induction things generalizing index with
  | nil => rfl
  | cons thing rest ih =>
      obtain ⟨first, others⟩ := List.forall_mem_cons.mp bodies
      have printed := first index
      rw [Prints, turn] at printed
      rw [List.map_cons, eachValue]
      simp only [Value.bind, Render.ofResult, pure_bind, List.cons_append, List.nil_append, printed,
        ih (index + 1) others, List.zipIdx_cons, List.flatMap_cons]
      rw [String.ofList_append]

-- A loop whose turns print what their things and their numbers say.
theorem prints_each_numbered {α : Type} (env : Env) (name : String) (items : Expr) (body : List Stmt) (value : Value)
    (things : List α) (wrap : α → Value) (text : α → Nat → List Char)
    (given : evaluate services scene template env items = pure value)
    (iterated : value.iterate scene = .ok (things.map wrap))
    (bodies : ∀ thing ∈ things, ∀ index total, Prints services scene template (turn env name (wrap thing) index total)
      body (turn env name (wrap thing) index total) (text thing index)) :
    PrintsOne services scene template env (Bundled.each name items body) env
      (things.zipIdx.flatMap fun entry => text entry.1 entry.2) := by
  have printed := each_value_numbered env name body things wrap text 0 (things.map wrap).length
    fun thing member index => bodies thing member index _
  simp only [PrintsOne, Bundled.each, renderStmt, given, iterated, Render.ofResult, isTrivialTest, pure_bind, if_true,
    printed]
  cases things with
  | nil => rfl
  | cons thing rest => rfl

end

end Template

namespace Stubs

open Php (written Fragment written_append)

/-! ### Metadata -/

-- Metadata in which no tag lacks a part that the template of commands asks for.
structure Described (metadata : Metadata) : Prop where
  params : ∀ tag ∈ metadata.params, ∀ name ∈ ["name", "description", "type", "optional", "default"],
    (tag.field? name).isSome
  throws : ∀ tag ∈ metadata.throws, ∀ name ∈ ["name", "description"], (tag.field? name).isSome
  returns : ∀ tag ∈ metadata.returns, ∀ name ∈ ["name", "description"], (tag.field? name).isSome

theorem plain_of_field (scene : Scene) (field : TagField) :
    (Value.ofField field).plain scene = .ok (fieldText scene field) := by
  cases field with
  | constant value => cases value <;> rfl
  | tag value => rfl
  | items values => rfl

theorem is_true_of_field (scene : Scene) (field : TagField) :
    (Value.ofField field).isTrue scene = .ok (fieldHolds scene field) := by
  cases field with
  | constant value => cases value <;> rfl
  | tag value => rfl
  | items values => rfl

section

variable {services : Services} {scene : Scene} {template : String} {env : Env} {thing : String} {tag : Tag}

theorem evaluate_part (name : String) (known : env.lookup thing = .tag tag) (has : (tag.field? name).isSome) :
    evaluate services scene template env (Bundled.member thing name) = pure (Value.ofField (fieldOf tag name)) := by
  obtain ⟨field, found⟩ := Option.isSome_iff_exists.mp has
  refine evaluate_member env thing name _ _ known ?_
  simp [Value.member, Value.attribute?, found, fieldOf]

theorem prints_part (name : String) (known : env.lookup thing = .tag tag) (has : (tag.field? name).isSome) :
    PrintsOne services scene template env (Bundled.shown thing name) env (tagText scene tag name).toList :=
  prints_plain env _ _ _ (evaluate_part name known has) (plain_of_field scene _)

theorem prints_if_part (name : String) (body : List Stmt) (fragments : List Fragment)
    (known : env.lookup thing = .tag tag) (has : (tag.field? name).isSome)
    (printed : Prints services scene template env body env (written fragments)) :
    PrintsOne services scene template env (Bundled.given (Bundled.member thing name) body) env
      (written (if tagHolds scene tag name then fragments else [])) := by
  have whole := prints_given env env _ body _ (tagHolds scene tag name) (written fragments)
    (@evaluate_part services scene template env thing tag name known has) (is_true_of_field scene _) (fun _ => rfl)
    fun _ => printed
  cases holds : tagHolds scene tag name <;> rw [holds] at whole <;> exact whole

theorem prints_fragment (statement : Stmt) (rest : List Stmt) (fragment : Fragment) (more : List Fragment)
    (first : PrintsOne services scene template env statement env fragment.chars)
    (others : Prints services scene template env rest env (written more)) :
    Prints services scene template env (statement :: rest) env (written (fragment :: more)) :=
  prints_cons _ _ _ _ _ _ _ first others

theorem prints_fragments (statement : Stmt) (rest : List Stmt) (own more : List Fragment)
    (first : PrintsOne services scene template env statement env (written own))
    (others : Prints services scene template env rest env (written more)) :
    Prints services scene template env (statement :: rest) env (written (own ++ more)) := by
  rw [written_append]
  exact prints_cons _ _ _ _ _ _ _ first others

theorem prints_last (statement : Stmt) (own : List Fragment)
    (printed : PrintsOne services scene template env statement env (written own)) :
    Prints services scene template env [statement] env (written own) := by
  rw [← List.append_nil own]
  exact prints_fragments statement [] own [] printed (prints_nil env)

theorem prints_described (before : String) (known : env.lookup thing = .tag tag)
    (has : (tag.field? "description").isSome) :
    PrintsOne services scene template env (Bundled.described before thing) env
      (written (describedFragments scene before tag)) :=
  prints_if_part "description" _ _ known has <|
    prints_fragment _ _ (.marks before) _ (prints_data env before) <|
    prints_fragment _ _ (.comment _) [] (prints_part "description" known has) (prints_nil env)

theorem prints_optional (known : env.lookup thing = .tag tag) (optional : (tag.field? "optional").isSome)
    (default : (tag.field? "default").isSome) :
    PrintsOne services scene template env (Bundled.given (Bundled.member thing "optional") [
        .data " (optional",
        Bundled.given (Bundled.member thing "default") [.data ", defaults to ", Bundled.shown thing "default"],
        .data ")"]) env
      (written (optionalFragments scene tag)) := by
  have defaulted : PrintsOne services scene template env (Bundled.given (Bundled.member thing "default") [
      .data ", defaults to ", Bundled.shown thing "default"]) env (written (defaultFragments scene tag)) :=
    prints_if_part "default" _ _ known default <|
      prints_fragment _ _ (.marks ", defaults to ") _ (prints_data env _) <|
      prints_fragment _ _ (.comment _) [] (prints_part "default" known default) (prints_nil env)
  exact prints_if_part "optional" _ _ known optional <|
    prints_fragment _ _ (.marks " (optional") _ (prints_data env _) <|
    prints_fragments _ _ (defaultFragments scene tag) _ defaulted <|
    prints_fragment _ _ (.marks ")") [] (prints_data env _) (prints_nil env)

theorem prints_type (known : env.lookup thing = .tag tag) (type : (tag.field? "type").isSome) :
    PrintsOne services scene template env
      (.output (.either (Bundled.member thing "type") (Bundled.constant "mixed"))) env
      (if tagHolds scene tag "type" then tagText scene tag "type" else "mixed").toList := by
  have chosen := evaluate_either env (Bundled.member thing "type") (Bundled.constant "mixed") _
    (tagHolds scene tag "type") (@evaluate_part services scene template env thing tag "type" known type)
    (is_true_of_field scene _)
  cases holds : tagHolds scene tag "type" with
  | true =>
      rw [holds] at chosen
      exact prints_plain env _ _ _ chosen (plain_of_field scene _)
  | false =>
      rw [holds] at chosen
      exact prints_output env _ _ chosen

end

section

variable {services : Services} {scene : Scene} {template : String} {env : Env} {metadata : Metadata}

-- A loop over tags prints what each of them does, wherever it is known by the name of the loop.
theorem prints_tags (list name : String) (body : List Stmt) (tags : List Tag) (parts : Tag → List Fragment)
    (given : evaluate services scene template env (Bundled.member "meta" list) = pure (Value.ofTags tags))
    (each : ∀ tag ∈ tags, ∀ env : Env, env.lookup name = .tag tag →
      Prints services scene template env body env (written (parts tag))) :
    PrintsOne services scene template env (Bundled.each name (Bundled.member "meta" list) body) env
      (written (tags.flatMap parts)) := by
  rw [written, List.flatMap_assoc]
  exact prints_each env name _ body _ tags .tag _ given rfl fun tag member index total =>
    each tag member _ (lookup_turn env name (.tag tag) index total)

theorem prints_params (known : env.lookup "meta" = .metadata metadata) (described : Described metadata) :
    PrintsOne services scene template env (Bundled.each "param" (Bundled.member "meta" "params") [
        .data " * @param ", .output (.either (Bundled.member "param" "type") (Bundled.constant "mixed")),
        .data " $", Bundled.shown "param" "name",
        Bundled.described " " "param",
        Bundled.given (Bundled.member "param" "optional") [
          .data " (optional",
          Bundled.given (Bundled.member "param" "default") [.data ", defaults to ", Bundled.shown "param" "default"],
          .data ")"],
        .data "\n"]) env
      (written (metadata.params.flatMap (paramFragments scene))) := by
  refine prints_tags "params" "param" _ _ _ (evaluate_member env _ _ _ _ known rfl) fun tag member env named => ?_
  have has := described.params tag member
  simp only [paramFragments, List.cons_append, List.nil_append, List.append_assoc]
  exact prints_fragment _ _ (.marks " * @param ") _ (prints_data _ _) <|
    prints_fragment _ _ (.comment _) _ (prints_type named (has "type" (by decide))) <|
    prints_fragment _ _ (.marks " $") _ (prints_data _ _) <|
    prints_fragment _ _ (.comment _) _ (prints_part "name" named (has "name" (by decide))) <|
    prints_fragments _ _ _ _ (prints_described " " named (has "description" (by decide))) <|
    prints_fragments _ _ _ _ (prints_optional named (has "optional" (by decide)) (has "default" (by decide))) <|
    prints_fragment _ _ (.marks "\n") [] (prints_data _ _) (prints_nil _)

theorem prints_throws (known : env.lookup "meta" = .metadata metadata) (described : Described metadata) :
    PrintsOne services scene template env (Bundled.each "throw" (Bundled.member "meta" "throws") [
        .data " * @throws ", Bundled.shown "throw" "name", Bundled.described " " "throw", .data "\n"]) env
      (written (metadata.throws.flatMap (throwFragments scene))) := by
  refine prints_tags "throws" "throw" _ _ _ (evaluate_member env _ _ _ _ known rfl) fun tag member env named => ?_
  have has := described.throws tag member
  simp only [throwFragments, List.cons_append, List.nil_append]
  exact prints_fragment _ _ (.marks " * @throws ") _ (prints_data _ _) <|
    prints_fragment _ _ (.comment _) _ (prints_part "name" named (has "name" (by decide))) <|
    prints_fragments _ _ _ _ (prints_described " " named (has "description" (by decide))) <|
    prints_fragment _ _ (.marks "\n") [] (prints_data _ _) (prints_nil _)

-- In its first turn, the loop over what is returned goes on in the line of the text before it.
theorem prints_between (index total : Nat) (known : env.lookup "loop" = .loop index total) :
    PrintsOne services scene template env
      (.output (.choice (Bundled.member "loop" "first") (Bundled.constant " ") (Bundled.constant ", "))) env
      (if index = 0 then " " else ", ").toList := by
  have first : evaluate services scene template env (Bundled.member "loop" "first") = pure (.bool (index = 0)) :=
    evaluate_member env "loop" "first" _ _ known rfl
  refine prints_output env _ _ ?_
  by_cases begins : index = 0 <;>
    simp [evaluate, first, Render.ofResult, Value.isTrue, begins, evaluate_constant]

theorem prints_returns (known : env.lookup "meta" = .metadata metadata) (described : Described metadata) :
    PrintsOne services scene template env (Bundled.each "ret" (Bundled.member "meta" "returns") [
        .output (.choice (Bundled.member "loop" "first") (Bundled.constant " ") (Bundled.constant ", ")),
        .data "'", Bundled.shown "ret" "name", .data "'",
        Bundled.described ": " "ret"]) env
      (written (metadata.returns.zipIdx.flatMap fun entry => returnFragments scene entry.1 entry.2)) := by
  have given := @evaluate_member services scene template env "meta" "returns" _ (Value.ofTags metadata.returns) known rfl
  rw [written, List.flatMap_assoc]
  refine prints_each_numbered env "ret" _ _ _ metadata.returns .tag
    (fun tag index => written (returnFragments scene tag index)) given rfl fun tag member index total => ?_
  have has := described.returns tag member
  have named := lookup_turn env "ret" (.tag tag) index total
  have between := @prints_between services scene template _ index total
    (lookup_loop env "ret" (.tag tag) index total (by decide))
  generalize turn env "ret" (.tag tag) index total = env at named between
  have whole := prints_cons _ _ _ _ _ _ _ between <|
    prints_fragment _ _ (.marks "'") _ (prints_data _ _) <|
    prints_fragment _ _ (.comment _) _ (prints_part "name" named (has "name" (by decide))) <|
    prints_fragment _ _ (.marks "'") _ (prints_data _ _) <|
    prints_last _ _ (prints_described ": " named (has "description" (by decide)))
  refine prints_same_text _ _ _ _ _ whole ?_
  by_cases begins : index = 0
  · rw [returnFragments, if_pos begins, if_pos begins]
    rfl
  · rw [returnFragments, if_neg begins, if_neg begins]
    rfl

theorem prints_arguments (known : env.lookup "meta" = .metadata metadata) (described : Described metadata) :
    PrintsOne services scene template env (Bundled.each "param" (Bundled.member "meta" "params") [
        .data ", $", Bundled.shown "param" "name",
        Bundled.given (Bundled.member "param" "optional") [.data " = null"]]) env
      (written (metadata.params.flatMap (argumentFragments scene))) := by
  refine prints_tags "params" "param" _ _ _ (evaluate_member env _ _ _ _ known rfl) fun tag member env named => ?_
  have has := described.params tag member
  have optional : PrintsOne services scene template env (Bundled.given (Bundled.member "param" "optional")
      [.data " = null"]) env (written (if tagHolds scene tag "optional" then [.marks " = null"] else [])) :=
    prints_if_part "optional" _ _ named (has "optional" (by decide)) <|
      prints_fragment _ _ (.marks " = null") [] (prints_data _ _) (prints_nil _)
  simp only [argumentFragments, List.cons_append, List.nil_append]
  exact prints_fragment _ _ (.marks ", $") _ (prints_data _ _) <|
    prints_fragment _ _ (.name _) _ (prints_part "name" named (has "name" (by decide))) <|
    prints_last _ _ optional

theorem prints_passed (known : env.lookup "meta" = .metadata metadata) (described : Described metadata) :
    PrintsOne services scene template env (Bundled.each "param" (Bundled.member "meta" "params") [
        .data "            '", Bundled.shown "param" "name",
        .data "' => $", Bundled.shown "param" "name",
        .data ",\n"]) env
      (written (metadata.params.flatMap (passedFragments scene))) := by
  refine prints_tags "params" "param" _ _ _ (evaluate_member env _ _ _ _ known rfl) fun tag member env named => ?_
  have shown := @prints_part services scene template env "param" tag "name" named
    (described.params tag member "name" (by decide))
  have whole := prints_cons _ _ _ _ _ _ _ (prints_data env "            '") <|
    prints_cons _ _ _ _ _ _ _ shown <| prints_cons _ _ _ _ _ _ _ (prints_data env "' => $") <|
    prints_cons _ _ _ _ _ _ _ shown <| prints_cons _ _ _ _ _ _ _ (prints_data env ",\n") (prints_nil env)
  have opened : "            '".toList = "            ".toList ++ ['\''] := rfl
  have between : "' => $".toList = '\'' :: " => $".toList := rfl
  refine prints_same_text _ _ _ _ _ whole ?_
  rw [opened, between]
  simp only [written, passedFragments, Fragment.chars, List.flatMap_cons, List.flatMap_nil, String.empty_append,
    String.append_empty, List.append_assoc, List.cons_append, List.nil_append]

end

section

variable {services : Services} {generator : Generator} {template : String} {env : Env} {command : Command}

theorem prints_summary (described : env.lookup "meta" = .metadata command.metadata)
    (known : env.lookup "args" = .command command) :
    PrintsOne services generator.scene template env
      (.output (.either (Bundled.member "meta" "description") (Bundled.member "args" "name"))) env
      (summary generator.scene command).toList := by
  have given : evaluate services generator.scene template env (Bundled.member "meta" "description") =
      pure (Value.ofField command.metadata.description) := evaluate_member env _ _ _ _ described rfl
  have chosen := evaluate_either env _ (Bundled.member "args" "name") _ _ given (is_true_of_field generator.scene _)
  rw [summary]
  cases holds : fieldHolds generator.scene command.metadata.description with
  | true =>
      rw [holds] at chosen
      exact prints_plain env _ _ _ chosen (plain_of_field generator.scene _)
  | false =>
      rw [holds] at chosen
      have named : evaluate services generator.scene template env (Bundled.member "args" "name") =
          pure (.text command.name) := evaluate_member env _ _ _ _ known rfl
      exact prints_output env _ _ (chosen.trans named)

theorem prints_comment (known : env.lookup "meta" = .metadata command.metadata)
    (args : env.lookup "args" = .command command) (described : Described command.metadata) :
    Prints services generator.scene template env Bundled.phpComment env
      (written (commentFragments generator.scene command)) := by
  have deprecated : PrintsOne services generator.scene template env
      (Bundled.given (Bundled.member "meta" "deprecated") [.data " * @deprecated\n"]) env
      (written (if command.metadata.deprecated then [.marks " * @deprecated\n"] else [])) := by
    have given : evaluate services generator.scene template env (Bundled.member "meta" "deprecated") =
        pure (.bool command.metadata.deprecated) := evaluate_member env _ _ _ _ known rfl
    have whole := prints_given env env _ [.data " * @deprecated\n"] _ _ (written [.marks " * @deprecated\n"]) given
      (rfl : (Value.bool command.metadata.deprecated).isTrue generator.scene = .ok _) (fun _ => rfl) fun _ =>
        prints_fragment _ _ (.marks " * @deprecated\n") [] (prints_data _ _) (prints_nil _)
    cases holds : command.metadata.deprecated <;> rw [holds] at whole <;> exact whole
  simp only [commentFragments, List.cons_append, List.nil_append, List.append_assoc]
  exact prints_fragment _ _ (.comment _) _ (prints_summary known args) <|
    prints_fragment _ _ (.marks "\n *\n") _ (prints_data _ _) <|
    prints_fragments _ _ _ _ (prints_params known described) <|
    prints_fragments _ _ _ _ (prints_throws known described) <|
    prints_fragment _ _ (.marks " * @return array") _ (prints_data _ _) <|
    prints_fragments _ _ _ _ (prints_returns known described) <|
    prints_fragment _ _ (.marks "\n") _ (prints_data _ _) <|
    prints_last _ _ deprecated

theorem prints_home (known : env.lookup "args" = .command command) :
    PrintsOne services generator.scene template env
      (.output (Bundled.undotted (Bundled.member "args" "namespace") "\\")) env
      (Text.replace "." "\\" command.home).toList := by
  have home : evaluate services generator.scene template env (Bundled.member "args" "namespace") =
      pure (.text command.home) := evaluate_member env _ _ _ _ known rfl
  have replaced : (Value.text command.home).applyFilter generator.scene "replace" [.text ".", .text "\\"] [] =
      .ok (.text (Text.replace "." "\\" command.home)) := rfl
  refine prints_output env _ _ ?_
  simp [Bundled.undotted, evaluate, evaluateAll, evaluateNamed, home, evaluate_constant, replaced, Render.ofResult]

theorem prints_class (known : env.lookup "meta" = .metadata command.metadata)
    (args : env.lookup "args" = .command command) (described : Described command.metadata) :
    Prints services generator.scene template env (Bundled.phpCommand.drop 2) env
      (written (commandFragments generator.scene command)) := by
  have named := @prints_shown services generator.scene template env "args" "name" _ command.name args rfl
  have whole := @prints_shown services generator.scene template env "args" "full_name" _ command.fullName args rfl
  have opened := prints_fragment _ _ (.marks "\nnamespace ") _ (prints_data env _) <|
    prints_fragment _ _ (.name _) _ (@prints_home services generator template env command args) <|
    prints_fragment _ _ (.marks ";\n\n/**\n * ") [] (prints_data env _) (prints_nil _)
  have arguments := @prints_arguments services generator.scene template env _ known described
  have called := prints_fragments _ _ _ _ arguments <|
    prints_fragment _ _ (.marks ")\n    \x7b\n        return $connection->call(self::COMMAND, array(\n") _
      (prints_data env _) <|
    prints_fragments _ _ _ _ (prints_passed known described) <|
    prints_fragment _ _ (.marks "        ));\n    \x7d\n\x7d\n") [] (prints_data env _) (prints_nil _)
  have declared := prints_cons _ _ _ _ _ _ _ (prints_data env " */\nclass ") <| prints_cons _ _ _ _ _ _ _ named <|
    prints_cons _ _ _ _ _ _ _ (prints_data env "\n\x7b\n    const COMMAND = '") <| prints_cons _ _ _ _ _ _ _ whole <|
    prints_cons _ _ _ _ _ _ _ (prints_data env "';\n\n    public static function call($connection") called
  have constant : "\n\x7b\n    const COMMAND = '".toList = "\n\x7b\n    const COMMAND = ".toList ++ ['\''] := rfl
  have method : "';\n\n    public static function call($connection".toList =
      '\'' :: ";\n\n    public static function call($connection".toList := rfl
  have printed := prints_append _ _ _ _ _ _ _ (prints_append _ _ _ _ _ _ _ opened
    (prints_comment known args described)) declared
  refine prints_same_text _ _ _ _ _ printed ?_
  rw [constant, method]
  simp only [commandFragments, written_append, List.append_assoc]
  simp only [written, Fragment.chars, List.flatMap_cons, List.flatMap_nil, List.flatMap_append, String.empty_append,
    String.append_empty, List.append_assoc, List.cons_append, List.nil_append, List.append_nil]

-- The file of a command whose metadata is described.
theorem render_described (stage : Stage)
    (stock : Stock generator.engine generator.scheme stage.session.directory stage.session.world.disk) (depth : Nat)
    (described : Described command.metadata) :
    Generator.renderArgs (generator.services (depth + 1)) generator "command" (.command command) stage =
      (.ok (String.ofList (headerText generator ++ written (commandFragments generator.scene command))),
        announced generator.scheme "header" (announced generator.scheme "command" stage)) := by
  have printed := @prints_class (generator.services (depth + 1)) generator
    (Engine.templatePath generator.scheme "command") (describing generator command) command rfl rfl described
  rw [Prints] at printed
  rw [render_command stage stock depth command, printed, try_catch_run]
  simp only [pure_bind, String.ofList_append]
  rfl

end

end Stubs

end StubForge
