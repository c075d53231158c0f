import StubForge.Proofs.Manifest
import StubForge.Proofs.RenderingFrames
import StubForge.Proofs.StubCalls

set_option autoImplicit false

/-!
The texts of the stubs: what the header, the file of a namespace and the index of all commands print. Rendering them
leaves the disk and the list of written files alone.
-/

namespace StubForge

open Template

namespace Stubs

/-! ### Texts -/

def legalLine (line : String) : List Char := " * ".toList ++ line.toList ++ "\n".toList

-- An empty legal text is none.
def legalPart : Option String → List Char
  | none => []
  | some text => if text = "" then [] else (Text.splitLines text).flatMap legalLine ++ " *\n".toList

def headerText (generator : Generator) : List Char :=
  "<?php\n/*\n".toList ++ legalPart generator.config.legalText ++ " * Generated by ipcstub (".toList
    ++ generator.config.name.toList ++ ") on ".toList ++ generator.scene.moment.headerText.toList
    ++ ".\n * Do not edit by hand.\n */\n".toList

-- An entry that leads from a name to a file beside the one it stands in.
def linkText (key place : String) : List Char :=
  "        '".toList ++ key.toList ++ "' => __DIR__ . '/".toList ++ place.toList ++ "',\n".toList

def aliasText (entry : String × String) : List Char :=
  "        '".toList ++ entry.1.toList ++ "' => '".toList ++ entry.2.toList ++ "',\n".toList

def packageText (forest : Forest) (node : Nat) : List Char :=
  "\n// namespace ".toList ++ (forest.fullName node).toList ++ "\nreturn array(\n    'packages' => array(\n".toList
    ++ (forest.children node).flatMap (fun child => linkText (forest.name child) (forest.name child ++ "/_package.php"))
    ++ "    ),\n    'commands' => array(\n".toList
    ++ (forest.commands node).flatMap (fun command => linkText command.name (command.name ++ ".php"))
    ++ "    ),\n);\n".toList

def indexText (config : Configuration) (forest : Forest) : List Char :=
  "\nreturn array(\n    'commands' => array(\n".toList
    ++ forest.allCommands.flatMap (fun command => linkText command.fullName (commandPath command.fullName))
    ++ "    ),\n    'aliases' => array(\n".toList
    ++ (config.aliases.getD []).flatMap aliasText
    ++ "    ),\n);\n".toList

/-! ### The header -/

section

variable {services : Services} {generator : Generator} {template : String} {env : Env}

theorem prints_legal_line (index total : Nat) (line : String) :
    Prints services generator.scene template (turn env "line" (.text line) index total)
      [.data " * ", .output (.name "line"), .data "\n"] (turn env "line" (.text line) index total) (legalLine line) := by
  have whole := prints_cons _ _ _ _ _ _ _ (prints_data (turn env "line" (.text line) index total) " * ")
    (prints_cons _ _ _ _ _ _ _ (@prints_output services generator.scene template _ (.name "line") line
      (congrArg pure (lookup_turn env "line" (.text line) index total)))
    (prints_cons _ _ _ _ _ _ _ (prints_data _ "\n") (prints_nil _)))
  refine prints_same_text _ _ _ _ _ whole ?_
  simp [legalLine]

theorem prints_legal (known : env.lookup "generator" = .generator) :
    PrintsOne services generator.scene template env (Bundled.given (Bundled.member "generator" "legal_text") [
        Bundled.each "line" (.call (.attribute (Bundled.member "generator" "legal_text") "splitlines") [] [])
          [.data " * ", .output (.name "line"), .data "\n"],
        .data " *\n"])
      env (legalPart generator.config.legalText) := by
  have given : evaluate services generator.scene template env (Bundled.member "generator" "legal_text") =
      pure (Value.ofText? generator.config.legalText) := evaluate_member env "generator" "legal_text" _ _ known rfl
  cases legal : generator.config.legalText with
  | none =>
      rw [legal] at given
      exact prints_given env env _ _ _ false [] given rfl (fun _ => rfl) nofun
  | some text =>
      rw [legal] at given
      have lines : evaluate services generator.scene template env
          (.call (.attribute (Bundled.member "generator" "legal_text") "splitlines") [] []) =
            pure (.list ((Text.splitLines text).map .text)) := by
        have method : (Value.text text).member generator.scene "splitlines" =
            .ok (.method (.text text) "splitlines") := rfl
        have split : call services generator.scene template env (.method (.text text) "splitlines") [] [] =
            pure (.list ((Text.splitLines text).map .text)) := rfl
        simp [evaluate, evaluateAll, evaluateNamed, given, Value.ofText?, method, split, Render.ofResult]
      have looped := @prints_each services generator.scene template String env "line" _
        [.data " * ", .output (.name "line"), .data "\n"] _ (Text.splitLines text) .text legalLine lines rfl
        fun line _ index total => prints_legal_line index total line
      have whole := prints_cons _ _ _ _ _ _ _ looped (prints_cons _ _ _ _ _ _ _ (prints_data env " *\n")
        (prints_nil env))
      have chosen := prints_given env env _ _ _ (text != "") _ given rfl (fun _ => rfl) fun _ => whole
      refine Eq.trans chosen ?_
      by_cases empty : text = "" <;> simp [legalPart, empty]

theorem prints_header (known : env.lookup "generator" = .generator) :
    Prints services generator.scene template env Bundled.phpHeader env (headerText generator) := by
  have named := @prints_shown services generator.scene template env "generator" "name" .generator
    generator.config.name known rfl
  have dated := @prints_shown services generator.scene template env "generator" "generation_date" .generator
    generator.scene.moment.headerText known rfl
  have whole := prints_cons env env env _ _ _ _ (prints_data env "<?php\n/*\n")
    (prints_cons env env env _ _ _ _ (prints_legal known)
    (prints_cons env env env _ _ _ _ (prints_data env " * Generated by ipcstub (")
    (prints_cons env env env _ _ _ _ named
    (prints_cons env env env _ _ _ _ (prints_data env ") on ")
    (prints_cons env env env _ _ _ _ dated
    (prints_cons env env env _ _ _ _ (prints_data env ".\n * Do not edit by hand.\n */\n") (prints_nil env)))))))
  refine prints_same_text _ _ _ _ _ whole ?_
  unfold headerText
  simp only [List.append_assoc, List.append_nil]

end

/-! ### The files -/

section

variable {services : Services} {generator : Generator} {template : String} {env : Env}

-- What the entry of a thing prints, by the name of the thing.
theorem prints_entry (thing ending name : String) (value : Value) (known : env.lookup thing = value)
    (has : value.member generator.scene "name" = .ok (.text name)) :
    Prints services generator.scene template env (Bundled.phpEntry thing ending) env
      (linkText name (name ++ ending)) := by
  have shown := @prints_shown services generator.scene template env thing "name" value name known has
  have whole := prints_cons env env env _ _ _ _ (prints_data env "        '")
    (prints_cons env env env _ _ _ _ shown
    (prints_cons env env env _ _ _ _ (prints_data env "' => __DIR__ . '/")
    (prints_cons env env env _ _ _ _ shown
    (prints_cons env env env _ _ _ _ (prints_data env (ending ++ "',\n")) (prints_nil env)))))
  refine prints_same_text _ _ _ _ _ whole ?_
  unfold linkText
  simp only [String.toList_append, List.append_assoc, List.append_nil]

theorem prints_package (node : Nat) (known : env.lookup "args" = .node node) :
    Prints services generator.scene template env Bundled.phpPackage.tail env
      (packageText generator.scene.forest node) := by
  have named := @prints_shown services generator.scene template env "args" "full_name" (.node node)
    (generator.scene.forest.fullName node) known rfl
  have packages : evaluate services generator.scene template env (Bundled.member "args" "packages") =
      pure (Value.ofNodes (generator.scene.forest.children node)) :=
    evaluate_member env "args" "packages" _ _ known rfl
  have commands : evaluate services generator.scene template env (Bundled.member "args" "commands") =
      pure (Value.ofCommands (generator.scene.forest.commands node)) :=
    evaluate_member env "args" "commands" _ _ known rfl
  have children := @prints_each services generator.scene template Nat env "child" _
    (Bundled.phpEntry "child" "/_package.php") _ (generator.scene.forest.children node) .node _ packages rfl
    fun child _ index total => prints_entry "child" "/_package.php" (generator.scene.forest.name child) (.node child)
      (lookup_turn env "child" (.node child) index total) rfl
  have own := @prints_each services generator.scene template Command env "command" _
    (Bundled.phpEntry "command" ".php") _ (generator.scene.forest.commands node) .command _ commands rfl
    fun command _ index total => prints_entry "command" ".php" command.name (.command command)
      (lookup_turn env "command" (.command command) index total) rfl
  have whole := prints_cons env env env _ _ _ _ (prints_data env "\n// namespace ")
    (prints_cons env env env _ _ _ _ named
    (prints_cons env env env _ _ _ _ (prints_data env "\nreturn array(\n    'packages' => array(\n")
    (prints_cons env env env _ _ _ _ children
    (prints_cons env env env _ _ _ _ (prints_data env "    ),\n    'commands' => array(\n")
    (prints_cons env env env _ _ _ _ own
    (prints_cons env env env _ _ _ _ (prints_data env "    ),\n);\n") (prints_nil env)))))))
  refine prints_same_text _ _ _ _ _ whole ?_
  unfold packageText
  simp only [List.append_assoc, List.append_nil]

theorem prints_index_entry (command : Command) (index total : Nat) :
    Prints services generator.scene template (turn env "command" (.command command) index total) [
        .data "        '", Bundled.shown "command" "full_name",
        .data "' => __DIR__ . '/", .output (Bundled.undotted (Bundled.member "command" "full_name") "/"),
        .data ".php',\n"]
      (turn env "command" (.command command) index total)
      (linkText command.fullName (commandPath command.fullName)) := by
  have known := lookup_turn env "command" (.command command) index total
  generalize turn env "command" (.command command) index total = env at known
  have shown := @prints_shown services generator.scene template env "command" "full_name" (.command command)
    command.fullName known rfl
  have placed := @prints_output services generator.scene template env _ _
    (@evaluate_undotted template services generator.scene env "command" "/" command.fullName (.command command) known rfl)
  have whole := prints_cons env env env _ _ _ _ (prints_data env "        '")
    (prints_cons env env env _ _ _ _ shown
    (prints_cons env env env _ _ _ _ (prints_data env "' => __DIR__ . '/")
    (prints_cons env env env _ _ _ _ placed
    (prints_cons env env env _ _ _ _ (prints_data env ".php',\n") (prints_nil env)))))
  refine prints_same_text _ _ _ _ _ whole ?_
  unfold linkText commandPath slashed
  simp only [String.toList_append, List.append_assoc, List.append_nil]
  rfl

theorem evaluate_alias_items (known : env.lookup "generator" = .generator) :
    evaluate services generator.scene template env (.call (.attribute Bundled.aliases "items") [] []) =
      pure (.stream "dict_items" ((generator.config.aliases.getD []).map fun entry =>
        .tuple [.text entry.1, .text entry.2])) := by
  have given := @Manifest.evaluate_aliases services generator template env known
  rw [Value.ofJson, Manifest.aliasMembers, ← Manifest.aliases_of_members] at given
  generalize generator.config.aliases.getD [] = entries at given ⊢
  have method : (Value.dictionary (entries.map fun entry => (.text entry.1, .text entry.2))).member generator.scene
      "items" = .ok (.method (.dictionary (entries.map fun entry => (.text entry.1, .text entry.2))) "items") := rfl
  have listed : call services generator.scene template env
      (.method (.dictionary (entries.map fun entry => (.text entry.1, .text entry.2))) "items") [] [] =
        pure (.stream "dict_items" ((entries.map fun entry => (Value.text entry.1, Value.text entry.2)).map
          fun entry => .tuple [entry.1, entry.2])) := rfl
  rw [List.map_map] at listed
  simp only [evaluate, evaluateAll, evaluateNamed, given, pure_bind, method, Render.ofResult, listed]
  rfl

theorem prints_alias (entry : String × String) (named : env.lookup "alias" = .text entry.1)
    (leads : env.lookup "command" = .text entry.2) :
    Prints services generator.scene template env
      [.data "        '", .output (.name "alias"), .data "' => '", .output (.name "command"), .data "',\n"] env
      (aliasText entry) := by
  have whole := prints_cons env env env _ _ _ _ (prints_data env "        '")
    (prints_cons env env env _ _ _ _
      (@prints_output services generator.scene template env (.name "alias") entry.1 (congrArg pure named))
    (prints_cons env env env _ _ _ _ (prints_data env "' => '")
    (prints_cons env env env _ _ _ _
      (@prints_output services generator.scene template env (.name "command") entry.2 (congrArg pure leads))
    (prints_cons env env env _ _ _ _ (prints_data env "',\n") (prints_nil env)))))
  refine prints_same_text _ _ _ _ _ whole ?_
  unfold aliasText
  simp only [List.append_assoc, List.append_nil]

theorem prints_index (known : env.lookup "generator" = .generator) :
    Prints services generator.scene template env Bundled.phpIndex.tail env
      (indexText generator.config generator.scene.forest) := by
  have commands : evaluate services generator.scene template env (Bundled.member "generator" "commands") =
      pure (Value.ofCommands generator.scene.forest.allCommands) :=
    evaluate_member env "generator" "commands" _ _ known rfl
  have entries := @prints_each services generator.scene template Command env "command" _ _ _
    generator.scene.forest.allCommands .command _ commands rfl fun command _ index total =>
      prints_index_entry command index total
  have aliases := @prints_loop services generator.scene template env (.tuple [.name "alias", .name "command"]) _
    [.data "        '", .output (.name "alias"), .data "' => '", .output (.name "command"), .data "',\n"] _ _
    ((generator.config.aliases.getD []).map aliasText) (evaluate_alias_items known) rfl (by
      rw [List.forall₂_map_left_iff, List.forall₂_map_right_iff, List.forall₂_same]
      intro entry member index total
      exact ⟨[("alias", .text entry.1), ("command", .text entry.2)], _, rfl, prints_alias entry rfl rfl⟩)
  have whole := prints_cons env env env _ _ _ _ (prints_data env "\nreturn array(\n    'commands' => array(\n")
    (prints_cons env env env _ _ _ _ entries
    (prints_cons env env env _ _ _ _ (prints_data env "    ),\n    'aliases' => array(\n")
    (prints_cons env env env _ _ _ _ aliases
    (prints_cons env env env _ _ _ _ (prints_data env "    ),\n);\n") (prints_nil env)))))
  refine prints_same_text _ _ _ _ _ whole ?_
  unfold indexText
  simp only [List.flatMap_def, List.append_assoc, List.append_nil]

end

/-! ### Renderings -/

def templates : List (String × List Stmt) := [
  ("main", Bundled.phpMain), ("package", Bundled.phpPackage), ("command", Bundled.phpCommand),
  ("index", Bundled.phpIndex), ("header", Bundled.phpHeader)]

-- The templates that a scheme finds are the bundled ones.
def Stock (engine : Engine) (scheme : String) (directory : Place) (disk : Disk) : Prop :=
  ∀ entry ∈ templates, engine.read disk directory (Engine.templatePath scheme entry.1) = .ok entry.2

-- Without folders to look into first, the bundled scheme is always found.
theorem stock_without_folders (directory : Place) (disk : Disk) : Stock {} "php" directory disk := by
  simp only [Stock, templates, List.forall_mem_cons, List.not_mem_nil, false_imp_iff, implies_true, and_true]
  exact ⟨rfl, rfl, rfl, rfl, rfl⟩

section

variable {generator : Generator} {template : String} {stage : Stage}
  (stock : Stock generator.engine generator.scheme stage.session.directory stage.session.world.disk)
include stock

theorem render_header (depth : Nat) (env : Env) (known : env.lookup "generator" = .generator) :
    renderStmt (generator.services (depth + 1)) generator.scene template env Bundled.header stage =
      (.ok (env, String.ofList (headerText generator)), announced generator.scheme "header" stage) := by
  have callee : evaluate (generator.services (depth + 1)) generator.scene template env
      (Bundled.member "generator" "include_file") = pure (.method .generator "include_file") :=
    evaluate_member env "generator" "include_file" _ _ known rfl
  have called : call (generator.services (depth + 1)) generator.scene template env (.method .generator "include_file")
      [.text "header"] [] = do
        return .text (← Generator.renderArgs (generator.services depth) generator "header" .null) := by
    have passed : call (generator.services (depth + 1)) generator.scene template env (.method .generator "include_file")
        [.text "header"] [] =
        Generator.callGenerator (generator.services depth) generator "include_file" [.text "header"] [] := rfl
    have bound : Value.bound "GeneratorContext.include_file" [("template", false), ("args", true)] [.text "header"] [] =
        .ok [some (.text "header"), none] := by rfl
    have plain : Value.plain generator.scene (.text "header") = .ok "header" := rfl
    rw [passed, Generator.callGenerator, if_neg (by decide), if_neg (by decide)]
    simp only [String.reduceAppend, bound, Render.ofResult, pure_bind, plain]
    rfl
  have rendered : Generator.renderArgs (generator.services depth) generator "header" .null stage =
      (.ok (String.ofList (headerText generator)), announced generator.scheme "header" stage) :=
    render_with_prints _ _ _ _ _ _ _ (stock ("header", Bundled.phpHeader) (.tail _ (.tail _ (.tail _ (.tail _ (.head _)))))) (prints_header rfl)
  simp only [Bundled.header, renderStmt, evaluate, callee, evaluateAll, evaluate_constant, evaluateNamed, pure_bind,
    called, bind_assoc]
  rw [bind_ok rendered]
  rfl

-- A file that starts with the header and goes on with what its other statements print.
theorem render_headed (depth : Nat) (name : String) (args : Value) (rest : List Stmt) (text : List Char)
    (held : (name, Bundled.header :: rest) ∈ templates)
    (printed : Prints (generator.services (depth + 1)) generator.scene (Engine.templatePath generator.scheme name)
      { globals := generator.globals args } rest { globals := generator.globals args } text) :
    Generator.renderArgs (generator.services (depth + 1)) generator name args stage =
      (.ok (String.ofList (headerText generator ++ text)),
        announced generator.scheme "header" (announced generator.scheme name stage)) := by
  have header := @render_header generator (Engine.templatePath generator.scheme name)
    (announced generator.scheme name stage) stock depth { globals := generator.globals args } rfl
  rw [Prints] at printed
  rw [Generator.renderArgs, render_with_body _ _ _ _ _ (stock _ held), try_catch_run, renderAll, bind_assoc,
    bind_ok header]
  simp only [printed, pure_bind, String.ofList_append]
  rfl

theorem render_package (depth node : Nat) :
    Generator.renderArgs (generator.services (depth + 1)) generator "package" (.node node) stage =
      (.ok (String.ofList (headerText generator ++ packageText generator.scene.forest node)),
        announced generator.scheme "header" (announced generator.scheme "package" stage)) :=
  render_headed stock depth "package" (.node node) _ _ (.tail _ (.head _)) (prints_package node rfl)

theorem render_index (depth : Nat) :
    Generator.renderArgs (generator.services (depth + 1)) generator "index" .null stage =
      (.ok (String.ofList (headerText generator ++ indexText generator.config generator.scene.forest)),
        announced generator.scheme "header" (announced generator.scheme "index" stage)) :=
  render_headed stock depth "index" .null _ _ (.tail _ (.tail _ (.tail _ (.head _)))) (prints_index rfl)

end

/-! ### What renderings leave alone -/

-- Since a first stage, nothing was written, and the directory is the same.
structure Unwritten (first stage : Stage) : Prop where
  disk : stage.session.world.disk = first.session.world.disk
  directory : stage.session.directory = first.session.directory
  files : stage.files = first.files

theorem unwritten_said (first stage : Stage) (record : Record) (holds : Unwritten first stage) :
    Unwritten first (noted record stage) := ⟨holds.disk, holds.directory, holds.files⟩

section

variable {generator : Generator} {template : String}

-- The names known in the template of a command once its metadata has a name of its own.
def describing (generator : Generator) (command : Command) : Env :=
  { root := [("meta", .metadata command.metadata)], globals := generator.globals (.command command) }

-- What the template of a command comes to, once the header is rendered.
theorem render_command (stage : Stage)
    (stock : Stock generator.engine generator.scheme stage.session.directory stage.session.world.disk) (depth : Nat)
    (command : Command) :
    Generator.renderArgs (generator.services (depth + 1)) generator "command" (.command command) stage =
      (tryCatch (do
          let found ← renderAll (generator.services (depth + 1)) generator.scene
            (Engine.templatePath generator.scheme "command") (describing generator command) (Bundled.phpCommand.drop 2)
          return String.ofList (headerText generator) ++ found.2)
        (fun trouble => throw (Generator.blame generator.scheme "command" trouble)) : Render String)
        (announced generator.scheme "header" (announced generator.scheme "command" stage)) := by
  have parts : Bundled.phpCommand =
      .assign (.name "meta") (Bundled.member "args" "meta") :: Bundled.header :: Bundled.phpCommand.drop 2 := rfl
  have named : renderStmt (generator.services (depth + 1)) generator.scene (Engine.templatePath generator.scheme "command")
      { globals := generator.globals (.command command) } (.assign (.name "meta") (Bundled.member "args" "meta")) =
        pure (describing generator command, "") := rfl
  have opened : renderAll (generator.services (depth + 1)) generator.scene (Engine.templatePath generator.scheme "command")
      { globals := generator.globals (.command command) } Bundled.phpCommand = do
        let first ← renderStmt (generator.services (depth + 1)) generator.scene
          (Engine.templatePath generator.scheme "command") (describing generator command) Bundled.header
        let found ← renderAll (generator.services (depth + 1)) generator.scene
          (Engine.templatePath generator.scheme "command") first.1 (Bundled.phpCommand.drop 2)
        return (found.1, "" ++ (first.2 ++ found.2)) := by
    rw [parts, renderAll, named, pure_bind]
    change (renderAll _ _ _ (describing generator command) (Bundled.header :: Bundled.phpCommand.drop 2) >>= _) = _
    rw [renderAll, bind_assoc]
    simp only [bind_assoc, pure_bind]
    rfl
  have header := @render_header generator (Engine.templatePath generator.scheme "command")
    (announced generator.scheme "command" stage) stock depth (describing generator command) rfl
  rw [Generator.renderArgs, render_with_body _ _ _ _ _ (stock ("command", Bundled.phpCommand) (.tail _ (.tail _ (.head _)))),
    try_catch_run, try_catch_run, opened, bind_assoc, bind_ok header]
  simp only [bind_assoc, pure_bind, String.empty_append]

theorem command_renders (stage : Stage)
    (stock : Stock generator.engine generator.scheme stage.session.directory stage.session.world.disk) (depth : Nat)
    (command : Command)
    (printed : ∀ services stage, (renderAll services generator.scene (Engine.templatePath generator.scheme "command")
      (describing generator command) (Bundled.phpCommand.drop 2) stage).1.toBool = true) :
    ∃ text drawn,
      Generator.renderArgs (generator.services (depth + 1)) generator "command" (.command command) stage = (.ok text, drawn) := by
  have good := printed (generator.services (depth + 1))
    (announced generator.scheme "header" (announced generator.scheme "command" stage))
  rw [render_command stage stock depth command, try_catch_run]
  cases ran : renderAll (generator.services (depth + 1)) generator.scene (Engine.templatePath generator.scheme "command")
      (describing generator command) (Bundled.phpCommand.drop 2)
      (announced generator.scheme "header" (announced generator.scheme "command" stage)) with
  | mk result drawn =>
      rw [ran] at good
      cases result with
      | error trouble => cases good
      | ok found => exact ⟨_, drawn, by rw [bind_ok ran]; rfl⟩

theorem command_keeps (first : Stage)
    (stock : Stock generator.engine generator.scheme first.session.directory first.session.world.disk) (depth : Nat)
    (command : Command) :
    Keeps (Unwritten first) Trouble.Usual
      (Generator.renderArgs (generator.services (depth + 1)) generator "command" (.command command)) := by
  intro stage holds
  have free : callsInAll (Bundled.phpCommand.drop 2) = false := by rfl
  rw [render_command stage (by rw [holds.disk, holds.directory]; exact stock) depth command]
  refine keeps_catch Trouble.Usual ?_ (fun trouble usual => keeps_throw _ (usual_blame _ _ trouble usual)) _
    (unwritten_said first _ _ (unwritten_said first stage _ holds))
  exact keeps_bind (render_all_keeps _ _ fun calls => absurd calls (by simp [free])) fun _ => keeps_pure _

end

end Stubs

end StubForge
