import StubForge.Proofs.StubReading
import StubForge.Proofs.StubRuns

set_option autoImplicit false

/-!
The links of the stubs: what the files of namespaces and the index lead to, read back from their texts, are the files
of the calls for these very namespaces and commands.
-/

namespace StubForge.Stubs

open Php

/-! ### Following references -/

-- Where a path leads that is seen from the folder of a file.
def followed (path reference : String) : String := Text.join "/" ((parts path).dropLast ++ (parts reference).tail)

theorem join_parts (path : String) : Text.join "/" (parts path) = path := by
  have back : (parts path).map String.toList = Text.splitAt '/' path.toList := by
    simp [parts, List.map_map, Function.comp_def]
  apply String.toList_inj.mp
  rw [Text.to_list_join, back]
  exact Text.join_split_at '/' path.toList

theorem parts_leading (rest : String) : parts ("/" ++ rest) = "" :: parts rest := by
  rw [← String.empty_append (s := "/"), parts_append]
  rfl

theorem followed_beside (above file rest : String) (plain : '/' ∉ file.toList) :
    followed (above ++ "/" ++ file) ("/" ++ rest) = above ++ "/" ++ rest := by
  rw [followed, parts_append, parts_of_plain file plain, List.dropLast_concat, parts_leading, List.tail_cons,
    ← parts_append, join_parts]

theorem followed_outermost (file rest : String) (plain : '/' ∉ file.toList) : followed file ("/" ++ rest) = rest := by
  rw [followed, parts_of_plain file plain, parts_leading]
  exact join_parts rest

-- From the file of a namespace, what stands below it.
theorem followed_package (name rest : String) : followed (packagePath name) ("/" ++ rest) = slashed name ++ "/" ++ rest := by
  have whole : packagePath name = slashed name ++ "/" ++ "_package.php" := by
    rw [packagePath, String.append_assoc]
    rfl
  rw [whole, followed_beside _ _ _ (by decide)]

/-! ### References -/

-- The names that a part of a listing gives, with the paths that they lead to.
def Document.references? (document : Document) (part : String) : Option (List (String × String)) :=
  (read? document.text).map fun lines =>
    (links part lines).map fun link => (link.1, followed document.call.path link.2)

section

variable {generator : Generator} {commands : List Command}
  (built : Forest.ofCommands commands = .ok generator.scene.forest) (tame : Tame generator.config commands)
include built tame

theorem references_of_package (node : Nat) (bound : node < generator.scene.forest.size) (document : Document)
    (called : document.call = packageCall generator.scene.forest node) (lists : document.Lists generator) :
    document.references? "packages" = some ((generator.scene.forest.children node).map fun child =>
      (generator.scene.forest.name child, (packageCall generator.scene.forest child).path)) ∧
    document.references? "commands" = some ((generator.scene.forest.commands node).map fun command =>
      (command.name, (commandCall command).path)) := by
  have represents := Forest.represents_of_commands commands _ built
  have text : document.text = _ := lists _ (by rw [called]; rfl)
  obtain ⟨packages, own⟩ := links_of_two "packages" "commands" (packageLinks generator.scene.forest node)
    (commandLinks generator.scene.forest node) (by decide)
  rw [Document.references?, Document.references?, text, read_package built tame node bound, called, Option.map_some,
    Option.map_some, packages, own, packageLinks, commandLinks, List.map_map, List.map_map]
  constructor
  · refine congrArg some (List.map_congr_left fun child member => Prod.ext rfl ?_)
    have linked := (represents.linked child node).mp member
    obtain ⟨-, plain, named⟩ := represents.named child (Forest.parent_in_forest _ child node linked)
    rw [linked] at named
    simp only [Function.comp_apply, packageCall]
    rw [followed_package, named, packagePath, slashed_child _ _ plain, ← String.append_assoc]
  · refine congrArg some (List.map_congr_left fun command member => Prod.ext rfl ?_)
    obtain ⟨-, named, plain⟩ := command_of_node built node bound command member
    simp only [Function.comp_apply, packageCall, commandCall]
    rw [followed_package, named, commandPath, slashed_child _ _ plain, ← String.append_assoc]

theorem references_of_index (document : Document) (called : document.call = indexCall)
    (lists : document.Lists generator) :
    document.references? "commands" = some (generator.scene.forest.allCommands.map fun command =>
      (command.fullName, (commandCall command).path)) := by
  have text : document.text = _ := lists _ (by rw [called]; rfl)
  rw [Document.references?, text, read_index built tame, called, Option.map_some, links_before_texts, indexLinks,
    List.map_map]
  refine congrArg some (List.map_congr_left fun command _ => Prod.ext rfl ?_)
  simp only [Function.comp_apply, indexCall, commandCall]
  exact followed_outermost indexPath _ (by decide)

end

/-! ### Linked listings -/

-- Each reference of a part of a document is the path of a call that is made for what its name says.
def Document.Closed (document : Document) (part : String) (made : List Call) (known : String → Call → Prop) : Prop :=
  ∃ references, document.references? part = some references ∧
    ∀ reference ∈ references, ∃ call ∈ made, reference.2 = call.path ∧ known reference.1 call

-- A part of a document gives a name once, and leads from it to the path of a call.
def Document.Once (document : Document) (part name : String) (call : Call) : Prop :=
  ∃ references, document.references? part = some references ∧
    references.filter (fun reference => reference.1 = name) = [(name, call.path)]

-- The files of namespaces and the index refer to calls for their own namespaces and commands only, and to each of these
-- once.
structure Linked (forest : Forest) (commands : List Command) (documents : List Document) : Prop where
  packages : ∀ node < forest.size, ∀ document ∈ documents, document.call = packageCall forest node →
    document.Closed "packages" (documents.map (·.call)) fun name call =>
      ∃ child, forest.parent? child = some node ∧ forest.name child = name ∧ call = packageCall forest child
  own : ∀ node < forest.size, ∀ document ∈ documents, document.call = packageCall forest node →
    document.Closed "commands" (documents.map (·.call)) fun name call =>
      ∃ command ∈ commands, command.home = forest.fullName node ∧ command.name = name ∧ call = commandCall command
  index : ∀ document ∈ documents, document.call = indexCall →
    document.Closed "commands" (documents.map (·.call)) fun name call =>
      ∃ command ∈ commands, command.fullName = name ∧ call = commandCall command
  nested : ∀ node above, forest.parent? node = some above → ∃ document ∈ documents,
    document.call = packageCall forest above ∧ document.Once "packages" (forest.name node) (packageCall forest node)
  listed : ∀ command ∈ commands, ∃ node < forest.size, forest.fullName node = command.home ∧ ∃ document ∈ documents,
    document.call = packageCall forest node ∧ document.Once "commands" command.name (commandCall command)
  indexed : ∃ document ∈ documents, document.call = indexCall ∧
    ∀ command ∈ commands, document.Once "commands" command.fullName (commandCall command)

theorem once_of_distinct {α : Type} (things : List α) (name path : α → String) (thing : α) (member : thing ∈ things)
    (distinct : (things.map name).Nodup) :
    (things.map fun thing => (name thing, path thing)).filter (fun reference => reference.1 = name thing) =
      [(name thing, path thing)] := by
  induction things with
  | nil => cases member
  | cons first rest ih =>
      obtain ⟨absent, distinct⟩ := List.nodup_cons.mp distinct
      rw [List.map_cons]
      rcases List.mem_cons.mp member with rfl | later
      · rw [List.filter_cons_of_pos (by simp), List.filter_eq_nil_iff.mpr]
        intro reference inside
        obtain ⟨other, among, rfl⟩ := List.mem_map.mp inside
        simp only [decide_eq_true_eq]
        exact fun same => absent (same ▸ List.mem_map_of_mem among)
      · have other : name first ≠ name thing := fun same => absent (same ▸ List.mem_map_of_mem later)
        rw [List.filter_cons_of_neg (by simpa using other)]
        exact ih later distinct

section

variable {commands : List Command} {forest : Forest} (built : Forest.ofCommands commands = .ok forest)
include built

theorem package_call_made (node : Nat) (bound : node < forest.size) : packageCall forest node ∈ calls forest := by
  have ordered := (Forest.filled_of_commands commands forest built).ordered
  refine List.mem_append_left _ (List.mem_flatMap.mpr ⟨node, ?_, .head _⟩)
  rw [ordered]
  exact List.mem_range.mpr bound

omit built in
theorem command_call_made (command : Command) (member : command ∈ forest.allCommands) :
    commandCall command ∈ calls forest := by
  obtain ⟨node, inside, own⟩ := List.mem_flatMap.mp member
  exact List.mem_append_left _ (List.mem_flatMap.mpr ⟨node, inside, .tail _ (List.mem_map_of_mem own)⟩)

theorem all_of_node (node : Nat) (bound : node < forest.size) (command : Command)
    (member : command ∈ forest.commands node) : command ∈ forest.allCommands := by
  have ordered := (Forest.filled_of_commands commands forest built).ordered
  refine List.mem_flatMap.mpr ⟨node, ?_, member⟩
  rw [ordered]
  exact List.mem_range.mpr bound

theorem child_names_nodup (node : Nat) (bound : node < forest.size) :
    ((forest.children node).map forest.name).Nodup := by
  have represents := Forest.represents_of_commands commands forest built
  obtain ⟨slot, member, found, -, -⟩ := forest.slot_of_node node bound
  have children : forest.children node = slot.children := by simp [Forest.children, found]
  have apart : (forest.children node).Nodup := by
    rw [children]
    have linked := List.nodup_append.mp (represents.linkedOnce.nodup_iff.mpr List.nodup_range)
    exact (List.nodup_flatMap.mp linked.2.1).1 slot member
  refine List.pairwise_map.mpr (apart.imp_of_mem ?_)
  intro a b aMember bMember different same
  have aLinked := (represents.linked a node).mp aMember
  have bLinked := (represents.linked b node).mp bMember
  have aBound := Forest.parent_in_forest forest a node aLinked
  have bBound := Forest.parent_in_forest forest b node bLinked
  obtain ⟨-, -, aNamed⟩ := represents.named a aBound
  obtain ⟨-, -, bNamed⟩ := represents.named b bBound
  rw [aLinked] at aNamed
  rw [bLinked] at bNamed
  refine different (Forest.node_unique forest represents.distinct a b aBound bBound ?_)
  rw [aNamed, bNamed, same]

end

section

variable {generator : Generator} {commands : List Command}
  (built : Forest.ofCommands commands = .ok generator.scene.forest) (tame : Tame generator.config commands)
include built tame

theorem linked_of_lists (documents : List Document)
    (made : documents.map (·.call) = calls generator.scene.forest)
    (lists : ∀ document ∈ documents, document.Lists generator) : Linked generator.scene.forest commands documents := by
  have represents := Forest.represents_of_commands commands _ built
  have filled := Forest.filled_of_commands commands _ built
  have document_of (call : Call) (member : call ∈ calls generator.scene.forest) :
      ∃ document ∈ documents, document.call = call := List.mem_map.mp (made ▸ member)
  refine ⟨?_, ?_, ?_, ?_, ?_, ?_⟩
  · intro node bound document member called
    obtain ⟨packages, -⟩ := references_of_package built tame node bound document called (lists document member)
    refine ⟨_, packages, ?_⟩
    intro reference inside
    obtain ⟨child, among, rfl⟩ := List.mem_map.mp inside
    have linked := (represents.linked child node).mp among
    refine ⟨_, ?_, rfl, child, linked, rfl, rfl⟩
    rw [made]
    exact package_call_made built child (Forest.parent_in_forest _ child node linked)
  · intro node bound document member called
    obtain ⟨-, own⟩ := references_of_package built tame node bound document called (lists document member)
    refine ⟨_, own, ?_⟩
    intro reference inside
    obtain ⟨command, among, rfl⟩ := List.mem_map.mp inside
    refine ⟨_, ?_, rfl, command, (command_of_node built node bound command among).1,
      Forest.home_of_node filled node bound command among, rfl, rfl⟩
    rw [made]
    exact command_call_made command (all_of_node built node bound command among)
  · intro document member called
    refine ⟨_, references_of_index built tame document called (lists document member), ?_⟩
    intro reference inside
    obtain ⟨command, among, rfl⟩ := List.mem_map.mp inside
    refine ⟨_, ?_, rfl, command, given_of_all built command among, rfl, rfl⟩
    rw [made]
    exact command_call_made command among
  · intro node above linked
    have bound := Forest.child_in_forest _ node above ((represents.linked node above).mpr linked)
    obtain ⟨document, member, called⟩ := document_of _ (package_call_made built above bound)
    obtain ⟨packages, -⟩ := references_of_package built tame above bound document called (lists document member)
    refine ⟨document, member, called, _, packages, ?_⟩
    exact once_of_distinct _ _ _ node ((represents.linked node above).mpr linked) (child_names_nodup built above bound)
  · intro command given
    obtain ⟨node, bound, home, ⟨kept, inside, twin⟩, -⟩ := Forest.node_of_command filled command given
    obtain ⟨document, member, called⟩ := document_of _ (package_call_made built node bound)
    obtain ⟨-, own⟩ := references_of_package built tame node bound document called (lists document member)
    refine ⟨node, bound, home, document, member, called, _, own, ?_⟩
    have name : command.name = kept.name := by rw [Command.name, Command.name, twin]
    have path : (commandCall command).path = (commandCall kept).path := by simp only [commandCall, twin]
    rw [name, path]
    exact once_of_distinct _ _ _ kept inside (command_names_nodup built node bound)
  · obtain ⟨document, member, called⟩ := document_of indexCall (List.mem_append_right _ (List.mem_singleton_self _))
    refine ⟨document, member, called, ?_⟩
    intro command given
    refine ⟨_, references_of_index built tame document called (lists document member), ?_⟩
    obtain ⟨kept, inside, twin⟩ := List.mem_map.mp
      ((Forest.mem_all_commands_iff filled command.fullName).mpr (List.mem_map_of_mem given))
    have path : (commandCall command).path = (commandCall kept).path := by simp only [commandCall, twin]
    rw [← twin, path]
    exact once_of_distinct _ _ _ kept inside (Forest.all_commands_nodup filled)

end

section

variable {plan : Plan} {commands : List Command} {moment : Moment} {config : Configuration} {forest : Forest}

-- A run of the scheme that ends well leaves linked listings.
theorem stubs_linked (built : Forest.ofCommands (Command.filter config.packages commands) = .ok forest)
    (session : Session) (settled : Path.Settled session.directory)
    (stock : ∀ disk, Disk.Reaches (Path.Below ((config.targetBelow plan.output).folder session.directory))
      session.world.disk disk → Stock plan.engine config.scheme session.directory disk)
    (tame : Tame config (Command.filter config.packages commands)) (product : Product) (after : Session)
    (generated : plan.generate commands moment config session = (.ok product, after)) :
    ∃ documents ready last, documents.map Document.call = calls forest ∧
      Writes (plan.generatorOf config forest moment) ((config.targetBelow plan.output).folder session.directory)
        documents ready last ∧
      Linked forest (Command.filter config.packages commands) documents := by
  obtain ⟨documents, ready, last, made, writes, -, lists⟩ :=
    generate_writes built session settled stock product after generated
  exact ⟨documents, ready, last, made, writes,
    @linked_of_lists (plan.generatorOf config forest moment) _ built tame documents made lists⟩

theorem shop_stubs_linked : ∃ product after documents ready last,
    phpPlan.generate shopCommands Plan.epoch phpConfig emptyDesk = (.ok product, after) ∧
      documents.map Document.call = calls shopForest ∧
      Writes (phpPlan.generatorOf phpConfig shopForest Plan.epoch) ["work", "build", "ipcstub", "stubs"] documents ready
        last ∧
      Linked shopForest shopCommands documents := by
  obtain ⟨product, after, generated⟩ := shop_run_ends_well
  have tame : Tame phpConfig (Command.filter phpConfig.packages shopCommands) :=
    tame_of_spelled (by unfold Name.Spelled; decide) (comment_of_plain _ (by decide)) nofun nofun
  obtain ⟨documents, ready, last, made, writes, linked⟩ :=
    @stubs_linked phpPlan shopCommands Plan.epoch phpConfig shopForest rfl emptyDesk (by decide)
      (fun disk _ => stock_without_folders _ disk) tame product after generated
  exact ⟨product, after, documents, ready, last, generated, made, writes, linked⟩

-- What the file of a call lists, as a run would write it.
def listed? (config : Configuration) (forest : Forest) (call : Call) : Option (List Line) :=
  (listing? (phpPlan.generatorOf config forest Plan.epoch) call).bind fun chars => read? (String.ofList chars)

theorem listed_package (config : Configuration) (forest : Forest) (node : Nat) :
    listed? config forest (packageCall forest node) =
      read? (String.ofList (headerText (phpPlan.generatorOf config forest Plan.epoch) ++ packageText forest node)) := by
  have text : listing? (phpPlan.generatorOf config forest Plan.epoch) (packageCall forest node) =
      some (headerText (phpPlan.generatorOf config forest Plan.epoch) ++ packageText forest node) := rfl
  rw [listed?, text, Option.bind_some]

theorem listed_index (config : Configuration) (forest : Forest) :
    listed? config forest indexCall =
      read? (String.ofList (headerText (phpPlan.generatorOf config forest Plan.epoch) ++ indexText config forest)) := by
  have text : listing? (phpPlan.generatorOf config forest Plan.epoch) indexCall =
      some (headerText (phpPlan.generatorOf config forest Plan.epoch) ++ indexText config forest) := rfl
  rw [listed?, text, Option.bind_some]

theorem desk_header (config : Configuration) (forest : Forest) (name : Comment config.name.toList)
    (legal : config.legalText = none) :
    Scans (.outside 0) (headerText (phpPlan.generatorOf config forest Plan.epoch)) .code [] :=
  scans_header _ name fun _ given => absurd (legal.symm.trans given) nofun

-- Nothing is read of a file whose comment in front ends before the date.
theorem listed_of_broken_header (config : Configuration) (forest : Forest) (node : Nat) (mode : Mode) (c : Char)
    (found : List Token)
    (leads : Scans (.outside 0) ("<?php\n/*\n".toList ++ legalPart config.legalText ++ " * Generated by ipcstub (".toList
      ++ config.name.toList ++ ") on ".toList) mode (.symbol c :: found)) :
    listed? config forest (packageCall forest node) = none := by
  have whole := read_of_symbol _ (Plan.epoch.headerText.toList ++ ".\n * Do not edit by hand.\n */\n".toList
    ++ packageText forest node) mode c found leads
  rw [listed_package]
  unfold headerText
  simp only [List.append_assoc] at whole ⊢
  exact whole

theorem backslashes_mislead : ∃ product after documents ready last,
    phpPlan.generate [{ fullName := "shop.a\\\\b" }] Plan.epoch phpConfig emptyDesk = (.ok product, after) ∧
    documents.map Document.call = calls (loneForest "shop.a\\\\b") ∧
    Writes (phpPlan.generatorOf phpConfig (loneForest "shop.a\\\\b") Plan.epoch) ["work", "build", "ipcstub", "stubs"]
      documents ready last ∧
    ∃ document ∈ documents, document.call = packageCall (loneForest "shop.a\\\\b") 0 ∧
      document.references? "commands" = some [("a\\b", "shop/a\\b.php")] ∧
      "shop/a\\b.php" ∉ documents.map (·.call.path) := by
  have stubs : Comment phpConfig.name.toList := comment_of_plain _ (by decide)
  have mark : Scans (.outside 0) "<?php".toList .code [] := by rfl
  have files : (calls (loneForest "shop.a\\\\b")).map (fileOf ["work", "build", "ipcstub", "stubs"]) = [
      ⟨.single, ["work", "build", "ipcstub", "stubs", "shop", "_package.php"]⟩,
      ⟨.single, ["work", "build", "ipcstub", "stubs", "shop", "a\\\\b.php"]⟩,
      ⟨.single, ["work", "build", "ipcstub", "stubs", "ipcstub.php"]⟩] := by decide +kernel
  have lands : Lands ["work"] readyDesk
      ((calls (loneForest "shop.a\\\\b")).map (fileOf ["work", "build", "ipcstub", "stubs"])) := by
    rw [files]
    refine ⟨_, _, rfl, rfl, fun _ => ?_⟩
    refine ⟨_, _, rfl, rfl, fun _ => ?_⟩
    exact ⟨_, _, rfl, rfl, fun _ => trivial⟩
  obtain ⟨product, after, generated⟩ := lone_run_ends_well "shop.a\\\\b" rfl (by decide +kernel) lands
  obtain ⟨documents, ready, last, made, writes, -, lists⟩ := @generate_writes phpPlan _ Plan.epoch phpConfig
    (loneForest "shop.a\\\\b") rfl emptyDesk (by decide) (fun disk _ => stock_without_folders _ disk) product after
    generated
  have stub : packageCall (loneForest "shop.a\\\\b") 0 ∈ documents.map Document.call := made ▸ .head _
  obtain ⟨document, member, called⟩ := List.mem_map.mp stub
  have text : document.text = _ := lists document member _ (by rw [called]; rfl)
  have read : readTokens (tokens ("<?php".toList ++ packageText (loneForest "shop.a\\\\b") 0)) =
      some [⟨"commands", "a\\b", .beside "/a\\b.php"⟩] := by decide +kernel
  refine ⟨product, after, documents, ready, last, generated, made, writes, document, member, called, ?_, ?_⟩
  · rw [Document.references?, text, read_behind _ "<?php".toList _ (desk_header phpConfig _ stubs rfl) mark]
    rw [show (phpPlan.generatorOf phpConfig (loneForest "shop.a\\\\b") Plan.epoch).scene.forest =
      loneForest "shop.a\\\\b" from rfl, read, called]
    rfl
  · have paths : documents.map (·.call.path) = (calls (loneForest "shop.a\\\\b")).map (·.path) := by
      rw [← made, List.map_map]
      rfl
    rw [paths]
    decide +kernel

-- Texts that are no identifiers are put into the files as they are. The name of a command may then lead to a file that
-- is not its own, and the other texts may end the comments and the quoting that they stand in.
theorem raw_texts_mislead :
    (∃ product after documents ready last,
      phpPlan.generate [{ fullName := "shop.a\\\\b" }] Plan.epoch phpConfig emptyDesk = (.ok product, after) ∧
      documents.map Document.call = calls (loneForest "shop.a\\\\b") ∧
      Writes (phpPlan.generatorOf phpConfig (loneForest "shop.a\\\\b") Plan.epoch) ["work", "build", "ipcstub", "stubs"]
        documents ready last ∧
      ∃ document ∈ documents, document.call = packageCall (loneForest "shop.a\\\\b") 0 ∧
        document.references? "commands" = some [("a\\b", "shop/a\\b.php")] ∧
        "shop/a\\b.php" ∉ documents.map (·.call.path)) ∧
    listed? phpConfig (loneForest "shop\nx.Find") (packageCall (loneForest "shop\nx.Find") 0) = none ∧
    listed? { phpConfig with name := "*/" } (loneForest "shop.Find") (packageCall (loneForest "shop.Find") 0) = none ∧
    listed? { phpConfig with legalText := some "*/" } (loneForest "shop.Find") (packageCall (loneForest "shop.Find") 0) =
      none ∧
    listed? { phpConfig with aliases := some [("it's", "shop.Find")] } (loneForest "shop.Find") indexCall = none := by
  have stubs : Comment phpConfig.name.toList := comment_of_plain _ (by decide)
  have mark : Scans (.outside 0) "<?php".toList .code [] := by rfl
  refine ⟨backslashes_mislead, ?_, ?_, ?_, ?_⟩
  · rw [listed_package, read_behind _ "<?php".toList _ (desk_header phpConfig _ stubs rfl) mark]
    decide +kernel
  · exact listed_of_broken_header _ _ _ .code ')' [.word "on"] (by rfl)
  · exact listed_of_broken_header _ _ _ .code '*' [.symbol '*', .word "Generated", .word "by",
      .word "ipcstub", .symbol '(', .word "stubs", .symbol ')', .word "on"] (by rfl)
  · rw [listed_index, read_behind _ "<?php".toList _
      (desk_header { phpConfig with aliases := some [("it's", "shop.Find")] } _ stubs rfl) mark]
    decide +kernel

end

end StubForge.Stubs
