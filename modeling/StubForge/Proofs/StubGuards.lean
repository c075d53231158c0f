import StubForge.Proofs.CommandText
import StubForge.Proofs.StubLinks

set_option autoImplicit false

/-!
What becomes of the texts that are put into the files of the stubs. The templates put them in as they are, so a text is
read where it was put exactly if it is safe there: no end mark in a comment, and no quote and no backslash that takes
the next character away between quotes.
-/

namespace StubForge.Stubs

open Php
open Template (renderAll Stage Stmt)

/-! ### The texts of documents -/

-- The text of a document is the source that its call is rendered to, of which the texts that are put in are read where
-- they were put exactly if each is safe there. Then the source ends in its code.
structure Document.Inserts (generator : Generator) (document : Document) : Prop where
  text : document.text = String.ofList (written (fragmentsOf generator document.call))
  guarded : Guarded (.outside 0) (fragmentsOf generator document.call) ↔
    ∀ fragment ∈ fragmentsOf generator document.call, fragment.Safe
  ended : (∀ fragment ∈ fragmentsOf generator document.call, fragment.Safe) →
    (scan (.outside 0) document.text.toList).1 = .code

section

variable {generator : Generator}

theorem written_package_call (node : Nat) : written (fragmentsOf generator (packageCall generator.scene.forest node)) =
    headerText generator ++ packageText generator.scene.forest node := by
  rw [← written_header, ← written_package, ← written_append]
  rfl

theorem written_command_call (command : Command) : written (fragmentsOf generator (commandCall command)) =
    headerText generator ++ written (commandFragments generator.scene command) := by
  rw [← written_header, ← written_append]
  rfl

theorem written_index_call : written (fragmentsOf generator indexCall) =
    headerText generator ++ indexText generator.config generator.scene.forest := by
  rw [← written_header, ← written_index, ← written_append]
  rfl

theorem rendered_fragments (call : Call) (member : call ∈ calls generator.scene.forest)
    (described : ∀ command ∈ generator.scene.forest.allCommands, Described command.metadata) (stage : Stage)
    (stock : Stock generator.engine generator.scheme stage.session.directory stage.session.world.disk) (depth : Nat) :
    ∃ drawn, Generator.renderArgs (generator.services (depth + 1)) generator call.template call.args stage =
      (.ok (String.ofList (written (fragmentsOf generator call))), drawn) := by
  rcases List.mem_append.mp member with own | last
  · obtain ⟨node, inside, owned⟩ := List.mem_flatMap.mp own
    rcases List.mem_cons.mp owned with rfl | later
    · rw [written_package_call]
      exact ⟨_, render_package stock depth node⟩
    · obtain ⟨command, among, rfl⟩ := List.mem_map.mp later
      rw [written_command_call]
      exact ⟨_, render_described stage stock depth (described command (List.mem_flatMap.mpr ⟨node, inside, among⟩))⟩
  · rw [List.mem_singleton.mp last, written_index_call]
    exact ⟨_, render_index stock depth⟩

theorem inserts_of_rendered (document : Document) (member : document.call ∈ calls generator.scene.forest)
    (described : ∀ command ∈ generator.scene.forest.allCommands, Described command.metadata)
    (drawn : document.Rendered generator) : document.Inserts generator := by
  obtain ⟨depth, before, _, stock, rendered⟩ := drawn
  obtain ⟨_, same⟩ := rendered_fragments document.call member described before stock depth
  obtain ⟨text, -⟩ := Prod.mk.inj (same.symm.trans rendered)
  obtain ⟨guarded, ended⟩ := sound_file generator document.call (.outside 0) rfl
  refine ⟨(Except.ok.inj text).symm, guarded, fun safe => ?_⟩
  rw [← Except.ok.inj text, String.toList_ofList]
  exact ended safe

/-! ### The index read back -/

theorem comment_of_line (generator : Generator) (call : Call)
    (safe : ∀ fragment ∈ fragmentsOf generator call, fragment.Safe) :
    Comment generator.config.name.toList ∧
      ∀ text, generator.config.legalText = some text → ∀ line ∈ Text.splitLines text, Comment line.toList := by
  have header : ∀ fragment ∈ headerFragments generator, fragment.Safe := fun fragment member =>
    safe fragment (List.mem_append_left _ member)
  refine ⟨comment_of_safe _ (header (.comment generator.config.name) ?_), ?_⟩
  · exact List.mem_cons_of_mem _ (List.mem_append_right _ (List.mem_cons_of_mem _ List.mem_cons_self))
  · intro text given line among
    refine comment_of_safe _ (header (.comment line) (List.mem_cons_of_mem _ (List.mem_append_left _ ?_)))
    have filled : text ≠ "" := by
      rintro rfl
      cases among
    rw [given, legalFragments, if_neg filled]
    exact List.mem_append_left _ (List.mem_flatMap.mpr ⟨line, among, List.mem_cons_of_mem _ List.mem_cons_self⟩)

-- If all that is put into the index is safe there, reading it gives the names of all commands and the aliases, in order.
theorem read_safe_index (safe : ∀ fragment ∈ fragmentsOf generator indexCall, fragment.Safe) :
    read? (String.ofList (written (fragmentsOf generator indexCall))) =
      some (besides "commands" (indexLinks generator.scene.forest)
        ++ (generator.config.aliases.getD []).map fun entry => ⟨"aliases", entry.1, .text entry.2⟩) := by
  obtain ⟨name, legal⟩ := comment_of_line generator indexCall safe
  have index : ∀ fragment ∈ indexFragments generator.config generator.scene.forest, fragment.Safe :=
    fun fragment member => safe fragment (List.mem_append_right _ member)
  simp only [indexFragments, List.forall_mem_append, List.forall_mem_flatMap] at index
  obtain ⟨⟨⟨⟨-, commands⟩, -⟩, aliases⟩, -⟩ := index
  have linked : ∀ command ∈ generator.scene.forest.allCommands,
      Quotable command.fullName.toList ∧ Quotable (commandPath command.fullName).toList := by
    intro command member
    have key : Verbatim ("" ++ command.fullName ++ "").toList :=
      commands command member (.quoted "" command.fullName "") (List.mem_cons_of_mem _ List.mem_cons_self)
    have place : Verbatim ("/" ++ slashed command.fullName ++ ".php").toList :=
      commands command member (.quoted "/" (slashed command.fullName) ".php") (by simp [linkFragments])
    rw [String.empty_append, String.append_empty] at key
    rw [String.append_assoc, String.toList_append] at place
    exact ⟨quotable_of_verbatim _ key, quotable_of_verbatim _ (verbatim_tail place)⟩
  have texts : ∀ entry ∈ generator.config.aliases.getD [], Quotable entry.1.toList ∧ Quotable entry.2.toList := by
    intro entry member
    have key : Verbatim ("" ++ entry.1 ++ "").toList :=
      aliases entry member (.quoted "" entry.1 "") (List.mem_cons_of_mem _ List.mem_cons_self)
    have held : Verbatim ("" ++ entry.2 ++ "").toList :=
      aliases entry member (.quoted "" entry.2 "") (by simp [aliasFragments])
    rw [String.empty_append, String.append_empty] at key held
    exact ⟨quotable_of_verbatim _ key, quotable_of_verbatim _ held⟩
  have scanned := scans_through (scans_header generator name legal)
    (scans_index generator.config generator.scene.forest (fun command member => (linked command member).1)
      (fun command member => (linked command member).2) texts)
  rw [written_index_call]
  rw [indexTokens, ← @String.toList_ofList (headerText generator ++ _)] at scanned
  exact read_of_scan _ _ _ _ _ _ _ scanned (read_links _ _) (read_texts _ _)

end

/-! ### Runs -/

section

variable {plan : Plan} {commands : List Command} {moment : Moment} {config : Configuration} {forest : Forest}

-- Wherever the file of a call is rendered, it comes to the same source, of which the texts that are put in are read
-- where they were put exactly if each of them is safe there. A run that ends well writes these sources, and an index
-- of safe texts gives the aliases back.
theorem texts_guarded_iff (built : Forest.ofCommands (Command.filter config.packages commands) = .ok forest)
    (session : Session) (settled : Path.Settled session.directory)
    (stock : ∀ disk, Disk.Reaches (Path.Below ((config.targetBelow plan.output).folder session.directory))
      session.world.disk disk → Stock plan.engine config.scheme session.directory disk)
    (described : ∀ command ∈ Command.filter config.packages commands, Described command.metadata) :
    (∀ call ∈ calls forest,
      (∀ depth stage, Stock plan.engine config.scheme stage.session.directory stage.session.world.disk → ∃ drawn,
        Generator.renderArgs ((plan.generatorOf config forest moment).services (depth + 1))
            (plan.generatorOf config forest moment) call.template call.args stage =
          (.ok (String.ofList (written (fragmentsOf (plan.generatorOf config forest moment) call))), drawn)) ∧
      (Guarded (.outside 0) (fragmentsOf (plan.generatorOf config forest moment) call) ↔
        ∀ fragment ∈ fragmentsOf (plan.generatorOf config forest moment) call, fragment.Safe)) ∧
    ∀ product after, plan.generate commands moment config session = (.ok product, after) →
      ∃ documents ready last, documents.map Document.call = calls forest ∧
        Writes (plan.generatorOf config forest moment) ((config.targetBelow plan.output).folder session.directory)
          documents ready last ∧
        (∀ document ∈ documents, document.Inserts (plan.generatorOf config forest moment)) ∧
        ∃ index ∈ documents, index.call = indexCall ∧
          ((∀ fragment ∈ fragmentsOf (plan.generatorOf config forest moment) indexCall, fragment.Safe) →
            read? index.text = some (besides "commands" (indexLinks forest)
              ++ (config.aliases.getD []).map fun entry => ⟨"aliases", entry.1, .text entry.2⟩)) := by
  have told : ∀ command ∈ forest.allCommands, Described command.metadata := fun command among =>
    described command (given_of_all built command among)
  refine ⟨fun call member => ⟨fun depth stage here => ?_, ?_⟩, ?_⟩
  · exact @rendered_fragments (plan.generatorOf config forest moment) call member told stage here depth
  · exact (sound_file _ call (.outside 0) rfl).1
  · intro product after generated
    obtain ⟨documents, ready, last, made, writes, -, rendered⟩ :=
      generate_documents built session settled stock product after generated
    have inserts : ∀ document ∈ documents, document.Inserts (plan.generatorOf config forest moment) :=
      fun document member => inserts_of_rendered document (made ▸ List.mem_map_of_mem member) told
        (rendered document member)
    obtain ⟨index, member, called⟩ : ∃ index ∈ documents, index.call = indexCall :=
      List.mem_map.mp (made ▸ List.mem_append_right _ (List.mem_singleton_self _))
    refine ⟨documents, ready, last, made, writes, inserts, index, member, called, fun safe => ?_⟩
    rw [(inserts index member).text, called]
    exact read_safe_index safe

end

-- A configuration and a command with the texts that are given for them.
def texted (legal : Option String) (aliases : List (String × String)) : Configuration :=
  { phpConfig with legalText := legal, aliases := some aliases }

def findCommand (metadata : Metadata) : Command := { fullName := "shop.Find", metadata }

def findForest (metadata : Metadata) : Forest where
  slots := [⟨"shop", none, [], [findCommand metadata]⟩]
  roots := [0]

def textedGenerator (legal : Option String) (aliases : List (String × String)) (metadata : Metadata) : Generator :=
  phpPlan.generatorOf (texted legal aliases) (findForest metadata) Plan.epoch

-- A run ends well and writes a file in which some text that was put in is not read where it was put.
def BreaksOut (legal : Option String) (aliases : List (String × String)) (metadata : Metadata) (call : Call) : Prop :=
  ∃ product after documents ready last,
    phpPlan.generate [findCommand metadata] Plan.epoch (texted legal aliases) emptyDesk = (.ok product, after) ∧
    documents.map Document.call = calls (findForest metadata) ∧
    Writes (textedGenerator legal aliases metadata) ["work", "build", "ipcstub", "stubs"] documents ready last ∧
    ∃ document ∈ documents, document.call = call ∧
      document.text = String.ofList (written (fragmentsOf (textedGenerator legal aliases metadata) call)) ∧
      ¬Guarded (.outside 0) (fragmentsOf (textedGenerator legal aliases metadata) call)

theorem texted_place (legal : Option String) (aliases : List (String × String)) :
    ((texted legal aliases).targetBelow phpPlan.output).folder emptyDesk.directory =
      ["work", "build", "ipcstub", "stubs"] := by
  have same : (texted legal aliases).targetBelow phpPlan.output = phpConfig.targetBelow phpPlan.output := rfl
  rw [same]
  decide +kernel

theorem find_calls (metadata : Metadata) : calls (findForest metadata) =
    [packageCall (findForest metadata) 0, commandCall (findCommand metadata), indexCall] := rfl

theorem find_paths (metadata : Metadata) :
    (calls (findForest metadata)).map (·.path) = ["shop/_package.php", "shop/Find.php", "ipcstub.php"] := by
  have own : (packageCall (findForest metadata) 0).path = (packageCall (findForest {}) 0).path := rfl
  have found : (commandCall (findCommand metadata)).path = (commandCall (findCommand {})).path := rfl
  rw [find_calls, List.map_cons, List.map_cons, List.map_singleton, own, found]
  decide +kernel

theorem find_lands (metadata : Metadata) : Lands ["work"] readyDesk
    ((calls (findForest metadata)).map (fileOf ["work", "build", "ipcstub", "stubs"])) := by
  have files : (calls (findForest metadata)).map (fileOf ["work", "build", "ipcstub", "stubs"]) =
      ((calls (findForest metadata)).map (·.path)).map fun path =>
        ⟨.single, Path.landing ["work", "build", "ipcstub", "stubs"] path⟩ := by
    rw [List.map_map]
    rfl
  have landed : (["shop/_package.php", "shop/Find.php", "ipcstub.php"].map fun path =>
      Path.mk .single (Path.landing ["work", "build", "ipcstub", "stubs"] path)) = [
      ⟨.single, ["work", "build", "ipcstub", "stubs", "shop", "_package.php"]⟩,
      ⟨.single, ["work", "build", "ipcstub", "stubs", "shop", "Find.php"]⟩,
      ⟨.single, ["work", "build", "ipcstub", "stubs", "ipcstub.php"]⟩] := by decide +kernel
  rw [files, find_paths, landed]
  refine ⟨_, _, rfl, rfl, fun _ => ?_⟩
  refine ⟨_, _, rfl, rfl, fun _ => ?_⟩
  exact ⟨_, _, rfl, rfl, fun _ => trivial⟩

section

variable (legal : Option String) (aliases : List (String × String)) (metadata : Metadata)
  (described : Described metadata)
  (built : Forest.ofCommands (Command.filter phpConfig.packages [findCommand metadata]) = .ok (findForest metadata))
include described built

theorem texted_run_ends_well : ∃ product after,
    phpPlan.generate [findCommand metadata] Plan.epoch (texted legal aliases) emptyDesk = (.ok product, after) := by
  have inside : ∀ path ∈ ["shop/_package.php", "shop/Find.php", "ipcstub.php"], '\x00' ∉ path.toList ∧
      (Path.mk .single (Path.landing ["work", "build", "ipcstub", "stubs"] path)).strictlyBelow
        ⟨.single, ["work", "build", "ipcstub", "stubs"]⟩ = true := by decide +kernel
  have named : (phpConfig.targetBelow phpPlan.output).hasNul = false := by decide
  have place : (phpConfig.targetBelow phpPlan.output).folder ["work"] = ["work", "build", "ipcstub", "stubs"] :=
    texted_place legal aliases
  have resolved : (phpConfig.targetBelow phpPlan.output).resolve ["work"] =
      ⟨.single, ["work", "build", "ipcstub", "stubs"]⟩ := by decide +kernel
  have ensured : emptyDesk.world.disk.ensureFolders ["work"] (phpConfig.targetBelow phpPlan.output) =
      (.ok (), readyDesk) := by rfl
  have lands := find_lands metadata
  rw [← find_paths metadata, ← resolved, ← place] at inside
  rw [← place] at lands
  have below : (texted legal aliases).targetBelow phpPlan.output = phpConfig.targetBelow phpPlan.output := rfl
  have target : (textedGenerator legal aliases metadata).scene.target = phpConfig.targetBelow phpPlan.output := below
  have forest : (textedGenerator legal aliases metadata).scene.forest = findForest metadata := rfl
  have prepared : Prepared (textedGenerator legal aliases metadata) ["work"] readyDesk := by
    refine prepared_of_printed (by decide) (by rwa [target]) (by rwa [target, forest]) ?_ rfl (by rwa [target, forest])
    intro command member services stage
    obtain rfl : command = findCommand metadata := List.mem_singleton.mp member
    rw [prints_class rfl rfl described]
    rfl
  exact @generate_ends_well phpPlan [findCommand metadata] Plan.epoch (texted legal aliases) (findForest metadata) built
    emptyDesk (by decide) (fun disk _ => stock_without_folders _ disk) named readyDesk ensured prepared

-- Where an unsafe text is put into a file, it is not read where it was put.
theorem texted_run_breaks (call : Call) (member : call ∈ calls (findForest metadata))
    (broken : ¬∀ fragment ∈ fragmentsOf (textedGenerator legal aliases metadata) call, fragment.Safe) :
    BreaksOut legal aliases metadata call := by
  obtain ⟨product, after, generated⟩ := texted_run_ends_well legal aliases metadata described built
  obtain ⟨documents, ready, last, made, writes, -, rendered⟩ := @generate_documents phpPlan [findCommand metadata]
    Plan.epoch (texted legal aliases) (findForest metadata) built emptyDesk (by decide)
    (fun disk _ => stock_without_folders _ disk) product after generated
  rw [texted_place] at writes
  obtain ⟨document, inside, rfl⟩ := List.mem_map.mp (made ▸ member)
  have inserts : document.Inserts (textedGenerator legal aliases metadata) :=
    inserts_of_rendered document member (fun command among => by
      obtain rfl : command = findCommand metadata := List.mem_singleton.mp among
      exact described) (rendered document inside)
  exact ⟨product, after, documents, ready, last, generated, made, writes, document, inside, rfl, inserts.text,
    fun guarded => broken (inserts.guarded.mp guarded)⟩

end

-- Metadata of one parameter.
def termMetadata : Metadata where
  description := .constant (.string "Finds 'things'.")
  params := [.of ⟨0, "Param", .param, true, true⟩ 0 [
    ("name", .constant (.string "term")), ("description", .constant (.string "what to look for")),
    ("type", .constant (.string "string")), ("optional", .constant (.bool true)), ("default", .constant (.string "*"))]]

theorem term_described : Described termMetadata := by
  refine ⟨?_, nofun, nofun⟩
  rw [show termMetadata.params = [_] from rfl]
  simp only [List.forall_mem_singleton]
  decide

theorem term_texts_guarded : ∃ product after documents ready last,
    phpPlan.generate [findCommand termMetadata] Plan.epoch (texted (some "All rights\nreserved.") [("find", "shop.Find")])
      emptyDesk = (.ok product, after) ∧
    documents.map Document.call = calls (findForest termMetadata) ∧
    Writes (textedGenerator (some "All rights\nreserved.") [("find", "shop.Find")] termMetadata)
      ["work", "build", "ipcstub", "stubs"] documents ready last ∧
    (∀ document ∈ documents, Guarded (.outside 0)
      (fragmentsOf (textedGenerator (some "All rights\nreserved.") [("find", "shop.Find")] termMetadata) document.call)) ∧
    ∃ index ∈ documents, index.call = indexCall ∧ read? index.text =
      some [⟨"commands", "shop.Find", .beside "/shop/Find.php"⟩, ⟨"aliases", "find", .text "shop.Find"⟩] := by
  obtain ⟨product, after, generated⟩ := texted_run_ends_well (some "All rights\nreserved.") [("find", "shop.Find")]
    termMetadata term_described rfl
  obtain ⟨-, runs⟩ := @texts_guarded_iff phpPlan [findCommand termMetadata] Plan.epoch
    (texted (some "All rights\nreserved.") [("find", "shop.Find")]) (findForest termMetadata) rfl emptyDesk (by decide)
    (fun disk _ => stock_without_folders _ disk) (fun command among => by
      obtain rfl : command = findCommand termMetadata := List.mem_singleton.mp among
      exact term_described)
  obtain ⟨documents, ready, last, made, writes, inserts, index, member, called, reads⟩ := runs product after generated
  rw [texted_place] at writes
  have safe : ∀ call ∈ calls (findForest termMetadata), ∀ fragment ∈
      fragmentsOf (textedGenerator (some "All rights\nreserved.") [("find", "shop.Find")] termMetadata) call,
      fragment.Safe := by
    decide +kernel
  refine ⟨product, after, documents, ready, last, generated, made, writes, fun document inside => ?_, index, member,
    called, ?_⟩
  · exact (inserts document inside).guarded.mpr (safe _ (made ▸ List.mem_map_of_mem inside))
  · exact (reads (safe _ (List.mem_append_right _ (List.mem_singleton_self _)))).trans (by decide +kernel)

-- A legal text or a description may end the comment that it stands in, and an alias the quotes around it. Such an
-- index does not give its aliases back.
theorem texts_break_out :
    BreaksOut (some "Mine */ exit; /*") [] {} (packageCall (findForest {}) 0) ∧
    BreaksOut none [] { description := .constant (.string "Finds. */ exit; /*") }
      (commandCall (findCommand { description := .constant (.string "Finds. */ exit; /*") })) ∧
    BreaksOut none [("it's", "shop.Find")] {} indexCall ∧
    read? (String.ofList (written (fragmentsOf (textedGenerator none [("it's", "shop.Find")] {}) indexCall))) = none := by
  have plain : ∀ description : String, Described { description := .constant (.string description) } := fun _ =>
    ⟨nofun, nofun, nofun⟩
  have bare : Described {} := ⟨nofun, nofun, nofun⟩
  refine ⟨?_, ?_, ?_, ?_⟩
  · exact texted_run_breaks _ _ _ bare rfl _ (.head _) (by decide +kernel)
  · exact texted_run_breaks _ _ _ (plain _) rfl _ (.tail _ (.head _)) (by decide +kernel)
  · exact texted_run_breaks _ _ _ bare rfl _ (List.mem_append_right _ (List.mem_singleton_self _)) (by decide +kernel)
  · have header := desk_header (texted none [("it's", "shop.Find")]) (findForest {}) (comment_of_plain _ (by decide)) rfl
    rw [textedGenerator, written_index_call, read_behind _ "<?php".toList _ header (by rfl)]
    decide +kernel

end StubForge.Stubs
