import StubForge.Proofs.StubFiles

set_option autoImplicit false

/-!
Which runs of the scheme of stubs end well, and that the files of such a run differ unless a command is named like the
file of its namespace.
-/

namespace StubForge.Stubs

open Template

/-! ### Runs that end well -/

-- Files that can be written in a row, whatever is written into them.
def Lands (directory : Place) : Disk → List Path → Prop
  | _, [] => True
  | disk, file :: rest => ∃ made place, disk.ensureFolders directory file.parent = (.ok (), made) ∧
      made.openPlace directory file = .ok place ∧ ∀ bytes, Lands directory (made.writeFile place bytes) rest

-- What the calls of a generator need to end well, from a disk on.
structure Prepared (generator : Generator) (directory : Place) (disk : Disk) : Prop where
  given : ∀ call ∈ calls generator.scene.forest,
    Generator.fileFor directory generator.scene generator.scheme (Path.ofString call.path) call.path =
      .ok (fileOf (generator.scene.target.folder directory) call)
  renders : ∀ command ∈ generator.scene.forest.allCommands, ∀ depth stage,
    Stock generator.engine generator.scheme stage.session.directory stage.session.world.disk → ∃ text drawn,
      Generator.renderArgs (generator.services (depth + 1)) generator "command" (.command command) stage = (.ok text, drawn)
  encodes : ∀ text, ∃ bytes, Generator.encode generator.config.fileEncoding text = .ok bytes
  lands : Lands directory disk
    ((calls generator.scene.forest).map (fileOf (generator.scene.target.folder directory)))

section

variable {generator : Generator} {directory : Place} {first disk : Disk}
  (supplied : Supplied generator directory first) (prepared : Prepared generator directory disk)
include supplied prepared

omit supplied in
theorem call_renders (call : Call) (member : call ∈ calls generator.scene.forest) (depth : Nat) (stage : Stage)
    (stock : Stock generator.engine generator.scheme stage.session.directory stage.session.world.disk) :
    ∃ text drawn,
      Generator.renderArgs (generator.services (depth + 1)) generator call.template call.args stage = (.ok text, drawn) := by
  rcases List.mem_append.mp member with own | last
  · obtain ⟨node, inside, owned⟩ := List.mem_flatMap.mp own
    rcases List.mem_cons.mp owned with rfl | later
    · exact ⟨_, _, render_package stock depth node⟩
    · obtain ⟨command, among, rfl⟩ := List.mem_map.mp later
      exact prepared.renders command (List.mem_flatMap.mpr ⟨node, inside, among⟩) depth stage stock
  · rw [List.mem_singleton.mp last]
    exact ⟨_, _, render_index stock depth⟩

theorem call_ends_well (call : Call) (member : call ∈ calls generator.scene.forest) (depth : Nat) (before : Stage)
    (holds : Contained directory (generator.scene.target.folder directory) first before) (made : Disk) (place : Place)
    (ensured : before.session.world.disk.ensureFolders directory
      (fileOf (generator.scene.target.folder directory) call).parent = (.ok (), made))
    (opened : made.openPlace directory (fileOf (generator.scene.target.folder directory) call) = .ok place) :
    ∃ bytes after, call.perform (generator.services (depth + 1)) generator before = (.ok (), after) ∧
      after.session.world.disk = made.writeFile place bytes := by
  have stock : Stock generator.engine generator.scheme before.session.directory before.session.world.disk := by
    rw [holds.seen]
    exact supplied.stock _ holds.reached
  obtain ⟨text, drawn, rendered⟩ := call_renders prepared call member depth before stock
  obtain ⟨quiet, -⟩ := rendered_stub generator.scene.forest call member depth before drawn text stock rendered
  obtain ⟨bytes, encoded⟩ := prepared.encodes text
  have given := prepared.given call member
  rw [← holds.seen] at given
  have written : Generator.writeText drawn.session.world.disk drawn.session.directory
      (fileOf (generator.scene.target.folder directory) call) generator.config.fileEncoding text =
        (.ok (), made.writeFile place bytes) := by
    rw [quiet.disk, quiet.directory, holds.seen]
    simp only [Generator.writeText, ensured, opened, encoded]
  have run := Manifest.generate_file_rendered (generator.services (depth + 1)) generator (Path.ofString call.path)
    call.path call.template text call.args before drawn _ given rendered
  rw [holds.seen, Manifest.writing, bind_ok (say_run_stage _ _ drawn), write_file_run] at run
  simp only [noted, written] at run
  exact ⟨bytes, _, run, rfl⟩

theorem makes_end_well (made : List Call) (stubs : ∀ call ∈ made, call ∈ calls generator.scene.forest)
    (before last : Stage) (result : Except Trouble Unit)
    (holds : Contained directory (generator.scene.target.folder directory) first before)
    (lands : Lands directory before.session.world.disk
      (made.map (fileOf (generator.scene.target.folder directory))))
    (makes : Makes generator made before result last) : result = .ok () := by
  induction makes with
  | done stage => rfl
  | next call rest depth before middle last result own others ih =>
      obtain ⟨isStub, stubs⟩ := List.forall_mem_cons.mp stubs
      obtain ⟨ready, place, ensured, opened, lands⟩ := lands
      obtain ⟨bytes, after, performed, disk⟩ :=
        call_ends_well supplied prepared call isStub depth before holds ready place ensured opened
      rw [own] at performed
      cases performed
      obtain ⟨-, -, -, -, -, -, kept⟩ := made_call supplied generator.scene.forest call isStub depth before middle holds own
      exact ih stubs kept (disk ▸ lands bytes)
  | failed call rest depth before last trouble own =>
      obtain ⟨ready, place, ensured, opened, -⟩ := lands
      obtain ⟨bytes, after, performed, -⟩ := call_ends_well supplied prepared call (stubs call (.head _)) depth before
        holds ready place ensured opened
      rw [own] at performed
      cases performed

end

-- A run of the scheme ends well if its target can be made and its calls can be rendered and written.
theorem generate_ends_well {plan : Plan} {commands : List Command} {moment : Moment} {config : Configuration}
    {forest : Forest} (built : Forest.ofCommands (Command.filter config.packages commands) = .ok forest)
    (session : Session) (settled : Path.Settled session.directory)
    (stock : ∀ disk, Disk.Reaches (Path.Below ((config.targetBelow plan.output).folder session.directory))
      session.world.disk disk → Stock plan.engine config.scheme session.directory disk)
    (named : (config.targetBelow plan.output).hasNul = false) (ready : Disk)
    (ensured : session.world.disk.ensureFolders session.directory (config.targetBelow plan.output) = (.ok (), ready))
    (prepared : Prepared (plan.generatorOf config forest moment) session.directory ready) :
    ∃ product after, plan.generate commands moment config session = (.ok product, after) := by
  let target := (config.targetBelow plan.output).folder session.directory
  have reached : Disk.Reaches (Path.Below target) session.world.disk ready := by
    have made := @Disk.reaches_ensure_folders (Path.Below target) session.world.disk session.directory
      (config.targetBelow plan.output)
    rwa [ensured] at made
  have found := stock session.world.disk .first ("main", Bundled.phpMain) (.head _)
  let started : Session :=
    { session with records := session.records ++ [{ level := .info, message := Plan.startText config }] }
  have taken : plan.engine.template config.scheme Engine.entryTemplate started = (.ok Bundled.phpMain, started) := by
    rw [template_run]
    simp only [started, show Engine.entryTemplate = "main" from rfl, found]
    rfl
  have made := @Plan.make_target_run config (config.targetBelow plan.output) started named (.ok ()) ready ensured
  have entry := stock ready reached ("main", Bundled.phpMain) (.head _)
  obtain ⟨result, last, makes, run⟩ :=
    @render_entry_makes plan commands moment config forest built (onDisk ready started) entry
  have begun : Contained session.directory target session.world.disk
      (announced config.scheme Engine.entryTemplate { session := onDisk ready started }) :=
    ⟨rfl, reached, by simp [announced]⟩
  have good := @makes_end_well (plan.generatorOf config forest moment) session.directory session.world.disk ready
    ⟨settled, stock⟩ prepared (calls forest) (fun _ member => member) _ last _ begun prepared.lands makes
  cases result with
  | error trouble => cases good
  | ok text =>
      rw [Plan.generate_of_forest config forest built, bind_ok (Run.say_run session .info (Plan.startText config)),
        bind_ok taken, bind_ok made, bind_ok run, bind_ok (Run.say_run last.session .info (Plan.finishText config))]
      exact ⟨_, _, rfl⟩

theorem utf8_encodes (text : String) : ∃ bytes, Generator.encode "utf-8" text = .ok bytes := by
  have each : ∀ chars position, ∃ bytes, Codec.utf8.encodeFrom position chars = .ok bytes := by
    intro chars
    induction chars with
    | nil => exact fun _ => ⟨[], rfl⟩
    | cons c rest ih =>
        intro position
        obtain ⟨bytes, done⟩ := ih (position + 1)
        exact ⟨Utf8.encodeChar c ++ bytes, by simp [Codec.encodeFrom, Codec.charBytes?, done, Except.map]⟩
  obtain ⟨bytes, done⟩ := each text.toList 0
  have known : Codec.lookup? "utf-8" = some .utf8 := by rfl
  have whole : Codec.utf8.written text = .ok bytes := by
    change (Codec.utf8.encodeFrom 0 text.toList).map (Codec.utf8.signature ++ ·) = .ok bytes
    rw [done]
    rfl
  refine ⟨bytes, ?_⟩
  simp only [Generator.encode, known, Codec.isText, if_true, whole]
  rfl

-- Calls that stay below the target are given their files, and a command whose template can be printed is rendered.
theorem prepared_of_printed {generator : Generator} {directory : Place} {disk : Disk}
    (settled : Path.Settled directory) (named : generator.scene.target.hasNul = false)
    (inside : ∀ path ∈ (calls generator.scene.forest).map (·.path), '\x00' ∉ path.toList ∧
      (Path.mk .single (Path.landing (generator.scene.target.folder directory) path)).strictlyBelow
        (generator.scene.target.resolve directory) = true)
    (printed : ∀ command ∈ generator.scene.forest.allCommands, ∀ services stage,
      (renderAll services generator.scene (Engine.templatePath generator.scheme "command") (describing generator command)
        (Bundled.phpCommand.drop 2) stage).1.toBool = true)
    (encoding : generator.config.fileEncoding = "utf-8")
    (lands : Lands directory disk
      ((calls generator.scene.forest).map (fileOf (generator.scene.target.folder directory)))) :
    Prepared generator directory disk where
  given := by
    intro call member
    obtain ⟨free, below⟩ := inside call.path (List.mem_map_of_mem member)
    rw [file_for_text call.path settled named free, if_pos below]
    rfl
  renders := fun command member depth stage stock =>
    command_renders stage stock depth command (printed command member)
  encodes := encoding ▸ utf8_encodes
  lands := lands

/-! ### Files that differ -/

section

variable {plan : Plan} {commands : List Command} {moment : Moment} {config : Configuration} {forest : Forest}
  (built : Forest.ofCommands (Command.filter config.packages commands) = .ok forest) (session : Session)
  (settled : Path.Settled session.directory)
  (stock : ∀ disk, Disk.Reaches (Path.Below ((config.targetBelow plan.output).folder session.directory))
    session.world.disk disk → Stock plan.engine config.scheme session.directory disk)
include built settled stock

-- The calls of a run are those for the namespaces, their commands and the index, up to the first one that fails. Their
-- paths differ, and so do the files of its product, exactly where no command is named like the file of its namespace.
theorem stubs_apart_iff
    (spelled : ∀ command ∈ Command.filter config.packages commands, Name.Spelled command.fullName) :
    (∀ ready, plan.entryOn config ready.directory ready.world.disk = .ok Bundled.phpMain →
      ∃ (result : Except Trouble String) (last : Stage),
        Makes (plan.generatorOf config forest moment) (calls forest)
          (announced config.scheme Engine.entryTemplate { session := ready }) (result.map fun _ => ()) last ∧
        Plan.renderEntry (plan.generatorOf config forest moment) ready =
          (match result with
            | .ok _ => .ok last.files
            | .error trouble => .error (Generator.blame config.scheme Engine.entryTemplate trouble).error,
            last.session)) ∧
    (((calls forest).map (·.path)).Nodup ↔
      ∀ command ∈ Command.filter config.packages commands, command.name ≠ "_package") ∧
    ∀ product after, plan.generate commands moment config session = (.ok product, after) →
      product.files = (calls forest).map (fileOf ((config.targetBelow plan.output).folder session.directory)) ∧
      (product.files.Nodup ↔ ∀ command ∈ Command.filter config.packages commands, command.name ≠ "_package") := by
  have apart := paths_nodup_iff built (plain_of_spelled spelled '/' (by decide) (by decide))
  refine ⟨render_entry_makes built, apart, ?_⟩
  intro product after generated
  obtain ⟨-, -, -, -, -, files, -⟩ := generate_writes built session settled stock product after generated
  generalize (config.targetBelow plan.output).folder session.directory = target at files ⊢
  refine ⟨files, ?_⟩
  rw [← apart, files]
  constructor
  · intro distinct
    refine List.Nodup.of_map (fun path => (⟨.single, Path.landing target path⟩ : Path)) ?_
    rw [List.map_map]
    exact distinct
  · intro distinct
    refine List.pairwise_map.mpr ((List.pairwise_map.mp distinct).imp_of_mem ?_)
    intro a b aMember bMember different same
    have places := congrArg Path.parts same
    simp only [fileOf, landing_of_real _ _ (real_of_call built spelled a aMember),
      landing_of_real _ _ (real_of_call built spelled b bMember), List.append_cancel_left_eq] at places
    exact different (parts_injective _ _ places)

end

/-! ### Runs on an empty desk -/

def phpPlan : Plan where
  configurations := [{ name := "stubs", scheme := "php", packages := ["shop"] }]
  classpath := [Path.ofString "lib"]
  clock := "0"

def phpConfig : Configuration := { name := "stubs", scheme := "php", packages := ["shop"] }

def shopCommands : List Command := [{ fullName := "shop.cart.Add" }, { fullName := "shop.Find" }]

def shopForest : Forest where
  slots := [⟨"shop", none, [1], [{ fullName := "shop.Find" }]⟩, ⟨"shop.cart", some 0, [], [{ fullName := "shop.cart.Add" }]⟩]
  roots := [0]

def emptyDesk : Session where
  world := World.initial { entries := [(["work"], .folder)] }
  directory := ["work"]

def readyDesk : Disk where
  entries := [(["work"], .folder), (["work", "build"], .folder), (["work", "build", "ipcstub"], .folder),
    (["work", "build", "ipcstub", "stubs"], .folder)]

theorem desk_run_ends_well (commands : List Command) (forest : Forest)
    (built : Forest.ofCommands (Command.filter phpConfig.packages commands) = .ok forest)
    (prepared : Prepared (phpPlan.generatorOf phpConfig forest Plan.epoch) ["work"] readyDesk) :
    ∃ product after, phpPlan.generate commands Plan.epoch phpConfig emptyDesk = (.ok product, after) :=
  generate_ends_well built emptyDesk (by decide) (fun disk _ => stock_without_folders _ disk) (by decide) readyDesk
    (by rfl) prepared

theorem shop_run_ends_well : ∃ product after,
    phpPlan.generate shopCommands Plan.epoch phpConfig emptyDesk = (.ok product, after) := by
  have all : shopForest.allCommands = [{ fullName := "shop.Find" }, { fullName := "shop.cart.Add" }] := by rfl
  have files : (calls shopForest).map (fileOf ["work", "build", "ipcstub", "stubs"]) = [
      ⟨.single, ["work", "build", "ipcstub", "stubs", "shop", "_package.php"]⟩,
      ⟨.single, ["work", "build", "ipcstub", "stubs", "shop", "Find.php"]⟩,
      ⟨.single, ["work", "build", "ipcstub", "stubs", "shop", "cart", "_package.php"]⟩,
      ⟨.single, ["work", "build", "ipcstub", "stubs", "shop", "cart", "Add.php"]⟩,
      ⟨.single, ["work", "build", "ipcstub", "stubs", "ipcstub.php"]⟩] := by decide +kernel
  have lands : Lands ["work"] readyDesk ((calls shopForest).map (fileOf ["work", "build", "ipcstub", "stubs"])) := by
    rw [files]
    refine ⟨_, _, rfl, rfl, fun _ => ?_⟩
    refine ⟨_, _, rfl, rfl, fun _ => ?_⟩
    refine ⟨_, _, rfl, rfl, fun _ => ?_⟩
    refine ⟨_, _, rfl, rfl, fun _ => ?_⟩
    exact ⟨_, _, rfl, rfl, fun _ => trivial⟩
  refine desk_run_ends_well shopCommands shopForest rfl
    (prepared_of_printed (by decide) (by decide) (by decide +kernel) ?_ rfl lands)
  intro command member services stage
  rw [show (phpPlan.generatorOf phpConfig shopForest Plan.epoch).scene.forest.allCommands = shopForest.allCommands from rfl,
    all] at member
  rcases List.mem_cons.mp member with rfl | member
  · rfl
  · rw [List.mem_singleton.mp member]
    rfl

theorem shop_stubs_apart : ((calls shopForest).map (·.path)).Nodup ∧
    ∃ product after, phpPlan.generate shopCommands Plan.epoch phpConfig emptyDesk = (.ok product, after) ∧
      product.files.Nodup := by
  have named : ∀ command ∈ Command.filter phpConfig.packages shopCommands, command.name ≠ "_package" := by decide
  obtain ⟨-, apart, files⟩ := @stubs_apart_iff phpPlan shopCommands Plan.epoch phpConfig shopForest rfl emptyDesk
    (by decide) (fun disk _ => stock_without_folders _ disk) (by unfold Name.Spelled; decide)
  obtain ⟨product, after, generated⟩ := shop_run_ends_well
  exact ⟨apart.mpr named, product, after, generated, (files product after generated).2.mpr named⟩

-- A forest of one command in a namespace without others around it.
def loneForest (name : String) : Forest where
  slots := [⟨Name.parent name, none, [], [{ fullName := name }]⟩]
  roots := [0]

theorem lone_run_ends_well (name : String)
    (built : Forest.ofCommands (Command.filter phpConfig.packages [{ fullName := name }]) = .ok (loneForest name))
    (inside : ∀ path ∈ (calls (loneForest name)).map (·.path), '\x00' ∉ path.toList ∧
      (Path.mk .single (Path.landing ["work", "build", "ipcstub", "stubs"] path)).strictlyBelow
        ⟨.single, ["work", "build", "ipcstub", "stubs"]⟩ = true)
    (lands : Lands ["work"] readyDesk ((calls (loneForest name)).map (fileOf ["work", "build", "ipcstub", "stubs"]))) :
    ∃ product after, phpPlan.generate [{ fullName := name }] Plan.epoch phpConfig emptyDesk = (.ok product, after) := by
  refine desk_run_ends_well _ _ built (prepared_of_printed (by decide) (by rfl) inside ?_ rfl lands)
  intro command member services stage
  rw [List.mem_singleton.mp member]
  rfl

-- The file of a command may be the one of its namespace, which the later of the two calls writes over.
theorem package_command_overwrites :
    ∃ product after, phpPlan.generate [{ fullName := "shop._package" }] Plan.epoch phpConfig emptyDesk =
        (.ok product, after) ∧
      product.files = [⟨.single, ["work", "build", "ipcstub", "stubs", "shop", "_package.php"]⟩,
        ⟨.single, ["work", "build", "ipcstub", "stubs", "shop", "_package.php"]⟩,
        ⟨.single, ["work", "build", "ipcstub", "stubs", "ipcstub.php"]⟩] := by
  have files : (calls (loneForest "shop._package")).map (fileOf ["work", "build", "ipcstub", "stubs"]) = [
      ⟨.single, ["work", "build", "ipcstub", "stubs", "shop", "_package.php"]⟩,
      ⟨.single, ["work", "build", "ipcstub", "stubs", "shop", "_package.php"]⟩,
      ⟨.single, ["work", "build", "ipcstub", "stubs", "ipcstub.php"]⟩] := by decide +kernel
  have lands : Lands ["work"] readyDesk
      ((calls (loneForest "shop._package")).map (fileOf ["work", "build", "ipcstub", "stubs"])) := by
    rw [files]
    refine ⟨_, _, rfl, rfl, fun _ => ?_⟩
    refine ⟨_, _, rfl, rfl, fun _ => ?_⟩
    exact ⟨_, _, rfl, rfl, fun _ => trivial⟩
  obtain ⟨product, after, generated⟩ := lone_run_ends_well "shop._package" rfl (by decide +kernel) lands
  obtain ⟨-, -, -, -, -, listed, -⟩ := @generate_writes phpPlan [{ fullName := "shop._package" }] Plan.epoch phpConfig
    (loneForest "shop._package") rfl emptyDesk (by decide) (fun disk _ => stock_without_folders _ disk) product after
    generated
  exact ⟨product, after, generated, listed.trans files⟩

end StubForge.Stubs
