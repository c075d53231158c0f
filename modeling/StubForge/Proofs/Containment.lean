import StubForge.Proofs.Attempts
import StubForge.Proofs.DiscoveryFrames
import StubForge.Proofs.DiskWrites
import StubForge.Proofs.Landing
import StubForge.Proofs.RenderingFrames

set_option autoImplicit false

/-!
Where generated files lie: a run writes below the targets of its configurations only, whatever its templates do.
-/

namespace StubForge

open Template

/-! ### One call -/

-- What a call says whose file would lie elsewhere.
def refusal (generator : Generator) (directory : Place) (text : String) : Trouble :=
  .failure (.of none (.output
    (.outside text (generator.scene.target.resolve directory).toString) (some generator.scheme)))

section

variable {generator : Generator} {directory : Place}

theorem file_for_text (text : String) (settled : Path.Settled directory)
    (named : generator.scene.target.hasNul = false) (free : '\x00' ∉ text.toList) :
    Generator.fileFor directory generator.scene generator.scheme (Path.ofString text) text =
      if (Path.mk .single (Path.landing (generator.scene.target.folder directory) text)).strictlyBelow
          (generator.scene.target.resolve directory)
      then .ok ⟨.single, Path.landing (generator.scene.target.folder directory) text⟩
      else .error (refusal generator directory text) := by
  have joined : ((generator.scene.target.resolve directory).join (Path.ofString text)).hasNul = false := by
    refine Path.join_has_nul _ text free ?_
    rw [Path.resolve_eq_folder]
    exact Path.folder_has_nul directory generator.scene.target settled named
  simp only [Generator.fileFor, named, joined, Bool.or_self, Bool.false_eq_true, if_false,
    Path.resolve_below directory generator.scene.target text settled]
  rfl

-- A file that a call is given lies below the target, whatever path it asks for.
theorem file_for_below (relative : Path) (relativeText : String) (file : Path) (settled : Path.Settled directory)
    (given : Generator.fileFor directory generator.scene generator.scheme relative relativeText = .ok file) :
    ∃ parts, file = ⟨.single, parts⟩ ∧ ".." ∉ parts ∧ Path.Below (generator.scene.target.folder directory) parts := by
  simp only [Generator.fileFor] at given
  split at given
  · cases given
  · split at given
    · rename_i inside
      cases given
      refine ⟨_, Path.resolve_eq_folder _ _, Path.folder_plain _ _ settled, (Path.strictly_below_iff _ _).mp ?_⟩
      rw [← Path.resolve_eq_folder, ← Path.resolve_eq_folder]
      exact inside
    · cases given

-- A file that is given for a text is the one that the text leads to from the target.
theorem file_for_landing (text : String) (file : Path) (settled : Path.Settled directory)
    (given : Generator.fileFor directory generator.scene generator.scheme (Path.ofString text) text = .ok file) :
    file = ⟨.single, Path.landing (generator.scene.target.folder directory) text⟩ := by
  simp only [Generator.fileFor, Path.resolve_below directory generator.scene.target text settled] at given
  split at given
  · cases given
  · split at given
    · cases given
      rfl
    · cases given

end

/-! ### One configuration -/

-- Of one stage of generating a configuration: what was written since it began lies below its target.
structure Contained (directory target : Place) (first : Disk) (stage : Stage) : Prop where
  seen : stage.session.directory = directory
  reached : Disk.Reaches (Path.Below target) first stage.session.world.disk
  files : ∀ file ∈ stage.files, ∃ parts, file = ⟨.single, parts⟩ ∧ Path.Below target parts

section

variable {directory : Place}

theorem contained_upheld (generator : Generator) (first : Disk) (settled : Path.Settled directory) :
    Upholds generator directory (Contained directory (generator.scene.target.folder directory) first) := by
  refine ⟨fun stage holds => holds.seen, fun stage record holds => ⟨holds.seen, holds.reached, holds.files⟩, ?_⟩
  intro stage relative relativeText file text holds given
  obtain ⟨parts, rfl, plain, below⟩ := file_for_below relative relativeText file settled given
  have written := Disk.reaches_write_text stage.session.world.disk stage.session.directory parts
    generator.config.fileEncoding text plain below
  rw [write_file_run]
  generalize Generator.writeText stage.session.world.disk stage.session.directory ⟨.single, parts⟩
    generator.config.fileEncoding text = done at written
  obtain ⟨result, disk⟩ := done
  cases result with
  | error cause => exact ⟨holds.seen, Disk.reaches_trans holds.reached written, holds.files⟩
  | ok done =>
      refine ⟨holds.seen, Disk.reaches_trans holds.reached written, ?_⟩
      intro file member
      rcases List.mem_append.mp member with earlier | own
      · exact holds.files file earlier
      · exact ⟨parts, List.mem_singleton.mp own, below⟩

theorem render_entry_contained (generator : Generator) (session : Session) (settled : Path.Settled directory)
    (seen : session.directory = directory) :
    (Plan.renderEntry generator session).2.directory = directory ∧
      Disk.Reaches (Path.Below (generator.scene.target.folder directory)) session.world.disk
        (Plan.renderEntry generator session).2.world.disk ∧
      ∀ files, (Plan.renderEntry generator session).1 = .ok files →
        ∀ file ∈ files, ∃ parts, file = ⟨.single, parts⟩ ∧
          Path.Below (generator.scene.target.folder directory) parts := by
  have upheld := contained_upheld generator session.world.disk settled
  obtain ⟨kept, -⟩ := render_keeps upheld Engine.entryTemplate .null { session } ⟨seen, .first, by simp⟩
  cases rendered : generator.render Engine.entryTemplate .null { session } with
  | mk result stage =>
      rw [rendered] at kept
      rw [Plan.render_entry_run generator session result stage rendered]
      refine ⟨kept.seen, kept.reached, ?_⟩
      cases result with
      | ok text =>
          rintro files ⟨⟩
          exact kept.files
      | error trouble => exact nofun

-- What a run has reached, seen from a directory.
structure Reached (directory : Place) (writable : Place → Prop) (first : Disk) (session : Session) : Prop where
  seen : session.directory = directory
  reached : Disk.Reaches writable first session.world.disk

theorem say_reached (writable : Place → Prop) (first : Disk) (level : Level) (message : String) :
    Keeps (Reached directory writable first) (fun _ => True) (Run.say level message) :=
  keeps_modify _ fun _ holds => ⟨holds.seen, holds.reached⟩

theorem make_target_reached (writable : Place → Prop) (first : Disk) (config : Configuration) (target : Path) :
    Keeps (Reached directory writable first) (fun _ => True) (Plan.makeTarget config target) := by
  refine keeps_if (keeps_throw _ trivial) (keeps_read fun session holds => ?_)
  have made := @Disk.reaches_ensure_folders writable session.world.disk session.directory target
  generalize session.world.disk.ensureFolders session.directory target = done at made
  obtain ⟨result, disk⟩ := done
  have moved : Keeps (Reached directory writable first) (fun _ => True) (Run.setDisk disk) :=
    keeps_modify _ fun _ other => ⟨other.seen, Disk.reaches_trans holds.reached made⟩
  refine keeps_bind moved fun _ => ?_
  cases result with
  | ok done => exact keeps_pure _
  | error failure => exact keeps_throw _ trivial

theorem template_reached (writable : Place → Prop) (first : Disk) (engine : Engine) (scheme template : String) :
    Keeps (Reached directory writable first) (fun _ => True) (engine.template scheme template) := by
  intro session holds
  rw [template_run]
  exact ⟨holds, fun _ _ => trivial⟩

theorem render_entry_reached (generator : Generator) (first : Disk) (settled : Path.Settled directory) :
    Keeps (Reached directory (Path.Below (generator.scene.target.folder directory)) first) (fun _ => True)
      (Plan.renderEntry generator) := by
  intro session holds
  obtain ⟨seen, reached, -⟩ := render_entry_contained generator session settled holds.seen
  exact ⟨⟨seen, Disk.reaches_trans holds.reached reached⟩, fun _ _ => trivial⟩

variable (plan : Plan) (commands : List Command) (moment : Moment)

-- Whatever generating a configuration comes to, it wrote below the target of that configuration only.
theorem generate_reached (config : Configuration) (first : Disk) (settled : Path.Settled directory) :
    Keeps (Reached directory (Path.Below ((config.targetBelow plan.output).folder directory)) first) (fun _ => True)
      (plan.generate commands moment config) := by
  cases built : Forest.ofCommands (Command.filter config.packages commands) with
  | error fault =>
      rw [Plan.generate_of_fault config fault built]
      exact keeps_throw _ trivial
  | ok forest =>
      rw [Plan.generate_of_forest config forest built]
      exact keeps_bind (say_reached _ _ _ _) fun _ => keeps_bind (template_reached _ _ _ _ _) fun _ =>
        keeps_bind (make_target_reached _ _ _ _) fun _ =>
          keeps_bind (render_entry_reached (plan.generatorOf config forest moment) first settled) fun _ =>
            keeps_bind (say_reached _ _ _ _) fun _ => keeps_pure _

-- A configuration that is generated has only folders made for it before its entry is rendered, and nothing after that.
theorem generate_ok (config : Configuration) (session after : Session) (product : Product)
    (generated : plan.generate commands moment config session = (.ok product, after)) :
    ∃ forest prepared text finished,
      Forest.ofCommands (Command.filter config.packages commands) = .ok forest ∧
      Reached session.directory (fun _ => False) session.world.disk prepared ∧
      (plan.generatorOf config forest moment).render Engine.entryTemplate .null { session := prepared } =
        (.ok text, finished) ∧
      product.files = finished.files ∧ after.world = finished.session.world := by
  cases built : Forest.ofCommands (Command.filter config.packages commands) with
  | error fault =>
      rw [Plan.generate_of_fault config fault built] at generated
      cases generated
  | ok forest =>
      rw [Plan.generate_of_forest config forest built] at generated
      obtain ⟨_, said, started, generated⟩ := ok_of_bind generated
      obtain ⟨body, found, taken, generated⟩ := ok_of_bind generated
      obtain ⟨_, prepared, made, generated⟩ := ok_of_bind generated
      obtain ⟨files, drawn, rendered, generated⟩ := ok_of_bind generated
      obtain ⟨_, last, ended, generated⟩ := ok_of_bind generated
      cases generated
      have holds : Reached session.directory (fun _ => False) session.world.disk session := ⟨rfl, .first⟩
      obtain ⟨holds, -⟩ := say_reached _ _ _ _ session holds
      rw [started] at holds
      obtain ⟨holds, -⟩ := template_reached _ _ _ _ _ said holds
      rw [taken] at holds
      obtain ⟨holds, -⟩ := make_target_reached _ _ _ _ found holds
      rw [made] at holds
      cases run : (plan.generatorOf config forest moment).render Engine.entryTemplate .null { session := prepared } with
      | mk result finished =>
          rw [Plan.render_entry_run _ prepared result finished run] at rendered
          cases result with
          | error trouble => cases rendered
          | ok text =>
              cases rendered
              rw [Run.say_run] at ended
              cases ended
              exact ⟨forest, prepared, text, finished, rfl, holds, run, rfl, rfl⟩

-- The files of a product lie below its target.
theorem product_below (config : Configuration) (session after : Session) (product : Product)
    (settled : Path.Settled session.directory)
    (generated : plan.generate commands moment config session = (.ok product, after)) :
    ∀ file ∈ product.files, ∃ parts, file = ⟨.single, parts⟩ ∧
      Path.Below ((config.targetBelow plan.output).folder session.directory) parts := by
  obtain ⟨forest, prepared, text, finished, -, begun, rendered, files, -⟩ :=
    generate_ok plan commands moment config session after product generated
  have upheld := contained_upheld (plan.generatorOf config forest moment) prepared.world.disk settled
  obtain ⟨kept, -⟩ :=
    render_keeps upheld Engine.entryTemplate .null { session := prepared } ⟨begun.seen, .first, by simp⟩
  rw [rendered] at kept
  rw [files]
  exact kept.files

end

/-! ### Whole runs -/

-- Disks that come of generating configurations in a row, each of which writes below its own target only.
inductive Leaves (output : Path) (directory : Place) : List Configuration → Disk → Disk → Prop
  | none (disk : Disk) : Leaves output directory [] disk disk
  | next (config : Configuration) (rest : List Configuration) (first middle last : Disk)
      (own : Disk.Reaches (Path.Below ((config.targetBelow output).folder directory)) first middle)
      (others : Leaves output directory rest middle last) : Leaves output directory (config :: rest) first last

section

variable {plan : Plan} {commands : List Command} {moment : Moment}

theorem leaves_of_attempts (attempts : List (Configuration × Plan.Outcome)) (before last : Session)
    (made : Plan.Attempts plan commands moment attempts before last) (settled : Path.Settled before.directory) :
    Leaves plan.output before.directory (attempts.map (·.1)) before.world.disk last.world.disk ∧
      last.directory = before.directory := by
  induction made with
  | none session => exact ⟨.none _, rfl⟩
  | next config outcome rest before middle last generated others ih =>
      obtain ⟨⟨seen, own⟩, -⟩ :=
        generate_reached plan commands moment config before.world.disk settled before ⟨rfl, .first⟩
      rw [generated] at seen own
      obtain ⟨records, recorded⟩ := plan.recorded_eq config outcome middle
      rw [recorded] at ih
      rw [← seen] at settled
      obtain ⟨others, still⟩ := ih settled
      rw [seen] at others still
      exact ⟨.next config _ _ _ _ own others, still⟩

theorem Configuration.early_of_check (configs : List Configuration) (error : Error)
    (refused : Configuration.check configs = .error error) : error.Early := by
  have own (seen : List String) (config : Configuration) (wrong : config.error? seen = some error) : error.Early := by
    unfold Configuration.error? Configuration.encodingError? at wrong
    repeat' split at wrong
    all_goals cases wrong
    all_goals trivial
  have from_seen (configs : List Configuration) (seen : List String)
      (refused : Configuration.checkFrom seen configs = .error error) : error.Early := by
    induction configs generalizing seen with
    | nil => cases refused
    | cons config rest ih =>
        rw [Configuration.checkFrom] at refused
        split at refused
        · cases refused
          exact own seen config ‹_›
        · exact ih _ refused
  rw [Configuration.check] at refused
  split at refused
  · cases refused
    trivial
  · exact from_seen configs [] refused

theorem plan_discover_roamed {P : (α : Type) → Run α → Prop} (roams : Roams P) : P _ plan.discover := by
  have told (texts : List String) : P _ (Plan.sayAll texts) := by
    induction texts with
    | nil => exact roams.pure _
    | cons text rest ih => exact roams.bind (said_explored roams.toExplores _ _) fun _ => ih
  unfold Plan.discover
  split
  · exact roams.throw _ (Configuration.early_of_check _ _ ‹_›)
  · exact roams.bind (told _) fun _ => roams.bind (Discovery.discover_roamed roams _ _ _) fun _ =>
      roams.bind (said_explored roams.toExplores _ _) fun _ => roams.pure _

theorem reads_only_plan_discover (disk : Disk) (directory : Place) : ReadsOnly disk directory _ plan.discover :=
  plan_discover_roamed (roams_within (steady_of_surroundings fun now _ => now = disk) fun _ _ holds => holds)

-- A run leaves what comes of generating the first of its configurations, or all of them.
theorem run_leaves (session : Session) (settled : Path.Settled session.directory) :
    ∃ attempted, attempted <+: plan.configurations ∧
      Leaves plan.output session.directory attempted session.world.disk (plan.run session).2.world.disk := by
  obtain ⟨⟨still, seen⟩, -⟩ :=
    @reads_only_plan_discover plan session.world.disk session.directory session ⟨rfl, rfl⟩
  cases found : plan.discover session with
  | mk result discovered =>
      rw [found] at still seen
      cases result with
      | error error =>
          rw [Plan.run, bind_error found]
          exact ⟨[], List.nil_prefix, still ▸ .none _⟩
      | ok commands =>
          cases read : Moment.ofPinned plan.clock with
          | error fault =>
              have untimed : plan.moment discovered = (.error (Plan.clockError fault), discovered) := by
                rw [Plan.moment, read]
                rfl
              rw [Plan.run, bind_ok found, bind_error untimed]
              exact ⟨[], List.nil_prefix, still ▸ .none _⟩
          | ok moment =>
              obtain ⟨attempts, last, made, ended⟩ := Plan.run_attempts session discovered found read
              rw [← seen] at settled
              obtain ⟨leaves, -⟩ := leaves_of_attempts attempts discovered last made settled
              rw [seen, still] at leaves
              refine ⟨attempts.map (·.1), ?_, ?_⟩
              · rcases ended with ⟨complete, -⟩ | ⟨config, outcome, error, stops, -⟩
                · exact complete.every ▸ List.prefix_rfl
                · exact stops.started
              · have after : (plan.run session).2 = last := by
                  rcases ended with ⟨-, done⟩ | ⟨config, outcome, error, -, -, done⟩ <;> rw [done]
                rw [after]
                exact leaves

-- What a call does that is not refused: it renders its template, and then writes what came out into its file.
def renderInto (services : Services) (generator : Generator) (place : Place) (template : String) (args : Value) :
    Render Unit := do
  let text ← Generator.renderArgs services generator template args
  Render.ofRun (Run.say .info ("Generating " ++ (Path.mk .single place).toString ++ "..."))
  generator.writeFile ⟨.single, place⟩ text

theorem call_refused_or_rendered (generator : Generator) (services : Services) (stage : Stage)
    (text template : String) (args : Value) (settled : Path.Settled stage.session.directory)
    (named : generator.scene.target.hasNul = false) (free : '\x00' ∉ text.toList) (target place : Place)
    (folder : target = generator.scene.target.folder stage.session.directory)
    (lands : place = Path.landing target text) :
    (¬ Path.Below target place →
      Generator.generateFile services generator (Path.ofString text) text template args stage =
        (.error (refusal generator stage.session.directory text), stage)) ∧
    (Path.Below target place →
      Generator.generateFile services generator (Path.ofString text) text template args stage =
        renderInto services generator place template args stage) := by
  subst lands folder
  have given := file_for_text text settled named free
  have known : (get : Render Stage) stage = (.ok stage, stage) := rfl
  have lies := Path.strictly_below_iff (Path.landing (generator.scene.target.folder stage.session.directory) text)
    (generator.scene.target.folder stage.session.directory)
  rw [← Path.resolve_eq_folder stage.session.directory generator.scene.target] at lies
  rw [Generator.generateFile, bind_ok known, given]
  constructor
  · intro outside
    rw [if_neg (fun below => outside (lies.mp below))]
    rfl
  · intro below
    rw [if_pos (lies.mpr below)]
    rfl

-- Every file that a run writes lies strictly below the target of the configuration that is generated, and so do the
-- files of its product. A call is refused, before its template is rendered, exactly when following its path from the
-- target does not lead strictly below it; the file that any other call opens is the one that its path leads to.
theorem output_contained (plan : Plan) (session : Session) (settled : Path.Settled session.directory) :
    (∃ attempted, attempted <+: plan.configurations ∧
      Leaves plan.output session.directory attempted session.world.disk (plan.run session).2.world.disk) ∧
    (∀ commands moment config product after, plan.generate commands moment config session = (.ok product, after) →
      ∀ file ∈ product.files, ∃ parts, file = ⟨.single, parts⟩ ∧
        Path.Below ((config.targetBelow plan.output).folder session.directory) parts) ∧
    ∀ (generator : Generator) (services : Services) (stage : Stage) (text template : String) (args : Value)
      (target place : Place),
      stage.session.directory = session.directory → generator.scene.target.hasNul = false → '\x00' ∉ text.toList →
      target = generator.scene.target.folder session.directory → place = Path.landing target text →
      (¬ Path.Below target place →
        Generator.generateFile services generator (Path.ofString text) text template args stage =
          (.error (refusal generator session.directory text), stage)) ∧
      (Path.Below target place →
        Generator.generateFile services generator (Path.ofString text) text template args stage =
          renderInto services generator place template args stage) ∧
      ∀ disk opened, Disk.openPlace disk session.directory ⟨.single, place⟩ = .ok opened → opened = place := by
  refine ⟨run_leaves session settled, ?_, ?_⟩
  · intro commands moment config product after generated
    exact product_below plan commands moment config session after product settled generated
  · intro generator services stage text template args target place seen named free folder lands
    rw [← seen] at settled folder ⊢
    obtain ⟨refused, rendered⟩ :=
      call_refused_or_rendered generator services stage text template args settled named free target place folder lands
    refine ⟨refused, rendered, fun disk opened done => Disk.open_place_plain disk _ opened place ?_ done⟩
    rw [lands, folder]
    exact Path.landing_plain _ _ text settled

def shopPlan : Plan where
  configurations := [{ name := "web", scheme := "json", packages := ["shop"], target := some (Path.ofString "../out") }]
  classpath := [Path.ofString "lib"]
  clock := "0"

def shopSession : Session where
  world := World.initial { entries := [(["work"], .folder), (["work", "lib"], .folder),
    (["work", "lib", "shop.py"], .file (.module []))] }
  directory := ["work"]

def webGenerator : Generator where
  engine := {}
  scene :=
    { configuration := { name := "web", scheme := "json", packages := ["shop"] }
      target := Path.ofString "../out"
      moment := { date := ⟨2010, 5, 3⟩, hour := 14, minute := 7, second := 9, offset := some 0 } }

theorem shop_output_contained :
    (∃ attempted, attempted <+: shopPlan.configurations ∧
      Leaves shopPlan.output ["work"] attempted shopSession.world.disk (shopPlan.run shopSession).2.world.disk) ∧
    Generator.generateFile (webGenerator.services 1) webGenerator (Path.ofString "a/../../work/b") "a/../../work/b"
        "main" .null { session := shopSession } =
      (.error (refusal webGenerator ["work"] "a/../../work/b"), { session := shopSession }) ∧
    Generator.generateFile (webGenerator.services 1) webGenerator (Path.ofString "a/../../out//./b") "a/../../out//./b"
        "main" .null { session := shopSession } =
      renderInto (webGenerator.services 1) webGenerator ["out", "b"] "main" .null { session := shopSession } := by
  obtain ⟨run, -, call⟩ := output_contained shopPlan shopSession (by decide)
  refine ⟨run, ?_, ?_⟩
  · refine (call webGenerator _ { session := shopSession } "a/../../work/b" "main" .null ["out"] ["work", "b"] rfl
      (by decide) (by decide) (by decide) (by decide)).1 ?_
    rintro ⟨name, rest, same⟩
    simp at same
  · refine (call webGenerator _ { session := shopSession } "a/../../out//./b" "main" .null ["out"] ["out", "b"] rfl
      (by decide) (by decide) (by decide) (by decide)).2.1 ?_
    exact ⟨"b", [], rfl⟩

end

end StubForge
