import StubForge.Proofs.Attempts
import StubForge.Proofs.Rendering
import StubForge.Proofs.RenderingFrames
import StubForge.Proofs.Spelling

set_option autoImplicit false

/-!
Runs that go on after failures: what generating one configuration can come to, and which outcomes keep a run
from going on.
-/

namespace StubForge

open Template

/-! ### Rendering the entry of a scheme -/

namespace Template

-- The directory is kept by everything a generator does.
theorem upholds_seen (generator : Generator) (directory : Place) :
    Upholds generator directory fun stage => stage.session.directory = directory := by
  refine ⟨fun stage seen => seen, fun stage record seen => seen, ?_⟩
  intro stage relative relativeText file text seen given
  rw [write_file_run]
  split <;> exact seen

def undecoded (fault : DecodeFault) : Mishap := { kind := "UnicodeDecodeError", message := fault.message }

theorem blame_collectable (scheme template : String) (trouble : Trouble) (usual : trouble.Usual) :
    ∃ failure, Generator.blame scheme template trouble = .failure failure ∧ failure.isCollectable = true := by
  cases trouble with
  | failure failure => exact ⟨failure, rfl, usual⟩
  | complaint text => exact ⟨_, rfl, rfl⟩
  | mishap mishap => exact ⟨_, rfl, rfl⟩

theorem blamed_collectable (rendering : Render String) (scheme template : String) (stage after : Stage)
    (trouble : Trouble) (usual : ∀ own, (rendering stage).1 = .error own → own.Usual)
    (failed : (tryCatch rendering (fun own => throw (Generator.blame scheme template own)) : Render String) stage =
      (.error trouble, after)) :
    ∃ failure, trouble = .failure failure ∧ failure.isCollectable = true := by
  rw [try_catch_run] at failed
  cases drawn : rendering stage with
  | mk result left =>
      rw [drawn] at failed usual
      cases result with
      | ok text => cases failed
      | error own =>
          cases failed
          exact blame_collectable scheme template own (usual own rfl)

section

variable (generator : Generator) (template : String) (args : Value) (stage : Stage)

theorem find_template_error (fault : Engine.Fault)
    (read : generator.engine.read stage.session.world.disk stage.session.directory
      (Engine.templatePath generator.scheme template) = .error fault) :
    ∃ trouble, generator.render template args stage = (.error trouble, stage) ∧
      match fault with
      | .undecodable fault => trouble = .mishap (undecoded fault)
      | _ => ∃ failure, trouble = .failure failure ∧ failure.isCollectable = true := by
  have found := template_run generator.engine generator.scheme template stage.session
  rw [read] at found
  cases fault with
  | missing =>
      have taken : Render.ofRun (generator.engine.template generator.scheme template) stage =
          (.error (.failure (.of none (.template .notFound generator.scheme template))), stage) := by
        rw [Render.ofRun, found]
        rfl
      exact ⟨_, bind_error taken _, _, rfl, rfl⟩
  | malformed line =>
      have taken : Render.ofRun (generator.engine.template generator.scheme template) stage =
          (.error (.failure (.of none (.template (.badSyntax line) generator.scheme template))), stage) := by
        rw [Render.ofRun, found]
        rfl
      exact ⟨_, bind_error taken _, _, rfl, rfl⟩
  | undecodable fault =>
      have taken : Render.ofRun (generator.engine.template generator.scheme template) stage =
          (.error (.mishap (undecoded fault)), stage) := by
        rw [Render.ofRun, found]
        rfl
      exact ⟨_, bind_error taken _, rfl⟩

-- Once a template is read, all that goes wrong in rendering it is a failure that a run may collect.
theorem render_error_collectable (body : List Stmt)
    (read : generator.engine.read stage.session.world.disk stage.session.directory
      (Engine.templatePath generator.scheme template) = .ok body) (trouble : Trouble) (after : Stage)
    (failed : generator.render template args stage = (.error trouble, after)) :
    ∃ failure, trouble = .failure failure ∧ failure.isCollectable = true := by
  rw [Generator.render, Generator.renderArgs, render_with_body _ _ _ _ body read] at failed
  have serves := services_keep (upholds_seen generator stage.session.directory) generator.depthLimit
  refine blamed_collectable _ _ _ _ _ _ ?_ failed
  exact (keeps_bind (render_all_keeps body _ fun _ => serves) (fun drawn => keeps_pure drawn.2)
    (announced generator.scheme template stage) rfl).2

end

end Template

/-! ### Generating one configuration -/

namespace Plan

section

variable (plan : Plan) (config : Configuration)

-- What is read for the entry template of a configuration.
def entryOn (directory : Place) (disk : Disk) : Except Engine.Fault (List Stmt) :=
  plan.engine.read disk directory (Engine.templatePath config.scheme Engine.entryTemplate)

-- What keeps a run from going on after a configuration: the bytes of its entry template are no text, before its
-- target is made or after, or its target holds a NUL character.
def Slips (before : Session) : Prop :=
  (∃ fault, plan.entryOn config before.directory before.world.disk = .error (.undecodable fault)) ∨
    ∃ body, plan.entryOn config before.directory before.world.disk = .ok body ∧
      ((config.targetBelow plan.output).hasNul = true ∨
        (config.targetBelow plan.output).hasNul = false ∧
          ∃ made fault, before.world.disk.ensureFolders before.directory (config.targetBelow plan.output) = (.ok (), made) ∧
            plan.entryOn config before.directory made = .error (.undecodable fault))

variable {plan config} {commands : List Command} {moment : Moment}

theorem make_target_nul (target : Path) (session : Session) (nul : target.hasNul = true) :
    makeTarget config target session = (.error (.raised "ValueError" Generator.nulText), session) := by
  rw [makeTarget, if_pos nul]
  rfl

-- Without a NUL character, making the target fails in a way that a run collects, if it fails.
theorem make_target_run (target : Path) (session : Session) (plain : target.hasNul = false)
    (result : Except (Errno × Path) Unit) (made : Disk)
    (ensured : session.world.disk.ensureFolders session.directory target = (result, made)) :
    makeTarget config target session =
      (match result with
        | .ok () => .ok ()
        | .error (errno, path) => .error (.ofFault (.output
            (.directoryNotCreated target.toString (errno.message path.toString)) (some config.scheme))),
        onDisk made session) := by
  rw [makeTarget, if_neg (by simp [plain]), bind_ok (Run.get_run session)]
  simp only [ensured]
  cases result <;> rfl

-- Rendering the entry of a scheme ends the run exactly when its bytes are no text by then.
theorem render_entry_ends_iff (keeps : plan.failFast = false) (forest : Forest) (session : Session) (product : List Path → Product) :
    plan.ends ((renderEntry (plan.generatorOf config forest moment) session).1.map product) = true ↔
      ∃ fault, plan.entryOn config session.directory session.world.disk = .error (.undecodable fault) := by
  cases rendered : (plan.generatorOf config forest moment).render Engine.entryTemplate .null { session } with
  | mk result stage =>
      rw [render_entry_run _ session result stage rendered]
      cases read : plan.entryOn config session.directory session.world.disk with
      | ok body =>
          cases result with
          | ok text => simp [ends, Except.map]
          | error trouble =>
              obtain ⟨failure, rfl, soft⟩ := render_error_collectable (plan.generatorOf config forest moment)
                Engine.entryTemplate .null { session } body read trouble stage rendered
              simp [ends, Except.map, Trouble.error, keeps, soft]
      | error fault =>
          obtain ⟨trouble, run, kind⟩ := find_template_error (plan.generatorOf config forest moment)
            Engine.entryTemplate .null { session } fault read
          rw [rendered] at run
          cases run
          cases fault with
          | missing =>
              obtain ⟨failure, rfl, soft⟩ := kind
              simp [ends, Except.map, Trouble.error, keeps, soft]
          | malformed line =>
              obtain ⟨failure, rfl, soft⟩ := kind
              simp [ends, Except.map, Trouble.error, keeps, soft]
          | undecodable fault =>
              cases kind
              simp [ends, Except.map, Trouble.error]

-- Generating a configuration ends a run that goes on after failures exactly when the configuration slips.
theorem generate_ends_iff (keeps : plan.failFast = false) (forest : Forest)
    (built : Forest.ofCommands (Command.filter config.packages commands) = .ok forest) (before : Session) :
    plan.ends (plan.generate commands moment config before).1 = true ↔ plan.Slips config before := by
  rw [generate_of_forest config forest built]
  generalize started : ({ before with
    records := before.records ++ [{ level := .info, message := startText config }] } : Session) = session
  have said : Run.say .info (startText config) before = (.ok (), session) := started ▸ rfl
  have disk : session.world.disk = before.world.disk := started ▸ rfl
  have seen : session.directory = before.directory := started ▸ rfl
  have found := template_run plan.engine config.scheme Engine.entryTemplate session
  rw [disk, seen] at found
  rw [bind_ok said]
  cases read : plan.entryOn config before.directory before.world.disk with
  | error fault =>
      rw [show plan.engine.read _ _ _ = _ from read] at found
      cases fault with
      | missing =>
          rw [bind_error found]
          simp [Slips, read, ends, Error.ofFault, keeps, Failure.isCollectable, Failure.fault]
      | malformed line =>
          rw [bind_error found]
          simp [Slips, read, ends, Error.ofFault, keeps, Failure.isCollectable, Failure.fault]
      | undecodable fault =>
          rw [bind_error found]
          simp [Slips, read, ends, Error.raised]
  | ok body =>
      rw [show plan.engine.read _ _ _ = _ from read] at found
      rw [bind_ok found]
      cases nul : (config.targetBelow plan.output).hasNul with
      | true =>
          rw [bind_error (make_target_nul _ session nul)]
          simp [Slips, read, nul, ends, Error.raised]
      | false =>
          cases ensured : before.world.disk.ensureFolders before.directory (config.targetBelow plan.output) with
          | mk result made =>
              have run := @make_target_run config (config.targetBelow plan.output) session nul result made
                (by rw [disk, seen, ensured])
              cases result with
              | error fault =>
                  rw [bind_error run]
                  simp [Slips, read, nul, ensured, ends, Error.ofFault, keeps, Failure.isCollectable, Failure.fault]
              | ok done =>
                  rw [bind_ok run]
                  have drawn := @render_entry_ends_iff plan config moment keeps forest (onDisk made session)
                    fun files => { name := config.name, target := config.targetBelow plan.output, files }
                  have slips : plan.Slips config before ↔
                      ∃ fault, plan.entryOn config before.directory made = .error (.undecodable fault) := by
                    simp [Slips, read, nul, ensured]
                  rw [show (onDisk made session).directory = before.directory from seen] at drawn
                  refine Iff.trans ?_ (drawn.trans slips.symm)
                  cases rendered : renderEntry (plan.generatorOf config forest moment) (onDisk made session) with
                  | mk result last =>
                      cases result with
                      | error error =>
                          rw [bind_error rendered]
                          rfl
                      | ok files =>
                          rw [bind_ok rendered]
                          rfl

/-! ### Whole runs -/

theorem product_named (config : Configuration) (before after : Session) (product : Product)
    (generated : plan.generate commands moment config before = (.ok product, after)) :
    product.name = config.name := by
  cases built : Forest.ofCommands (Command.filter config.packages commands) with
  | error fault =>
      rw [generate_of_fault config fault built] at generated
      cases generated
  | ok forest =>
      rw [generate_of_forest config forest built] at generated
      obtain ⟨_, _, _, generated⟩ := ok_of_bind generated
      obtain ⟨_, _, _, generated⟩ := ok_of_bind generated
      obtain ⟨_, _, _, generated⟩ := ok_of_bind generated
      obtain ⟨_, _, _, generated⟩ := ok_of_bind generated
      obtain ⟨_, _, _, generated⟩ := ok_of_bind generated
      cases generated
      rfl

-- Where nothing failed, there is a product for each attempt.
theorem products_of_attempts (attempts : List (Configuration × Outcome)) (first last : Session)
    (made : Attempts plan commands moment attempts first last)
    (going : ∀ attempt ∈ attempts, plan.ends attempt.2 = false) (clean : failures attempts = []) :
    (products attempts).map (·.name) = attempts.map (·.1.name) := by
  induction made with
  | none session => rfl
  | next config outcome rest before middle last generated others ih =>
      obtain ⟨own, going⟩ := List.forall_mem_cons.mp going
      rw [failures_cons, List.append_eq_nil_iff] at clean
      rw [products_cons, List.map_append, ih going clean.2]
      cases outcome with
      | ok product => simp [Except.toOption, product_named config before middle product generated]
      | error error =>
          cases error with
          | failure failure => simp [collected?] at clean
          | mishap mishap => simp [ends] at own

theorem attempts_split (earlier : List (Configuration × Outcome)) (config : Configuration) (outcome : Outcome)
    (first last : Session) (made : Attempts plan commands moment (earlier ++ [(config, outcome)]) first last) :
    ∃ before middle, Attempts plan commands moment earlier first before ∧
      plan.generate commands moment config before = (outcome, middle) ∧
      last = plan.recorded config outcome middle := by
  induction earlier generalizing first with
  | nil =>
      cases made with
      | next _ _ _ _ middle _ generated others =>
          cases others
          exact ⟨first, middle, .none first, generated, rfl⟩
  | cons attempt rest ih =>
      cases made with
      | next own result _ _ middle _ generated others =>
          obtain ⟨before, later, made, finished, past⟩ := ih _ others
          exact ⟨before, later, .next own result rest first middle before generated made, finished, past⟩

-- Two configurations, of which the first is given, in a run that goes on after failures.
def twoStep (folders : List Path) (first : Configuration) : Plan where
  configurations := [first, { name := "second", scheme := "json", packages := ["shop"] }]
  classpath := [Path.ofString "lib"]
  engine := { folders }
  failFast := false
  clock := "0"

def emptyLibrary : Session where
  world := World.initial { entries := [(["lib"], .folder), (["tpl"], .folder), (["tpl", "bad"], .folder),
    (["tpl", "bad", "main.j2"], .file (.bytes [0xff]))] }

def epoch : Moment := { date := ⟨1970, 1, 1⟩, hour := 0, minute := 0, second := 0, offset := some 0 }

def unknownScheme : Configuration := { name := "first", scheme := "absent", packages := ["shop"] }

theorem unknown_scheme_fails (session : Session) :
    ((twoStep [] unknownScheme).generate [] epoch unknownScheme session).1 =
      .error (.ofFault (.template .notFound "absent" "main")) := rfl

def nulTarget : Configuration :=
  { name := "first", scheme := "json", packages := ["shop"], target := some (Path.ofString "x\x00y") }

def undecodedScheme : Configuration := { name := "first", scheme := "bad", packages := ["shop"] }

end

end Plan

end StubForge
