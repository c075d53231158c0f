import StubForge.Program
import StubForge.Proofs.Containment
import StubForge.Proofs.Escapes
import StubForge.Proofs.KeepGoing

set_option autoImplicit false

/-!
No run ends over a name that does not fit into a forest: the names of discovered commands always do.
-/

namespace StubForge

-- The error is about a name that does not fit into a forest, or was collected together with such a failure.
def Error.Naming : Error → Prop
  | .failure (.of _ (.naming _)) => True
  | .failure (.of _ (.generation failures)) => ∃ entry ∈ failures, ∃ config fault, entry.2 = .of config (.naming fault)
  | _ => False

-- An error that a run may collect, or one that is no failure of the program's own.
def Error.Soft : Error → Prop
  | .failure own => own.isCollectable = true
  | .mishap _ => True

theorem Error.not_naming_of_early (error : Error) (early : error.Early) : ¬error.Naming := by
  unfold Early at early
  split at early
  · exact id
  · exact id
  · exact early.elim
  · exact id

-- A failure stays what it is when it is given the name of its configuration.
theorem Error.not_naming_of_soft (failure : Failure) (soft : failure.isCollectable = true) (name : String) :
    ¬(Error.failure (failure.inConfig name)).Naming := by
  obtain ⟨config, fault⟩ := failure
  cases fault with
  | template fault scheme template => exact id
  | output fault scheme => exact id
  | _ => cases soft

/-! ### Discovered commands -/

theorem Name.segment_filled (name : String) (named : Name.OfCommand name) (segment : String)
    (member : segment ∈ Name.segments name) : segment ≠ "" ∧ Text.isIdentifier segment = true := by
  have valid := named.spelled segment member
  exact ⟨identifier_filled segment valid, valid⟩

theorem Forest.of_filtered_ok (commands : List Command) (named : ∀ command ∈ commands, Name.OfCommand command.fullName)
    (packages : List String) : ∃ forest, Forest.ofCommands (Command.filter packages commands) = .ok forest := by
  apply Forest.of_commands_ok
  intro command member
  exact named command (List.mem_filter.mp member).1

namespace Plan

section

variable (plan : Plan) (commands : List Command) (moment : Moment) {directory : Place}

/-! ### Generating one configuration -/

abbrev Softly (directory : Place) (α : Type) (steps : Run α) : Prop :=
  Keeps (fun session : Session => session.directory = directory) Error.Soft steps

theorem say_soft (level : Level) (message : String) : Softly directory _ (Run.say level message) :=
  keeps_modify _ fun _ seen => seen

theorem template_soft (engine : Engine) (scheme template : String) :
    Softly directory _ (engine.template scheme template) := by
  intro session seen
  rw [Template.template_run]
  refine ⟨seen, fun error failed => ?_⟩
  cases read : engine.read session.world.disk session.directory (Engine.templatePath scheme template) with
  | ok body =>
      rw [read] at failed
      cases failed
  | error fault =>
      rw [read] at failed
      cases fault <;> cases failed
      · exact rfl
      · exact rfl
      · exact trivial

theorem make_target_soft (config : Configuration) (target : Path) : Softly directory _ (makeTarget config target) := by
  intro session seen
  cases nul : target.hasNul with
  | true =>
      rw [make_target_nul target session nul]
      refine ⟨seen, fun error failed => ?_⟩
      cases failed
      exact trivial
  | false =>
      cases ensured : session.world.disk.ensureFolders session.directory target with
      | mk result made =>
          rw [make_target_run target session nul result made ensured]
          refine ⟨seen, fun error failed => ?_⟩
          cases result with
          | ok value => cases failed
          | error fault =>
              cases failed
              exact rfl

theorem render_entry_soft (generator : Generator) : Softly directory _ (renderEntry generator) := by
  intro session seen
  have kept := Template.render_keeps (Template.upholds_seen generator directory) Engine.entryTemplate .null { session } seen
  cases rendered : generator.render Engine.entryTemplate .null { session } with
  | mk result stage =>
      rw [rendered] at kept
      rw [render_entry_run generator session result stage rendered]
      refine ⟨kept.1, fun error failed => ?_⟩
      cases result with
      | ok text => cases failed
      | error trouble =>
          cases failed
          have usual := kept.2 trouble rfl
          cases trouble with
          | failure failure => exact usual
          | complaint text => exact trivial
          | mishap mishap => exact trivial

theorem generate_soft_of_forest (config : Configuration) (forest : Forest)
    (built : Forest.ofCommands (Command.filter config.packages commands) = .ok forest) :
    Softly directory _ (plan.generate commands moment config) := by
  rw [generate_of_forest config forest built]
  apply keeps_bind (say_soft _ _)
  intro _
  apply keeps_bind (template_soft _ _ _)
  intro _
  apply keeps_bind (make_target_soft config _)
  intro _
  apply keeps_bind (render_entry_soft _)
  intro files
  apply keeps_bind (say_soft _ _)
  intro _
  exact keeps_pure _

variable (named : ∀ command ∈ commands, Name.OfCommand command.fullName)
include named

theorem generate_soft (config : Configuration) : Softly directory _ (plan.generate commands moment config) := by
  obtain ⟨forest, built⟩ := Forest.of_filtered_ok commands named config.packages
  exact generate_soft_of_forest plan commands moment config forest built

theorem attempts_soft (attempts : List (Configuration × Outcome)) (first last : Session)
    (made : Attempts plan commands moment attempts first last) :
    ∀ attempt ∈ attempts, ∀ error, attempt.2 = .error error → error.Soft := by
  induction made with
  | none session => simp
  | next config outcome rest before middle last generated others ih =>
      refine List.forall_mem_cons.mpr ⟨fun error failed => ?_, ih⟩
      apply (generate_soft plan commands moment named config before rfl).2
      rw [generated]
      exact failed

end

/-! ### Whole runs -/

theorem not_naming_of_raised (config : Configuration) (outcome : Outcome) (error : Error)
    (soft : ∀ own, outcome = .error own → own.Soft) (reason : raised? config outcome = some error) : ¬error.Naming := by
  cases outcome with
  | ok product => cases reason
  | error own =>
      have soft := soft own rfl
      cases own with
      | failure failure =>
          cases reason
          exact Error.not_naming_of_soft failure soft config.name
      | mishap mishap =>
          cases reason
          exact id

theorem not_naming_of_failures (attempts : List (Configuration × Outcome))
    (soft : ∀ attempt ∈ attempts, ∀ error, attempt.2 = .error error → error.Soft) :
    ¬(Error.ofFault (.generation (failures attempts))).Naming := by
  rintro ⟨entry, member, config, fault, own⟩
  obtain ⟨⟨config', outcome⟩, attempted, collected⟩ := List.mem_filterMap.mp member
  cases outcome with
  | ok product => cases collected
  | error error =>
      have soft := soft _ attempted error rfl
      cases error with
      | mishap mishap => cases collected
      | failure failure =>
          cases collected
          obtain ⟨given, cause⟩ := failure
          cases own
          cases soft

theorem not_naming_of_discover (plan : Plan) (session after : Session) (error : Error)
    (failed : plan.discover session = (.error error, after)) : ¬error.Naming := by
  apply Error.not_naming_of_early
  apply (@reads_only_plan_discover plan session.world.disk session.directory session ⟨rfl, rfl⟩).2
  rw [failed]

theorem run_not_naming (plan : Plan) (session : Session) (error : Error)
    (failed : (plan.run session).1 = .error error) : ¬error.Naming := by
  cases found : plan.discover session with
  | mk result discovered =>
      cases result with
      | error cause =>
          rw [run, bind_error found] at failed
          cases failed
          exact not_naming_of_discover plan session discovered error found
      | ok commands =>
          have named := discover_spelled plan session discovered commands found
          cases read : Moment.ofPinned plan.clock with
          | error fault =>
              have untimed : plan.moment discovered = (.error (clockError fault), discovered) := by
                rw [moment, read]
                rfl
              rw [run, bind_ok found, bind_error untimed] at failed
              cases failed
              unfold clockError
              split <;> exact id
          | ok moment =>
              obtain ⟨attempts, last, made, ended⟩ := run_attempts session discovered found read
              have soft := attempts_soft plan commands moment named attempts discovered last made
              rcases ended with ⟨-, result⟩ | ⟨config, outcome, cause, stops, reason, result⟩
              · rw [result] at failed
                unfold verdict at failed
                split at failed
                · cases failed
                · cases failed
                  exact not_naming_of_failures attempts soft
              · rw [result] at failed
                cases failed
                obtain ⟨earlier, split, -⟩ := stops.last
                have member : (config, outcome) ∈ attempts := by simp [split]
                exact not_naming_of_raised config outcome error (soft _ member) reason

end Plan

/-! ### The program -/

namespace Program

-- Steps after which no error is about a name that does not fit.
abbrev Fitting (α : Type) (steps : Run α) : Prop := Keeps (fun _ : Session => True) (fun error => ¬error.Naming) steps

theorem listing_fitting (commands : List Command) (named : ∀ command ∈ commands, Name.OfCommand command.fullName)
    (config : Configuration) : Fitting _ (listing commands config) := by
  obtain ⟨forest, built⟩ := Forest.of_filtered_ok commands named config.packages
  rw [listing, built]
  exact keeps_pure _

theorem inspect_fitting (plan : Plan) (name : Option String) : Fitting _ (inspect plan name) := by
  unfold inspect
  apply keeps_if
  · apply keeps_throw
    exact id
  · intro session holds
    cases found : plan.discover session with
    | mk result discovered =>
        cases result with
        | error error =>
            rw [bind_error found]
            refine ⟨trivial, fun cause failed => ?_⟩
            cases failed
            exact Plan.not_naming_of_discover plan session discovered error found
        | ok commands =>
            have named := Plan.discover_spelled plan session discovered commands found
            rw [bind_ok found]
            have listed : Fitting _ (plan.configurations.mapM (listing commands)) :=
              keeps_map_each (listing_fitting commands named)
            exact keeps_bind listed (fun _ => keeps_pure _) discovered trivial

theorem run_fitting (plan : Plan) : Fitting _ plan.run :=
  fun session _ => ⟨trivial, Plan.run_not_naming plan session⟩

theorem generate_fitting (plan : Plan) (settings : Settings) (output : Option Path) (folders : List Path)
    (keepGoing : Bool) : Fitting _ (generate plan settings output folders keepGoing) := by
  apply keeps_bind (run_fitting _)
  intro products
  have said : Fitting _ (Plan.sayAll (products.map productText)) :=
    keeps_each fun text => keeps_modify _ fun _ _ => trivial
  exact keeps_bind said fun _ => keeps_pure _

theorem act_fitting (invocation : CommandLine.Invocation) (clock : String) : Fitting _ (act invocation clock) := by
  have loaded : Fitting _ (Settings.load invocation.config) := by
    refine fun session _ => ⟨trivial, fun error failed => ?_⟩
    apply Error.not_naming_of_early
    obtain ⟨result, loaded, early⟩ := Settings.load_reads invocation.config session
    rw [loaded] at failed
    exact early error failed
  apply keeps_bind loaded
  intro settings
  cases invocation.action with
  | generate output folders keepGoing => exact generate_fitting _ _ _ _ _
  | inspect name => exact inspect_fitting _ _

-- Whatever lies on the class path, discovered commands have names of two identifiers at least, and the share of any
-- packages makes a forest. So no run ends over a name, and none of the commands of the program does.
theorem names_always_fit (session : Session) :
    (∀ roots packages capability commands after,
      Discovery.discover roots packages capability session = (.ok commands, after) →
        (∀ command ∈ commands, 2 ≤ (Name.segments command.fullName).length ∧
          ∀ segment ∈ Name.segments command.fullName, segment ≠ "" ∧ Text.isIdentifier segment = true) ∧
        ∀ wanted, ∃ forest, Forest.ofCommands (Command.filter wanted commands) = .ok forest) ∧
    (∀ plan error, (Plan.run plan session).1 = .error error → ¬error.Naming) ∧
    (∀ plan name error, (inspect plan name session).1 = .error error → ¬error.Naming) ∧
    ∀ invocation clock error, (act invocation clock session).1 = .error error → ¬error.Naming := by
  refine ⟨fun roots packages capability commands after done => ?_, fun plan => Plan.run_not_naming plan session,
    fun plan name => (inspect_fitting plan name session trivial).2,
    fun invocation clock => (act_fitting invocation clock session trivial).2⟩
  have named := Discovery.discover_spelled roots packages capability session after commands done
  refine ⟨fun command member => ?_, Forest.of_filtered_ok commands named⟩
  exact ⟨(named command member).dotted, Name.segment_filled command.fullName (named command member)⟩

theorem patchy_names_fit : ∃ commands after,
    Discovery.discover Discovery.libRoots Discovery.patchyPackages Discovery.patchyCapability Discovery.patchy =
      (.ok commands, after) ∧
    commands.map (·.fullName) = ["a.A"] ∧ ∃ forest, Forest.ofCommands (Command.filter ["a"] commands) = .ok forest := by
  obtain ⟨commands, done, names⟩ := ok_of_computed
    (Discovery.discover Discovery.libRoots Discovery.patchyPackages Discovery.patchyCapability Discovery.patchy).1
    (fun commands => commands.map (·.fullName) == ["a.A"]) (by decide +kernel)
  have found := pair_of_fst done
  obtain ⟨-, built⟩ := (names_always_fit Discovery.patchy).1 _ _ _ commands _ found
  exact ⟨commands, _, found, by simpa using names, built ["a"]⟩

end Program

end StubForge
