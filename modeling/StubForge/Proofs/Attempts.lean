import StubForge.Plan
import StubForge.Proofs.Runs

set_option autoImplicit false

/-!
The attempts of a run: it generates one configuration after the other, until one ends it or none is left.
-/

namespace StubForge.Plan

abbrev Outcome := Except Error Product

-- An outcome after which no further configuration is generated.
def ends (plan : Plan) : Outcome → Bool
  | .ok _ => false
  | .error (.mishap _) => true
  | .error (.failure failure) => plan.failFast || !failure.isCollectable

-- The failure that is collected for a configuration.
def collected? (config : Configuration) : Outcome → Option (String × Failure)
  | .error (.failure failure) => some (config.name, failure.inConfig config.name)
  | _ => none

-- What a configuration raises when it ends the run.
def raised? (config : Configuration) : Outcome → Option Error
  | .error (.failure failure) => some (.failure (failure.inConfig config.name))
  | .error (.mishap mishap) => some (.mishap mishap)
  | .ok _ => none

def recorded (plan : Plan) (config : Configuration) (outcome : Outcome) (session : Session) : Session :=
  match outcome with
  | .error (.failure failure) =>
      if plan.ends outcome then session
      else
        { session with records := session.records ++
          [{ level := .error, message := failureText (failure.inConfig config.name) }] }
  | _ => session

theorem recorded_eq (plan : Plan) (config : Configuration) (outcome : Outcome) (session : Session) :
    ∃ records, plan.recorded config outcome session = { session with records } := by
  unfold recorded
  split
  · split
    · exact ⟨session.records, rfl⟩
    · exact ⟨_, rfl⟩
  · exact ⟨session.records, rfl⟩

-- Configurations are generated in a row, each in the session that the one before it left.
inductive Attempts (plan : Plan) (commands : List Command) (moment : Moment) :
    List (Configuration × Outcome) → Session → Session → Prop
  | none (session : Session) : Attempts plan commands moment [] session session
  | next (config : Configuration) (outcome : Outcome) (rest : List (Configuration × Outcome))
      (before middle last : Session) (generated : plan.generate commands moment config before = (outcome, middle))
      (others : Attempts plan commands moment rest (plan.recorded config outcome middle) last) :
      Attempts plan commands moment ((config, outcome) :: rest) before last

def products (attempts : List (Configuration × Outcome)) : List Product :=
  attempts.filterMap fun attempt => attempt.2.toOption

def failures (attempts : List (Configuration × Outcome)) : List (String × Failure) :=
  attempts.filterMap fun attempt => collected? attempt.1 attempt.2

-- Every configuration was attempted and none ended the run.
structure Completes (plan : Plan) (configs : List Configuration) (attempts : List (Configuration × Outcome)) :
    Prop where
  every : attempts.map (·.1) = configs
  going : ∀ attempt ∈ attempts, plan.ends attempt.2 = false

-- A configuration ended the run, and those after it were not attempted.
structure StopsAt (plan : Plan) (configs : List Configuration) (attempts : List (Configuration × Outcome))
    (config : Configuration) (outcome : Outcome) : Prop where
  last : ∃ earlier, attempts = earlier ++ [(config, outcome)] ∧ ∀ attempt ∈ earlier, plan.ends attempt.2 = false
  started : attempts.map (·.1) <+: configs
  ended : plan.ends outcome = true

def Tally.add (tally : Tally) (config : Configuration) (outcome : Outcome) : Tally :=
  { products := tally.products ++ outcome.toOption.toList
    failures := tally.failures ++ (collected? config outcome).toList }

theorem products_cons (config : Configuration) (outcome : Outcome) (rest : List (Configuration × Outcome)) :
    products ((config, outcome) :: rest) = outcome.toOption.toList ++ products rest := by
  cases outcome <;> rfl

theorem failures_cons (config : Configuration) (outcome : Outcome) (rest : List (Configuration × Outcome)) :
    failures ((config, outcome) :: rest) = (collected? config outcome).toList ++ failures rest := by
  rw [failures, List.filterMap_cons]
  cases collected? config outcome <;> rfl

theorem render_entry_run (generator : Generator) (session : Session) (result : Except Template.Trouble String)
    (stage : Template.Stage)
    (rendered : generator.render Engine.entryTemplate .null { session } = (result, stage)) :
    renderEntry generator session =
      (match result with
        | .ok _ => .ok stage.files
        | .error trouble => .error trouble.error, stage.session) := by
  have run : (generator.render Engine.entryTemplate .null).run { session } = (result, stage) := rendered
  simp only [renderEntry, run]
  cases result <;> rfl

-- What renders the templates of a configuration.
def generatorOf (plan : Plan) (config : Configuration) (forest : Forest) (moment : Moment) : Generator where
  engine := plan.engine
  scene := { configuration := config, forest, target := config.targetBelow plan.output, moment }

section

variable {plan : Plan} {commands : List Command} {moment : Moment}

theorem generate_of_forest (config : Configuration) (forest : Forest)
    (built : Forest.ofCommands (Command.filter config.packages commands) = .ok forest) :
    plan.generate commands moment config = (do
      Run.say .info (startText config)
      let _ ← plan.engine.template config.scheme Engine.entryTemplate
      makeTarget config (config.targetBelow plan.output)
      let files ← renderEntry (plan.generatorOf config forest moment)
      Run.say .info (finishText config)
      return { name := config.name, target := config.targetBelow plan.output, files }) := by
  rw [generate, built]
  rfl

theorem generate_of_fault (config : Configuration) (fault : NamespaceFault)
    (refused : Forest.ofCommands (Command.filter config.packages commands) = .error fault) :
    plan.generate commands moment config = Run.fail (.naming fault) := by
  rw [generate, refused]

-- Going on with one more configuration, whatever generates it.
def advanceWith (plan : Plan) (generate : Configuration → Run Product) (tally : Tally) (config : Configuration) :
    Run Tally := do
  match ← Run.outcome (generate config) with
  | .ok product => return { tally with products := tally.products ++ [product] }
  | .error (.mishap mishap) => throw (.mishap mishap)
  | .error (.failure failure) => do
      let failure := failure.inConfig config.name
      if plan.failFast || !failure.isCollectable then throw (.failure failure)
      else
        Run.say .error (failureText failure)
        return { tally with failures := tally.failures ++ [(config.name, failure)] }

-- Configurations are generated in a row, whatever generates them.
inductive InRow (plan : Plan) (generate : Configuration → Run Product) :
    List (Configuration × Outcome) → Session → Session → Prop
  | none (session : Session) : InRow plan generate [] session session
  | next (config : Configuration) (outcome : Outcome) (rest : List (Configuration × Outcome))
      (before middle last : Session) (generated : generate config before = (outcome, middle))
      (others : InRow plan generate rest (plan.recorded config outcome middle) last) :
      InRow plan generate ((config, outcome) :: rest) before last

theorem attempts_of_row (attempts : List (Configuration × Outcome)) (first last : Session)
    (row : InRow plan (plan.generate commands moment) attempts first last) :
    Attempts plan commands moment attempts first last := by
  induction row with
  | none session => exact .none session
  | next config outcome rest before middle last generated others ih =>
      exact .next config outcome rest before middle last generated ih

variable {generate : Configuration → Run Product}

theorem advance_run (tally : Tally) (config : Configuration) (session middle : Session) (outcome : Outcome)
    (generated : generate config session = (outcome, middle)) :
    (plan.ends outcome = false ∧
        plan.advanceWith generate tally config session =
          (.ok (tally.add config outcome), plan.recorded config outcome middle)) ∨
      ∃ error, plan.ends outcome = true ∧ raised? config outcome = some error ∧
        plan.advanceWith generate tally config session = (.error error, plan.recorded config outcome middle) := by
  have run : Run.outcome (generate config) session = (.ok outcome, middle) := by
    rw [Run.outcome, generated]
  rw [advanceWith, bind_ok run]
  cases outcome with
  | ok product =>
      refine .inl ⟨rfl, ?_⟩
      simp [Tally.add, recorded, collected?, Except.toOption]
  | error error =>
      cases error with
      | mishap mishap => exact .inr ⟨_, rfl, rfl, rfl⟩
      | failure failure =>
          have same : (failure.inConfig config.name).isCollectable = failure.isCollectable := by
            cases failure
            rfl
          dsimp only
          rw [same]
          by_cases past : (plan.failFast || !failure.isCollectable) = true
          · refine .inr ⟨_, past, rfl, ?_⟩
            rw [if_pos past]
            simp [recorded, ends, past]
          · refine .inl ⟨Bool.eq_false_iff.mpr past, ?_⟩
            rw [if_neg past]
            simp only [recorded, ends, past, Tally.add, collected?, Except.toOption, Option.toList, List.append_nil]
            rfl

-- By induction on the configurations: either none of them ends the run, and what they come to is gathered in their
-- order, or the first that ends it gives its error to the run.
theorem fold_row (configs : List Configuration) (tally : Tally) (session : Session) :
    ∃ attempts last, InRow plan generate attempts session last ∧
      ((Completes plan configs attempts ∧
          configs.foldlM (plan.advanceWith generate) tally session =
            (.ok { products := tally.products ++ products attempts
                   failures := tally.failures ++ failures attempts }, last)) ∨
        ∃ config outcome error, StopsAt plan configs attempts config outcome ∧ raised? config outcome = some error ∧
          configs.foldlM (plan.advanceWith generate) tally session = (.error error, last)) := by
  induction configs generalizing tally session with
  | nil =>
      refine ⟨[], session, .none session, .inl ⟨⟨rfl, by simp⟩, ?_⟩⟩
      simp [products, failures]
  | cons config rest ih =>
      cases generated : generate config session with
      | mk outcome middle =>
          rw [List.foldlM_cons]
          rcases advance_run tally config session middle outcome generated with ⟨on, step⟩ | ⟨error, past, reason, step⟩
          · obtain ⟨attempts, last, others, ended⟩ :=
              ih (tally.add config outcome) (plan.recorded config outcome middle)
            rw [bind_ok step]
            refine ⟨(config, outcome) :: attempts, last, .next config outcome attempts session middle last generated
              others, ?_⟩
            rcases ended with ⟨⟨every, going⟩, result⟩ |
              ⟨stopper, final, error, ⟨⟨earlier, split, going⟩, started, past⟩, reason, result⟩
            · refine .inl ⟨⟨by rw [List.map_cons, every], List.forall_mem_cons.mpr ⟨on, going⟩⟩, ?_⟩
              rw [result, products_cons, failures_cons, Tally.add, List.append_assoc, List.append_assoc]
            · refine .inr ⟨stopper, final, error, ⟨⟨(config, outcome) :: earlier, ?_, ?_⟩, ?_, past⟩, reason, result⟩
              · rw [split, List.cons_append]
              · exact List.forall_mem_cons.mpr ⟨on, going⟩
              · exact (List.prefix_cons_inj config).mpr started
          · rw [bind_error step]
            refine ⟨[(config, outcome)], plan.recorded config outcome middle, .next config outcome [] session middle _
              generated (.none _), .inr ⟨config, outcome, error, ⟨⟨[], rfl, by simp⟩, ?_, past⟩, reason, rfl⟩⟩
            exact List.prefix_iff_eq_append.mpr rfl

-- What a run comes to once its commands are known and its clock is readable.
def verdict (attempts : List (Configuration × Outcome)) : Except Error (List Product) :=
  if (failures attempts).isEmpty then .ok (products attempts)
  else .error (.ofFault (.generation (failures attempts)))

-- A run in which configurations are generated in another way than its own.
def runWith (plan : Plan) (generate : List Command → Moment → Configuration → Run Product) : Run (List Product) := do
  let commands ← plan.discover
  let moment ← plan.moment
  let tally ← plan.configurations.foldlM (plan.advanceWith (generate commands moment)) {}
  if tally.failures.isEmpty then return tally.products
  else Run.fail (.generation tally.failures)

theorem run_eq_run_with : plan.run = plan.runWith plan.generate := rfl

theorem run_with_row (generate : List Command → Moment → Configuration → Run Product) (session discovered : Session)
    (found : plan.discover session = (.ok commands, discovered))
    (read : Moment.ofPinned plan.clock = .ok moment) :
    ∃ attempts last, InRow plan (generate commands moment) attempts discovered last ∧
      ((Completes plan plan.configurations attempts ∧ plan.runWith generate session = (verdict attempts, last)) ∨
        ∃ config outcome error, StopsAt plan plan.configurations attempts config outcome ∧
          raised? config outcome = some error ∧ plan.runWith generate session = (.error error, last)) := by
  have timed : plan.moment discovered = (.ok moment, discovered) := by
    rw [Plan.moment, read]
    rfl
  rw [runWith, bind_ok found, bind_ok timed]
  obtain ⟨attempts, last, made, ended⟩ :=
    @fold_row plan (generate commands moment) plan.configurations {} discovered
  refine ⟨attempts, last, made, ?_⟩
  rcases ended with ⟨complete, result⟩ | ⟨config, outcome, error, stops, reason, result⟩
  · refine .inl ⟨complete, ?_⟩
    rw [bind_ok result, verdict]
    simp only [List.nil_append]
    split <;> rfl
  · exact .inr ⟨config, outcome, error, stops, reason, bind_error result _⟩

theorem run_attempts (session discovered : Session)
    (found : plan.discover session = (.ok commands, discovered))
    (read : Moment.ofPinned plan.clock = .ok moment) :
    ∃ attempts last, Attempts plan commands moment attempts discovered last ∧
      ((Completes plan plan.configurations attempts ∧ plan.run session = (verdict attempts, last)) ∨
        ∃ config outcome error, StopsAt plan plan.configurations attempts config outcome ∧
          raised? config outcome = some error ∧ plan.run session = (.error error, last)) := by
  obtain ⟨attempts, last, row, ended⟩ := run_with_row plan.generate session discovered found read
  exact ⟨attempts, last, attempts_of_row attempts discovered last row, ended⟩

-- By induction on a row that none of its configurations ends: going on with them gathers what they come to.
theorem fold_of_attempts (attempts : List (Configuration × Outcome)) (before last : Session)
    (row : Attempts plan commands moment attempts before last)
    (going : ∀ attempt ∈ attempts, plan.ends attempt.2 = false) (tally : Tally) :
    (attempts.map (·.1)).foldlM (plan.advanceWith (plan.generate commands moment)) tally before =
      (.ok { products := tally.products ++ products attempts
             failures := tally.failures ++ failures attempts }, last) := by
  induction row generalizing tally with
  | none session => simp [products, failures]
  | next config outcome rest before middle last generated others ih =>
      obtain ⟨on, later⟩ := List.forall_mem_cons.mp going
      rcases advance_run tally config before middle outcome generated with ⟨-, step⟩ | ⟨_, past, -, -⟩
      · rw [List.map_cons, List.foldlM_cons, bind_ok step, ih later, products_cons, failures_cons, Tally.add,
          List.append_assoc, List.append_assoc]
      · rw [on] at past
        cases past

theorem run_of_attempts (session discovered last : Session)
    (found : plan.discover session = (.ok commands, discovered)) (read : Moment.ofPinned plan.clock = .ok moment)
    (attempts : List (Configuration × Outcome)) (row : Attempts plan commands moment attempts discovered last)
    (complete : Completes plan plan.configurations attempts) : plan.run session = (verdict attempts, last) := by
  have timed : plan.moment discovered = (.ok moment, discovered) := by
    rw [Plan.moment, read]
    rfl
  have gathered := fold_of_attempts attempts discovered last row complete.going {}
  rw [complete.every] at gathered
  rw [run_eq_run_with, runWith, bind_ok found, bind_ok timed, bind_ok gathered, verdict]
  simp only [List.nil_append]
  split <;> rfl

-- A run that no configuration ended and that succeeds had a product of each.
theorem succeeded_of_verdict (attempts : List (Configuration × Outcome)) (made : List Product)
    (going : ∀ attempt ∈ attempts, plan.ends attempt.2 = false) (result : verdict attempts = .ok made)
    (attempt : Configuration × Outcome) (member : attempt ∈ attempts) : ∃ product, attempt.2 = .ok product := by
  have none : failures attempts = [] := by
    unfold verdict at result
    split at result
    · rename_i empty
      exact List.isEmpty_iff.mp empty
    · cases result
  have on := going attempt member
  have uncollected := List.filterMap_eq_nil_iff.mp none attempt member
  obtain ⟨config, outcome⟩ := attempt
  cases outcome with
  | ok product => exact ⟨product, rfl⟩
  | error error =>
      cases error with
      | mishap mishap => cases on
      | failure failure => cases uncollected

end

end StubForge.Plan
