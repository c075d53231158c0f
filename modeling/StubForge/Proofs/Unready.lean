import StubForge.Proofs.Naming

set_option autoImplicit false

/-!
Failures before anything is rendered leave no trace. A run whose commands cannot be discovered, or whose clock cannot
be read, leaves the disk as it was, and so does each configuration whose commands make no forest or whose entry
template cannot be had, wherever it stands in a run.
-/

namespace StubForge.Plan

-- A configuration cannot be begun: its commands make no forest, or its entry template is not there, or is not one.
inductive Unready (plan : Plan) (commands : List Command) (config : Configuration) (session : Session) : Error → Prop
  | tree (fault : NamespaceFault)
      (refused : Forest.ofCommands (Command.filter config.packages commands) = .error fault) :
      Unready plan commands config session (.ofFault (.naming fault))
  | entry (forest : Forest) (fault : Engine.Fault) (error : Error)
      (built : Forest.ofCommands (Command.filter config.packages commands) = .ok forest)
      (failed : plan.engine.read session.world.disk session.directory
        (Engine.templatePath config.scheme Engine.entryTemplate) = .error fault)
      (known : Template.sought config.scheme Engine.entryTemplate (.error fault) = .error error) :
      Unready plan commands config session error

-- One attempt of a row, between the session that the earlier ones leave and the one that the later ones start in.
structure Turn (plan : Plan) (commands : List Command) (moment : Moment) (first last : Session)
    (earlier later : List (Configuration × Outcome)) (config : Configuration) (outcome : Outcome)
    (before after : Session) : Prop where
  begun : Attempts plan commands moment earlier first before
  generated : ∃ middle, plan.generate commands moment config before = (outcome, middle) ∧
    after = plan.recorded config outcome middle
  continued : Attempts plan commands moment later after last

section

variable {plan : Plan} {commands : List Command} {moment : Moment}

theorem turn_of_attempt (earlier later : List (Configuration × Outcome)) (config : Configuration) (outcome : Outcome)
    (first last : Session)
    (made : Attempts plan commands moment (earlier ++ (config, outcome) :: later) first last) :
    ∃ before after, Turn plan commands moment first last earlier later config outcome before after := by
  induction earlier generalizing first with
  | nil =>
      cases made with
      | next _ _ _ _ middle _ generated others => exact ⟨first, _, .none first, ⟨middle, generated, rfl⟩, others⟩
  | cons attempt rest ih =>
      cases made with
      | next own result _ _ middle _ generated others =>
          obtain ⟨before, after, done, finished, past⟩ := ih _ others
          exact ⟨before, after, .next own result rest first middle before generated done, finished, past⟩

theorem disk_of_recorded (config : Configuration) (outcome : Outcome) (session : Session) :
    (plan.recorded config outcome session).world.disk = session.world.disk := by
  obtain ⟨records, same⟩ := recorded_eq plan config outcome session
  rw [same]

-- A configuration can be begun or not, and if not, its error is told by what is missing.
theorem ready_or_unready (config : Configuration) (session : Session) :
    (∃ forest body, Forest.ofCommands (Command.filter config.packages commands) = .ok forest ∧
        plan.engine.read session.world.disk session.directory
          (Engine.templatePath config.scheme Engine.entryTemplate) = .ok body) ∨
      ∃ error, Unready plan commands config session error := by
  cases built : Forest.ofCommands (Command.filter config.packages commands) with
  | error fault => exact .inr ⟨_, .tree fault built⟩
  | ok forest =>
      cases read : plan.engine.read session.world.disk session.directory
          (Engine.templatePath config.scheme Engine.entryTemplate) with
      | ok body => exact .inl ⟨forest, body, rfl, rfl⟩
      | error fault => cases fault <;> exact .inr ⟨_, .entry forest _ _ built read rfl⟩

-- The entry template is looked for before the target is made, so nothing was done when it is not found.
theorem generate_unready (config : Configuration) (session : Session) (error : Error)
    (unready : Unready plan commands config session error) :
    ∃ records, plan.generate commands moment config session = (.error error, { session with records }) := by
  cases unready with
  | tree fault refused =>
      rw [generate_of_fault config fault refused]
      exact ⟨session.records, rfl⟩
  | entry forest fault error built failed known =>
      rw [generate_of_forest config forest built, bind_ok (Run.say_run session .info (startText config))]
      refine ⟨session.records ++ [{ level := .info, message := startText config }], ?_⟩
      apply bind_error
      rw [Template.template_run, failed, known]

theorem unready_of_naming (config : Configuration) (fault : NamespaceFault) (before after : Session)
    (generated : plan.generate commands moment config before = (.error (.ofFault (.naming fault)), after)) :
    Unready plan commands config before (.ofFault (.naming fault)) := by
  cases built : Forest.ofCommands (Command.filter config.packages commands) with
  | error found =>
      rw [generate_of_fault config found built] at generated
      cases generated
      exact .tree _ built
  | ok forest =>
      have kept := ((generate_soft_of_forest plan commands moment config forest built : Softly before.directory _ _) before rfl).2
      rw [generated] at kept
      cases kept _ rfl

end

-- A run that cannot discover its commands, or read its clock, ends with that error and leaves the disk as it was. Any
-- other run is a row of turns, and in every row a turn whose configuration is unready comes to its error and leaves the
-- disk as it was, as does one that fails over a name.
theorem failures_leave_no_trace (plan : Plan) (session : Session) :
    (∀ error, (plan.discover session).1 = .error error →
      (plan.run session).1 = .error error ∧ (plan.run session).2.world.disk = session.world.disk) ∧
    (∀ commands discovered, plan.discover session = (.ok commands, discovered) →
      discovered.world.disk = session.world.disk ∧
      (∀ fault, Moment.ofPinned plan.clock = .error fault →
        (plan.run session).1 = .error (clockError fault) ∧ (plan.run session).2.world.disk = session.world.disk) ∧
      ∀ moment, Moment.ofPinned plan.clock = .ok moment →
        ∃ attempts last, Attempts plan commands moment attempts discovered last ∧ (plan.run session).2 = last ∧
          attempts.map (·.1) <+: plan.configurations) ∧
    ∀ commands moment earlier config outcome later first last,
      Attempts plan commands moment (earlier ++ (config, outcome) :: later) first last →
        ∃ before after, Turn plan commands moment first last earlier later config outcome before after ∧
          (∀ error, Unready plan commands config before error →
            outcome = .error error ∧ after.world.disk = before.world.disk) ∧
          ∀ fault, outcome = .error (.ofFault (.naming fault)) → after.world.disk = before.world.disk := by
  have still : (plan.discover session).2.world.disk = session.world.disk :=
    (reads_only_plan_discover session.world.disk session.directory session ⟨rfl, rfl⟩).1.1
  refine ⟨?_, ?_, ?_⟩
  · intro error failed
    rw [run, bind_error (pair_of_fst failed)]
    exact ⟨rfl, still⟩
  · intro commands discovered found
    rw [found] at still
    refine ⟨still, fun fault unread => ?_, fun moment read => ?_⟩
    · have untimed : plan.moment discovered = (.error (clockError fault), discovered) := by
        rw [Plan.moment, unread]
        rfl
      rw [run, bind_ok found, bind_error untimed]
      exact ⟨rfl, still⟩
    · obtain ⟨attempts, last, made, ⟨complete, result⟩ | ⟨config, outcome, error, stops, reason, result⟩⟩ :=
        run_attempts session discovered found read
      · exact ⟨attempts, last, made, by rw [result], complete.every ▸ List.prefix_rfl⟩
      · exact ⟨attempts, last, made, by rw [result], stops.started⟩
  · intro commands moment earlier config outcome later first last made
    obtain ⟨before, after, turn⟩ := turn_of_attempt earlier later config outcome first last made
    obtain ⟨middle, generated, same⟩ := turn.generated
    have unchanged (error : Error) (unready : Unready plan commands config before error) :
        outcome = .error error ∧ after.world.disk = before.world.disk := by
      obtain ⟨records, ended⟩ := @generate_unready plan commands moment config before error unready
      rw [generated] at ended
      cases ended
      exact ⟨rfl, by rw [same, disk_of_recorded]⟩
    refine ⟨before, after, turn, unchanged, fun fault failed => ?_⟩
    subst failed
    exact (unchanged _ (unready_of_naming config fault before middle generated)).2

def firstStub : Configuration := { name := "first", scheme := "json", packages := ["shop"] }

def unknownSecond : Configuration := { name := "second", scheme := "absent", packages := ["shop"] }

-- Three configurations in a run that goes on after failures, of which the second has a scheme without templates.
def threeStep : Plan where
  configurations := [firstStub, unknownSecond, { firstStub with name := "third" }]
  classpath := [Path.ofString "lib"]
  failFast := false
  clock := "0"

def firstFile : Place := ["build", "ipcstub", "first", "commands.json"]

theorem unknown_scheme_leaves_no_trace : ∃ one third last before after,
    Turn threeStep [] epoch emptyLibrary last [(firstStub, one)] [third] unknownSecond
      (.error (.ofFault (.template .notFound "absent" "main"))) before after ∧
    (before.world.disk.at? firstFile).isSome = true ∧ after.world.disk = before.world.disk := by
  obtain ⟨one, two, third, last, made⟩ : ∃ one two third last,
      Attempts threeStep [] epoch ([(firstStub, one)] ++ (unknownSecond, two) :: [third]) emptyLibrary last :=
    ⟨_, _, ({ firstStub with name := "third" }, _), _, .next firstStub _ _ _ _ _ Prod.mk.eta.symm
      (.next unknownSecond _ _ _ _ _ Prod.mk.eta.symm (.next _ _ _ _ _ _ Prod.mk.eta.symm (.none _)))⟩
  obtain ⟨before, after, turn, unchanged, -⟩ :=
    (failures_leave_no_trace threeStep emptyLibrary).2.2 [] epoch _ unknownSecond two _ _ _ made
  obtain ⟨rfl, same⟩ := unchanged _ (.entry {} .missing _ rfl rfl rfl)
  refine ⟨one, third, last, before, after, turn, ?_, same⟩
  cases turn.begun with
  | next _ _ _ _ middle _ generated others =>
      cases others
      obtain rfl := congrArg Prod.snd generated
      rw [disk_of_recorded]
      decide +kernel

end StubForge.Plan
