import Mathlib.Data.List.Nodup
import StubForge.Proofs.Attempts

set_option autoImplicit false

/-!
The policy of a run: how far it goes, and what it gives in the end, by the outcomes of its configurations alone.
What generates a configuration is left open, so that every assignment of outcomes is covered.
-/

namespace StubForge

/-! ### Names and messages -/

namespace Configuration

theorem names_of_check_from (configs : List Configuration) (seen : List String)
    (checked : checkFrom seen configs = .ok ()) (distinct : seen.Nodup) : (seen ++ configs.map (·.name)).Nodup := by
  induction configs generalizing seen with
  | nil => simpa using distinct
  | cons config rest ih =>
      rw [checkFrom] at checked
      split at checked
      · cases checked
      · rename_i sound
        have fresh : config.name ∉ seen := by
          intro inside
          rw [error?] at sound
          split at sound
          · cases sound
          · rw [if_pos (by simpa using inside)] at sound
            cases sound
        have longer : (seen ++ [config.name]).Nodup := by
          refine List.Nodup.append distinct (List.nodup_singleton _) ?_
          intro name inside own
          exact fresh (List.mem_singleton.mp own ▸ inside)
        simpa using ih (seen ++ [config.name]) checked longer

theorem names_of_check (configs : List Configuration) (checked : check configs = .ok ()) :
    (configs.map (·.name)).Nodup := by
  rw [check] at checked
  split at checked
  · cases checked
  · exact names_of_check_from configs [] checked List.nodup_nil

end Configuration

-- A failure that belongs to a configuration says so in front of its own message.
theorem Failure.message_in_config (failure : Failure) (name : String) :
    (failure.inConfig name).message = "configuration '" ++ name ++ "': " ++ failure.fault.message := rfl

namespace Plan

section

variable {plan : Plan} {generate : Configuration → Run Product}

theorem outcome_of_row (attempts : List (Configuration × Outcome)) (first last : Session)
    (row : InRow plan generate attempts first last) :
    ∀ attempt ∈ attempts, ∃ before, attempt.2 = (generate attempt.1 before).1 := by
  induction row with
  | none session => simp
  | next config outcome rest before middle last generated others ih =>
      refine List.forall_mem_cons.mpr ⟨⟨before, ?_⟩, ih⟩
      rw [generated]

theorem check_of_discover (session discovered : Session) (commands : List Command)
    (found : plan.discover session = (.ok commands, discovered)) :
    Configuration.check plan.configurations = .ok () := by
  rw [discover] at found
  cases checked : Configuration.check plan.configurations with
  | ok done => rfl
  | error error =>
      rw [checked] at found
      cases found

theorem failures_named (attempts : List (Configuration × Outcome)) :
    ((failures attempts).map (·.1)).Sublist (attempts.map (·.1.name)) := by
  induction attempts with
  | nil => exact List.Sublist.refl _
  | cons attempt rest ih =>
      obtain ⟨config, outcome⟩ := attempt
      rw [failures_cons, List.map_append, List.map_cons]
      cases outcome with
      | ok product => exact ih.cons _
      | error error =>
          cases error with
          | failure failure => exact ih.cons_cons _
          | mishap mishap => exact ih.cons _

-- Each failure is told once, with the name of its configuration in front.
theorem summaries_of_failures (attempts : List (Configuration × Outcome)) :
    Failure.summaries (failures attempts) = (failures attempts).map fun entry =>
      "configuration '" ++ entry.1 ++ "': " ++ entry.2.fault.message := by
  induction attempts with
  | nil => rfl
  | cons attempt rest ih =>
      obtain ⟨config, outcome⟩ := attempt
      rw [failures_cons]
      cases outcome with
      | ok product => exact ih
      | error error =>
          cases error with
          | failure failure =>
              simp only [collected?, Option.toList, List.singleton_append, List.map_cons, Failure.summaries, ih]
              rw [if_pos (by rfl), Failure.message_in_config]
              rfl
          | mishap mishap => exact ih

def Succeeded (attempt : Configuration × Outcome) : Prop := ∃ product, attempt.2 = .ok product

-- The attempt succeeded, or failed in a way that a run may collect.
def Bearable (attempt : Configuration × Outcome) : Prop :=
  ∀ error, attempt.2 = .error error → ∃ failure, error = .failure failure ∧ failure.isCollectable = true

theorem products_of_succeeded (attempts : List (Configuration × Outcome))
    (clean : ∀ attempt ∈ attempts, Succeeded attempt) :
    attempts.map (·.2) = (products attempts).map .ok ∧ failures attempts = [] := by
  induction attempts with
  | nil => exact ⟨rfl, rfl⟩
  | cons attempt rest ih =>
      obtain ⟨⟨product, own⟩, others⟩ := List.forall_mem_cons.mp clean
      obtain ⟨config, outcome⟩ := attempt
      cases own
      obtain ⟨made, none⟩ := ih others
      rw [products_cons, failures_cons]
      exact ⟨by simp [made, Except.toOption], by simp [none, collected?]⟩

theorem succeeded_of_no_failures (attempts : List (Configuration × Outcome))
    (bearable : ∀ attempt ∈ attempts, Bearable attempt) (clean : failures attempts = []) :
    ∀ attempt ∈ attempts, Succeeded attempt := by
  induction attempts with
  | nil => simp
  | cons attempt rest ih =>
      obtain ⟨own, others⟩ := List.forall_mem_cons.mp bearable
      obtain ⟨config, outcome⟩ := attempt
      rw [failures_cons, List.append_eq_nil_iff] at clean
      refine List.forall_mem_cons.mpr ⟨?_, ih others clean.2⟩
      cases outcome with
      | ok product => exact ⟨product, rfl⟩
      | error error =>
          obtain ⟨failure, rfl, -⟩ := own error rfl
          simp [collected?] at clean

theorem bearable_of_going (keeps : plan.failFast = false) (attempt : Configuration × Outcome)
    (going : plan.ends attempt.2 = false) : Bearable attempt := by
  intro error failed
  rw [failed] at going
  cases error with
  | failure failure => exact ⟨failure, rfl, by simpa [ends, keeps] using going⟩
  | mishap mishap => simp [ends] at going

theorem succeeded_of_going (stops : plan.failFast = true) (attempt : Configuration × Outcome)
    (going : plan.ends attempt.2 = false) : Succeeded attempt := by
  obtain ⟨config, outcome⟩ := attempt
  cases outcome with
  | ok product => exact ⟨product, rfl⟩
  | error error => cases error <;> simp [ends, stops] at going

-- The run was ended by the failure of the last configuration that it generated.
structure EndedBy (configs : List Configuration) (attempts : List (Configuration × Outcome))
    (config : Configuration) (failure : Failure) (before : Configuration × Outcome → Prop) : Prop where
  last : ∃ earlier, attempts = earlier ++ [(config, .error (.failure failure))] ∧ ∀ attempt ∈ earlier, before attempt
  started : attempts.map (·.1) <+: configs

theorem ended_of_stops (configs : List Configuration) (attempts : List (Configuration × Outcome))
    (config : Configuration) (outcome : Outcome) (error : Error) (before : Configuration × Outcome → Prop)
    (stops : StopsAt plan configs attempts config outcome) (reason : raised? config outcome = some error)
    (own : ∀ mishap, outcome ≠ .error (.mishap mishap))
    (going : ∀ attempt, plan.ends attempt.2 = false → before attempt) :
    ∃ failure, outcome = .error (.failure failure) ∧ EndedBy configs attempts config failure before ∧
      error = .failure (failure.inConfig config.name) := by
  cases outcome with
  | ok product => cases reason
  | error raised =>
      cases raised with
      | mishap mishap => exact absurd rfl (own mishap)
      | failure failure =>
          obtain ⟨earlier, split, on⟩ := stops.last
          cases reason
          exact ⟨failure, rfl, ⟨⟨earlier, split, fun attempt member => going attempt (on attempt member)⟩,
            stops.started⟩, rfl⟩

end

-- A run generates its configurations in their order. One that fails fast ends with the first that fails; one that goes
-- on ends with the first whose failure it may not collect. Either raises that failure, told of its configuration. Runs
-- that are not ended generate every configuration, and give their products in order, or all failures in order; the
-- message of these counts them and tells each once, with its configuration in front.
theorem run_follows_policy (plan : Plan) (generate : List Command → Moment → Configuration → Run Product)
    (session discovered : Session) (commands : List Command) (moment : Moment)
    (found : plan.discover session = (.ok commands, discovered)) (read : Moment.ofPinned plan.clock = .ok moment)
    (own : ∀ config ∈ plan.configurations, ∀ before mishap,
      (generate commands moment config before).1 ≠ .error (.mishap mishap)) :
    plan.run = plan.runWith plan.generate ∧
    ∃ attempts last, InRow plan (generate commands moment) attempts discovered last ∧
      (plan.failFast = true →
        (∃ config failure, EndedBy plan.configurations attempts config failure Succeeded ∧
          plan.runWith generate session = (.error (.failure (failure.inConfig config.name)), last)) ∨
        attempts.map (·.1) = plan.configurations ∧ ∃ made, attempts.map (·.2) = made.map .ok ∧
          plan.runWith generate session = (.ok made, last)) ∧
      (plan.failFast = false →
        (∃ config failure, EndedBy plan.configurations attempts config failure Bearable ∧
          failure.isCollectable = false ∧
          plan.runWith generate session = (.error (.failure (failure.inConfig config.name)), last)) ∨
        attempts.map (·.1) = plan.configurations ∧ (∀ attempt ∈ attempts, Bearable attempt) ∧
          ((∃ made, attempts.map (·.2) = made.map .ok ∧ plan.runWith generate session = (.ok made, last)) ∨
            failures attempts ≠ [] ∧
              plan.runWith generate session = (.error (.ofFault (.generation (failures attempts))), last))) ∧
      (∀ (failure : Failure) (name : String), (failure.inConfig name).config = some name ∧
        (failure.inConfig name).message = "configuration '" ++ name ++ "': " ++ failure.fault.message) ∧
      ((failures attempts).map (·.1)).Nodup ∧
      (Error.ofFault (.generation (failures attempts))).message =
        Text.natText (failures attempts).length ++ " configuration(s) failed: " ++
          Text.join "; " ((failures attempts).map fun entry =>
            "configuration '" ++ entry.1 ++ "': " ++ entry.2.fault.message) := by
  obtain ⟨attempts, last, row, ended⟩ := run_with_row generate session discovered found read
  have outcomes := outcome_of_row attempts discovered last row
  have started : attempts.map (·.1) <+: plan.configurations := by
    rcases ended with ⟨complete, -⟩ | ⟨config, outcome, error, stops, -⟩
    · exact complete.every ▸ List.prefix_rfl
    · exact stops.started
  have foreign : ∀ config outcome, (config, outcome) ∈ attempts → ∀ mishap, outcome ≠ .error (.mishap mishap) := by
    intro config outcome member mishap
    obtain ⟨before, came⟩ := outcomes _ member
    rw [show outcome = _ from came]
    exact own config (started.subset (List.mem_map_of_mem member)) before mishap
  refine ⟨run_eq_run_with, attempts, last, row, ?_, ?_,
    fun failure name => ⟨rfl, failure.message_in_config name⟩, ?_, ?_⟩
  · intro stops
    rcases ended with ⟨complete, result⟩ | ⟨config, outcome, error, ending, reason, result⟩
    · have clean := fun attempt member => succeeded_of_going stops attempt (complete.going attempt member)
      obtain ⟨made, none⟩ := products_of_succeeded attempts clean
      exact .inr ⟨complete.every, products attempts, made, by simp [result, verdict, none]⟩
    · obtain ⟨earlier, split, -⟩ := ending.last
      obtain ⟨failure, rfl, by_failure, rfl⟩ := ended_of_stops plan.configurations attempts config outcome error
        Succeeded ending reason (foreign config outcome (by simp [split])) (succeeded_of_going stops)
      exact .inl ⟨config, failure, by_failure, result⟩
  · intro keeps
    rcases ended with ⟨complete, result⟩ | ⟨config, outcome, error, ending, reason, result⟩
    · have bearable := fun attempt member => bearable_of_going keeps attempt (complete.going attempt member)
      refine .inr ⟨complete.every, bearable, ?_⟩
      by_cases clean : failures attempts = []
      · obtain ⟨made, -⟩ := products_of_succeeded attempts (succeeded_of_no_failures attempts bearable clean)
        exact .inl ⟨products attempts, made, by simp [result, verdict, clean]⟩
      · exact .inr ⟨clean, by simp [result, verdict, clean]⟩
    · obtain ⟨earlier, split, -⟩ := ending.last
      obtain ⟨failure, rfl, by_failure, rfl⟩ := ended_of_stops plan.configurations attempts config outcome error
        Bearable ending reason (foreign config outcome (by simp [split])) (bearable_of_going keeps)
      exact .inl ⟨config, failure, by_failure, by simpa [ends, keeps] using ending.ended, result⟩
  · have distinct :=
      Configuration.names_of_check plan.configurations (check_of_discover session discovered commands found)
    have names : attempts.map (·.1.name) = (attempts.map (·.1)).map (·.name) := by simp
    refine List.Nodup.sublist (failures_named attempts) (names ▸ ?_)
    exact distinct.sublist (started.sublist.map _)
  · rw [← summaries_of_failures]
    rfl

def threePlan : Plan where
  configurations := ["a", "b", "c"].map fun name => { name, scheme := "php", packages := ["shop"] }
  classpath := [Path.ofString "lib"]
  failFast := false
  clock := "0"

def threeMoment : Moment := { date := ⟨1970, 1, 1⟩, hour := 0, minute := 0, second := 0, offset := some 0 }

def threeSession : Session where
  world := World.initial { entries := [(["lib"], .folder)] }

-- Everything can be written but the files of the second configuration.
def secondOutcome (config : Configuration) : Outcome :=
  if config.name = "b" then .error (.ofFault (.output (.other "disk full") (some "php")))
  else .ok { name := config.name, target := Path.here, files := [] }

def secondFails (_ : List Command) (_ : Moment) (config : Configuration) : Run Product :=
  fun session => (secondOutcome config, session)

theorem second_outcome_bearable (config : Configuration) : Bearable (config, secondOutcome config) := by
  intro error failed
  rw [secondOutcome] at failed
  split at failed
  · cases failed
    exact ⟨_, rfl, rfl⟩
  · cases failed

theorem second_fails_goes_on : ∃ failures last,
    threePlan.runWith secondFails threeSession = (.error (.ofFault (.generation failures)), last) ∧
    (Error.ofFault (.generation failures)).message =
      "1 configuration(s) failed: configuration 'b': disk full (scheme 'php')" := by
  have found : threePlan.discover threeSession = (.ok [], (threePlan.discover threeSession).2) :=
    Prod.ext (by rfl) rfl
  obtain ⟨-, attempts, last, row, -, goes, -, -, told⟩ :=
    run_follows_policy threePlan secondFails threeSession _ [] threeMoment found (by decide +kernel) (by
      intro config _ _ mishap same
      obtain ⟨failure, foreign, -⟩ := second_outcome_bearable config _ same
      cases foreign)
  have assigned : ∀ attempt ∈ attempts, attempt.2 = secondOutcome attempt.1 := by
    intro attempt member
    obtain ⟨before, came⟩ := outcome_of_row attempts _ last row attempt member
    exact came
  rcases goes rfl with ⟨config, failure, ended, fatal, -⟩ | ⟨every, -, ended⟩
  · obtain ⟨earlier, split, -⟩ := ended.last
    have came := assigned (config, .error (.failure failure)) (by simp [split])
    obtain ⟨own, same, soft⟩ := second_outcome_bearable config _ came.symm
    cases same
    rw [fatal] at soft
    cases soft
  · have known : attempts = threePlan.configurations.map fun config => (config, secondOutcome config) := by
      rw [← every, List.map_map]
      exact (List.map_id _).symm.trans (List.map_congr_left fun attempt member =>
        Prod.ext rfl (assigned attempt member))
    subst known
    rcases ended with ⟨made, clean, -⟩ | ⟨-, raised⟩
    · have failed : secondOutcome { name := "b", scheme := "php", packages := ["shop"] } ∈ made.map .ok := by
        rw [← clean]
        simp [threePlan]
      obtain ⟨product, -, same⟩ := List.mem_map.mp failed
      cases same
    · refine ⟨_, last, raised, told.trans (by decide)⟩

end Plan

end StubForge
