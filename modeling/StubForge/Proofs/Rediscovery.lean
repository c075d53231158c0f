import StubForge.Proofs.ExecutedClasses
import StubForge.Proofs.LoadedModules

set_option autoImplicit false

/-!
Discovering twice in one process. The modules of the first discovery stay loaded, so the second one judges the same
classes, in a later world: it finds the same commands unless running modules has changed what a name or a class stands
for.
-/

namespace StubForge

/-! ### What a loader was asked -/

-- Asking for a module, in terms of what was asked before and of the world.
inductive Loader.Asked (known : List (String × Bool)) (module : String) (world : World) :
    Bool → List (String × Bool) → World → Prop where
  | again (found : Bool) (held : (known.find? fun entry => entry.1 == module).map (·.2) = some found) :
      Asked known module world found known world
  | found (unknown : known.find? (fun entry => entry.1 == module) = none) (after : World)
      (done : Import.load Import.readSource module world = (.ok (), after)) :
      Asked known module world true (known ++ [(module, true)]) after
  | missing (unknown : known.find? (fun entry => entry.1 == module) = none) (after : World)
      (failed : Import.isMissing (Import.load Import.readSource module world).1 = true)
      (left : (Import.load Import.readSource module world).2 = after) :
      Asked known module world false (known ++ [(module, false)]) after

namespace Loader

theorem asked_of_run (loader next : Loader) (module : String) (now after : Session) (found : Bool)
    (done : loader.loadModule module now = (.ok (found, next), after)) :
    Asked loader.known module now.world found next.known after.world := by
  rw [loadModule] at done
  cases held : loader.known.find? fun entry => entry.1 == module with
  | some entry =>
      rw [held] at done
      cases done
      exact .again _ (by rw [held]; rfl)
  | none =>
      rw [held] at done
      simp only [importModule, Run.inWorld, bind_run] at done
      cases loaded : Import.load Import.readSource module now.world with
      | mk result left =>
          rw [loaded] at done
          cases result with
          | ok value =>
              cases done
              exact .found held left loaded
          | error mishap =>
              dsimp only at done
              split at done
              · rename_i kind
                cases done
                exact .missing held left (by rw [loaded]; exact kind) (by rw [loaded])
              · split at done
                · cases done
                · cases done

theorem run_of_asked (loader : Loader) (module : String) (now : Session) (found : Bool) (known : List (String × Bool))
    (world : World) (asked : Asked loader.known module now.world found known world) :
    ∃ records, loader.loadModule module now =
      (.ok (found, { loader with known := known }), { now with world := world, records := records }) := by
  rw [loadModule]
  generalize before : loader.known = previous at asked
  cases asked with
  | again found held =>
      obtain ⟨entry, first, rfl⟩ := Option.map_eq_some_iff.mp held
      rw [first]
      exact ⟨now.records, by subst before; rfl⟩
  | found unknown after done =>
      rw [unknown]
      exact ⟨now.records, by simp only [importModule, Run.inWorld, bind_run, done]; rfl⟩
  | missing unknown after failed left =>
      rw [unknown]
      cases loaded : Import.load Import.readSource module now.world with
      | mk result last =>
          rw [loaded] at failed left
          subst left
          cases result with
          | ok value => cases failed
          | error mishap =>
              simp only [Import.isMissing] at failed
              simp only [importModule, Run.inWorld, bind_run, loaded, failed, if_true]
              exact ⟨_, rfl⟩

theorem leads_of_asked {known later : List (String × Bool)} {module : String} {world after : World} {found : Bool}
    (asked : Asked known module world found later after) : Leads world after := by
  cases asked with
  | again found held => exact leads_refl world
  | found unknown after done =>
      have led := leads_of_load module world
      rwa [done] at led
  | missing unknown after failed left => exact left ▸ leads_of_load module world

-- The modules that could not be found, in the order in which they were asked for.
def missingOf (known : List (String × Bool)) : List String := (known.filter fun entry => !entry.2).map (·.1)

-- The modules that could be found are known to the world.
def Holds (known : List (String × Bool)) (world : World) : Prop := ∀ module, (module, true) ∈ known → world.Has module

theorem mem_of_asked {known later : List (String × Bool)} {module : String} {world after : World}
    (asked : Asked known module world true later after) : (module, true) ∈ later := by
  cases asked with
  | again found held =>
      obtain ⟨entry, first, positive⟩ := Option.map_eq_some_iff.mp held
      have own : entry.1 = module := by simpa using List.find?_some first
      rw [← own, ← positive]
      exact List.mem_of_find?_eq_some first
  | found unknown after done => exact List.mem_append_right _ (List.mem_singleton.mpr rfl)

theorem holds_of_asked {known later : List (String × Bool)} {module : String} {world after : World} {found : Bool}
    (asked : Asked known module world found later after) (holds : Holds known world) : Holds later after := by
  have leads := leads_of_asked asked
  cases asked with
  | again found held => exact holds
  | found unknown after done =>
      intro other member
      rcases List.mem_append.mp member with before | now
      · exact has_of_leads leads other (holds other before)
      · cases List.mem_singleton.mp now
        exact Import.has_of_load module world after done
  | missing unknown after failed left =>
      intro other member
      rcases List.mem_append.mp member with before | now
      · exact has_of_leads leads other (holds other before)
      · cases List.mem_singleton.mp now

end Loader

-- Other steps leave the same session, and give what a function makes of the value that the steps give.
def Run.Maps {α β : Type} (change : α → β) (steps : Run α) (other : Run β) : Prop :=
  ∀ session, other session =
    match steps session with
    | (.ok value, after) => (.ok (change value), after)
    | (.error error, after) => (.error error, after)

theorem Run.maps_throw {α β : Type} (change : α → β) (error : Error) :
    Maps change (throw error : Run α) (throw error : Run β) := fun _ => rfl

theorem Run.maps_bind {α β γ : Type} {change : α → β} {steps : Run γ} {next : γ → Run α} {other : γ → Run β}
    (rest : ∀ value, Maps change (next value) (other value)) : Maps change (steps >>= next) (steps >>= other) := by
  intro session
  rw [bind_run, bind_run]
  cases steps session with
  | mk result after =>
      cases result with
      | error error => rfl
      | ok value => exact rest value after

namespace Discovery

theorem maps_with_loader {α β : Type} (change : α → β) (loader : Loader) {block : Loader → Run α}
    {other : Loader → Run β} (inside : ∀ opened, Run.Maps change (block opened) (other opened)) :
    Run.Maps change (withLoader loader block) (withLoader loader other) := by
  refine Run.maps_bind fun opened session => ?_
  simp only [bind_run, Run.outcome, inside opened session]
  cases block opened session with
  | mk result after =>
      cases result with
      | error error =>
          dsimp only
          cases opened.exit after with
          | mk result last => cases result <;> rfl
      | ok value =>
          dsimp only
          cases opened.exit after with
          | mk result last => cases result <;> rfl

/-! ### Turns -/

-- What came of the turn of a type name: the command that it is, the modules asked for by then, and the world.
structure Turn where
  typeName : String
  command : Option Command
  known : List (String × Bool)
  world : World

section

variable (packages : List String) (capability : ClassId)

def turns : Loader → List String → Run (List Turn)
  | _, [] => return []
  | loader, typeName :: rest => do
      let (command, loader) ← classify packages capability loader typeName
      let world := (← get).world
      return { typeName, command, known := loader.known, world } :: (← turns loader rest)

-- A discovery that tells of all turns, and of the class that the capability stands for.
def trace (roots : List Path) (capability : Capability) : Run (ClassId × List Turn) := do
  let typeNames ← ClassPath.scan roots (some packages)
  let directory := (← get).directory
  match Loader.ofRoots directory roots with
  | .error error => throw error
  | .ok loader =>
      withLoader loader fun opened => do
        let id ← resolveCapability capability
        return (id, ← turns packages id opened typeNames)

def found (turns : List Turn) : List Command := (turns.filterMap (·.command)).foldl Command.addNew []

theorem maps_classify_all (names : List String) (loader : Loader) (before : List Command) :
    Run.Maps (fun turns : List Turn => (turns.filterMap (·.command)).foldl Command.addNew before)
      (turns packages capability loader names) (classifyAll packages capability loader before names) := by
  induction names generalizing loader before with
  | nil => exact fun _ => rfl
  | cons name rest ih =>
      rw [classifyAll, turns]
      refine Run.maps_bind fun told session => ?_
      obtain ⟨command, next⟩ := told
      dsimp only
      rw [bind_ok (Run.get_run session), bind_run, ih]
      cases turns packages capability next rest session with
      | mk result after =>
          cases result with
          | error error => rfl
          | ok others => cases command <;> rfl

-- The commands that a discovery gives are those of its turns.
theorem maps_discover (roots : List Path) (capability : Capability) :
    Run.Maps (fun traced : ClassId × List Turn => found traced.2) (trace packages roots capability)
      (discover roots packages capability) := by
  refine Run.maps_bind fun names => Run.maps_bind fun session => ?_
  dsimp only
  cases Loader.ofRoots session.directory roots with
  | error error => exact Run.maps_throw _ error
  | ok loader =>
      refine maps_with_loader _ loader fun opened => Run.maps_bind fun id session => ?_
      rw [maps_classify_all, bind_run]
      cases turns packages id opened names session with
      | mk result after => cases result <;> rfl

/-! ### What a turn comes to -/

-- The turn of a type name, in terms of the modules asked for before and of the world.
inductive Classified (known : List (String × Bool)) (typeName : String) (world : World) : Turn → Prop where
  | outside (out : Name.inPackages typeName packages = false ∨ Name.parent typeName = "") :
      Classified known typeName world { typeName, command := none, known, world }
  | missing (inside : Name.inPackages typeName packages = true) (named : Name.parent typeName ≠ "")
      (later : List (String × Bool)) (after : World)
      (asked : Loader.Asked known (Name.parent typeName) world false later after) :
      Classified known typeName world { typeName, command := none, known := later, world := after }
  | loaded (inside : Name.inPackages typeName packages = true) (named : Name.parent typeName ≠ "")
      (later : List (String × Bool)) (after : World)
      (asked : Loader.Asked known (Name.parent typeName) world true later after)
      (askable : (seenIn after capability typeName).isSome = true → after.isClosedProtocol capability = false) :
      Classified known typeName world
        { typeName, command := (seenIn after capability typeName).join, known := later, world := after }

-- The turns of type names, and the world after them.
inductive Turned : List (String × Bool) → World → List String → List Turn → World → Prop where
  | done (known : List (String × Bool)) (world : World) : Turned known world [] [] world
  | turn (known : List (String × Bool)) (world last : World) (typeName : String) (turn : Turn) (names : List String)
      (turns : List Turn) (first : Classified packages capability known typeName world turn)
      (rest : Turned turn.known turn.world names turns last) :
      Turned known world (typeName :: names) (turn :: turns) last

theorem classified_of_run (loader next : Loader) (typeName : String) (command : Option Command) (now after : Session)
    (done : classify packages capability loader typeName now = (.ok (command, next), after)) :
    Classified packages capability loader.known typeName now.world
      { typeName, command, known := next.known, world := after.world } := by
  rw [classify] at done
  split at done
  · rename_i outside
    cases done
    exact .outside (.inl (by simpa using outside))
  · rename_i inside
    have below : Name.inPackages typeName packages = true := by simpa using inside
    by_cases named : Name.parent typeName = ""
    · simp only [Loader.load, named, if_true] at done
      cases done
      exact .outside (.inr named)
    · cases asked : loader.loadModule (Name.parent typeName) now with
      | mk result middle =>
          cases result with
          | error error =>
              rw [bind_error (load_of_failed named asked)] at done
              cases done
          | ok value =>
              obtain ⟨found, later⟩ := value
              have told := Loader.asked_of_run loader later _ now middle found asked
              cases found with
              | false =>
                  rw [bind_ok (load_of_missing named asked)] at done
                  cases done
                  exact .missing below named _ _ told
              | true =>
                  obtain ⟨found, records, result, seen⟩ := load_of_loaded loader later now middle typeName named asked
                    capability
                  rw [bind_ok result] at done
                  have judged := @Classified.loaded packages capability loader.known typeName now.world below named _ _ told
                  rw [← seen] at judged
                  cases found with
                  | none =>
                      cases done
                      exact judged (by simp)
                  | some id =>
                      simp only [bind_ok (Run.get_run _)] at done
                      split at done
                      · cases done
                      · rename_i askable
                        have judged := judged fun _ => by simpa using askable
                        rw [Option.map_some, Option.join_some, verdict] at judged
                        split at done
                        · rename_i holds
                          rw [if_pos holds] at judged
                          cases done
                          exact judged
                        · rename_i fails
                          rw [if_neg fails] at judged
                          cases done
                          exact judged

theorem run_of_classified (loader : Loader) (typeName : String) (now : Session) (turn : Turn)
    (classified : Classified packages capability loader.known typeName now.world turn) :
    turn.typeName = typeName ∧ ∃ records, classify packages capability loader typeName now =
      (.ok (turn.command, { loader with known := turn.known }),
        { now with world := turn.world, records := records }) := by
  cases classified with
  | outside out =>
      refine ⟨rfl, now.records, ?_⟩
      rw [classify]
      rcases out with outside | unnamed
      · rw [if_pos (by simp [outside])]
        rfl
      · split
        · rfl
        · simp only [Loader.load, unnamed, if_true]
          rfl
  | missing inside named later after asked =>
      obtain ⟨records, done⟩ := Loader.run_of_asked loader _ now false later after asked
      refine ⟨rfl, records, ?_⟩
      rw [classify, if_neg (by simp [inside]), bind_ok (load_of_missing named done)]
      rfl
  | loaded inside named later after asked askable =>
      obtain ⟨records, done⟩ := Loader.run_of_asked loader _ now true later after asked
      obtain ⟨found, records, result, seen⟩ := load_of_loaded loader _ now _ typeName named done capability
      refine ⟨rfl, ?_⟩
      rw [classify, if_neg (by simp [inside]), bind_ok result]
      dsimp only at seen ⊢
      rw [← seen] at askable ⊢
      cases found with
      | none => exact ⟨records, rfl⟩
      | some id =>
          simp only [bind_ok (Run.get_run _), askable rfl, Bool.false_eq_true, if_false, Option.map_some,
            Option.join_some, verdict]
          split
          · exact ⟨_, rfl⟩
          · exact ⟨_, rfl⟩

theorem turned_of_run (names : List String) (loader : Loader) (now after : Session) (traced : List Turn)
    (done : turns packages capability loader names now = (.ok traced, after)) :
    Turned packages capability loader.known now.world names traced after.world := by
  induction names generalizing loader now traced with
  | nil =>
      cases done
      exact .done _ _
  | cons name rest ih =>
      rw [turns, bind_run] at done
      cases first : classify packages capability loader name now with
      | mk result middle =>
          rw [first] at done
          cases result with
          | error error => cases done
          | ok value =>
              obtain ⟨command, next⟩ := value
              dsimp only at done
              rw [bind_ok (Run.get_run middle), bind_run] at done
              cases others : turns packages capability next rest middle with
              | mk result last =>
                  rw [others] at done
                  cases result with
                  | error error => cases done
                  | ok others' =>
                      cases done
                      exact .turn _ _ _ _ _ _ _
                        (classified_of_run packages capability loader next name command now middle first)
                        (ih next middle others' others)

theorem run_of_turned (names : List String) (loader : Loader) (now : Session) (traced : List Turn) (last : World)
    (turned : Turned packages capability loader.known now.world names traced last) :
    ∃ after, turns packages capability loader names now = (.ok traced, after) := by
  induction names generalizing loader now traced with
  | nil =>
      cases turned
      exact ⟨now, rfl⟩
  | cons name rest ih =>
      cases turned with
      | turn _ _ _ _ turn _ others first more =>
          obtain ⟨own, records, done⟩ := run_of_classified packages capability loader name now turn first
          obtain ⟨after, finished⟩ := ih { loader with known := turn.known }
            { now with world := turn.world, records := records } others more
          refine ⟨after, ?_⟩
          rw [turns, bind_ok done]
          dsimp only
          rw [bind_ok (Run.get_run _), bind_ok finished, ← own]
          rfl

end

theorem leads_of_classified {packages : List String} {capability : ClassId} {known : List (String × Bool)}
    {typeName : String} {world : World} {turn : Turn}
    (classified : Classified packages capability known typeName world turn) : Leads world turn.world := by
  cases classified with
  | outside out => exact leads_refl world
  | missing inside named later after asked => exact Loader.leads_of_asked asked
  | loaded inside named later after asked askable => exact Loader.leads_of_asked asked

theorem holds_of_classified {packages : List String} {capability : ClassId} {known : List (String × Bool)}
    {typeName : String} {world : World} {turn : Turn}
    (classified : Classified packages capability known typeName world turn) (holds : Loader.Holds known world) :
    Loader.Holds turn.known turn.world := by
  cases classified with
  | outside out => exact holds
  | missing inside named later after asked => exact Loader.holds_of_asked asked holds
  | loaded inside named later after asked askable => exact Loader.holds_of_asked asked holds

theorem leads_of_turned {packages : List String} {capability : ClassId} {known : List (String × Bool)}
    {names : List String} {world last : World} {turns : List Turn}
    (turned : Turned packages capability known world names turns last) : Leads world last := by
  induction turned with
  | done known world => exact leads_refl world
  | turn known world last typeName turn names turns first rest ih => exact leads_trans (leads_of_classified first) ih

/-! ### The same turns again -/

-- What a type name stands for.
def standsFor (world : World) (typeName : String) : Option Object :=
  Loader.memberOfModule world (Name.parent typeName) (Name.last typeName)

-- At the second turn of a type name nothing has changed what the first one came to. `again` is the world in which the
-- second turns begin; it is left as it is but for modules that are looked for in vain once more.
structure Undisturbed (packages : List String) (capability : ClassId) (again : World) (turn : Turn) : Prop where
  -- No module that could not be found can be found now.
  missing : Import.allMissing (Loader.missingOf turn.known) again = true
  -- No submodule was bound in the place of a command.
  shown : turn.command.isSome = true → ∀ sub,
    standsFor (Import.retried (Loader.missingOf turn.known) again) turn.typeName ≠ some (.module sub)
  -- No class was given the capability after it was judged, and is a command by that.
  unregistered : Name.inPackages turn.typeName packages = true → (Name.parent turn.typeName, true) ∈ turn.known →
    ∀ id, standsFor turn.world turn.typeName = some (.cls id) → turn.world.isSubclass id capability = false →
      isCommand (Import.retried (Loader.missingOf turn.known) again) capability id = false

section

variable {packages : List String} {capability : ClassId}

theorem seen_of_stands (world : World) (typeName : String) :
    seenIn world capability typeName =
      match standsFor world typeName with
      | some (.cls id) => some (verdict world capability typeName id)
      | _ => none := rfl

theorem name_of_verdict (world later : World) (typeName : String) (id : ClassId)
    (same : isCommand later capability id = isCommand world capability id) :
    (verdict later capability typeName id).map (·.fullName) =
      (verdict world capability typeName id).map (·.fullName) := by
  rw [verdict, verdict, same]
  split <;> rfl

-- The class is judged by the same rules in both worlds: what has the capability keeps it.
theorem judged_again (world later : World) (typeName : String) (sane : world.Sane) (leads : Leads world later)
    (has : world.Has (Name.parent typeName))
    (shown : (seenIn world capability typeName).join.isSome = true → ∀ sub,
      standsFor later typeName ≠ some (.module sub))
    (unregistered : ∀ id, standsFor world typeName = some (.cls id) → world.isSubclass id capability = false →
      isCommand later capability id = false) :
    (seenIn later capability typeName).join.map (·.fullName) =
        (seenIn world capability typeName).join.map (·.fullName) ∧
      ((seenIn later capability typeName).isSome = true → (seenIn world capability typeName).isSome = true) := by
  obtain ⟨-, stands⟩ := settled_of_leads leads sane (Name.parent typeName) (Name.last typeName) has
  change standsFor later typeName = standsFor world typeName ∨
    ∃ sub, standsFor later typeName = some (.module sub) at stands
  rcases stands with same | ⟨sub, bound⟩
  · rw [seen_of_stands, seen_of_stands, same]
    cases object : standsFor world typeName with
    | none => exact ⟨rfl, id⟩
    | some object' =>
        cases object' with
        | cls id =>
            refine ⟨name_of_verdict world later typeName id ?_, fun _ => rfl⟩
            cases subclass : world.isSubclass id capability with
            | true => exact command_of_leads leads sane capability id subclass
            | false => rw [unregistered id object subclass, isCommand, subclass]; rfl
        | _ => exact ⟨rfl, fun seen => absurd seen Bool.false_ne_true⟩
  · have lost : seenIn later capability typeName = none := by rw [seen_of_stands, bound]
    have never : (seenIn world capability typeName).join = none := by
      cases was : (seenIn world capability typeName).join with
      | none => rfl
      | some command => exact absurd bound (shown (by rw [was]; rfl) sub)
    rw [lost, never]
    exact ⟨rfl, fun seen => absurd seen Bool.false_ne_true⟩

-- A module that was found is known, and one that was not is looked for in vain once more.
theorem asked_again {known later : List (String × Bool)} {module : String} {world after again : World} {found : Bool}
    (asked : Loader.Asked known module world found later after) (has : found = true → again.Has module)
    (missing : Import.allMissing (Loader.missingOf later) again = true) :
    Loader.Asked known module (Import.retried (Loader.missingOf known) again) found later
      (Import.retried (Loader.missingOf later) again) := by
  cases asked with
  | again found held => exact .again found held
  | found unknown after done =>
      have same : Loader.missingOf (known ++ [(module, true)]) = Loader.missingOf known := by simp [Loader.missingOf]
      rw [same]
      have still := has_of_leads (Import.leads_of_retried (Loader.missingOf known) again) module (has rfl)
      exact .found unknown _ (Import.load_of_has module _ still world after done)
  | missing unknown after failed left =>
      have more : Loader.missingOf (known ++ [(module, false)]) = Loader.missingOf known ++ [module] := by
        simp [Loader.missingOf]
      rw [more, Import.all_missing_append, Bool.and_eq_true] at missing
      rw [more, Import.retried_append]
      refine .missing unknown _ ?_ rfl
      simpa [Import.allMissing] using missing.2

theorem classified_again {known : List (String × Bool)} {typeName : String} {world again : World} {turn : Turn}
    (first : Classified packages capability known typeName world turn) (sane : world.Sane)
    (holds : Loader.Holds known world) (exist : (world.class? capability).isSome = true)
    (leads : Leads turn.world again) (calm : Undisturbed packages capability again turn) :
    ∃ other, Classified packages capability known typeName (Import.retried (Loader.missingOf known) again) other ∧
      other.command.map (·.fullName) = turn.command.map (·.fullName) ∧ other.known = turn.known ∧
        other.world = Import.retried (Loader.missingOf turn.known) again := by
  have grown := grown_of_leads (leads_of_classified first)
  have whole := sane_of_leads (leads_of_classified first) sane
  cases first with
  | outside out => exact ⟨_, .outside out, rfl, rfl, rfl⟩
  | missing inside named later after asked =>
      exact ⟨_, .missing inside named later _ (asked_again asked nofun calm.missing), rfl, rfl, rfl⟩
  | loaded inside named later after asked askable =>
      have member := Loader.mem_of_asked asked
      have has := Loader.holds_of_asked asked holds _ member
      have asked' := asked_again asked (fun _ => has_of_leads leads _ has) calm.missing
      have further := leads_trans leads (Import.leads_of_retried (Loader.missingOf later) again)
      have known := World.known_of_grown grown capability exist
      obtain ⟨same, fewer⟩ := judged_again after _ typeName whole further has calm.shown
        (calm.unregistered inside member)
      refine ⟨_, .loaded inside named later _ asked' fun seen => ?_, same, rfl, rfl⟩
      rw [World.closed_of_known (grown_of_leads further) capability known]
      exact askable (fewer seen)

-- By induction on the turns: each finds the same modules known, or fails to find the same modules.
theorem turned_again {again : World} {known : List (String × Bool)} {names : List String} {world last : World}
    {turns : List Turn} (turned : Turned packages capability known world names turns last) (sane : world.Sane)
    (holds : Loader.Holds known world) (exist : (world.class? capability).isSome = true) (leads : Leads last again)
    (calm : ∀ turn ∈ turns, Undisturbed packages capability again turn) :
    ∃ others final, Turned packages capability known (Import.retried (Loader.missingOf known) again) names
        others final ∧
      others.map (fun turn => turn.command.map (·.fullName)) = turns.map fun turn => turn.command.map (·.fullName) := by
  induction turned with
  | done known world => exact ⟨[], _, .done _ _, rfl⟩
  | turn known world last typeName turn names turns first rest ih =>
      obtain ⟨own, others⟩ := List.forall_mem_cons.mp calm
      have step := leads_of_classified first
      obtain ⟨other, second, same, asked, reached⟩ := classified_again first sane holds exist
        (leads_trans (leads_of_turned rest) leads) own
      obtain ⟨later, final, following, alike⟩ := ih (sane_of_leads step sane) (holds_of_classified first holds)
        (World.known_of_grown (grown_of_leads step) capability exist) leads others
      rw [← reached, ← asked] at following
      exact ⟨other :: later, final, .turn _ _ _ _ _ _ _ second following,
        by rw [List.map_cons, List.map_cons, same, alike]⟩

theorem found_names (turns : List Turn) :
    (found turns).map (·.fullName) =
      ClassPath.addNames [] (turns.filterMap fun turn => turn.command.map (·.fullName)) := by
  have added (more before : List Command) : (more.foldl Command.addNew before).map (·.fullName) =
      ClassPath.addNames (before.map (·.fullName)) (more.map (·.fullName)) := by
    induction more generalizing before with
    | nil => rfl
    | cons command rest ih =>
        rw [List.foldl_cons, ih, List.map_cons, ClassPath.add_names_cons]
        congr 1
        have told : before.any (·.fullName == command.fullName) =
            (before.map (·.fullName)).contains command.fullName := by
          rw [Bool.eq_iff_iff, List.contains_iff_mem]
          simp
        rw [Command.addNew, told]
        split
        · rfl
        · simp
  rw [found, added, List.map_filterMap]
  rfl

end

theorem member_of_found (world : World) (path : String) (value : Object) (found : standsFor world path = some value) :
    Exec.memberOf (.module (Name.parent path)) (Name.last path) world = (.ok value, world) := by
  have reading : (get : Exec World) world = (.ok world, world) := rfl
  obtain ⟨record, known, held⟩ := Option.bind_eq_some_iff.mp found
  rw [Exec.memberOf, bind_ok reading]
  simp only [known, held]
  rfl

theorem found_of_member (world after : World) (path : String) (value : Object)
    (done : Exec.memberOf (.module (Name.parent path)) (Name.last path) world = (.ok value, after)) :
    standsFor world path = some value ∧ after = world := by
  have reading : (get : Exec World) world = (.ok world, world) := rfl
  rw [Exec.memberOf, bind_ok reading] at done
  rw [standsFor, Loader.memberOfModule]
  cases known : world.module? (Name.parent path) with
  | none =>
      simp only [known] at done
      cases done
  | some record =>
      simp only [known] at done
      cases held : World.lookup (Name.last path) record.globals with
      | none =>
          simp only [held] at done
          cases done
      | some found =>
          simp only [held] at done
          cases done
          exact ⟨held, rfl⟩

theorem resolved_of_run (path : String) (before now : Session) (value : Object)
    (done : Loader.resolveDotted path before = (.ok value, now)) :
    Name.parent path ≠ "" ∧ Import.load Import.readSource (Name.parent path) before.world = (.ok (), now.world) ∧
      standsFor now.world path = some value := by
  unfold Loader.resolveDotted at done
  split at done
  · cases done
  · rename_i dotted
    refine ⟨dotted, ?_⟩
    obtain ⟨result, middle, looked, rest⟩ := ok_of_bind done
    cases result with
    | error mishap =>
        dsimp only at rest
        split at rest
        · cases rest
        · cases rest
    | ok found =>
        cases rest
        simp only [Run.inWorld] at looked
        cases block : (do
            Import.load Import.readSource (Name.parent path)
            Exec.memberOf (.module (Name.parent path)) (Name.last path)) before.world with
        | mk result after =>
            rw [block] at looked
            cases looked
            obtain ⟨_, middle, loaded, member⟩ := ok_of_bind block
            obtain ⟨stood, rfl⟩ := found_of_member middle after path value member
            exact ⟨loaded, stood⟩

theorem run_of_resolved (path : String) (now : Session) (value : Object) (dotted : Name.parent path ≠ "")
    (loads : Import.load Import.readSource (Name.parent path) now.world = (.ok (), now.world))
    (stands : standsFor now.world path = some value) : Loader.resolveDotted path now = (.ok value, now) := by
  have looked : Run.inWorld (do
      Import.load Import.readSource (Name.parent path)
      Exec.memberOf (.module (Name.parent path)) (Name.last path)) now = (.ok (.ok value), now) := by
    rw [Run.inWorld, bind_ok loads, member_of_found now.world path value stands]
  unfold Loader.resolveDotted
  rw [if_neg dotted, bind_ok looked]
  rfl

-- What a dotted path names is found again without running anything, unless a submodule was bound in its place.
theorem resolved_again (capability : Capability) (before now again : Session) (id : ClassId)
    (resolved : resolveCapability capability before = (.ok id, now)) (sane : now.world.Sane)
    (leads : Leads now.world again.world)
    (shown : ∀ path, capability = .named path → ∀ sub, standsFor again.world path ≠ some (.module sub)) :
    resolveCapability capability again = (.ok id, again) := by
  cases capability with
  | known own =>
      cases resolved
      rfl
  | named path =>
      obtain ⟨value, middle, looked, rest⟩ := ok_of_bind resolved
      obtain ⟨dotted, loaded, stood⟩ := resolved_of_run path before middle value looked
      cases value with
      | cls own =>
          cases rest
          have has := Import.has_of_load _ _ _ loaded
          have still := Import.load_of_has _ again.world (has_of_leads leads _ has) _ _ loaded
          obtain ⟨-, same | ⟨sub, bound⟩⟩ := settled_of_leads leads sane (Name.parent path) (Name.last path) has
          · rw [resolveCapability, bind_ok (run_of_resolved path again (.cls id) dotted still (same.trans stood))]
            rfl
          · exact absurd bound (shown path rfl sub)
      | _ => cases rest

/-! ### Whole discoveries -/

-- The loader of a discovery while it is open.
def opened (session : Session) (roots : List Path) : Loader where
  roots := roots.map fun root => (root.resolve session.directory).toString
  savedPath := some session.world.path

-- The turns are taken while the loader is open.
theorem trace_run (session : Session) (roots : List Path) (packages : List String) (capability : Capability)
    (clean : roots.any Path.hasNul = false) (names : List String) (records : List Record)
    (scanned : ClassPath.scanOf session.world.disk session.directory roots (some packages) = (.ok names, records))
    (id : ClassId) (now : Session)
    (resolved : resolveCapability capability { session with world := openedFor session roots } = (.ok id, now)) :
    trace packages roots capability session =
      match turns packages id (opened session roots) names { now with records := session.records ++ records } with
      | (.ok turns, ended) =>
          (.ok (id, turns), { ended with world := { ended.world with path := session.world.path } })
      | (.error error, ended) =>
          (.error error, { ended with world := { ended.world with path := session.world.path } }) := by
  have listed : ClassPath.scan roots (some packages) session =
      (.ok names, { session with records := session.records ++ records }) := by
    rw [ClassPath.scan, bind_ok (Run.get_run _), scanned]
    rfl
  have made : Loader.ofRoots session.directory roots =
      .ok { roots := roots.map fun root => (root.resolve session.directory).toString } := by
    rw [Loader.ofRoots, clean]
    rfl
  have entering : ({ roots := roots.map fun root => (root.resolve session.directory).toString } : Loader).enter
      { session with records := session.records ++ records } = (.ok (opened session roots),
        { session with world := openedFor session roots, records := session.records ++ records }) := rfl
  have moved := resolve_capability_records capability { session with world := openedFor session roots }
    (session.records ++ records)
  rw [resolved] at moved
  rw [trace, bind_ok listed, bind_ok (Run.get_run _)]
  dsimp only
  rw [made]
  dsimp only
  rw [withLoader, bind_ok entering]
  simp only [bind_run, Run.outcome, moved]
  cases turns packages id (opened session roots) names { now with records := session.records ++ records } with
  | mk result ended => cases result <;> rfl

theorem scanned_of_trace (session after : Session) (roots : List Path) (packages : List String)
    (capability : Capability) (value : ClassId × List Turn)
    (done : trace packages roots capability session = (.ok value, after)) :
    roots.any Path.hasNul = false ∧ ∃ names records,
      ClassPath.scanOf session.world.disk session.directory roots (some packages) = (.ok names, records) := by
  obtain ⟨names, listed, scanned, rest⟩ := ok_of_bind done
  rw [ClassPath.scan, bind_ok (Run.get_run _)] at scanned
  cases read : ClassPath.scanOf session.world.disk session.directory roots (some packages) with
  | mk result records =>
      rw [read] at scanned
      cases result with
      | error error => cases scanned
      | ok found =>
          refine ⟨?_, found, records, rfl⟩
          rw [bind_ok (Run.get_run _)] at rest
          cases clean : roots.any Path.hasNul with
          | false => rfl
          | true =>
              simp only [Loader.ofRoots, clean, if_true] at rest
              cases rest

theorem leads_of_resolved (capability : Capability) (before now : Session) (id : ClassId)
    (resolved : resolveCapability capability before = (.ok id, now)) : Leads before.world now.world := by
  intro invariant changeable steady _ holds
  have kept := resolve_capability_explored (@explores_within _ before.directory _ steady) capability before ⟨holds, rfl⟩
  rw [resolved] at kept
  exact kept.1.1

-- Discoveries leave the classes and modules of a process in order.
theorem sane_of_discover (session : Session) (roots : List Path) (packages : List String) (capability : Capability)
    (sane : session.world.Sane) : (discover roots packages capability session).2.world.Sane :=
  (discover_roamed (roams_within steady_of_sane fun _ _ sane => ⟨sane.orderly, sane.named⟩) roots packages capability
    session ⟨sane, rfl⟩).1.1

-- Whether a second turn is undisturbed can be computed.
def isUndisturbed (capability : ClassId) (again : World) (turn : Turn) : Bool :=
  let later := Import.retried (Loader.missingOf turn.known) again
  Import.allMissing (Loader.missingOf turn.known) again
    && (match turn.command, standsFor later turn.typeName with
      | some _, some (.module _) => false
      | _, _ => true)
    && match standsFor turn.world turn.typeName with
      | some (.cls id) => turn.world.isSubclass id capability || !isCommand later capability id
      | _ => true

theorem undisturbed_of_computed (packages : List String) (capability : ClassId) (again : World) (turn : Turn)
    (computed : isUndisturbed capability again turn = true) : Undisturbed packages capability again turn := by
  simp only [isUndisturbed, Bool.and_eq_true] at computed
  obtain ⟨⟨missing, shown⟩, unregistered⟩ := computed
  refine ⟨missing, ?_, ?_⟩
  · intro found sub bound
    obtain ⟨command, same⟩ := Option.isSome_iff_exists.mp found
    rw [same, bound] at shown
    cases shown
  · intro _ _ id stands other
    rw [stands] at unregistered
    simpa [other] using unregistered

/-! ### A library with a part that is missing -/

-- One module holds the capability and a command. The other one has a command as well, but needs a module that is
-- missing.
def patchy : Session where
  world := World.initial { entries := [(["lib"], .folder),
    (["lib", "a.py"], .file (.module [.define { name := "Cap", bases := ["ABC"], abstractMethods := ["go"] } [],
      .define { name := "A", bases := ["Cap"], methods := ["go"] } []])),
    (["lib", "b.py"], .file (.module [.importModule "gone", .fromImport "a" "Cap",
      .define { name := "B", bases := ["Cap"], methods := ["go"] } []]))] }

def libRoots : List Path := [{ anchor := .relative, parts := ["lib"] }]

def patchyPackages : List String := ["a", "b"]
def patchyCapability : Capability := .named "a.Cap"
def patchyOpened : Session := { patchy with world := openedFor patchy libRoots }
def patchyAfter : Session := (discover libRoots patchyPackages patchyCapability patchy).2

theorem patchy_resolved : ∃ id, (resolveCapability patchyCapability patchyOpened).1 = .ok id ∧
    ((resolveCapability patchyCapability patchyOpened).2.world.class? id).isSome = true :=
  ok_of_computed _ (fun id => ((resolveCapability patchyCapability patchyOpened).2.world.class? id).isSome)
    (by decide +kernel)

theorem patchy_undisturbed : ∃ id turns, (trace patchyPackages libRoots patchyCapability patchy).1 = .ok (id, turns) ∧
    (resolveCapability patchyCapability patchyOpened).1.toOption = some id ∧
      ∀ turn ∈ turns, Undisturbed patchyPackages id (openedFor patchyAfter libRoots) turn := by
  obtain ⟨⟨id, turns⟩, traced, holds⟩ := ok_of_computed (trace patchyPackages libRoots patchyCapability patchy).1
    (fun (id, turns) => (resolveCapability patchyCapability patchyOpened).1.toOption == some id &&
      turns.all (isUndisturbed id (openedFor patchyAfter libRoots))) (by decide +kernel)
  rw [Bool.and_eq_true, beq_iff_eq] at holds
  exact ⟨id, turns, traced, holds.1, fun turn member =>
    undisturbed_of_computed _ _ _ turn (List.all_eq_true.mp holds.2 turn member)⟩

-- The capability is no module.
theorem patchy_stands : (match standsFor (openedFor patchyAfter libRoots) "a.Cap" with
    | some (.module _) => false
    | _ => true) = true := by
  decide +kernel

-- The second module gives the capability to the class of the first.
def belated : Session where
  world := World.initial { entries := [(["lib"], .folder),
    (["lib", "a.py"], .file (.module [.define { name := "A", methods := ["execute"] } []])),
    (["lib", "b.py"], .file (.module [.fromImport "a" "A", .register "IpcCommand" "A",
      .define { name := "B", bases := ["IpcCommand"], methods := ["execute"] } []]))] }

def belatedDiscovery : Run (List Command) := discover libRoots ["a", "b"] (.known World.commandId)

end Discovery

end StubForge
