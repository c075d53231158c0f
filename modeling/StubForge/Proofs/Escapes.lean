import StubForge.Program
import StubForge.Proofs.Rediscovery
import StubForge.Proofs.Reordering

set_option autoImplicit false

/-!
How discoveries fail. A failure of their own is always about the class path; errors of other kinds come out of them at
four places.
-/

namespace StubForge

namespace Discovery

/-! ### Resolving the capability -/

-- The module that a dotted capability lies in raises something that does not mean that it cannot be resolved.
def Unresolvable (capability : Capability) (world : World) (mishap : Mishap) : Prop :=
  ∃ path, capability = .named path ∧ Name.parent path ≠ "" ∧
    (Import.load Import.readSource (Name.parent path) world).1 = .error mishap ∧
      isErrorOf mishap.kind "ImportError" = false ∧ isErrorOf mishap.kind "AttributeError" = false

theorem kind_of_member (module name : String) (world after : World) (mishap : Mishap)
    (failed : Exec.memberOf (.module module) name world = (.error mishap, after)) : mishap.kind = "AttributeError" := by
  have reading : (get : Exec World) world = (.ok world, world) := rfl
  rw [Exec.memberOf, bind_ok reading] at failed
  cases known : world.module? module with
  | none =>
      simp only [known] at failed
      cases failed
      rfl
  | some record =>
      simp only [known] at failed
      cases held : World.lookup name record.globals with
      | none =>
          simp only [held] at failed
          cases failed
          rfl
      | some found =>
          simp only [held] at failed
          cases failed

theorem resolve_dotted_run (path : String) (now : Session) (dotted : Name.parent path ≠ "") :
    Loader.resolveDotted path now =
      match (do
          Import.load Import.readSource (Name.parent path)
          Exec.memberOf (.module (Name.parent path)) (Name.last path) : Exec Object) now.world with
      | (.ok value, after) => (.ok value, { now with world := after })
      | (.error mishap, after) =>
          (.error (if isErrorOf mishap.kind "ImportError" || isErrorOf mishap.kind "AttributeError" then
              .classpath (.unresolved path mishap.message)
            else .mishap mishap), { now with world := after }) := by
  rw [Loader.resolveDotted, if_neg dotted, bind_run, Run.inWorld]
  generalize (do
    Import.load Import.readSource (Name.parent path)
    Exec.memberOf (.module (Name.parent path)) (Name.last path) : Exec Object) now.world = looked
  obtain ⟨result, after⟩ := looked
  cases result with
  | ok value => rfl
  | error mishap =>
      dsimp only
      cases isErrorOf mishap.kind "ImportError" || isErrorOf mishap.kind "AttributeError" <;> rfl

theorem resolve_error (capability : Capability) (now after : Session) (error : Error)
    (failed : resolveCapability capability now = (.error error, after)) :
    (∃ fault, error = .classpath fault) ∨
      ∃ mishap, Unresolvable capability now.world mishap ∧ error = .mishap mishap := by
  cases capability with
  | known id => cases failed
  | named path =>
      by_cases dotted : Name.parent path = ""
      · rw [resolveCapability, Loader.resolveDotted, if_pos dotted] at failed
        cases failed
        exact .inl ⟨_, rfl⟩
      · have told := resolve_dotted_run path now dotted
        rw [resolveCapability] at failed
        cases loaded : Import.load Import.readSource (Name.parent path) now.world with
        | mk result middle =>
            cases result with
            | error mishap =>
                rw [bind_error loaded] at told
                rw [bind_error told] at failed
                cases failed
                split
                · exact .inl ⟨_, rfl⟩
                · rename_i kind
                  rw [Bool.or_eq_true, not_or, Bool.not_eq_true, Bool.not_eq_true] at kind
                  exact .inr ⟨mishap, ⟨path, rfl, dotted, by rw [loaded], kind.1, kind.2⟩, rfl⟩
            | ok value =>
                rw [bind_ok loaded] at told
                cases looked : Exec.memberOf (.module (Name.parent path)) (Name.last path) middle with
                | mk result last =>
                    rw [looked] at told
                    cases result with
                    | error mishap =>
                        have kind := kind_of_member _ _ middle last mishap looked
                        have lacking : isErrorOf mishap.kind "AttributeError" = true := by
                          rw [kind]
                          decide
                        rw [bind_error told] at failed
                        cases failed
                        simp only [lacking, Bool.or_true, if_true]
                        exact .inl ⟨_, rfl⟩
                    | ok object =>
                        rw [bind_ok told] at failed
                        cases object <;> cases failed
                        all_goals exact .inl ⟨_, rfl⟩

theorem resolve_of_unresolvable (capability : Capability) (now : Session) (mishap : Mishap)
    (unresolvable : Unresolvable capability now.world mishap) :
    (resolveCapability capability now).1 = .error (.mishap mishap) := by
  obtain ⟨path, rfl, dotted, failed, other, another⟩ := unresolvable
  rw [resolveCapability, bind_run, resolve_dotted_run path now dotted, bind_run]
  cases loaded : Import.load Import.readSource (Name.parent path) now.world with
  | mk result middle =>
      rw [loaded] at failed
      cases failed
      simp only [other, another, Bool.or_self, Bool.false_eq_true, if_false]

/-! ### Turns that fail -/

section

variable (packages : List String) (capability : ClassId)

-- At the turn of a type name its module is imported: the name lies below a package, and the module has not been asked
-- for before.
structure Imports (known : List (String × Bool)) (typeName : String) : Prop where
  inside : Name.inPackages typeName packages = true
  named : Name.parent typeName ≠ ""
  unknown : known.find? (fun entry => entry.1 == Name.parent typeName) = none

def importOf (typeName : String) (world : World) : Except Mishap Unit :=
  (Import.load Import.readSource (Name.parent typeName) world).1

inductive Fails (known : List (String × Bool)) (typeName : String) (world : World) : Error → Prop where
  | broken (imports : Imports packages known typeName) (mishap : Mishap)
      (raised : importOf typeName world = .error mishap) (present : isErrorOf mishap.kind "ImportError" = false)
      (own : isErrorOf mishap.kind "Exception" = true) :
      Fails known typeName world (.classpath (.brokenModule (Name.parent typeName) mishap.message))
  -- What the module raises is not even an exception, but an exit, say.
  | left (imports : Imports packages known typeName) (mishap : Mishap)
      (raised : importOf typeName world = .error mishap) (present : isErrorOf mishap.kind "ImportError" = false)
      (foreign : isErrorOf mishap.kind "Exception" = false) :
      Fails known typeName world (.mishap mishap)
  -- There is a class, but the capability is a protocol that cannot be asked for its subclasses.
  | closed (inside : Name.inPackages typeName packages = true) (named : Name.parent typeName ≠ "")
      (later : List (String × Bool)) (after : World)
      (asked : Loader.Asked known (Name.parent typeName) world true later after)
      (seen : (seenIn after capability typeName).isSome = true) (refuses : after.isClosedProtocol capability = true) :
      Fails known typeName world refused

-- The turns of type names come to the turn of one of them.
inductive Comes (typeName : String) (asked : List (String × Bool)) (now : World) :
    List (String × Bool) → World → List String → Prop where
  | here (names : List String) : Comes typeName asked now asked now (typeName :: names)
  | later (known : List (String × Bool)) (world : World) (first : String) (turn : Turn) (names : List String)
      (classified : Classified packages capability known first world turn)
      (more : Comes typeName asked now turn.known turn.world names) :
      Comes typeName asked now known world (first :: names)

-- Asking for a module that was not asked for before.
theorem load_module_run (loader : Loader) (module : String) (now after : Session) (mishap : Mishap)
    (unknown : loader.known.find? (fun entry => entry.1 == module) = none)
    (failed : Loader.importModule module now = (.ok (.error mishap), after))
    (present : isErrorOf mishap.kind "ImportError" = false) :
    loader.loadModule module now =
      (.error (if isErrorOf mishap.kind "Exception" then .classpath (.brokenModule module mishap.message)
        else .mishap mishap), after) := by
  rw [Loader.loadModule, unknown]
  dsimp only
  rw [bind_ok failed]
  simp only [present, Bool.false_eq_true, if_false]
  cases isErrorOf mishap.kind "Exception" <;> rfl

theorem load_module_error (loader : Loader) (module : String) (now after : Session) (error : Error)
    (failed : loader.loadModule module now = (.error error, after)) :
    loader.known.find? (fun entry => entry.1 == module) = none ∧
      ∃ mishap, (Import.load Import.readSource module now.world).1 = .error mishap ∧
        isErrorOf mishap.kind "ImportError" = false ∧
          error = if isErrorOf mishap.kind "Exception" then .classpath (.brokenModule module mishap.message)
            else .mishap mishap := by
  cases held : loader.known.find? fun entry => entry.1 == module with
  | some entry =>
      rw [Loader.loadModule, held] at failed
      cases failed
  | none =>
      refine ⟨rfl, ?_⟩
      cases loaded : Import.load Import.readSource module now.world with
      | mk result left =>
          have imported : Loader.importModule module now = (.ok result, { now with world := left }) := by
            rw [Loader.importModule, Run.inWorld, loaded]
          cases result with
          | ok value =>
              rw [Loader.loadModule, held] at failed
              dsimp only at failed
              rw [bind_ok imported] at failed
              cases failed
          | error mishap =>
              refine ⟨mishap, rfl, ?_⟩
              cases present : isErrorOf mishap.kind "ImportError" with
              | false =>
                  rw [load_module_run loader module now _ mishap held imported present] at failed
                  cases failed
                  exact ⟨rfl, rfl⟩
              | true =>
                  rw [Loader.loadModule, held] at failed
                  dsimp only at failed
                  rw [bind_ok imported] at failed
                  simp only [present, if_true] at failed
                  cases failed

theorem classify_error (loader : Loader) (typeName : String) (now after : Session) (error : Error)
    (failed : classify packages capability loader typeName now = (.error error, after)) :
    Fails packages capability loader.known typeName now.world error := by
  cases inside : Name.inPackages typeName packages with
  | false =>
      rw [classify, if_pos (by simp [inside])] at failed
      cases failed
  | true =>
      rw [classify, if_neg (by simp [inside])] at failed
      by_cases named : Name.parent typeName = ""
      · simp only [Loader.load, named, if_true] at failed
        cases failed
      · cases asked : loader.loadModule (Name.parent typeName) now with
        | mk result middle =>
            cases result with
            | error cause =>
                rw [bind_error (load_of_failed named asked)] at failed
                cases failed
                obtain ⟨unknown, mishap, raised, present, rfl⟩ := load_module_error loader _ now after error asked
                split
                · rename_i own
                  exact .broken ⟨inside, named, unknown⟩ mishap raised present own
                · rename_i foreign
                  rw [Bool.not_eq_true] at foreign
                  exact .left ⟨inside, named, unknown⟩ mishap raised present foreign
            | ok value =>
                obtain ⟨found, later⟩ := value
                have told := Loader.asked_of_run loader later _ now middle found asked
                cases found with
                | false =>
                    rw [bind_ok (load_of_missing named asked)] at failed
                    cases failed
                | true =>
                    obtain ⟨found, records, result, seen⟩ := load_of_loaded loader later now middle typeName named asked
                      capability
                    rw [bind_ok result] at failed
                    cases found with
                    | none => cases failed
                    | some id =>
                        simp only [bind_ok (Run.get_run _)] at failed
                        split at failed
                        · rename_i refuses
                          cases failed
                          exact .closed inside named _ _ told (by rw [← seen]; rfl) refuses
                        · split at failed <;> cases failed

theorem classify_of_fails (loader : Loader) (typeName : String) (now : Session) (error : Error)
    (fails : Fails packages capability loader.known typeName now.world error) :
    ∃ after, classify packages capability loader typeName now = (.error error, after) := by
  have stopped (imports : Imports packages loader.known typeName) (mishap : Mishap)
      (raised : importOf typeName now.world = .error mishap) (present : isErrorOf mishap.kind "ImportError" = false) :
      ∃ after, classify packages capability loader typeName now =
        (.error (if isErrorOf mishap.kind "Exception" then
            .classpath (.brokenModule (Name.parent typeName) mishap.message)
          else .mishap mishap), after) := by
    have imported : Loader.importModule (Name.parent typeName) now = (.ok (.error mishap),
        { now with world := (Import.load Import.readSource (Name.parent typeName) now.world).2 }) := by
      rw [Loader.importModule, Run.inWorld, ← raised]
      rfl
    have failed := load_module_run loader _ now _ mishap imports.unknown imported present
    refine ⟨{ now with world := (Import.load Import.readSource (Name.parent typeName) now.world).2 }, ?_⟩
    rw [classify, if_neg (by simp [imports.inside]), bind_error (load_of_failed imports.named failed)]
  cases fails with
  | broken imports mishap raised present own =>
      obtain ⟨after, failed⟩ := stopped imports mishap raised present
      exact ⟨after, by rw [failed, if_pos own]⟩
  | left imports mishap raised present foreign =>
      obtain ⟨after, failed⟩ := stopped imports mishap raised present
      exact ⟨after, by rw [failed, if_neg (by simp [foreign])]⟩
  | closed inside named later after asked seen refuses =>
      obtain ⟨records, done⟩ := Loader.run_of_asked loader _ now true later after asked
      obtain ⟨found, records, result, same⟩ := load_of_loaded loader _ now _ typeName named done capability
      rw [classify, if_neg (by simp [inside]), bind_ok result]
      dsimp only at same ⊢
      rw [← same] at seen
      cases found with
      | none => cases seen
      | some id =>
          simp only [bind_ok (Run.get_run _), refuses, if_true]
          exact ⟨_, rfl⟩

-- By induction on the type names: the first turn fails, or one of the rest does.
theorem classify_all_error (names : List String) (loader : Loader) (found : List Command) (now : Session)
    (error : Error) :
    (∃ after, classifyAll packages capability loader found names now = (.error error, after)) ↔
      ∃ typeName asked world, Comes packages capability typeName asked world loader.known now.world names ∧
        Fails packages capability asked typeName world error := by
  induction names generalizing loader found now with
  | nil =>
      constructor
      · nofun
      · rintro ⟨typeName, asked, world, comes, -⟩
        cases comes
  | cons first rest ih =>
      have own := classify_of_fails packages capability loader first now error
      have others (turn : Turn) (classified : Classified packages capability loader.known first now.world turn) :=
        (run_of_classified packages capability loader first now turn classified).2
      rw [classifyAll]
      cases done : classify packages capability loader first now with
      | mk result middle =>
          rw [done] at own others
          cases result with
          | error cause =>
              have fails := classify_error packages capability loader first now middle cause done
              rw [bind_error done]
              constructor
              · rintro ⟨_, failed⟩
                cases failed
                exact ⟨first, _, _, .here rest, fails⟩
              · rintro ⟨typeName, asked, world, comes, fails⟩
                cases comes with
                | here =>
                    obtain ⟨_, ran⟩ := own fails
                    cases ran
                    exact ⟨_, rfl⟩
                | later _ _ _ turn _ classified more =>
                    obtain ⟨records, ran⟩ := others turn classified
                    cases ran
          | ok value =>
              obtain ⟨command, next⟩ := value
              have classified := classified_of_run packages capability loader next first command now middle done
              rw [bind_ok done]
              refine (ih next _ middle).trans ?_
              constructor
              · rintro ⟨typeName, asked, world, comes, fails⟩
                exact ⟨typeName, asked, world, .later _ _ _ _ _ classified comes, fails⟩
              · rintro ⟨typeName, asked, world, comes, fails⟩
                cases comes with
                | here =>
                    obtain ⟨_, ran⟩ := own fails
                    cases ran
                | later _ _ _ turn _ other more =>
                    obtain ⟨records, ran⟩ := others turn other
                    cases ran
                    exact ⟨typeName, asked, world, more, fails⟩

/-! ### Modules that cannot be imported -/

-- What became of a module that was asked for.
def heldOf (known : List (String × Bool)) (module : String) : Option Bool :=
  (known.find? fun entry => entry.1 == module).map (·.2)

theorem held_of_append (known : List (String × Bool)) (module other : String) (found : Bool)
    (unknown : known.find? (fun entry => entry.1 == module) = none) :
    heldOf (known ++ [(module, found)]) other = if other = module then some found else heldOf known other := by
  by_cases same : other = module
  · subst same
    simp [heldOf, unknown]
  · have apart : module ≠ other := fun own => same own.symm
    rw [heldOf, heldOf, List.find?_append, if_neg same]
    simp [apart]

theorem held_of_asked {known later : List (String × Bool)} {module : String} {world after : World} {found : Bool}
    (asked : Loader.Asked known module world found later after) :
    heldOf later module = some found ∧
      ∀ other held, heldOf known other = some held → heldOf later other = some held := by
  have grows (unknown : known.find? (fun entry => entry.1 == module) = none) (found : Bool) (other : String)
      (held : Bool) (before : heldOf known other = some held) :
      heldOf (known ++ [(module, found)]) other = some held := by
    rw [held_of_append known module other found unknown, if_neg, before]
    rintro rfl
    rw [heldOf, unknown] at before
    cases before
  cases asked with
  | again found held => exact ⟨held, fun other held before => before⟩
  | found unknown after done => exact ⟨by rw [held_of_append _ _ _ _ unknown, if_pos rfl], grows unknown true⟩
  | missing unknown after failed left => exact ⟨by rw [held_of_append _ _ _ _ unknown, if_pos rfl], grows unknown false⟩

variable {packages capability}

theorem held_of_classified {known : List (String × Bool)} {typeName : String} {world : World} {turn : Turn}
    (classified : Classified packages capability known typeName world turn) (module : String) (held : Bool)
    (before : heldOf known module = some held) : heldOf turn.known module = some held := by
  cases classified with
  | outside out => exact before
  | missing inside named later after asked => exact (held_of_asked asked).2 module held before
  | loaded inside named later after asked askable => exact (held_of_asked asked).2 module held before

-- The module that a command lies in was found.
theorem held_of_command {known : List (String × Bool)} {typeName : String} {world : World} {turn : Turn}
    (classified : Classified packages capability known typeName world turn) (command : Command)
    (found : turn.command = some command) : heldOf turn.known command.home = some true := by
  cases classified with
  | outside out => cases found
  | missing inside named later after asked => cases found
  | loaded inside named later after asked askable =>
      rw [Command.home, full_name_of_seen after capability typeName command found]
      exact (held_of_asked asked).1

theorem held_of_missing {known : List (String × Bool)} {typeName : String} {world : World} {turn : Turn}
    (classified : Classified packages capability known typeName world turn) (imports : Imports packages known typeName)
    (mishap : Mishap) (raised : importOf typeName world = .error mishap) :
    heldOf turn.known (Name.parent typeName) = some false := by
  have failed (later : List (String × Bool)) (after : World)
      (asked : Loader.Asked known (Name.parent typeName) world true later after) : False := by
    cases asked with
    | again found held =>
        rw [imports.unknown] at held
        cases held
    | found unknown after done =>
        rw [importOf, done] at raised
        cases raised
  cases classified with
  | outside out =>
      rcases out with outside | unnamed
      · rw [imports.inside] at outside
        cases outside
      · exact absurd unnamed imports.named
  | missing inside named later after asked => exact (held_of_asked asked).1
  | loaded inside named later after asked askable => exact absurd asked (failed later after)

-- The turn of a type name can come to one thing only.
theorem classified_unique {known : List (String × Bool)} {typeName : String} {world : World} {turn other : Turn}
    (first : Classified packages capability known typeName world turn)
    (second : Classified packages capability known typeName world other) : other = turn := by
  obtain ⟨named, records, ran⟩ :=
    run_of_classified packages capability { roots := [], known } typeName { world } turn first
  obtain ⟨named', records', ran'⟩ :=
    run_of_classified packages capability { roots := [], known } typeName { world } other second
  rw [ran] at ran'
  cases turn
  cases other
  cases named
  cases named'
  cases ran'
  rfl

theorem classify_all_ok {first : String} {rest : List String} {loader : Loader} {found commands : List Command}
    {now after : Session}
    (done : classifyAll packages capability loader found (first :: rest) now = (.ok commands, after)) :
    ∃ turn next middle, Classified packages capability loader.known first now.world turn ∧
      next.known = turn.known ∧ middle.world = turn.world ∧
        classifyAll packages capability next (turn.command.elim found (Command.addNew found)) rest middle =
          (.ok commands, after) := by
  rw [classifyAll] at done
  obtain ⟨⟨command, next⟩, middle, classified, others⟩ := ok_of_bind done
  refine ⟨_, next, middle, classified_of_run packages capability loader next first command now middle classified, rfl,
    rfl, ?_⟩
  cases command with
  | none => exact others
  | some command => exact others

theorem mem_of_elim {found : List Command} {command : Option Command} {member : Command}
    (inside : member ∈ command.elim found (Command.addNew found)) : member ∈ found ∨ command = some member := by
  cases command with
  | none => exact .inl inside
  | some command =>
      rw [Option.elim_some, Command.addNew] at inside
      split at inside
      · exact .inl inside
      · rcases List.mem_append.mp inside with before | now
        · exact .inl before
        · exact .inr (by rw [List.mem_singleton.mp now])

-- By induction on the type names: the commands that are found lie in modules that are held to be found.
theorem homes_held (names : List String) (module : String) (loader : Loader) (found commands : List Command)
    (now after : Session) (done : classifyAll packages capability loader found names now = (.ok commands, after))
    (missing : heldOf loader.known module = some false) (apart : ∀ command ∈ found, command.home ≠ module) :
    ∀ command ∈ commands, command.home ≠ module := by
  induction names generalizing loader found now with
  | nil =>
      cases done
      exact apart
  | cons first rest ih =>
      obtain ⟨turn, next, middle, classified, known, -, others⟩ := classify_all_ok done
      have still := held_of_classified classified module false missing
      refine ih next _ middle others (known ▸ still) fun command member => ?_
      rcases mem_of_elim member with before | own
      · exact apart command before
      · rintro rfl
        rw [held_of_command classified command own] at still
        cases still

theorem missing_adds_nothing (names : List String) (loader : Loader) (found commands : List Command)
    (now after : Session) (done : classifyAll packages capability loader found names now = (.ok commands, after))
    (held : ∀ command ∈ found, heldOf loader.known command.home = some true) (typeName : String)
    (asked : List (String × Bool)) (world : World)
    (comes : Comes packages capability typeName asked world loader.known now.world names)
    (imports : Imports packages asked typeName) (mishap : Mishap) (raised : importOf typeName world = .error mishap) :
    ∀ command ∈ commands, command.home ≠ Name.parent typeName := by
  induction names generalizing loader found now with
  | nil => cases comes
  | cons first rest ih =>
      obtain ⟨turn, next, middle, classified, known, reached, others⟩ := classify_all_ok done
      cases comes with
      | here =>
          have missing := held_of_missing classified imports mishap raised
          refine homes_held rest _ next _ commands middle after others (known ▸ missing) fun command member => ?_
          rintro same
          rcases mem_of_elim member with before | own
          · have heard := held command before
            rw [same, heldOf, imports.unknown] at heard
            cases heard
          · have heard := held_of_command classified command own
            rw [same, missing] at heard
            cases heard
      | later _ _ _ other _ again more =>
          cases classified_unique classified again
          refine ih next _ middle others (fun command member => ?_) (by rw [known, reached]; exact more)
          rw [known]
          rcases mem_of_elim member with before | own
          · exact held_of_classified classified _ _ (held command before)
          · exact held_of_command classified command own

end

/-! ### Whole discoveries -/

-- What a discovery gives, from the roots to the turns.
theorem discover_result (session : Session) (roots : List Path) (packages : List String) (capability : Capability) :
    (discover roots packages capability session).1 =
      match (ClassPath.scanOf session.world.disk session.directory roots (some packages)).1 with
      | .error error => .error error
      | .ok names =>
          if roots.any Path.hasNul then .error (.raised "ValueError" Loader.nulText)
          else
            match resolveCapability capability { session with world := openedFor session roots } with
            | (.error error, _) => .error error
            | (.ok id, now) => (classifyAll packages id (opened session roots) [] names now).1 := by
  rw [discover, ClassPath.scan, bind_run, bind_ok (Run.get_run _)]
  cases scanned : ClassPath.scanOf session.world.disk session.directory roots (some packages) with
  | mk result records =>
      cases result with
      | error error => rfl
      | ok names =>
          simp only [bind_ok (Run.modify_run _ _), Run.pure_run, bind_ok (Run.get_run _)]
          rw [Loader.ofRoots]
          cases clean : roots.any Path.hasNul with
          | true => rfl
          | false =>
              have moved := resolve_capability_records capability { session with world := openedFor session roots }
                (session.records ++ records)
              simp only [Bool.false_eq_true, if_false]
              refine (with_loader_run _ (opened session roots) _ _ { session with
                world := openedFor session roots
                records := session.records ++ records } rfl).trans ?_
              rw [bind_run, moved]
              cases resolved : resolveCapability capability { session with world := openedFor session roots } with
              | mk result now =>
                  cases result with
                  | error error => rfl
                  | ok id =>
                      exact (classify_all_explored roams_unrecorded.toExplores packages id names _ []
                        { now with records := session.records ++ records } now ⟨rfl, rfl⟩).1

section

variable (session : Session) (roots : List Path) (packages : List String) (capability : Capability)

-- The turns of these type names begin: the roots could be read, and the capability stands for a class.
structure Underway (names : List String) (id : ClassId) (now : Session) : Prop where
  listed : (ClassPath.scanOf session.world.disk session.directory roots (some packages)).1 = .ok names
  clean : roots.any Path.hasNul = false
  resolved : resolveCapability capability { session with world := openedFor session roots } = (.ok id, now)

-- The errors that come out of a discovery though they are no failures of the program.
inductive Escape : Mishap → Prop where
  | overlong (root : Path) (first : ClassPath.Overlong session.world.disk session.directory roots root) :
      Escape (overlongName root)
  | nul (names : List String)
      (listed : (ClassPath.scanOf session.world.disk session.directory roots (some packages)).1 = .ok names)
      (holds : roots.any Path.hasNul = true) : Escape { kind := "ValueError", message := Loader.nulText }
  | capability (names : List String)
      (listed : (ClassPath.scanOf session.world.disk session.directory roots (some packages)).1 = .ok names)
      (clean : roots.any Path.hasNul = false) (mishap : Mishap)
      (unresolvable : Unresolvable capability (openedFor session roots) mishap) : Escape mishap
  | turn (names : List String) (id : ClassId) (now : Session)
      (underway : Underway session roots packages capability names id now) (typeName : String)
      (asked : List (String × Bool)) (world : World)
      (comes : Comes packages id typeName asked world [] now.world names) (mishap : Mishap)
      (fails : Fails packages id asked typeName world (.mishap mishap)) : Escape mishap

variable {session roots packages capability}

theorem result_of_underway {names : List String} {id : ClassId} {now : Session}
    (underway : Underway session roots packages capability names id now) :
    (discover roots packages capability session).1 =
      (classifyAll packages id (opened session roots) [] names now).1 := by
  rw [discover_result, underway.listed, underway.clean, underway.resolved]
  rfl

theorem error_of_turn {names : List String} {id : ClassId} {now : Session}
    (underway : Underway session roots packages capability names id now) (typeName : String)
    (asked : List (String × Bool)) (world : World) (comes : Comes packages id typeName asked world [] now.world names)
    (error : Error) (fails : Fails packages id asked typeName world error) :
    (discover roots packages capability session).1 = .error error := by
  obtain ⟨after, failed⟩ := (classify_all_error packages id names (opened session roots) [] now error).mpr
    ⟨typeName, asked, world, comes, fails⟩
  rw [result_of_underway underway, failed]

theorem discover_error (error : Error) (failed : (discover roots packages capability session).1 = .error error) :
    (∃ fault, error = .classpath fault) ∨
      ∃ mishap, Escape session roots packages capability mishap ∧ error = .mishap mishap := by
  cases listed : (ClassPath.scanOf session.world.disk session.directory roots (some packages)).1 with
  | error cause =>
      rw [discover_result, listed] at failed
      cases failed
      rcases ClassPath.scan_error _ _ _ roots error listed with own | ⟨root, first, rfl⟩
      · exact .inl own
      · exact .inr ⟨_, .overlong root first, rfl⟩
  | ok names =>
      cases clean : roots.any Path.hasNul with
      | true =>
          rw [discover_result, listed, clean] at failed
          cases failed
          exact .inr ⟨_, .nul names listed clean, rfl⟩
      | false =>
          cases resolved : resolveCapability capability { session with world := openedFor session roots } with
          | mk result now =>
              cases result with
              | error cause =>
                  rw [discover_result, listed, clean, resolved] at failed
                  cases failed
                  rcases resolve_error capability _ now error resolved with own | ⟨mishap, unresolvable, rfl⟩
                  · exact .inl own
                  · exact .inr ⟨mishap, .capability names listed clean mishap unresolvable, rfl⟩
              | ok id =>
                  have underway : Underway session roots packages capability names id now := ⟨listed, clean, resolved⟩
                  rw [result_of_underway underway] at failed
                  obtain ⟨typeName, asked, world, comes, fails⟩ :=
                    (classify_all_error packages id names (opened session roots) [] now error).mp
                      ⟨_, pair_of_fst failed⟩
                  have left (mishap : Mishap) (fails : Fails packages id asked typeName world (.mishap mishap)) :=
                    Escape.turn names id now underway typeName asked world comes mishap fails
                  cases fails with
                  | broken imports mishap raised present own => exact .inl ⟨_, rfl⟩
                  | left imports mishap raised present foreign =>
                      exact .inr ⟨mishap, left mishap (.left imports mishap raised present foreign), rfl⟩
                  | closed inside named later after asked seen refuses =>
                      exact .inr ⟨_, left _ (.closed inside named later after asked seen refuses), rfl⟩

theorem error_of_escape (mishap : Mishap) (escape : Escape session roots packages capability mishap) :
    (discover roots packages capability session).1 = .error (.mishap mishap) := by
  cases escape with
  | overlong root first => rw [discover_result, ClassPath.scan_of_overlong _ _ _ roots root first]
  | nul names listed holds =>
      rw [discover_result, listed, holds]
      rfl
  | capability names listed clean mishap unresolvable =>
      have failed := resolve_of_unresolvable capability { session with world := openedFor session roots } mishap
        unresolvable
      rw [discover_result, listed, clean, pair_of_fst failed]
      rfl
  | turn names id now underway typeName asked world comes mishap fails =>
      exact error_of_turn underway typeName asked world comes _ fails

theorem found_outside_missing {names : List String} {id : ClassId} {now : Session}
    (underway : Underway session roots packages capability names id now) (typeName : String)
    (asked : List (String × Bool)) (world : World) (comes : Comes packages id typeName asked world [] now.world names)
    (imports : Imports packages asked typeName) (mishap : Mishap) (raised : importOf typeName world = .error mishap)
    (commands : List Command) (done : (discover roots packages capability session).1 = .ok commands) :
    ∀ command ∈ commands, command.home ≠ Name.parent typeName := by
  rw [result_of_underway underway] at done
  exact missing_adds_nothing names (opened session roots) [] commands now _ (pair_of_fst done) nofun typeName asked
    world comes imports mishap raised

end

end Discovery

/-! ### Settings -/

namespace Settings

theorem early_of_read (document : String) (folder : Option Path) (error : Error)
    (failed : read document folder = .error error) : error.Early := by
  rw [read] at failed
  cases parsed : Yaml.read document.toList with
  | error fault =>
      rw [parsed] at failed
      cases fault <;> cases failed <;> exact trivial
  | ok datum =>
      rw [parsed] at failed
      cases made : ofDatum datum with
      | ok settings =>
          change (ofDatum datum >>= _) = _ at failed
          rw [made] at failed
          cases folder <;> cases failed
      | error cause =>
          change (ofDatum datum >>= _) = _ at failed
          rw [made] at failed
          cases failed
          unfold ofDatum at made
          split at made
          · split at made
            · rename_i entries _ _
              cases record : ofRecord { location := [], entries } with
              | ok settings =>
                  rw [record] at made
                  cases made
              | error details =>
                  rw [record] at made
                  cases made
                  exact trivial
            · cases made
              exact trivial
          · cases made
            exact trivial

theorem early_of_text (content : Content) (error : Error) (failed : textOf content = .error error) : error.Early := by
  cases content with
  | bytes data =>
      rw [textOf] at failed
      split at failed <;> cases failed
      exact trivial
  | module statements => cases failed
  | archive members => cases failed

-- Loading settings reads a file and changes nothing.
theorem load_reads (file : Path) (session : Session) :
    ∃ result, load file session = (result, session) ∧ ∀ error, result = .error error → error.Early := by
  rw [load, bind_ok (Run.get_run session)]
  have refused (error : Error) (early : error.Early) :
      ∃ result, ((throw error : Run Settings) session) = (result, session) ∧
        ∀ error, result = .error error → error.Early := by
    refine ⟨_, rfl, fun other failed => ?_⟩
    cases failed
    exact early
  cases session.world.disk.existsAt session.directory file with
  | error errno => exact refused _ trivial
  | ok present =>
      cases session.world.disk.find session.directory file with
      | error errno => cases present <;> exact refused _ trivial
      | ok located =>
          obtain ⟨place, entry⟩ := located
          cases present with
          | false => exact refused _ trivial
          | true =>
              cases entry with
              | folder => exact refused _ trivial
              | file content =>
                  have early (error : Error) (failed : (do
                      let text ← textOf content
                      read text (some file.parent) : Except Error Settings) = .error error) : error.Early := by
                    cases text : textOf content with
                    | error cause =>
                        rw [text] at failed
                        cases failed
                        exact early_of_text content error text
                    | ok document =>
                        rw [text] at failed
                        exact early_of_read document (some file.parent) error failed
                  generalize parsed : (do
                    let text ← textOf content
                    read text (some file.parent) : Except Error Settings) = result at early
                  simp only [parsed]
                  cases result with
                  | error error => exact refused error (early error rfl)
                  | ok settings => exact ⟨_, rfl, nofun⟩

theorem load_run (file : Path) (session : Session) (settings : Settings)
    (loaded : (load file session).1 = .ok settings) : load file session = (.ok settings, session) := by
  obtain ⟨result, done, -⟩ := load_reads file session
  rw [done] at loaded
  rw [done, ← loaded]

end Settings

/-! ### The command line -/

namespace Program

open CommandLine

-- What is planned for a command line.
def planned (invocation : Invocation) (settings : Settings) (clock : String) : Plan :=
  match invocation.action with
  | .generate output folders keepGoing =>
      { planOf invocation settings settings.generators clock with
        output := output.getD settings.output
        engine := { folders := folders ++ settings.templateFolders }
        failFast := settings.failFast && !keepGoing }
  | .inspect name => planOf invocation settings (named name settings.generators) clock

-- A command line for which commands are looked for: it is understood, and its settings are sound.
inductive Plans (arguments : List String) (clock : String) (session : Session) : Level → Plan → Prop where
  | mk (invocation : Invocation) (settings : Settings) (level : Level)
      (understood : Invocation.read arguments = .ok invocation)
      (shown : Level.ofName? (invocation.logLevel.map Char.toUpper) = some level)
      (loaded : (Settings.load invocation.config session).1 = .ok settings)
      (sound : Configuration.check (planned invocation settings clock).configurations = .ok ()) :
      Plans arguments clock session level (planned invocation settings clock)

theorem discover_fails (plan : Plan) (session : Session) (sound : Configuration.check plan.configurations = .ok ())
    (error : Error)
    (failed : (Discovery.discover plan.classpath (Plan.allPackages plan.configurations) plan.capability session).1 =
      .error error) : ∃ after, plan.discover session = (.error error, after) := by
  obtain ⟨records, told⟩ := Plan.say_all_run (Plan.announcement plan.configurations) session
  have same := (Discovery.unrecorded_discover plan.classpath (Plan.allPackages plan.configurations) plan.capability
    { session with records } session ⟨rfl, rfl⟩).1
  rw [failed] at same
  rw [Plan.discover, sound]
  exact ⟨_, (bind_ok told _).trans (bind_error (pair_of_fst same) _)⟩

def ended (level : Level) : Error → Outcome
  | .failure _ => .finished level 1 []
  | .mishap mishap => .raised (some level) (.mishap mishap)

theorem run_of_failed_discovery (arguments : List String) (clock : String) (session : Session) (level : Level)
    (plan : Plan) (plans : Plans arguments clock session level plan) (error : Error)
    (failed : (Discovery.discover plan.classpath (Plan.allPackages plan.configurations) plan.capability session).1 =
      .error error) : (run arguments clock session).1 = ended level error := by
  cases plans with
  | mk invocation settings level understood shown loaded sound =>
      obtain ⟨after, stopped⟩ := discover_fails _ session sound error failed
      have loads := Settings.load_run invocation.config session settings loaded
      have acted : act invocation clock session = (.error error, after) := by
        rw [act, bind_ok loads]
        rw [planned] at stopped sound
        cases asked : invocation.action with
        | generate output folders keepGoing =>
            rw [asked] at stopped
            dsimp only at stopped ⊢
            rw [generate, Plan.run, bind_error (bind_error stopped _)]
        | inspect name =>
            rw [asked] at stopped sound
            dsimp only at stopped sound ⊢
            rw [inspect, if_neg, bind_error stopped]
            intro empty
            rw [Configuration.check, if_pos empty] at sound
            cases sound
      rw [run, understood]
      dsimp only
      rw [shown]
      change (StateT.bind (act invocation clock) _ session).1 = _
      rw [StateT.bind, acted]
      cases error <;> rfl

end Program

namespace Discovery

-- The module of the command raises an error before it comes to the class.
def failingEntries (kind : String) : List (Place × Entry) := [(["lib"], .folder),
  (["lib", "m.py"], .file (.module [.raise kind "no",
    .define { name := "A", bases := ["IpcCommand"], methods := ["execute"] } []]))]

def failing (kind : String) : Session where
  world := World.initial { entries := failingEntries kind }

theorem failing_underway (kind : String) : Underway (failing kind) libRoots ["m"] (.known World.commandId) ["m.A"]
    World.commandId { failing kind with world := openedFor (failing kind) libRoots } where
  listed := rfl
  clean := rfl
  resolved := rfl

theorem failing_imports : Imports ["m"] [] "m.A" where
  inside := by decide
  named := by decide
  unknown := rfl

theorem failing_raises (kind : String) (known : kind ∈ ["ValueError", "ImportError"]) :
    importOf "m.A" (openedFor (failing kind) libRoots) = .error { kind := kind, message := "no" } := by
  simp only [List.mem_cons, List.not_mem_nil, or_false] at known
  obtain ⟨mishap, raised, plain⟩ := error_of_computed (importOf "m.A" (openedFor (failing kind) libRoots))
    (·.isPlain kind "no") (by
      rcases known with rfl | rfl
      · decide +kernel
      · decide +kernel)
  rw [raised, Mishap.eq_of_is_plain plain]

def capableSettings : String :=
  "generators: [\x7bname: p, scheme: json, packages: [m]\x7d]\nclasspath: [lib]\ncapability: m.A\n"

-- The settings have the class of the command for a capability.
def capable : Session where
  world := World.initial { entries := failingEntries "ValueError" ++
    [(["s.yaml"], .file (.bytes capableSettings.toUTF8.toList))] }

def capableArguments : List String := ["inspect", "-c", "s.yaml"]

def capableInvocation : CommandLine.Invocation where
  logLevel := "INFO"
  config := Path.ofString "s.yaml"
  classpath := []
  capability := none
  action := .inspect none

theorem capable_plans : ∃ plan, Program.Plans capableArguments "0" capable .info plan ∧
    plan.classpath = libRoots ∧ Plan.allPackages plan.configurations = ["m"] ∧ plan.capability = .named "m.A" := by
  obtain ⟨settings, loaded, holds⟩ := ok_of_computed (Settings.load (Path.ofString "s.yaml") capable).1
    (fun settings => settings.classpath == libRoots && settings.capability == "m.A" &&
      Plan.allPackages settings.generators == ["m"] &&
        (Configuration.check settings.generators).toBool) (by decide +kernel)
  simp only [Bool.and_eq_true, beq_iff_eq] at holds
  obtain ⟨⟨⟨roots, capability⟩, packages⟩, sound⟩ := holds
  have checked : Configuration.check settings.generators = .ok () := by
    cases result : Configuration.check settings.generators with
    | ok done => rfl
    | error error =>
        rw [result] at sound
        cases sound
  refine ⟨_, .mk capableInvocation settings .info rfl (by decide +kernel) loaded checked, ?_, packages, ?_⟩
  · exact (List.append_nil _).trans roots
  · exact congrArg Capability.named capability

-- A library with a command and a protocol.
def guarded : Session where
  world := World.initial { entries := [(["lib"], .folder), (["lib", "m.py"], .file (.module [
    .define { name := "P", bases := ["Protocol"] } [],
    .define { name := "A", bases := ["IpcCommand"], methods := ["execute"] } []]))] }

end Discovery

end StubForge
