import StubForge.Proofs.DiscoveryFrames
import StubForge.Proofs.SharedDiscovery
import StubForge.Proofs.SoleModule

set_option autoImplicit false

/-!
Reading the classes of a module from its source, against running it. A class statement that a run comes to is listed by
the reading, unless it lies in an attempt whose handlers form a group.
-/

namespace StubForge

namespace Exec

section

variable (load : String → Exec Unit) (frame : Frame) (passes : Bool → Prop)

-- The handler that takes an error, and the world that its statements begin in.
inductive Takes (mishap : Mishap) : List (Option String × List Statement) → World → List Statement → World → Prop where
  | here (handler : Option String) (body : List Statement) (rest : List (Option String × List Statement))
      (world now : World) (fits : handles frame handler mishap world = (.ok true, now)) :
      Takes mishap ((handler, body) :: rest) world body now
  | later (handler : Option String) (body chosen : List Statement) (rest : List (Option String × List Statement))
      (world now started : World) (differs : handles frame handler mishap world = (.ok false, now))
      (next : Takes mishap rest now chosen started) : Takes mishap ((handler, body) :: rest) world chosen started

-- Running statements from a world comes to the statement of a class, at module level or inside branches and attempts.
-- Of the attempts it lies in, the handlers may form groups or not.
inductive Executed : List Statement → World → Identifier → Prop where
  | here (head : ClassHead) (inner rest : List Statement) (world : World) :
      Executed (.define head inner :: rest) world head.name
  | later (statement : Statement) (rest : List Statement) (world after : World) (name : Identifier)
      (done : run load frame statement world = (.ok (), after)) (next : Executed rest after name) :
      Executed (statement :: rest) world name
  | branch (condition : Bool) (body orelse rest : List Statement) (world : World) (name : Identifier)
      (inside : Executed (if condition then body else orelse) world name) :
      Executed (.branch condition body orelse :: rest) world name
  | tried (grouped : Bool) (body : List Statement) (handlers : List (Option String × List Statement))
      (orelse cleanup rest : List Statement) (world : World) (name : Identifier) (kind : passes grouped)
      (inside : Executed body world name) : Executed (.attempt grouped body handlers orelse cleanup :: rest) world name
  | handled (grouped : Bool) (body : List Statement) (handlers : List (Option String × List Statement))
      (orelse cleanup rest caught : List Statement) (world left started : World) (mishap : Mishap) (name : Identifier)
      (kind : passes grouped) (failed : runAll load frame body world = (.error mishap, left))
      (taken : Takes frame mishap handlers left caught started) (inside : Executed caught started name) :
      Executed (.attempt grouped body handlers orelse cleanup :: rest) world name
  | otherwise (grouped : Bool) (body : List Statement) (handlers : List (Option String × List Statement))
      (orelse cleanup rest : List Statement) (world after : World) (name : Identifier) (kind : passes grouped)
      (done : runAll load frame body world = (.ok (), after)) (inside : Executed orelse after name) :
      Executed (.attempt grouped body handlers orelse cleanup :: rest) world name
  | cleaned (grouped : Bool) (body : List Statement) (handlers : List (Option String × List Statement))
      (orelse cleanup rest : List Statement) (world after : World) (result : Except Mishap Unit) (name : Identifier)
      (kind : passes grouped)
      (before : attempt frame (runAll load frame body) (runHandlers load frame grouped handlers)
        (runAll load frame orelse) (pure ()) world = (result, after))
      (inside : Executed cleanup after name) :
      Executed (.attempt grouped body handlers orelse cleanup :: rest) world name

end

section

variable {load : String → Exec Unit} {frame : Frame}

theorem listed_of_taken {mishap : Mishap} {handlers : List (Option String × List Statement)} {world started : World}
    {chosen : List Statement} (taken : Takes frame mishap handlers world chosen started) (name : Identifier)
    (inside : name ∈ classNamesIn chosen) : name ∈ classNamesOfHandlers handlers := by
  induction taken with
  | here handler body rest world now fits => exact List.mem_append_left _ inside
  | later handler body chosen rest world now started differs next ih => exact List.mem_append_right _ (ih inside)

-- Every part of a branch and of an ordinary attempt is looked into, so it does not matter which one is run.
theorem listed_of_executed {statements : List Statement} {world : World} {name : Identifier}
    (executed : Executed load frame (· = false) statements world name) : name ∈ classNamesIn statements := by
  have first (statement : Statement) (rest : List Statement) (inside : name ∈ statement.classNames) :
      name ∈ classNamesIn (statement :: rest) := List.mem_append_left _ inside
  induction executed with
  | here head inner rest world => exact first _ _ (by simp [Statement.classNames])
  | later statement rest world after name done next ih => exact List.mem_append_right _ (ih first)
  | branch condition body orelse rest world name inside ih =>
      refine first _ _ ?_
      have listed := ih first
      rw [Statement.classNames, List.mem_append]
      cases condition with
      | true => exact .inl listed
      | false => exact .inr listed
  | tried grouped body handlers orelse cleanup rest world name kind inside ih =>
      subst kind
      exact first _ _ (by simp [Statement.classNames, ih first])
  | handled grouped body handlers orelse cleanup rest caught world left started mishap name kind failed taken inside
    ih =>
      subst kind
      exact first _ _ (by simp [Statement.classNames, listed_of_taken taken name (ih first)])
  | otherwise grouped body handlers orelse cleanup rest world after name kind done inside ih =>
      subst kind
      exact first _ _ (by simp [Statement.classNames, ih first])
  | cleaned grouped body handlers orelse cleanup rest world after result name kind before inside ih =>
      subst kind
      exact first _ _ (by simp [Statement.classNames, ih first])

end

end Exec

/-! ### Types of one module -/

theorem Command.name_of_add_all (found more : List Command) (name : String) :
    (∃ command ∈ more.foldl addNew found, command.fullName = name) ↔
      (∃ command ∈ found, command.fullName = name) ∨ ∃ command ∈ more, command.fullName = name := by
  induction more generalizing found with
  | nil => simp
  | cons first rest ih =>
      have step : (∃ command ∈ addNew found first, command.fullName = name) ↔
          (∃ command ∈ found, command.fullName = name) ∨ first.fullName = name := by
        rw [addNew]
        split
        · rename_i known
          obtain ⟨other, inside, same⟩ := List.any_eq_true.mp known
          refine ⟨.inl, fun held => held.elim id fun own => ⟨other, inside, ?_⟩⟩
          rw [← own]
          simpa using same
        · simp [or_and_right, exists_or]
      rw [List.foldl_cons, ih, step, or_assoc]
      simp

namespace Discovery

section

variable {module : String} (named : module ≠ "") {fresh loaded : World}
  (loads : Import.load Import.readSource module fresh = (.ok (), loaded)) (packages : List String)
  (capability : ClassId) (askable : loaded.isClosedProtocol capability = false)
include named loads askable

theorem classify_of_one_module (loader : Loader) (now : Session) (only : LoadsOnly module fresh loaded loader now)
    (typeName : String) (inside : Name.parent typeName = module) (below : Name.inPackages typeName packages = true) :
    ∃ later after, classify packages capability loader typeName now =
        (.ok ((seenIn loaded capability typeName).join, later), after) ∧ LoadsOnly module fresh loaded later after := by
  obtain ⟨later, middle, done, known, same⟩ := load_module_of_loads_only module fresh loaded loads loader now only
  obtain ⟨found, records, result, seen⟩ :=
    load_of_loaded loader later now middle typeName (inside ▸ named) (inside.symm ▸ done) capability
  rw [same] at seen
  rw [classify, if_neg (by simp [below]), bind_ok result, ← seen]
  cases found with
  | none => exact ⟨later, _, rfl, .loaded _ _ known same⟩
  | some id =>
      simp only [bind_ok (Run.get_run _), same, askable, Bool.false_eq_true, if_false, Option.map_some,
        Option.join_some, verdict]
      split
      · exact ⟨later, _, rfl, .loaded _ _ known rfl⟩
      · exact ⟨later, _, rfl, .loaded _ _ known rfl⟩

theorem classify_all_of_one_module (loader : Loader) (now : Session) (only : LoadsOnly module fresh loaded loader now)
    (found : List Command) (names : List String)
    (inside : ∀ name ∈ names, Name.parent name = module ∧ Name.inPackages name packages = true) :
    (classifyAll packages capability loader found names now).1 =
      .ok ((names.filterMap fun name => (seenIn loaded capability name).join).foldl Command.addNew found) := by
  induction names generalizing loader now found with
  | nil => rfl
  | cons name rest ih =>
      obtain ⟨⟨own, below⟩, others⟩ := List.forall_mem_cons.mp inside
      obtain ⟨later, after, done, next⟩ :=
        classify_of_one_module named loads packages capability askable loader now only name own below
      rw [classifyAll, bind_ok done, List.filterMap_cons]
      refine (ih later after next _ others).trans ?_
      cases (seenIn loaded capability name).join <;> rfl

end

-- What a capability stands for does not depend on what was recorded.
theorem resolve_capability_records (capability : Capability) (session : Session) (records : List Record) :
    resolveCapability capability { session with records := records } =
      ((resolveCapability capability session).1,
        { (resolveCapability capability session).2 with records := records }) := by
  cases capability with
  | known id => rfl
  | named path =>
      simp only [resolveCapability, Loader.resolveDotted]
      split
      · rfl
      · generalize (do
          Import.load Import.readSource (Name.parent path)
          Exec.memberOf (.module (Name.parent path)) (Name.last path)) = block
        simp only [bind_run, Run.inWorld]
        obtain ⟨result, after⟩ := block session.world
        cases result with
        | ok value => cases value <;> rfl
        | error mishap =>
            dsimp only
            cases isErrorOf mishap.kind "ImportError" || isErrorOf mishap.kind "AttributeError" <;> rfl

-- The attribute of a module stands for a class with a capability that is neither a protocol nor abstract nor an
-- enumeration.
def Concrete (world : World) (module : String) (capability : ClassId) (name : String) : Prop :=
  ∃ id, Loader.memberOfModule world module name = some (.cls id) ∧ world.isSubclass id capability = true ∧
    world.isProtocol id = false ∧ world.isAbstract id = false ∧ world.isEnumeration id = false

theorem full_name_of_seen (world : World) (capability : ClassId) (typeName : String) (command : Command)
    (seen : (seenIn world capability typeName).join = some command) : command.fullName = typeName := by
  rw [seenIn] at seen
  split at seen
  · rw [Option.join_some, verdict] at seen
    split at seen
    · rw [← Option.some.inj seen]
      rfl
    · cases seen
  · cases seen

theorem seen_iff_concrete (world : World) (module : String) (capability : ClassId) (name : String)
    (plain : '.' ∉ name.toList) :
    (seenIn world capability (Name.child module name)).join.isSome = true ↔ Concrete world module capability name := by
  rw [seenIn, Name.parent_child module name plain, Name.last_child module name plain, Concrete]
  cases Loader.memberOfModule world module name with
  | none => simp
  | some object =>
      cases object with
      | cls id =>
          simp only [Option.join_some, verdict, Option.some.injEq, Object.cls.injEq, exists_eq_left']
          split
          · rename_i holds
            simpa [isCommand, and_assoc] using holds
          · rename_i fails
            simpa [isCommand, and_assoc] using fails
      | _ => simp

-- The statements of a module are run without an error when its types are first asked for, or have been while the
-- capability was looked for; with how deep loads may be nested in the run, and the worlds it starts and ends in.
inductive Ran (module file : String) (headed : Bool) (statements : List Statement) (world : World) :
    Nat → World → World → Prop where
  | now (ended : World) (unknown : world.module? module = none)
      (done : Exec.runAll (Import.loadFrom Import.readSource Import.depthBelow) { module } statements
        (Import.begun world module file none headed) = (.ok (), ended)) :
      Ran module file headed statements world Import.depthBelow
        (Import.begun world module file none headed) ended
  | before (fuel : Nat) (earlier last : World) (known : (world.module? module).isSome = true)
      (done : Exec.runAll (Import.loadFrom Import.readSource fuel) { module } statements
        (Import.begun earlier module file none headed) = (.ok (), last)) :
      Ran module file headed statements world fuel (Import.begun earlier module file none headed) world

theorem concrete_of_finished (world ended : World) (module : String) (named : ended.Named module)
    (capability : ClassId) (name : String) :
    Concrete (Import.finished world ended module) module capability name ↔ Concrete ended module capability name := by
  have classes : (Import.finished world ended module).classes = ended.classes := World.classes_of_modify _ _ _
  have member : Loader.memberOfModule (Import.finished world ended module) module name =
      Loader.memberOfModule ended module name := by
    rw [Loader.memberOfModule, Loader.memberOfModule, Import.module_of_finished world ended module named]
    cases ended.module? module <;> rfl
  simp only [Concrete, member, World.subclass_of_same_classes classes, World.protocol_of_same_classes classes,
    World.abstract_of_same_classes classes, World.enumeration_of_same_classes classes]

section

variable {disk : Disk} {directory : Place} {roots : List Path} {module : String} {body : MemberBody} {home : Path}
  (sole : ClassPath.SoleModule disk directory roots module body home) {headed : Bool} {statements : List Statement}
  (read : Import.statementsOf Import.readSource body = .ok (headed, statements))
include sole read

-- A module that is run without an error is loaded, and tells of its classes what they were when the run ended.
theorem load_of_ran (world : World) (same : world.disk = disk)
    (held : (home.resolve directory).toString ∈ world.path)
    (alone : Import.Unshadowed disk module (home.resolve directory).toString world.path) (fuel : Nat)
    (started ended : World)
    (ran : Ran module ((home.resolve directory).toString ++ "/" ++ module ++ ".py") headed statements world fuel started
      ended) : ∃ loaded, Import.load Import.readSource module world = (.ok (), loaded) ∧
        loaded.classes = ended.classes ∧
          ∀ capability name, Concrete loaded module capability name ↔ Concrete ended module capability name := by
  have plain := identifier_plain module sole.identifier
  have filled := identifier_filled module sole.identifier
  cases ran with
  | now ended unknown done =>
      have found := Import.find_in_home sole
      have named := Import.named_of_run _ _ module _ _ _ _ _ done (Import.named_of_begun world module _ none headed)
      subst same
      refine ⟨_, Import.load_unshadowed _ _ plain filled world ended unknown _ _ none body found held alone headed
        statements read done, World.classes_of_modify _ _ _, concrete_of_finished world ended module named⟩
  | before fuel earlier last known done =>
      refine ⟨world, ?_, rfl, fun _ _ => Iff.rfl⟩
      rw [Import.load_eq _ _ plain filled, Import.load_from_known _ _ _ _ known]

end

-- The world in which a discovery runs what is below some roots.
def openedFor (session : Session) (roots : List Path) : World :=
  openedWorld { roots := roots.map fun root => (root.resolve session.directory).toString } session.world

theorem discover_run (session : Session) (roots : List Path) (packages : List String) (capability : Capability)
    (free : ∀ root ∈ roots, root.hasNul = false) (names : List String)
    (scanned : (ClassPath.scanOf session.world.disk session.directory roots (some packages)).1 = .ok names)
    (id : ClassId) (now : Session)
    (resolved : resolveCapability capability { session with world := openedFor session roots } = (.ok id, now)) :
    ∃ loader records, loader.known = [] ∧ (discover roots packages capability session).1 =
      (classifyAll packages id loader [] names { now with records := records }).1 := by
  have clean : roots.any Path.hasNul = false := List.any_eq_false.mpr fun root member => by simp [free root member]
  rw [discover, ClassPath.scan, bind_run, bind_ok (Run.get_run _)]
  cases found : ClassPath.scanOf session.world.disk session.directory roots (some packages) with
  | mk result records =>
      rw [found] at scanned
      cases scanned
      simp only [bind_ok (Run.modify_run _ _), Run.pure_run, bind_ok (Run.get_run _)]
      rw [Loader.ofRoots, clean]
      simp only [Bool.false_eq_true, if_false]
      have resolved : resolveCapability capability
          { session with world := openedFor session roots, records := session.records ++ records } =
            (.ok id, { now with records := session.records ++ records }) := by
        have moved := resolve_capability_records capability { session with world := openedFor session roots }
          (session.records ++ records)
        rwa [resolved] at moved
      refine ⟨{
        roots := roots.map fun root => (root.resolve session.directory).toString
        savedPath := some session.world.path }, session.records ++ records, rfl, ?_⟩
      refine (with_loader_run _ _ _ _ _ rfl).trans ?_
      exact congrArg Prod.fst (bind_ok resolved _)

-- A discovery of the package that is the module, over a class path that holds the module alone, finds every class
-- whose statement is executed in a run of the module without an error, unless it lies in an attempt whose handlers form
-- a group, and that is a concrete class of the capability in the end. It finds nothing else.
theorem executed_classes_found (session : Session) (roots : List Path) (module : String) (body : MemberBody)
    (home : Path) (sole : ClassPath.SoleModule session.world.disk session.directory roots module body home)
    (headed : Bool) (statements : List Statement)
    (read : Import.statementsOf Import.readSource body = .ok (headed, statements))
    (alone : Import.Unshadowed session.world.disk module (home.resolve session.directory).toString
      (openedFor session roots).path)
    (capability : Capability) (id : ClassId) (now : Session)
    (resolved : resolveCapability capability { session with world := openedFor session roots } = (.ok id, now))
    (fuel : Nat) (started ended : World)
    (ran : Ran module ((home.resolve session.directory).toString ++ "/" ++ module ++ ".py") headed statements now.world
      fuel started ended)
    (askable : ended.isClosedProtocol id = false) :
    ∃ commands, (discover roots [module] capability session).1 = .ok commands ∧
      (∀ name, Exec.Executed (Import.loadFrom Import.readSource fuel) { module } (· = false) statements started name →
        Concrete ended module id name.text →
          ∃ command ∈ commands, command.fullName = Name.child module name.text) ∧
      ∀ command ∈ commands, ∃ name ∈ Source.classNames statements,
        command.fullName = Name.child module name ∧ Concrete ended module id name := by
  obtain ⟨names, scanned, listed⟩ :=
    ClassPath.scan_sole_module session.world.disk session.directory roots module body home sole headed statements read
  obtain ⟨loader, records, unknown, result⟩ := discover_run session roots [module] capability sole.free names scanned id
    now resolved
  have surroundings : now.world.disk = session.world.disk ∧ now.world.path = (openedFor session roots).path := by
    have steady := steady_of_surroundings fun disk path =>
      disk = session.world.disk ∧ path = (openedFor session roots).path
    have kept := resolve_capability_explored (@explores_within _ session.directory _ steady) capability
      { session with world := openedFor session roots } ⟨⟨rfl, rfl⟩, rfl⟩
    rw [resolved] at kept
    exact kept.1.1
  have held : (home.resolve session.directory).toString ∈ now.world.path := by
    rw [surroundings.2]
    by_cases known : (home.resolve session.directory).toString ∈ session.world.path
    · exact List.mem_append_right _ known
    · exact List.mem_append_left _ (List.mem_filter.mpr ⟨List.mem_map_of_mem sole.member, by simpa using known⟩)
  rw [← surroundings.2] at alone
  obtain ⟨loaded, loads, classes, same⟩ :=
    load_of_ran sole read now.world surroundings.1 held alone fuel started ended ran
  have inside : ∀ name ∈ names, Name.parent name = module ∧ Name.inPackages name [module] = true := by
    intro name member
    obtain ⟨own, among, rfl⟩ := List.mem_map.mp ((listed name).mp member)
    have plain := Source.plain_of_mem_class_names statements own among
    refine ⟨Name.parent_child module own plain, ?_⟩
    rw [Name.in_packages_child module own _ plain]
    exact ClassPath.wanted_alone module
  have classified := classify_all_of_one_module (identifier_filled module sole.identifier) loads [module] id
    ((World.closed_of_same_classes classes id).trans askable) loader _ (.fresh loader { now with records } unknown rfl)
    [] names inside
  refine ⟨_, result.trans classified, ?_, ?_⟩
  · intro name executed concrete
    have among : name.text ∈ Source.classNames statements := by
      rw [Source.classNames, List.mem_eraseDups]
      exact List.mem_map_of_mem (Exec.listed_of_executed executed)
    have seen := (seen_iff_concrete loaded module id name.text name.plain).mpr ((same id name.text).mpr concrete)
    obtain ⟨command, seen⟩ := Option.isSome_iff_exists.mp seen
    refine (Command.name_of_add_all [] _ _).mpr (.inr ⟨command, ?_, full_name_of_seen _ _ _ _ seen⟩)
    exact List.mem_filterMap.mpr ⟨_, (listed _).mpr (List.mem_map_of_mem among), seen⟩
  · intro command member
    rcases (Command.name_of_add_all [] _ command.fullName).mp ⟨command, member, rfl⟩ with
      ⟨_, none, -⟩ | ⟨other, among, called⟩
    · cases none
    · obtain ⟨typeName, offered, seen⟩ := List.mem_filterMap.mp among
      obtain ⟨own, defined, rfl⟩ := List.mem_map.mp ((listed typeName).mp offered)
      have plain := Source.plain_of_mem_class_names statements own defined
      refine ⟨own, defined, called ▸ full_name_of_seen _ _ _ _ seen, (same id own).mp ?_⟩
      exact (seen_iff_concrete loaded module id own plain).mp (by rw [seen]; rfl)

/-! ### A cautious module -/

def commandNamed (name : Identifier) : Statement := .define { name, bases := ["IpcCommand"], methods := ["execute"] } []

-- Every part of an attempt inside a branch defines a command, and each part is run.
def cautious (grouped : Bool) : List Statement :=
  [.branch true [.attempt grouped [commandNamed "A", .raise "ValueError" "no"]
    [(some "ValueError", [commandNamed "B"])] [] [commandNamed "C"]] []]

def cautiousSession (grouped : Bool) : Session where
  world := World.initial { entries := [(["lib"], .folder), (["lib", "m.py"], .file (.module (cautious grouped)))] }

def cautiousRoots : List Path := [{ anchor := .relative, parts := ["lib"] }]

def cautiousBegun (grouped : Bool) : World :=
  Import.begun (openedFor (cautiousSession grouped) cautiousRoots) "m" "/lib/m.py" none true

def cautiousEnd (grouped : Bool) : World :=
  (Exec.runAll (Import.loadFrom Import.readSource Import.depthBelow) { module := "m" } (cautious grouped)
    (cautiousBegun grouped)).2

theorem cautious_rooted (grouped : Bool) : (cautiousSession grouped).world.disk.Rooted := by
  refine Disk.rooted_of_entries _ fun entry member => ?_
  rcases List.mem_cons.mp member with rfl | later
  · rfl
  · rw [List.mem_singleton.mp later]
    rfl

theorem cautious_sole (grouped : Bool) : ClassPath.SoleModule (cautiousSession grouped).world.disk [] cautiousRoots "m"
    (.module (cautious grouped)) { anchor := .relative, parts := ["lib"] } where
  rooted := cautious_rooted grouped
  settled := by simp
  plain := by
    intro part member
    rw [List.mem_singleton.mp member]
    exact ⟨by decide, by decide, by decide⟩
  free := by
    intro root member
    rw [List.mem_singleton.mp member]
    decide
  identifier := by decide
  notInit := by decide
  notMain := by decide
  offers := by
    intro root member
    rw [List.mem_singleton.mp member]
    refine .folder ["lib"] rfl ?_
    intro components content inside
    have alone : (cautiousSession grouped).world.disk.below ["lib"] =
        [(["m.py"], .file (.module (cautious grouped)))] := rfl
    rw [alone, List.mem_singleton] at inside
    cases inside
    exact ⟨rfl, rfl⟩
  member := List.mem_singleton.mpr rfl
  holds := .folder ["lib"] rfl rfl

theorem cautious_ran (grouped : Bool) : Ran "m" "/lib/m.py" true (cautious grouped)
    (openedFor (cautiousSession grouped) cautiousRoots) Import.depthBelow (cautiousBegun grouped)
    (cautiousEnd grouped) := by
  refine .now (cautiousEnd grouped) (by cases grouped <;> rfl) (pair_of_fst ?_)
  obtain ⟨_, done, -⟩ := ok_of_computed (Exec.runAll (Import.loadFrom Import.readSource Import.depthBelow)
    { module := "m" } (cautious grouped) (cautiousBegun grouped)).1 (fun _ => true) (by
      cases grouped
      · decide +kernel
      · decide +kernel)
  exact done

section

variable (grouped : Bool)

def cautiousLoad : String → Exec Unit := Import.loadFrom Import.readSource Import.depthBelow

def cautiousTried : Except Mishap Unit × World :=
  Exec.runAll cautiousLoad { module := "m" } [commandNamed "A", .raise "ValueError" "no"]
    (cautiousBegun grouped)

def cautiousMishap : Mishap := { kind := "ValueError", message := "no" }

theorem cautious_failed : cautiousTried grouped = (.error cautiousMishap, (cautiousTried grouped).2) := by
  obtain ⟨mishap, failed, plain⟩ := error_of_computed (cautiousTried grouped).1 (·.isPlain "ValueError" "no") (by
    cases grouped
    · decide +kernel
    · decide +kernel)
  rw [Mishap.eq_of_is_plain plain] at failed
  exact pair_of_fst failed

theorem cautious_handled : Exec.handles { module := "m" } (some "ValueError") cautiousMishap (cautiousTried grouped).2 =
    (.ok true, (Exec.handles { module := "m" } (some "ValueError") cautiousMishap (cautiousTried grouped).2).2) := by
  obtain ⟨answer, handled, holds⟩ := ok_of_computed
    (Exec.handles { module := "m" } (some "ValueError") cautiousMishap (cautiousTried grouped).2).1 id (by
      cases grouped
      · decide +kernel
      · decide +kernel)
  obtain rfl : answer = true := holds
  exact pair_of_fst handled

theorem cautious_executed (passes : Bool → Prop) (kind : passes grouped) (name : Identifier)
    (member : name ∈ [("A" : Identifier), "B", "C"]) :
    Exec.Executed cautiousLoad { module := "m" } passes (cautious grouped) (cautiousBegun grouped) name := by
  have own (name : Identifier) (world : World) :
      Exec.Executed cautiousLoad { module := "m" } passes [commandNamed name] world name := .here _ _ _ _
  refine .branch true _ _ _ _ name ?_
  simp only [List.mem_cons, List.not_mem_nil, or_false] at member
  rcases member with rfl | rfl | rfl
  · exact .tried _ _ _ _ _ _ _ _ kind (.here _ _ _ _)
  · exact .handled _ _ _ _ _ _ _ _ _ _ cautiousMishap _ kind (cautious_failed grouped)
      (.here _ _ _ _ _ (cautious_handled grouped)) (own _ _)
  · exact .cleaned _ _ _ _ _ _ _ _ _ _ kind Prod.mk.eta.symm (own _ _)

end

theorem cautious_concrete (grouped : Bool) (name : Identifier) (member : name ∈ [("A" : Identifier), "B", "C"]) :
    Concrete (cautiousEnd grouped) "m" World.commandId name.text := by
  have seen : [("A" : Identifier), "B", "C"].all (fun name =>
      (seenIn (cautiousEnd grouped) World.commandId (Name.child "m" name.text)).join.isSome) = true := by
    cases grouped
    · decide +kernel
    · decide +kernel
  exact (seen_iff_concrete _ _ _ _ name.plain).mp (List.all_eq_true.mp seen name member)

theorem cautious_askable : (cautiousEnd false).isClosedProtocol World.commandId = false := by
  decide +kernel

theorem cautious_classes_found : ∃ commands,
    (discover cautiousRoots ["m"] (.known World.commandId) (cautiousSession false)).1 = .ok commands ∧
      ∀ name ∈ [("A" : Identifier), "B", "C"], ∃ command ∈ commands, command.fullName = Name.child "m" name.text := by
  obtain ⟨commands, found, all, -⟩ := executed_classes_found (cautiousSession false) cautiousRoots "m"
    (.module (cautious false)) { anchor := .relative, parts := ["lib"] } (cautious_sole false) true (cautious false) rfl
    (fun _ member different => absurd (List.mem_singleton.mp member) different) (.known World.commandId) World.commandId
    _ rfl _ _ _ (cautious_ran false) cautious_askable
  exact ⟨commands, found, fun name member =>
    all name (cautious_executed false (· = false) rfl name member) (cautious_concrete false name member)⟩

-- The classes that an attempt with grouped handlers defines are passed over, though the module runs without an error
-- and comes to each of them.
theorem grouped_attempt_hides_classes :
    ClassPath.SoleModule (cautiousSession true).world.disk [] cautiousRoots "m" (.module (cautious true))
      { anchor := .relative, parts := ["lib"] } ∧
    Ran "m" "/lib/m.py" true (cautious true) (openedFor (cautiousSession true) cautiousRoots) Import.depthBelow
      (cautiousBegun true) (cautiousEnd true) ∧
    (∀ name ∈ [("A" : Identifier), "B", "C"],
      Exec.Executed cautiousLoad { module := "m" } (fun _ => True) (cautious true) (cautiousBegun true) name ∧
        Concrete (cautiousEnd true) "m" World.commandId name.text) ∧
    (discover cautiousRoots ["m"] (.known World.commandId) (cautiousSession true)).1 = .ok [] :=
  ⟨cautious_sole true, cautious_ran true,
    fun name member => ⟨cautious_executed true _ trivial name member, cautious_concrete true name member⟩, by rfl⟩

end Discovery

end StubForge
