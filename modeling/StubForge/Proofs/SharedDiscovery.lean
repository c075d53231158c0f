import Mathlib
import StubForge.Plan
import StubForge.Proofs.Limits
import StubForge.Proofs.Partition
import StubForge.Proofs.Runs
import StubForge.Proofs.TypeNames

set_option autoImplicit false

/-!
One discovery for several lists of packages. What it finds below the packages of one of the lists is
what a discovery for that list alone finds, as long as both find every type in the same state.
-/

namespace StubForge.Discovery

-- The types that a discovery asks its loader for.
def typeNames (session : Session) (roots : List Path) (packages : List String) : List String :=
  match (ClassPath.scanOf session.world.disk session.directory roots (some packages)).1 with
  | .ok names => names
  | .error _ => []

def verdict (world : World) (capability : ClassId) (typeName : String) (id : ClassId) : Option Command :=
  if isCommand world capability id then some (world.command typeName id) else none

-- The states in which the open loader of a discovery is asked for types, whatever was asked before.
inductive Loading (roots : List Path) (names : List String) (session : Session) : Loader → Session → Prop where
  | opened (loader entered : Loader) (now : Session)
      (made : Loader.ofRoots session.directory roots = .ok loader)
      (entering : loader.enter session = (.ok entered, now)) : Loading roots names session entered now
  | logged (loader : Loader) (now : Session) (records : List Record)
      (before : Loading roots names session loader now) :
      Loading roots names session loader { now with records := records }
  | asked (loader later : Loader) (now after : Session) (name : String) (loaded : Option ClassId)
      (before : Loading roots names session loader now) (member : name ∈ names)
      (loading : loader.load name now = (.ok (loaded, later), after)) : Loading roots names session later after

-- Asking for a type never fails. Whether it is a class, and which command that class is, depends on the
-- name alone, and so does whether the capability can be asked for its subclasses.
structure Answers (roots : List Path) (names : List String) (capability : ClassId) (session : Session)
    (closed : Bool) (answer : String → Option (Option Command)) : Prop where
  alike : ∀ loader now, Loading roots names session loader now → ∀ name ∈ names, ∃ loaded later after,
    loader.load name now = (.ok (loaded, later), after) ∧
      after.world.isClosedProtocol capability = closed ∧
      loaded.map (verdict after.world capability name) = answer name

def refused : Error := Error.raised "TypeError" closedProtocolText

section

variable {roots : List Path} {names : List String} {capability : ClassId} {session : Session} {closed : Bool}
  {answer : String → Option (Option Command)} (answers : Answers roots names capability session closed answer)
include answers

theorem full_name_of_answer (loader : Loader) (now : Session) (loading : Loading roots names session loader now)
    (name : String) (member : name ∈ names) (command : Command) (found : answer name = some (some command)) :
    command.fullName = name := by
  obtain ⟨loaded, later, after, -, -, same⟩ := answers.alike loader now loading name member
  rw [found] at same
  obtain ⟨id, -, seen⟩ := Option.map_eq_some_iff.mp same
  rw [verdict] at seen
  split at seen
  · rw [← Option.some.inj seen]
    rfl
  · simp at seen

theorem classify_of_answers (packages : List String) (loader : Loader) (now : Session)
    (loading : Loading roots names session loader now) (name : String) (member : name ∈ names)
    (below : Name.inPackages name packages = true) :
    ((closed && (answer name).isSome) = true ∧
        ∃ after, classify packages capability loader name now = (.error refused, after)) ∨
      (closed && (answer name).isSome) = false ∧ ∃ later after,
        classify packages capability loader name now = (.ok ((answer name).join, later), after) ∧
          Loading roots names session later after := by
  obtain ⟨loaded, later, after, load, isClosed, same⟩ := answers.alike loader now loading name member
  have next := Loading.asked loader later now after name loaded loading member load
  rw [classify, if_neg (by simp [below]), bind_ok load, ← same]
  cases loaded with
  | none => exact .inr ⟨by simp, later, after, rfl, next⟩
  | some id =>
      simp only [bind_ok (Run.get_run _), isClosed]
      cases closed with
      | true => exact .inl ⟨rfl, after, rfl⟩
      | false =>
          refine .inr ⟨rfl, later, ?_⟩
          simp only [Option.map_some, Option.join_some, verdict]
          by_cases holds : isCommand after.world capability id = true
          · simp only [holds, if_true, Bool.false_eq_true, if_false]
            exact ⟨_, rfl, .logged _ _ _ next⟩
          · simp only [holds, Bool.false_eq_true, if_false]
            exact ⟨after, rfl, next⟩

theorem classify_all_of_answers (packages : List String) (found : List Command) (loader : Loader) (now : Session)
    (loading : Loading roots names session loader now) (asked : List String)
    (known : ∀ name ∈ asked, name ∈ names ∧ Name.inPackages name packages = true) :
    (classifyAll packages capability loader found asked now).1 =
      if closed && asked.any (fun name => (answer name).isSome) then .error refused
      else .ok ((asked.filterMap fun name => (answer name).join).foldl Command.addNew found) := by
  induction asked generalizing found loader now with
  | nil => simp [classifyAll]
  | cons name rest ih =>
      obtain ⟨member, below⟩ := known name List.mem_cons_self
      rw [classifyAll]
      rcases classify_of_answers answers packages loader now loading name member below with
        ⟨refusing, after, failed⟩ | ⟨allowed, later, after, classified, next⟩
      · rw [bind_error failed, if_pos]
        rw [Bool.and_eq_true] at refusing ⊢
        exact ⟨refusing.1, by simp [refusing.2]⟩
      · rw [bind_ok classified]
        have others : ∀ other ∈ rest, other ∈ names ∧ Name.inPackages other packages = true :=
          fun other inside => known other (List.mem_cons_of_mem name inside)
        have joined : (closed && (name :: rest).any fun name => (answer name).isSome) =
            (closed && rest.any fun name => (answer name).isSome) := by
          rw [List.any_cons, Bool.and_or_distrib_left, allowed, Bool.false_or]
        rw [joined, List.filterMap_cons]
        refine (ih _ later after next others).trans ?_
        cases (answer name).join <;> rfl

end

theorem add_new_of_distinct (found more : List Command) (distinct : ((found ++ more).map (·.fullName)).Nodup) :
    more.foldl Command.addNew found = found ++ more := by
  induction more generalizing found with
  | nil => simp
  | cons command rest ih =>
      have fresh : found.any (·.fullName == command.fullName) = false := by
        rw [List.map_append, List.map_cons] at distinct
        have apart := (List.nodup_append.mp distinct).2.2
        rw [List.any_eq_false]
        intro other inside same
        exact apart other.fullName (List.mem_map_of_mem inside) command.fullName List.mem_cons_self
          (by simpa using same)
      rw [List.foldl_cons, Command.addNew, fresh, ih _ (by simpa using distinct)]
      simp

-- Closing a loader never fails, so what is done with the open loader decides.
theorem with_loader_run {α : Type} (loader opened : Loader) (block : Loader → Run α) (session now : Session)
    (entering : loader.enter session = (.ok opened, now)) :
    (withLoader loader block session).1 = (block opened now).1 := by
  rw [withLoader, bind_ok entering]
  cases done : block opened now with
  | mk result after =>
      have seen : Run.outcome (block opened) now = (.ok result, after) := by rw [Run.outcome, done]
      have closing : ∃ closed later, opened.exit after = (.ok closed, later) := by
        rw [Loader.exit]
        cases opened.savedPath with
        | none => exact ⟨_, _, rfl⟩
        | some path => exact ⟨_, _, rfl⟩
      obtain ⟨closed, later, closing⟩ := closing
      rw [bind_ok seen, bind_ok closing]
      cases result <;> rfl

-- What a discovery makes of the types that the class path offers.
def outcome (closed : Bool) (answer : String → Option (Option Command)) (names : List String) :
    Except Error (List Command) :=
  if closed && names.any (fun name => (answer name).isSome) then .error refused
  else .ok (names.filterMap fun name => (answer name).join)

-- The commands are named after the types that are asked for.
def NamedAlike (names : List String) (answer : String → Option (Option Command)) : Prop :=
  ∀ name ∈ names, ∀ command, answer name = some (some command) → command.fullName = name

theorem full_names_sublist (names : List String) (answer : String → Option (Option Command))
    (named : NamedAlike names answer) :
    ((names.filterMap fun name => (answer name).join).map (·.fullName)).Sublist names := by
  induction names with
  | nil => exact List.Sublist.refl _
  | cons name rest ih =>
      have others := ih fun other member => named other (List.mem_cons_of_mem name member)
      rw [List.filterMap_cons]
      cases found : (answer name).join with
      | none => exact others.cons name
      | some command =>
          rw [Option.join_eq_some_iff] at found
          rw [List.map_cons, named name List.mem_cons_self command found]
          exact others.cons_cons name

theorem filter_commands (packages names : List String) (answer : String → Option (Option Command))
    (named : NamedAlike names answer) :
    Command.filter packages (names.filterMap fun name => (answer name).join) =
      (names.filter (Name.inPackages · packages)).filterMap fun name => (answer name).join := by
  rw [Command.filter, List.filter_filterMap, List.filterMap_filter]
  apply List.filterMap_congr
  intro name member
  cases found : (answer name).join with
  | none => simp
  | some command =>
      have same := named name member command (Option.join_eq_some_iff.mp found)
      rw [Option.filter_some, same]

theorem outcome_of_fewer (closed : Bool) (answer : String → Option (Option Command)) (names : List String)
    (keep : String → Bool) (choose : List Command → List Command)
    (chosen : choose (names.filterMap fun name => (answer name).join) =
      (names.filter keep).filterMap fun name => (answer name).join) :
    (∀ found, outcome closed answer names = .ok found →
        outcome closed answer (names.filter keep) = .ok (choose found)) ∧
      (closed = false → outcome closed answer (names.filter keep) = (outcome closed answer names).map choose) := by
  constructor
  · intro found done
    rw [outcome] at done
    split at done
    · cases done
    · rename_i allowed
      cases done
      rw [outcome, if_neg, chosen]
      intro refusing
      rw [Bool.and_eq_true] at allowed refusing
      obtain ⟨name, member, seen⟩ := List.any_eq_true.mp refusing.2
      exact allowed ⟨refusing.1, List.any_eq_true.mpr ⟨name, (List.mem_filter.mp member).1, seen⟩⟩
  · rintro rfl
    simp [outcome, Except.map, chosen]

section

variable {roots : List Path} {packages : List String} {capability : ClassId} {session : Session} {closed : Bool}
  {answer : String → Option (Option Command)}
  (answers : Answers roots (typeNames session roots packages) capability session closed answer)
include answers

theorem named_alike (loader : Loader) (made : Loader.ofRoots session.directory roots = .ok loader) :
    NamedAlike (typeNames session roots packages) answer :=
  fun name member command found =>
    full_name_of_answer answers _ _ (.opened loader _ _ made rfl) name member command found

theorem discover_of_answers (sound : ClassPath.SoundRoots session.world.disk session.directory roots) :
    (discover roots packages (.known capability) session).1 =
      (ClassPath.scanOf session.world.disk session.directory roots (some packages)).1.bind fun names =>
        (Loader.ofRoots session.directory roots).bind fun _ => outcome closed answer names := by
  have below := ClassPath.scanned_below session.world.disk session.directory packages roots sound
  have distinct := ClassPath.scan_nodup session.world.disk session.directory (some packages) roots
  have named := named_alike answers
  rw [typeNames] at answers named
  rw [discover, ClassPath.scan, bind_run, bind_ok (Run.get_run _)]
  generalize ClassPath.scanOf session.world.disk session.directory roots (some packages) = scanned at *
  obtain ⟨result, records⟩ := scanned
  simp only [bind_ok (Run.modify_run _ _)]
  cases result with
  | error error => rfl
  | ok names =>
      simp only [Run.pure_run, bind_ok (Run.get_run _), Except.bind]
      cases made : Loader.ofRoots session.directory roots with
      | error error => rfl
      | ok loader =>
          have opened : Loading roots names session _ _ := .opened loader _ _ made rfl
          have fresh : ((names.filterMap fun name => (answer name).join).map (·.fullName)).Nodup :=
            (distinct names rfl).sublist (full_names_sublist names answer (named loader made))
          refine (with_loader_run loader _ _ _ _ rfl).trans ?_
          refine (classify_all_of_answers answers packages [] _ _ (opened.logged _ _ _) names
            fun name member => ⟨member, below names rfl name member⟩).trans ?_
          rw [outcome, add_new_of_distinct [] _ (by simpa using fresh), List.nil_append]

end

theorem mem_all_packages (configs : List Configuration) (package : String) :
    package ∈ Plan.allPackages configs ↔ ∃ config ∈ configs, package ∈ config.packages := by
  rw [Plan.allPackages, ClassPath.mem_add_names]
  simp

-- What a discovery makes of a type of a world in which its module is loaded.
def seenIn (world : World) (capability : ClassId) (typeName : String) : Option (Option Command) :=
  match Loader.memberOfModule world (Name.parent typeName) (Name.last typeName) with
  | some (.cls id) => some (verdict world capability typeName id)
  | _ => none

theorem load_of_failed {loader : Loader} {now after : Session} {typeName : String} {error : Error}
    (named : Name.parent typeName ≠ "")
    (failed : loader.loadModule (Name.parent typeName) now = (.error error, after)) :
    loader.load typeName now = (.error error, after) := by
  rw [Loader.load, if_neg named, bind_error failed]

theorem load_of_missing {loader later : Loader} {now after : Session} {typeName : String}
    (named : Name.parent typeName ≠ "")
    (missing : loader.loadModule (Name.parent typeName) now = (.ok (false, later), after)) :
    loader.load typeName now = (.ok (none, later), after) := by
  rw [Loader.load, if_neg named, bind_ok missing]
  rfl

theorem load_of_loaded (loader later : Loader) (now after : Session) (typeName : String)
    (named : Name.parent typeName ≠ "")
    (loaded : loader.loadModule (Name.parent typeName) now = (.ok (true, later), after))
    (capability : ClassId) : ∃ found records,
      loader.load typeName now = (.ok (found, later), { after with records := records }) ∧
        found.map (verdict after.world capability typeName) = seenIn after.world capability typeName := by
  rw [Loader.load, if_neg named, bind_ok loaded, seenIn]
  simp only [Bool.not_true, Bool.false_eq_true, if_false, bind_ok (Run.get_run _)]
  cases Loader.memberOfModule after.world (Name.parent typeName) (Name.last typeName) with
  | none => exact ⟨none, _, rfl, rfl⟩
  | some object =>
      cases object with
      | cls id => exact ⟨some id, after.records, rfl, rfl⟩
      | _ => exact ⟨none, _, rfl, rfl⟩

-- A loader has loaded nothing, or just the one module that all types lie in.
inductive LoadsOnly (module : String) (fresh loaded : World) : Loader → Session → Prop where
  | fresh (loader : Loader) (now : Session) (unknown : loader.known = []) (same : now.world = fresh) :
      LoadsOnly module fresh loaded loader now
  | loaded (loader : Loader) (now : Session) (known : loader.known = [(module, true)])
      (same : now.world = loaded) : LoadsOnly module fresh loaded loader now

theorem load_module_of_loads_only (module : String) (fresh loaded : World)
    (loads : Import.load Import.readSource module fresh = (.ok (), loaded)) (loader : Loader) (now : Session)
    (only : LoadsOnly module fresh loaded loader now) : ∃ later after,
      loader.loadModule module now = (.ok (true, later), after) ∧
        later.known = [(module, true)] ∧ after.world = loaded := by
  cases only with
  | fresh unknown same =>
      have imported : Loader.importModule module now = (.ok (.ok ()), { now with world := loaded }) := by
        rw [Loader.importModule, Run.inWorld, same, loads]
      refine ⟨{ loader with known := [(module, true)] }, { now with world := loaded }, ?_, rfl, rfl⟩
      rw [Loader.loadModule, unknown, List.find?_nil]
      simp only
      rw [bind_ok imported]
      rfl
  | loaded known same =>
      refine ⟨loader, now, ?_, known, same⟩
      rw [Loader.loadModule, known]
      simp

-- The world while a loader is open.
def openedWorld (loader : Loader) (world : World) : World :=
  { world with path := loader.roots.filter (fun root => !world.path.contains root) ++ world.path }

theorem answers_of_one_module (roots : List Path) (names : List String) (capability : ClassId) (session : Session)
    (module : String) (named : module ≠ "") (inside : ∀ name ∈ names, Name.parent name = module)
    (loader : Loader) (made : Loader.ofRoots session.directory roots = .ok loader) (loaded : World)
    (loads : Import.load Import.readSource module (openedWorld loader session.world) = (.ok (), loaded)) :
    Answers roots names capability session (loaded.isClosedProtocol capability) (seenIn loaded capability) := by
  generalize opening : openedWorld loader session.world = fresh at loads
  have asked : ∀ loader now, LoadsOnly module fresh loaded loader now → ∀ name ∈ names,
      ∃ found later after, loader.load name now = (.ok (found, later), after) ∧
        LoadsOnly module fresh loaded later after ∧ after.world = loaded ∧
        found.map (verdict loaded capability name) = seenIn loaded capability name := by
    intro loader now only name member
    obtain ⟨later, after, done, known, same⟩ := load_module_of_loads_only module fresh loaded loads loader now only
    have home := inside name member
    obtain ⟨found, records, result, seen⟩ :=
      load_of_loaded loader later now after name (home ▸ named) (home.symm ▸ done) capability
    refine ⟨found, later, _, result, .loaded later _ known same, same, ?_⟩
    rw [same] at seen
    exact seen
  have unknown : loader.known = [] := by
    rw [Loader.ofRoots] at made
    split at made
    · cases made
    · cases made
      rfl
  have only : ∀ loader now, Loading roots names session loader now → LoadsOnly module fresh loaded loader now := by
    intro loader' now loading
    induction loading with
    | opened other entered now otherMade entering =>
        rw [made] at otherMade
        cases otherMade
        cases entering
        exact .fresh _ _ unknown opening
    | logged loader now records _ ih =>
        cases ih with
        | fresh unknown same => exact .fresh loader _ unknown same
        | loaded known same => exact .loaded loader _ known same
    | asked loader later now after name found _ member loading ih =>
        obtain ⟨_, _, _, result, next, -, -⟩ := asked loader now ih name member
        rw [loading] at result
        cases result
        exact next
  refine ⟨?_⟩
  intro loader now loading name member
  obtain ⟨found, later, after, result, -, same, seen⟩ := asked loader now (only loader now loading) name member
  refine ⟨found, later, after, result, ?_, ?_⟩
  · rw [same]
  · rw [same]
    exact seen

def shop : Session :=
  { world := World.initial { entries := [(["lib"], .folder), (["lib", "shop.py"], .file (.module
      [.define { name := "Open", bases := ["IpcCommand"], methods := ["execute"] } [],
        .define { name := "Bulk" } []]))] } }

def shopRoots : List Path := [{ anchor := .relative, parts := ["lib"] }]
def shopLoader : Loader := { roots := ["/lib"] }
def shopWorld : World := (Import.load Import.readSource "shop" (openedWorld shopLoader shop.world)).2

theorem shop_answers (packages : List String) (listed : packages = ["shop"] ∨ packages = ["shop", "store"]) :
    Answers shopRoots (typeNames shop shopRoots packages) World.commandId shop false
      (seenIn shopWorld World.commandId) := by
  have loads : Import.load Import.readSource "shop" (openedWorld shopLoader shop.world) = (.ok (), shopWorld) := by
    refine Prod.ext ?_ rfl
    cbv
  have unclosed : shopWorld.isClosedProtocol World.commandId = false := by
    decide +kernel
  rw [← unclosed]
  refine answers_of_one_module shopRoots _ World.commandId shop "shop" (by decide) ?_ shopLoader rfl shopWorld loads
  rcases listed with rfl | rfl
  · decide +kernel
  · decide +kernel

end StubForge.Discovery
