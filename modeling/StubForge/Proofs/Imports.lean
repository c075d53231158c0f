import StubForge.Proofs.LibraryFrames

set_option autoImplicit false

/-!
What loading a module comes to: its statements are run in a world that knows the module, and the module is forgotten
where that fails. An invariant of running statements is an invariant of loading modules.
-/

namespace StubForge.Import

-- The record of a module from a source, before its statements are run.
def recordOf (world : World) (name file : String) (searchPath : Option (List String)) (headed : Bool) : ModuleRecord :=
  let inArchive := (archiveAbove world.disk [] (Path.ofString file).parts).isSome
  let own := dunderBindings name (some file) searchPath inArchive
  { name, file := some file, searchPath, initializing := true
    globals := if headed then own ++ World.headerBindings else own }

-- The world in which the statements of a module are run.
def begun (world : World) (name file : String) (searchPath : Option (List String)) (headed : Bool) : World :=
  { world.setModule (recordOf world name file searchPath headed) with scopes := [] }

-- The world after the statements of a module have run without an error.
def finished (world ended : World) (name : String) : World :=
  ({ ended with scopes := world.scopes } : World).modifyModule name fun record => { record with initializing := false }

theorem named_of_begun (world : World) (name file : String) (searchPath : Option (List String)) (headed : Bool) :
    (begun world name file searchPath headed).Named name := by
  intro record found
  change (world.setModule (recordOf world name file searchPath headed)).module? name = some record at found
  rw [World.module_of_set, if_pos (show (recordOf world name file searchPath headed).name = name from rfl)] at found
  cases found
  rfl

theorem module_of_finished (world ended : World) (name : String) (named : ended.Named name) :
    (finished world ended name).module? name =
      (ended.module? name).map fun record => { record with initializing := false } := by
  have stored := World.module_of_modify ({ ended with scopes := world.scopes } : World) name name
    (fun record => { record with initializing := false }) named
  rwa [if_pos rfl] at stored

-- The world after they have failed.
def abandoned (world ended : World) (name : String) : World :=
  ({ ended with scopes := world.scopes } : World).forgetModule name

section

variable (run : Frame → List Statement → Exec Unit) (readSource : Bytes → Except Mishap (List Statement))

omit run readSource in
theorem outcome_run (block : Exec Unit) (world : World) :
    Exec.outcome block world =
      match block world with
      | (.ok (), after) => (.ok none, after)
      | (.error mishap, after) => (.ok (some mishap), after) := by
  rw [Exec.outcome, try_catch_run, bind_run]
  obtain ⟨result, after⟩ := block world
  cases result <;> rfl

theorem outside_scopes_run (block : Exec Unit) (world : World) :
    outsideScopes block world =
      match block { world with scopes := [] } with
      | (result, after) => (result, { after with scopes := world.scopes }) := by
  have inner : Exec.outcome block { world with scopes := [] } = _ := outcome_run block _
  change (Exec.outcome block >>= _) { world with scopes := [] } = _
  rw [bind_run, inner]
  obtain ⟨result, after⟩ := block { world with scopes := [] }
  cases result <;> rfl

theorem install_source (name file : String) (searchPath : Option (List String)) (body : MemberBody)
    (parts : List String) (world : World) :
    install run readSource name (.source file searchPath body) parts world =
      match statementsOf readSource body with
      | .error mishap =>
          (.error mishap, (world.setModule (recordOf world name file searchPath false)).forgetModule name)
      | .ok (headed, statements) =>
          match run { module := name } statements (begun world name file searchPath headed) with
          | (.ok (), ended) => (.ok (), finished world ended name)
          | (.error mishap, ended) => (.error mishap, abandoned world ended name) := by
  have reading : (get : Exec World) world = (.ok world, world) := rfl
  have knowing (change : World → World) (now : World) : (modify change : Exec Unit) now = (.ok (), change now) := rfl
  have own : ({
      name, file := some file, searchPath, initializing := true
      globals := dunderBindings name (some file) searchPath
        (archiveAbove world.disk [] (Path.ofString file).parts).isSome } : ModuleRecord) =
    recordOf world name file searchPath false := rfl
  simp only [install]
  rw [bind_ok reading]
  simp only [own]
  rw [bind_ok (knowing _ _), bind_run, outcome_run]
  cases read : statementsOf readSource body with
  | error mishap => rfl
  | ok found =>
      obtain ⟨headed, statements⟩ := found
      simp only [begun]
      cases headed with
      | false =>
          simp only [Bool.false_eq_true, if_false]
          rw [outside_scopes_run]
          generalize run _ statements _ = ran
          obtain ⟨result, ended⟩ := ran
          cases result <;> rfl
      | true =>
          have known : (world.setModule (recordOf world name file searchPath false)).modifyModule name (fun record =>
              { record with globals := record.globals ++ World.headerBindings }) =
              world.setModule (recordOf world name file searchPath true) :=
            World.modify_of_set world (recordOf world name file searchPath false) _ rfl
          simp only [if_true]
          rw [bind_ok (knowing _ _), known, outside_scopes_run]
          generalize run _ statements _ = ran
          obtain ⟨result, ended⟩ := ran
          cases result <;> rfl

end

-- A loaded submodule becomes an attribute of its package.
def link (name : String) (world : World) : World :=
  world.modifyModule (Name.parent name) fun record =>
    { record with globals := Json.setMember (Name.last name) (.module name) record.globals }

section

variable (readSource : Bytes → Except Mishap (List Statement)) (fuel : Nat) (name : String) (world : World)

theorem load_from_known (known : (world.module? name).isSome = true) :
    loadFrom readSource (fuel + 1) name world = (.ok (), world) := by
  have reading : (get : Exec World) world = (.ok world, world) := rfl
  rw [loadFrom, bind_ok reading, if_pos known]
  rfl

theorem load_from_top (unknown : world.module? name = none) (top : (Name.splitLast name.toList).1 = none) :
    loadFrom readSource (fuel + 1) name world =
      install (Exec.runAll (loadFrom readSource fuel)) readSource name (search world.disk name [] world.path).1
        (search world.disk name [] world.path).2 world := by
  have reading : (get : Exec World) world = (.ok world, world) := rfl
  rw [loadFrom, bind_ok reading, if_neg (by simp [unknown]), top]
  dsimp only
  rw [bind_ok reading]

-- A submodule is looked for in the places of its package, which is loaded first.
theorem load_from_below (unknown : world.module? name = none) (above : List Char)
    (dotted : (Name.splitLast name.toList).1 = some above) :
    loadFrom readSource (fuel + 1) name world =
      if Name.parent name = "" then (.error { kind := "ValueError", message := "Empty module name" }, world)
      else match loadFrom readSource fuel (Name.parent name) world with
      | (.error mishap, middle) => (.error mishap, middle)
      | (.ok (), middle) =>
          if (middle.module? name).isSome then (.ok (), middle)
          else
            match (middle.module? (Name.parent name)).bind (·.searchPath) with
            | none =>
                (.error {
                  kind := "ModuleNotFoundError"
                  message := Exec.missingModule name ++ "; " ++ Text.quoted (Name.parent name) ++
                    " is not a package" }, middle)
            | some places =>
                let (finding, parts) := search middle.disk (Name.last name) [] places
                match install (Exec.runAll (loadFrom readSource fuel)) readSource name finding parts middle with
                | (.error mishap, after) => (.error mishap, after)
                | (.ok (), after) => (.ok (), link name after) := by
  have reading (now : World) : (get : Exec World) now = (.ok now, now) := rfl
  have parent : Name.parent name = String.ofList above := by rw [Name.parent, dotted]; rfl
  rw [loadFrom, bind_ok (reading world), if_neg (by simp [unknown]), dotted]
  dsimp only
  rw [← parent]
  split
  · rfl
  · rw [bind_run]
    obtain ⟨result, middle⟩ := loadFrom readSource fuel (Name.parent name) world
    cases result with
    | error mishap => rfl
    | ok done =>
        dsimp only
        rw [bind_ok (reading middle)]
        split
        · rfl
        · cases (middle.module? (Name.parent name)).bind (·.searchPath) with
          | none => rfl
          | some places =>
              dsimp only
              rw [bind_run]
              obtain ⟨result, after⟩ := install _ _ name _ _ middle
              cases result <;> rfl

end

section

variable {readSource : Bytes → Except Mishap (List Statement)} {invariant : World → Prop}

-- Only what installs a module that is not known changes the world.
theorem still_load_above (fuel : Nat) (below : ∀ name, Still invariant (loadFrom readSource fuel name))
    (installs : ∀ name finding parts world, invariant world → world.module? name = none → ∀ result after,
      install (Exec.runAll (loadFrom readSource fuel)) readSource name finding parts world = (result, after) →
        invariant after ∧ (result = .ok () → invariant (link name after)))
    (name : String) : Still invariant (loadFrom readSource (fuel + 1) name) := by
  refine fun world holds => ⟨?_, fun _ _ => trivial⟩
  cases known : world.module? name with
  | some record =>
      rw [load_from_known _ _ _ _ (by simp [known])]
      exact holds
  | none =>
      cases dotted : (Name.splitLast name.toList).1 with
      | none =>
          rw [load_from_top _ _ _ _ known dotted]
          exact (installs name _ _ world holds known _ _ rfl).1
      | some above =>
          rw [load_from_below _ _ _ _ known above dotted]
          split
          · exact holds
          · have kept := (below (Name.parent name) world holds).1
            generalize loadFrom readSource fuel (Name.parent name) world = loaded at kept
            obtain ⟨result, middle⟩ := loaded
            cases result with
            | error mishap => exact kept
            | ok done =>
                dsimp only at kept ⊢
                split
                · exact kept
                · rename_i unknown
                  have absent : middle.module? name = none := by simpa using unknown
                  cases (middle.module? (Name.parent name)).bind (·.searchPath) with
                  | none => exact kept
                  | some places =>
                      have held := installs name (search middle.disk (Name.last name) [] places).1
                        (search middle.disk (Name.last name) [] places).2 middle kept absent
                      cases done : install (Exec.runAll (loadFrom readSource fuel)) readSource name
                        (search middle.disk (Name.last name) [] places).1
                        (search middle.disk (Name.last name) [] places).2 middle with
                      | mk result after =>
                          dsimp only
                          rw [done]
                          obtain ⟨kept, linked⟩ := held result after done
                          cases result with
                          | error mishap => exact kept
                          | ok done => exact linked rfl

-- What holds of a world after a module that was not known was looked at; `inner` holds while its statements are run.
theorem install_leads {run : Frame → List Statement → Exec Unit} {inner : World → Prop} (name : String) (world : World)
    (starts : ∀ record : ModuleRecord, record.name = name → inner (world.setModule record))
    (scopes : ∀ world scopes, inner world → inner { world with scopes := scopes })
    (runs : ∀ statements, Still inner (run { module := name } statements))
    (ends : ∀ ended, inner ended → invariant (ended.modifyModule name fun record =>
      { record with initializing := false }))
    (fails : ∀ ended, inner ended → invariant (ended.forgetModule name)) (missing : invariant world)
    (portions : ∀ record : ModuleRecord, record.name = name → invariant (world.setModule record))
    (finding : Finding) (parts : List String) : invariant (install run readSource name finding parts world).2 := by
  have collected : invariant (install run readSource name .nothing parts world).2 := by
    simp only [install]
    split
    · exact missing
    · exact portions _ rfl
  cases finding with
  | nothing => exact collected
  | portion place => exact collected
  | source file searchPath body =>
      rw [install_source]
      cases statementsOf readSource body with
      | error mishap => exact fails _ (starts _ rfl)
      | ok found =>
          obtain ⟨headed, statements⟩ := found
          have began : inner (begun world name file searchPath headed) := scopes _ _ (starts _ rfl)
          have kept := (runs statements _ began).1
          dsimp only
          generalize run _ statements _ = ran at kept
          obtain ⟨result, ended⟩ := ran
          cases result with
          | ok done => exact ends _ (scopes _ _ kept)
          | error mishap => exact fails _ (scopes _ _ kept)

end

end StubForge.Import

namespace StubForge

-- Every change that loading modules makes keeps an invariant; only modules that are not known are begun.
structure SteadyImports (invariant : World → Prop) (changeable : String → Prop) : Prop
    extends Steady invariant changeable where
  begun : ∀ (world : World) (record : ModuleRecord), world.module? record.name = none → invariant world →
    changeable record.name ∧ invariant (world.setModule record)
  forgotten : ∀ world name, changeable name → invariant world → invariant (world.forgetModule name)
  linked : ∀ (before world : World) name, before.module? name = none → invariant before → invariant world →
    invariant (Import.link name world)

namespace Import

section

variable {invariant : World → Prop} {changeable : String → Prop} (steady : SteadyImports invariant changeable)
  (readSource : Bytes → Except Mishap (List Statement))
include steady

theorem still_install (fuel : Nat) (grows : ∀ first name, Still (Grown first) (loadFrom readSource fuel name))
    (loads : ∀ name, Still invariant (loadFrom readSource fuel name)) (name : String) (finding : Finding)
    (parts : List String) (world : World) (holds : invariant world) (unknown : world.module? name = none)
    (result : Except Mishap Unit) (after : World)
    (done : install (Exec.runAll (loadFrom readSource fuel)) readSource name finding parts world = (result, after)) :
    invariant after ∧ (result = .ok () → invariant (link name after)) := by
  have free := fun (record : ModuleRecord) (own : record.name = name) =>
    steady.begun world record (own ▸ unknown) holds
  have changing : changeable name := (free { name } rfl).1
  have kept : invariant after := by
    have led := @install_leads readSource invariant (Exec.runAll (loadFrom readSource fuel)) invariant name world
      (fun record own => (free record own).2) steady.scopes
      (fun statements => Exec.still_run_all grows statements steady.toSteady loads { module := name } changing)
      (fun ended inside => steady.bound ended name _ changing (fun _ => rfl) inside)
      (fun ended inside => steady.forgotten ended name changing inside) holds
      (fun record own => (free record own).2) finding parts
    rwa [done] at led
  exact ⟨kept, fun _ => steady.linked world after name unknown holds kept⟩

omit steady in
theorem steady_imports_of_grown (first : World) : SteadyImports (Grown first) fun _ => True where
  toSteady := steady_of_grown first _
  begun _ _ _ grown := ⟨trivial, grown_trans grown (grown_of_same_classes rfl)⟩
  forgotten _ _ _ grown := grown_trans grown (grown_of_same_classes rfl)
  linked _ world name _ _ grown :=
    grown_trans grown (grown_of_same_classes (World.classes_of_modify world (Name.parent name) _))

-- By induction on how deep loads may be nested.
omit steady in
theorem grows_load_from (fuel : Nat) (first : World) (name : String) :
    Still (Grown first) (loadFrom readSource fuel name) := by
  induction fuel generalizing first name with
  | zero => exact Exec.still_fail _ _
  | succ fuel ih =>
      exact still_load_above fuel (ih first)
        (still_install (steady_imports_of_grown first) readSource fuel ih (ih first)) name

theorem still_load_from (fuel : Nat) (name : String) : Still invariant (loadFrom readSource fuel name) := by
  induction fuel generalizing name with
  | zero => exact Exec.still_fail _ _
  | succ fuel ih =>
      exact still_load_above fuel ih (still_install steady readSource fuel (grows_load_from readSource fuel) ih) name

theorem still_load (name : String) : Still invariant (load readSource name) := by
  unfold load
  split
  · exact Exec.still_fail _ _
  · split
    · exact Exec.still_fail _ _
    · exact still_load_from steady readSource _ _

end

/-! ### Searching -/

-- No other place on a search path has a source for a name.
def Unshadowed (disk : Disk) (name entry : String) (places : List String) : Prop :=
  ∀ other ∈ places, other ≠ entry → ∀ file searchPath body, findIn disk other name ≠ .source file searchPath body

theorem search_unshadowed (disk : Disk) (name entry : String) (places parts : List String) (file : String)
    (searchPath : Option (List String)) (body : MemberBody)
    (found : findIn disk entry name = .source file searchPath body) (held : entry ∈ places)
    (alone : Unshadowed disk name entry places) :
    (search disk name parts places).1 = .source file searchPath body := by
  induction places generalizing parts with
  | nil => cases held
  | cons other rest ih =>
      obtain ⟨own, others⟩ := List.forall_mem_cons.mp alone
      rw [search]
      by_cases here : other = entry
      · rw [here, found]
      · have later := (List.mem_cons.mp held).resolve_left (Ne.symm here)
        cases seen : findIn disk other name with
        | source file searchPath body => exact absurd seen (own here file searchPath body)
        | portion place => exact ih _ later others
        | nothing => exact ih _ later others

-- How deep loads may be nested below the load of a module.
def depthBelow : Nat := depthLimit - 1

theorem load_eq (readSource : Bytes → Except Mishap (List Statement)) (name : String) (plain : '.' ∉ name.toList)
    (filled : name ≠ "") (world : World) :
    load readSource name world = loadFrom readSource (depthBelow + 1) name world := by
  have relative : name.startsWith "." = false := by
    rw [String.startsWith_string_eq_false_iff]
    intro lead
    exact plain (lead.subset (by simp))
  rw [load, relative, if_neg (by simp), if_neg filled]
  rfl

theorem load_unshadowed (readSource : Bytes → Except Mishap (List Statement)) (name : String)
    (plain : '.' ∉ name.toList) (filled : name ≠ "") (world ended : World) (unknown : world.module? name = none)
    (entry file : String)
    (searchPath : Option (List String)) (body : MemberBody)
    (found : findIn world.disk entry name = .source file searchPath body) (held : entry ∈ world.path)
    (alone : Unshadowed world.disk name entry world.path) (headed : Bool) (statements : List Statement)
    (read : statementsOf readSource body = .ok (headed, statements))
    (ran : Exec.runAll (loadFrom readSource depthBelow) { module := name } statements
      (begun world name file searchPath headed) = (.ok (), ended)) :
    load readSource name world = (.ok (), finished world ended name) := by
  rw [load_eq readSource name plain filled world, load_from_top _ _ _ _ unknown (by
    rw [Name.split_last_of_not_mem name.toList plain]),
    search_unshadowed world.disk name entry world.path [] file searchPath body found held alone, install_source, read]
  simp only [ran]

end Import

end StubForge
