import StubForge.Discovery
import StubForge.Proofs.Alike
import StubForge.Proofs.Imports
import StubForge.Proofs.Scanning

set_option autoImplicit false

/-!
Discovery reads the disk and leaves it alone, whatever the libraries that it loads do, and nothing in it depends on the
records that were made. What running libraries keeps, a discovery keeps.
-/

namespace StubForge

-- A property of the disk and of the places where modules are looked for.
theorem steady_of_surroundings (property : Disk → List String → Prop) :
    SteadyImports (fun world => property world.disk world.path) fun _ => True where
  scopes _ _ holds := holds
  tagged _ holds := holds
  decorated _ _ _ holds := holds
  registered _ _ _ holds := holds
  defined _ _ _ holds := holds
  bound world name change _ _ holds := by rwa [World.disk_of_modify, World.path_of_modify]
  begun _ _ _ holds := ⟨trivial, holds⟩
  forgotten _ _ _ holds := holds
  linked _ world name _ _ holds := by rwa [Import.link, World.disk_of_modify, World.path_of_modify]

theorem steady_of_named (name : String) : SteadyImports (World.Named name) fun _ => True where
  scopes _ _ named := named
  tagged _ named := named
  decorated _ _ _ named := named
  registered _ _ _ named := named
  defined _ _ _ named := named
  bound world _ change _ _ named := World.named_of_modify world _ name change named
  begun world record _ named := ⟨trivial, World.named_of_set world record name named⟩
  forgotten world _ _ named := World.named_of_forget world _ name named
  linked _ world _ _ _ named := World.named_of_modify world _ name _ named

theorem Import.named_of_run (readSource : Bytes → Except Mishap (List Statement)) (fuel : Nat) (name : String)
    (frame : Frame) (statements : List Statement) (started ended : World) (result : Except Mishap Unit)
    (ran : Exec.runAll (loadFrom readSource fuel) frame statements started = (result, ended))
    (named : started.Named name) : ended.Named name := by
  have steady := steady_of_named name
  have kept := Exec.still_run_all (grows_load_from readSource fuel) statements steady.toSteady
    (still_load_from steady readSource fuel) frame trivial started named
  rw [ran] at kept
  exact kept.1

/-! ### What discoveries are put together of -/

-- An error from before the first configuration is generated. A failure of the program's own is about the configurations
-- or about the class path.
def Error.Early : Error → Prop
  | .failure (.of none (.configuration _)) => True
  | .failure (.of none (.classpath _)) => True
  | .failure _ => False
  | .mishap _ => True

theorem ClassPath.early_of_scan (disk : Disk) (directory : Place) (roots : List Path) (packages : Option (List String))
    (error : Error) (records : List Record)
    (failed : scanOf disk directory roots packages = (.error error, records)) : error.Early := by
  rcases scan_error disk directory packages roots error (by rw [failed]) with ⟨fault, rfl⟩ | ⟨root, -, rfl⟩ <;> trivial

-- Sessions that differ in their disk and their records only.
structure Session.SameButDisk (now other : Session) : Prop where
  world : other.world = now.world.onto other.world.disk
  directory : other.directory = now.directory

-- A kind of steps to which belongs whatever is put together of steps of the kind, as an open loader does it: it looks
-- at the world but for its disk and at the directory, makes records, and loads what it is asked for.
structure Explores (P : (α : Type) → Run α → Prop) : Prop where
  pure : ∀ {α : Type} (value : α), P α (pure value)
  throw : ∀ {α : Type} (error : Error), error.Early → P α (throw error)
  bind : ∀ {α β : Type} {block : Run α} {next : α → Run β},
    P α block → (∀ value, P β (next value)) → P β (block >>= next)
  read : ∀ {α : Type} {next : Session → Run α},
    (∀ now other : Session, now.SameButDisk other → next now = next other) →
      (∀ now, P α (next now)) → P α (get >>= next)
  noted : ∀ records, P PUnit (modify fun session => { session with records := session.records ++ records })
  loaded : ∀ name, P _ (Loader.importModule name)
  looked : ∀ module name, P _ (Run.inWorld (do
    Import.load Import.readSource module
    Exec.memberOf (.module module) name))

-- To which belongs also to look through roots, and what opens and closes a loader.
structure Roams (P : (α : Type) → Run α → Prop) : Prop extends Explores P where
  scanned : ∀ roots packages, P _ (ClassPath.scan roots packages)
  moved : ∀ path, P PUnit (Loader.setPath path)
  closed : ∀ {α β : Type} {block : Run α} {closing : Run β}, P α block → P β closing → P α (do
    let result ← Run.outcome block
    let _ ← closing
    match result with
    | .ok value => return value
    | .error error => MonadExcept.throw error)

section

variable {P : (α : Type) → Run α → Prop} (explores : Explores P)
include explores

theorem said_explored (level : Level) (message : String) : P PUnit (Run.say level message) :=
  explores.noted [{ level, message }]

omit explores in
theorem if_explored {α : Type} {condition : Prop} [Decidable condition] {yes no : Run α} (left : P α yes)
    (right : P α no) : P α (if condition then yes else no) := by
  split
  · exact left
  · exact right

namespace Loader

theorem load_module_explored (loader : Loader) (name : String) : P _ (loader.loadModule name) := by
  unfold loadModule
  split
  · exact explores.pure _
  · refine explores.bind (explores.loaded name) fun result => ?_
    split
    · exact explores.pure _
    · refine if_explored (explores.bind (said_explored explores _ _) fun _ => explores.pure _) ?_
      exact if_explored (explores.throw _ trivial) (explores.throw _ trivial)

theorem load_explored (loader : Loader) (typeName : String) : P _ (loader.load typeName) := by
  unfold load
  refine if_explored (explores.pure _) (explores.bind (load_module_explored explores _ _)
    fun (found, loader) => if_explored (explores.pure _) ?_)
  refine explores.read (fun now other same => by rw [same.world]; rfl) fun session => ?_
  split
  · exact explores.pure _
  · exact explores.bind (said_explored explores _ _) fun _ => explores.pure _

theorem resolve_dotted_explored (path : String) : P _ (resolveDotted path) := by
  unfold resolveDotted
  refine if_explored (explores.throw _ trivial) (explores.bind (explores.looked _ _) fun result => ?_)
  split
  · exact explores.pure _
  · exact if_explored (explores.throw _ trivial) (explores.throw _ trivial)

end Loader

namespace Discovery

theorem classify_explored (packages : List String) (capability : ClassId) (loader : Loader) (typeName : String) :
    P _ (classify packages capability loader typeName) := by
  unfold classify
  refine if_explored (explores.pure _) (explores.bind (Loader.load_explored explores _ _)
    fun (loaded, loader) => ?_)
  dsimp only
  split
  · exact explores.pure _
  · refine explores.read (fun now other same => ?_) fun session => ?_
    · rw [same.world, isCommand, isCommand, World.onto_is_subclass]
      rfl
    exact if_explored (explores.throw _ trivial) (if_explored
      (explores.bind (said_explored explores _ _) fun _ => explores.pure _) (explores.pure _))

theorem classify_all_explored (packages : List String) (capability : ClassId) (typeNames : List String)
    (loader : Loader) (found : List Command) : P _ (classifyAll packages capability loader found typeNames) := by
  induction typeNames generalizing loader found with
  | nil => exact explores.pure _
  | cons typeName rest ih =>
      rw [classifyAll]
      exact explores.bind (classify_explored explores _ _ _ _) fun _ => ih _ _

theorem resolve_capability_explored (capability : Capability) : P _ (resolveCapability capability) := by
  cases capability with
  | known id => exact explores.pure _
  | named path =>
      refine explores.bind (Loader.resolve_dotted_explored explores _) fun value => ?_
      split
      · exact explores.pure _
      · exact explores.read (fun now other same => by rw [same.world]; rfl) fun session => explores.throw _ trivial

end Discovery

end

section

variable {P : (α : Type) → Run α → Prop} (roams : Roams P)
include roams

theorem Loader.enter_roamed (loader : Loader) : P _ loader.enter :=
  roams.read (fun now other same => by rw [same.world]; rfl) fun _ => roams.bind (roams.moved _) fun _ => roams.pure _

theorem Loader.exit_roamed (loader : Loader) : P _ loader.exit := by
  unfold Loader.exit
  split
  · exact roams.pure _
  · exact roams.bind (roams.moved _) fun _ => roams.pure _

namespace Discovery

theorem with_loader_roamed {α : Type} (loader : Loader) {block : Loader → Run α}
    (inside : ∀ opened, P α (block opened)) : P α (withLoader loader block) := by
  exact roams.bind (loader.enter_roamed roams) fun opened => roams.closed (inside opened) (opened.exit_roamed roams)

theorem discover_roamed (roots : List Path) (packages : List String) (capability : Capability) :
    P _ (discover roots packages capability) := by
  refine roams.bind (roams.scanned _ _) fun typeNames =>
    roams.read (fun now other same => by rw [same.directory]) fun session => ?_
  dsimp only
  split
  · rename_i error refused
    unfold Loader.ofRoots at refused
    split at refused <;> cases refused
    exact roams.throw _ trivial
  · exact with_loader_roamed roams _ fun opened =>
      roams.bind (resolve_capability_explored roams.toExplores _) fun _ =>
        classify_all_explored roams.toExplores _ _ _ _ _

end Discovery

end

/-! ### Invariants of the world -/

-- Steps of a run that keep an invariant of the world, and the directory.
abbrev Within (invariant : World → Prop) (directory : Place) (α : Type) (steps : Run α) : Prop :=
  Keeps (fun session : Session => invariant session.world ∧ session.directory = directory) Error.Early steps

-- Steps of a run that leave the disk and the directory as they are.
abbrev ReadsOnly (disk : Disk) (directory : Place) (α : Type) (steps : Run α) : Prop :=
  Within (fun world => world.disk = disk) directory α steps

section

variable {invariant : World → Prop} {directory : Place}

theorem within_in_world {α : Type} {block : ExceptT Mishap (StateM World) α} (still : Still invariant block) :
    Within invariant directory _ (Run.inWorld block) :=
  fun session holds => ⟨⟨(still session.world holds.1).1, holds.2⟩, nofun⟩

theorem explores_within {changeable : String → Prop} (steady : SteadyImports invariant changeable) :
    Explores (Within invariant directory) where
  pure := keeps_pure
  throw := keeps_throw
  bind := keeps_bind
  read _ rest := keeps_read fun now _ => rest now
  noted _ := keeps_modify _ fun _ holds => holds
  loaded _ := within_in_world (Import.still_load steady _ _)
  looked _ _ := within_in_world
    (keeps_bind (Import.still_load steady _ _) fun _ => Exec.still_member_of _ _)

-- A loader changes where modules are looked for, and changes it back.
theorem roams_within {changeable : String → Prop} (steady : SteadyImports invariant changeable)
    (pathless : ∀ world path, invariant world → invariant { world with path := path }) :
    Roams (Within invariant directory) where
  toExplores := explores_within steady
  scanned roots packages := by
    intro session holds
    rw [ClassPath.scan_run]
    exact ⟨holds, fun error failed => ClassPath.early_of_scan _ _ _ _ error _ (Prod.ext failed rfl)⟩
  moved _ := keeps_modify _ fun _ holds => ⟨pathless _ _ holds.1, holds.2⟩
  closed kept still := by
    intro session holds
    obtain ⟨within, early⟩ := kept session holds
    refine keeps_bind still (fun _ => ?_) _ within
    split
    · exact keeps_pure _
    · exact keeps_throw _ (early _ ‹_›)

end

-- The disk and the directory are what they were when discovery ends, whether it succeeds or fails.
theorem Discovery.reads_only_discover (disk : Disk) (directory : Place) (roots : List Path) (packages : List String)
    (capability : Capability) : ReadsOnly disk directory _ (discover roots packages capability) :=
  discover_roamed (roams_within (steady_of_surroundings fun now _ => now = disk) fun _ _ holds => holds) roots packages
    capability

/-! ### Records -/

-- Sessions that differ in their records only.
structure Session.SameButRecords (session other : Session) : Prop where
  world : session.world = other.world
  directory : session.directory = other.directory

-- Steps that do not depend on the records.
abbrev Unrecorded (α : Type) (steps : Run α) : Prop := Alike Session.SameButRecords Error.Early steps

theorem unrecorded_in_world {α : Type} (block : ExceptT Mishap (StateM World) α) :
    Unrecorded _ (Run.inWorld block) := by
  intro session other same
  simp only [Run.inWorld, same.world]
  exact ⟨rfl, ⟨rfl, same.directory⟩, nofun⟩

theorem roams_unrecorded : Roams Unrecorded where
  pure := alike_pure
  throw := alike_throw
  bind := alike_bind
  read same rest := alike_read (fun now other begins => same now other ⟨by rw [begins.world]; rfl, begins.directory.symm⟩)
    fun now _ _ => rest now
  noted _ := alike_modify _ fun _ _ same => ⟨same.world, same.directory⟩
  loaded _ := unrecorded_in_world _
  looked _ _ := unrecorded_in_world _
  scanned roots packages := by
    intro session other same
    rw [ClassPath.scan_run, ClassPath.scan_run, same.world, same.directory]
    exact ⟨rfl, ⟨rfl, rfl⟩, fun error failed => ClassPath.early_of_scan _ _ _ _ error _ (Prod.ext failed rfl)⟩
  moved _ := alike_modify _ fun _ _ same => ⟨by rw [same.world], same.directory⟩
  closed {α β block closing} alike still := by
    intro session other begins
    obtain ⟨same, within, early⟩ := alike session other begins
    have seen (now : Session) : Run.outcome block now = (.ok (block now).1, (block now).2) := rfl
    rw [bind_ok (seen session), bind_ok (seen other), ← same]
    refine alike_bind still (fun _ => ?_) _ _ within
    split
    · exact alike_pure _
    · exact alike_throw _ (early _ ‹_›)

theorem Discovery.unrecorded_discover (roots : List Path) (packages : List String) (capability : Capability) :
    Unrecorded _ (discover roots packages capability) :=
  discover_roamed roams_unrecorded roots packages capability

end StubForge
