import StubForge.Proofs.DiskBlindness
import StubForge.Proofs.Escapes

set_option autoImplicit false

/-!
A discovery on a disk that was only added to, and not in the class path, comes to the same commands.
-/

namespace StubForge

variable {first other : Disk} {good : String → Prop}

-- Sessions that differ in their records, and in their disks where libraries do not see it.
structure Session.Moved (first other : Disk) (good : String → Prop) (session twin : Session) : Prop where
  world : World.Moved first other good session.world twin.world
  directory : twin.directory = session.directory

theorem moved_in_world {α : Type} {block : Exec α} (blind : Exec.Blind first other good block) :
    Alike (Session.Moved first other good) Error.Early (Run.inWorld block) := by
  intro session twin moved
  obtain ⟨same, still⟩ := blind session.world twin.world moved.world
  exact ⟨congrArg Except.ok same, ⟨still, moved.directory⟩, nofun⟩

theorem explores_moved (agree : Import.Agree first other good) :
    Explores fun α steps => Alike (α := α) (Session.Moved first other good) Error.Early steps where
  pure := alike_pure
  throw := alike_throw
  bind := alike_bind
  read same rest := alike_read (fun now twin moved => same now twin ⟨by rw [moved.world.2]; rfl, moved.directory⟩)
    fun now _ _ => rest now
  noted _ := alike_modify _ fun _ _ moved => ⟨moved.world, moved.directory⟩
  loaded _ := moved_in_world (Import.blind_load agree _ _)
  looked _ _ := moved_in_world (in_step_bind (Import.blind_load agree _ _) fun _ => Exec.blind_member_of _ _)

namespace Discovery

theorem discover_moved (agree : Import.Agree first other good) (roots : List Path) (packages : List String)
    (capability : Capability) (session twin : Session) (moved : Session.Moved first other good session twin)
    (scanned : ClassPath.scanOf other session.directory roots (some packages) =
      ClassPath.scanOf first session.directory roots (some packages))
    (listed : ∀ root ∈ roots, good (root.resolve session.directory).toString) :
    (discover roots packages capability twin).1 = (discover roots packages capability session).1 := by
  obtain ⟨⟨confined, same⟩, directory⟩ := moved
  have opening : Session.Moved first other good { session with world := openedFor session roots }
      { twin with world := openedFor twin roots } := by
    refine ⟨⟨⟨confined.disk, fun entry member => ?_, confined.places⟩, ?_⟩, directory⟩
    · rcases List.mem_append.mp member with added | before
      · obtain ⟨root, inside, rfl⟩ := List.mem_map.mp (List.mem_filter.mp added).1
        exact listed root inside
      · exact confined.path entry before
    · rw [openedFor, openedFor, directory, same]
      rfl
  have loader : opened twin roots = opened session roots := by
    rw [opened, opened, directory, same]
    rfl
  have seen : twin.world.disk = other := by
    rw [same]
    rfl
  rw [directory] at opening
  rw [discover_result, discover_result, seen, directory, scanned, confined.disk, loader]
  cases (ClassPath.scanOf first session.directory roots (some packages)).1 with
  | error error => rfl
  | ok names =>
      dsimp only
      split
      · rfl
      · obtain ⟨alike, still, -⟩ := resolve_capability_explored (explores_moved agree) capability _ _ opening
        generalize resolveCapability capability { session with world := openedFor session roots } = left at alike still
        generalize resolveCapability capability
          { twin with world := openedFor twin roots, directory := session.directory } = right at alike still
        obtain ⟨result, now⟩ := left
        obtain ⟨result', now'⟩ := right
        cases alike
        cases result with
        | error error => rfl
        | ok id => exact (classify_all_explored (explores_moved agree) packages id names _ [] now now' still).1.symm

end Discovery

-- A run that knew its commands knows the same ones.
theorem Plan.discover_moved (plan : Plan) (agree : Import.Agree first other good) (session twin discovered : Session)
    (moved : Session.Moved first other good session twin)
    (scanned : ∀ packages, ClassPath.scanOf other session.directory plan.classpath packages =
      ClassPath.scanOf first session.directory plan.classpath packages)
    (listed : ∀ root ∈ plan.classpath, good (root.resolve session.directory).toString) (commands : List Command)
    (found : plan.discover session = (.ok commands, discovered)) :
    ∃ last, plan.discover twin = (.ok commands, last) := by
  have checked := check_of_discover session discovered commands found
  obtain ⟨records, runs⟩ := discover_run plan session checked
  obtain ⟨records', runs'⟩ := discover_run plan twin checked
  obtain ⟨after, searched, -⟩ := (runs commands discovered).mp found
  have same := Discovery.discover_moved agree plan.classpath (allPackages plan.configurations) plan.capability
    { session with records } { twin with records := records' } ⟨moved.world, moved.directory⟩ (scanned _) listed
  rw [searched] at same
  exact ⟨_, (runs' commands _).mpr ⟨_, pair_of_fst same, rfl⟩⟩

end StubForge
