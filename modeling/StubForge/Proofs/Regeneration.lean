import StubForge.Proofs.Isolation
import StubForge.Proofs.MovedDiscovery

set_option autoImplicit false

/-!
Regeneration: what a run made, another run on the disk that it left makes again. It finds every folder there and
overwrites every file, one after the other, with what it holds in the end.
-/

namespace StubForge

open Template

/-! ### Steps that can be taken again -/

section

variable {ε σ α β : Type}

-- Steps that only add to the disk. Where they succeed, they succeed again on what has become of the disk, with the same
-- result; `again` relates the states of the steps to those of their repetition on a later disk.
def Repeats (disk : σ → Disk) (ready : σ → Prop) (again : Disk → σ → σ → Prop) (steps : ExceptT ε (StateM σ) α) :
    Prop :=
  ∀ state, ready state → ready (steps state).2 ∧ (disk state).Grows (disk (steps state).2) ∧
    ∀ value, (steps state).1 = .ok value → ∀ last, (disk (steps state).2).Grows last → ∀ twin, again last state twin →
      (steps twin).1 = .ok value ∧ again last (steps state).2 (steps twin).2

variable {disk : σ → Disk} {ready : σ → Prop} {again : Disk → σ → σ → Prop}

theorem repeats_pure (value : α) : Repeats disk ready again (pure value : ExceptT ε (StateM σ) α) :=
  fun _ holds => ⟨holds, Disk.grows_refl _, fun _ same _ _ _ begins => ⟨same, begins⟩⟩

theorem repeats_throw (error : ε) : Repeats disk ready again (throw error : ExceptT ε (StateM σ) α) :=
  fun _ holds => ⟨holds, Disk.grows_refl _, nofun⟩

theorem repeats_bind {block : ExceptT ε (StateM σ) α} {next : α → ExceptT ε (StateM σ) β}
    (first : Repeats disk ready again block) (rest : ∀ value, Repeats disk ready again (next value)) :
    Repeats disk ready again (block >>= next) := by
  intro state holds
  obtain ⟨kept, grown, same⟩ := first state holds
  rw [bind_run]
  cases done : block state with
  | mk result middle =>
      rw [done] at kept grown same
      cases result with
      | error error => exact ⟨kept, grown, nofun⟩
      | ok value =>
          obtain ⟨kept, more, others⟩ := rest value middle kept
          refine ⟨kept, Disk.grows_trans grown more, fun final ended last grows twin begins => ?_⟩
          obtain ⟨alike, still⟩ := same value rfl last (Disk.grows_trans more grows) twin begins
          rw [bind_ok (pair_of_fst alike)]
          exact others final ended last grows _ still

-- What is read is the same at every stage of the steps, and of their repetition.
theorem repeats_read {γ : Type} (look : σ → γ) (seen : γ) (next : γ → ExceptT ε (StateM σ) α)
    (here : ∀ state, ready state → look state = seen)
    (there : ∀ last state twin, ready state → again last state twin → look twin = seen)
    (rest : Repeats disk ready again (next seen)) :
    Repeats disk ready again ((get : ExceptT ε (StateM σ) σ) >>= fun state => next (look state)) := by
  intro state holds
  obtain ⟨kept, grown, same⟩ := rest state holds
  change ready (next (look state) state).2 ∧ (disk state).Grows (disk (next (look state) state).2) ∧
    ∀ value, (next (look state) state).1 = .ok value → ∀ last, (disk (next (look state) state).2).Grows last →
      ∀ twin, again last state twin → (next (look twin) twin).1 = .ok value ∧
        again last (next (look state) state).2 (next (look twin) twin).2
  rw [here state holds]
  refine ⟨kept, grown, fun value ended last grows twin begins => ?_⟩
  rw [there last state twin holds begins]
  exact same value ended last grows twin begins

-- Only errors are changed, and what fails is not repeated.
theorem repeats_blamed {block : ExceptT ε (StateM σ) α} {change : ε → ε} (first : Repeats disk ready again block) :
    Repeats disk ready again (tryCatch block fun error => throw (change error)) := by
  intro state holds
  obtain ⟨kept, grown, same⟩ := first state holds
  rw [try_catch_run]
  cases done : block state with
  | mk result after =>
      rw [done] at kept grown same
      cases result with
      | error error => exact ⟨kept, grown, nofun⟩
      | ok value =>
          refine ⟨kept, grown, fun final ended last grows twin begins => ?_⟩
          obtain ⟨alike, still⟩ := same final ended last grows twin begins
          rw [try_catch_run, pair_of_fst alike]
          exact ⟨rfl, still⟩

end

instance repeats_framed (ready : Stage → Prop) (again : Disk → Stage → Stage → Prop) :
    Framed fun α steps => Repeats (α := α) (·.session.world.disk) ready again steps where
  pure := repeats_pure
  throw trouble _ := repeats_throw trouble
  bind := repeats_bind
  blamed kept _ := repeats_blamed kept

/-! ### A disk on which a run is repeated -/

section

variable {folders files : Place → Prop} {first : Disk} {directory : Place}

-- A repetition on the disk that a run left: the disk of the repetition came of that one by writing files, and holds at
-- each place what was left there in the end, or what the run had there at this stage.
structure Echo (folders files : Place → Prop) (first left now again : Disk) : Prop where
  origin : Disk.Built folders files first left
  rewritten : Disk.Built (fun _ => False) files left again
  held : ∀ place, again.at? place = left.at? place ∨ again.at? place = now.at? place

variable {left now again after : Disk} (echo : Echo folders files first left now again)

theorem echo_refl (origin : Disk.Built folders files first left) : Echo folders files first left now left :=
  ⟨origin, .first, fun _ => .inl rfl⟩

include echo

theorem built_of_echo : Disk.Built folders files first again :=
  Disk.built_trans echo.origin (Disk.built_mono (fun _ never => never.elim) (fun _ written => written) echo.rewritten)

theorem grows_echo (grows : after.Grows left) : after.Grows again :=
  Disk.grows_trans grows (Disk.grows_of_built echo.rewritten)

-- Where the run goes on without writing a file, the repetition still holds what is there: a folder that the run makes
-- is there already.
theorem held_next {more written : Place → Prop} (step : Disk.Built more written now after) (grows : after.Grows left)
    (place : Place) (unwritten : ¬ written place) :
    again.at? place = left.at? place ∨ again.at? place = after.at? place := by
  rcases echo.held place with kept | same
  · exact .inl kept
  · rcases Disk.fuller_of_built step place unwritten with still | ⟨made, missing⟩
    · exact .inr (same.trans still.symm)
    · rw [missing, (grows_echo echo grows place).1 made] at same
      cases same

theorem echo_folders {more : Place → Prop} (step : Disk.Built more (fun _ => False) now after)
    (grows : after.Grows left) : Echo folders files first left after again :=
  ⟨echo.origin, echo.rewritten, fun place => held_next echo step grows place id⟩

-- A file that the run writes is written again.
theorem echo_file {more : Place → Prop} (parts : Place) (bytes : Bytes) (allowed : files parts)
    (step : Disk.Built more (· = parts) now after) (grows : after.Grows left)
    (written : after.at? parts = some (.file (.bytes bytes))) :
    Echo folders files first left after (again.writeFile parts bytes) := by
  obtain ⟨later, there⟩ := (grows_echo echo grows parts).2 _ written
  refine ⟨echo.origin, .file again parts bytes (by rw [there]; simp) allowed echo.rewritten, fun place => ?_⟩
  by_cases root : place = []
  · subst root
    exact .inl rfl
  · rw [Disk.writeFile, Disk.at_set _ _ _ _ root]
    split
    · rename_i same
      subst same
      exact .inr written.symm
    · rename_i other
      exact held_next echo step grows place fun same => other same.symm

end

/-! ### Rendering -/

section

variable {folders files : Place → Prop} {first : Disk} {directory : Place}

-- A stage at which the folder of a target is made, and to which a run came by what is allowed to it.
structure Drawing (folders files : Place → Prop) (first : Disk) (directory target : Place) (stage : Stage) : Prop where
  seen : stage.session.directory = directory
  built : Disk.Built folders files first stage.session.world.disk
  paved : stage.session.world.disk.Paved target

structure Redrawn (folders files : Place → Prop) (first : Disk) (directory : Place) (left : Disk)
    (stage twin : Stage) : Prop where
  seen : twin.session.directory = directory
  listed : twin.files = stage.files
  echo : Echo folders files first left stage.session.world.disk twin.session.world.disk

abbrev Redraws (folders files : Place → Prop) (first : Disk) (directory target : Place) (α : Type)
    (steps : Render α) : Prop :=
  Repeats (·.session.world.disk) (Drawing folders files first directory target)
    (Redrawn folders files first directory) steps

variable {generator : Generator} (settled : Path.Settled directory)
  (own : ∀ place, generator.scene.target.folder directory <+: place → folders place ∧ files place)

include settled own in
theorem write_file_redraws (relative : Path) (relativeText : String) (file : Path) (text : String)
    (given : Generator.fileFor directory generator.scene generator.scheme relative relativeText = .ok file) :
    Redraws folders files first directory (generator.scene.target.folder directory) Unit
      (generator.writeFile file text) := by
  intro stage drawing
  have free := file_for_free relative relativeText file settled given
  obtain ⟨parts, rfl, plain, below⟩ := file_for_below relative relativeText file settled given
  have leads : generator.scene.target.folder directory <+: parts := by
    obtain ⟨name, rest, rfl⟩ := below
    exact List.prefix_append _ _
  have step := @Disk.built_write_text directory parts plain stage.session.world.disk generator.config.fileEncoding text
  -- What is made on the way to the file lies in the target: the folders above it are there already.
  have inside : Disk.Built folders files stage.session.world.disk (Generator.writeText stage.session.world.disk directory
      ⟨.single, parts⟩ generator.config.fileEncoding text).2 := by
    refine Disk.built_mono (fun place above missing => ?_) (fun place same => ?_) step
    · rcases List.prefix_or_prefix_of_prefix above leads with short | long
      · rw [drawing.paved place short] at missing
        cases missing
      · exact (own place long).1
    · exact same ▸ (own parts leads).2
  have grown := Disk.grows_of_built inside
  rw [write_file_run, drawing.seen]
  cases done : Generator.writeText stage.session.world.disk directory ⟨.single, parts⟩ generator.config.fileEncoding
      text with
  | mk result after =>
      rw [done] at step inside grown
      have kept := Disk.built_trans drawing.built inside
      have paved := Disk.paved_grows grown drawing.paved
      cases result with
      | error cause => exact ⟨⟨drawing.seen, kept, paved⟩, grown, nofun⟩
      | ok _ =>
          refine ⟨⟨drawing.seen, kept, paved⟩, grown, fun value ended left grows twin begins => ?_⟩
          obtain ⟨bytes, held, same⟩ := Disk.write_text_again plain free done (grows_echo begins.echo grows)
          rw [write_file_run, begins.seen, same]
          exact ⟨ended, begins.seen, by rw [begins.listed],
            echo_file begins.echo parts bytes (own parts leads).2 step grows held⟩

variable (rooted : first.Rooted) (home : first.Paved directory)
  (spared : ∀ folder ∈ generator.engine.folders, Disk.Spared folders files first directory folder)

include rooted home spared in
theorem read_drawing {target : Place} (stage : Stage) (drawing : Drawing folders files first directory target stage)
    (path : String) :
    generator.engine.read stage.session.world.disk stage.session.directory path =
      generator.engine.read first directory path := by
  rw [drawing.seen, Disk.read_built drawing.built rooted home generator.engine spared]

include rooted home spared in
theorem read_redrawn (left : Disk) (stage twin : Stage) (redrawn : Redrawn folders files first directory left stage twin)
    (path : String) :
    generator.engine.read twin.session.world.disk twin.session.directory path =
      generator.engine.read first directory path := by
  rw [redrawn.seen, Disk.read_built (built_of_echo redrawn.echo) rooted home generator.engine spared]

omit generator in
theorem say_redraws (target : Place) (level : Level) (message : String) :
    Redraws folders files first directory target Unit (Render.ofRun (Run.say level message)) := by
  intro stage drawing
  rw [say_run_stage]
  refine ⟨⟨drawing.seen, drawing.built, drawing.paved⟩, Disk.grows_refl _, fun value ended left grows twin redrawn => ?_⟩
  rw [say_run_stage]
  exact ⟨ended, redrawn.seen, redrawn.listed, redrawn.echo⟩

include rooted home spared

theorem find_template_redraws (target : Place) (scheme template : String) :
    Redraws folders files first directory target (List Stmt) (Render.ofRun (generator.engine.template scheme template)) := by
  have run (now : Stage) (found : Except Engine.Fault (List Stmt))
      (seen : generator.engine.read now.session.world.disk now.session.directory
        (Engine.templatePath scheme template) = found) :
      Render.ofRun (generator.engine.template scheme template) now =
        (match sought scheme template found with
          | .ok body => .ok body
          | .error (.failure failure) => .error (.failure failure)
          | .error (.mishap mishap) => .error (.mishap mishap), now) := by
    rw [Render.ofRun, template_run, seen]
    cases sought scheme template found with
    | ok body => rfl
    | error error => cases error <;> rfl
  intro stage drawing
  rw [run stage _ (read_drawing rooted home spared stage drawing _)]
  refine ⟨drawing, Disk.grows_refl _, fun value ended left grows twin redrawn => ?_⟩
  rw [run twin _ (read_redrawn rooted home spared left stage twin redrawn _)]
  exact ⟨ended, redrawn⟩

theorem read_redraws {α : Type} (target : Place) (path : String) (next : Except Engine.Fault (List Stmt) → Render α)
    (repeats : ∀ found, Redraws folders files first directory target α (next found)) :
    Redraws folders files first directory target α (do
      let session := (← get).session
      next (generator.engine.read session.world.disk session.directory path)) :=
  repeats_read (fun stage : Stage => generator.engine.read stage.session.world.disk stage.session.directory path) _ next
    (fun stage drawing => read_drawing rooted home spared stage drawing path)
    (fun left stage twin _ redrawn => read_redrawn rooted home spared left stage twin redrawn path) (repeats _)

include settled own

theorem backs_redraws :
    Backs (Redraws folders files first directory (generator.scene.target.folder directory)) generator directory where
  placed next repeats := repeats_read (fun stage : Stage => stage.session.directory) directory next
    (fun _ drawing => drawing.seen) (fun _ _ _ _ redrawn => redrawn.seen) repeats
  read path next repeats := read_redraws rooted home spared _ path next repeats
  said := say_redraws _
  sought := find_template_redraws rooted home spared _
  wrote := write_file_redraws settled own

end

/-! ### Configurations -/

-- What a process starts with on a disk.
def Session.fresh (disk : Disk) (directory : Place) : Session := { world := World.initial disk, directory }

namespace Plan

-- A file of a configuration, or a place in its target.
def FileAt (plan : Plan) (directory place : Place) : Prop :=
  ∃ config ∈ plan.configurations, plan.placeOf directory config <+: place

-- Where a configuration may make a folder: in its target, or on the path to it.
def FolderAt (plan : Plan) (directory place : Place) : Prop :=
  plan.FileAt directory place ∨
    ∃ config ∈ plan.configurations, Disk.Passes directory (config.targetBelow plan.output) place

abbrev BuiltBy (plan : Plan) (directory : Place) (first disk : Disk) : Prop :=
  Disk.Built (plan.FolderAt directory) (plan.FileAt directory) first disk

-- A session to which a run came from a disk by making folders and files for its configurations.
structure Working (plan : Plan) (directory : Place) (first : Disk) (session : Session) : Prop where
  seen : session.directory = directory
  built : plan.BuiltBy directory first session.world.disk

-- A session of another run, on the disk that the first run left.
structure Reworking (plan : Plan) (directory : Place) (first left : Disk) (session twin : Session) : Prop where
  seen : twin.directory = directory
  echo : Echo (plan.FolderAt directory) (plan.FileAt directory) first left session.world.disk twin.world.disk

section

variable {plan : Plan} {directory : Place} {first : Disk} {commands : List Command} {moment : Moment}
  {config : Configuration} {session after : Session}
  (grounded : Grounded first directory)
  (spared : ∀ folder ∈ plan.engine.folders,
    Disk.Spared (plan.FolderAt directory) (plan.FileAt directory) first directory folder)
  (member : config ∈ plan.configurations)

include grounded in
theorem paved_of_grounded : first.Paved directory :=
  fun front leads => @folder_at_start first directory ⟨.relative, []⟩ grounded front leads

-- A folder that was made for the target is found when the run is repeated.
include grounded member in
theorem make_target_again (working : plan.Working directory first session)
    (done : makeTarget config (config.targetBelow plan.output) session = (.ok (), after)) :
    plan.Working directory first after ∧ session.world.disk.Grows after.world.disk ∧
      after.world.disk.Paved (plan.placeOf directory config) ∧
      ∀ left, after.world.disk.Grows left → ∀ twin, plan.Reworking directory first left session twin →
        ∃ after', makeTarget config (config.targetBelow plan.output) twin = (.ok (), after') ∧
          plan.Reworking directory first left after after' := by
  cases nul : (config.targetBelow plan.output).hasNul with
  | true =>
      rw [make_target_nul _ session nul] at done
      cases done
  | false =>
      have step := @Disk.built_ensure_folders directory session.world.disk (config.targetBelow plan.output)
      cases ensured : session.world.disk.ensureFolders directory (config.targetBelow plan.output) with
      | mk result made =>
          rw [ensured] at step
          rw [make_target_run _ session nul result made (by rw [working.seen, ensured])] at done
          cases result with
          | error failure => cases done
          | ok _ =>
              cases done
              have grown := Disk.grows_of_built step
              have allowed : plan.BuiltBy directory session.world.disk made :=
                Disk.built_mono (fun place passes _ => .inr ⟨config, member, passes⟩) (fun _ never => never.elim) step
              have reached := Disk.reached_ensure_folders made ensured
              have start := Disk.paved_grows (Disk.grows_trans (Disk.grows_of_built working.built) grown)
                (Disk.paved_start (paved_of_grounded grounded) (config.targetBelow plan.output))
              refine ⟨⟨working.seen, Disk.built_trans working.built allowed⟩, grown, ?_, fun left grows twin again => ?_⟩
              · obtain ⟨place, led, there⟩ := reached
                have folders := Disk.paved_of_follow _ _ place start led there
                rwa [Disk.follow_climb made _ _ _ led, ← Path.folder_eq_climb] at folders
              · have later := grows_echo again.echo grows
                have same := Disk.ensure_folders_again (Disk.paved_grows later start) nul
                  (Disk.reached_grows later reached)
                refine ⟨_, make_target_run _ twin nul (.ok ()) twin.world.disk (by rw [again.seen, same]), again.seen, ?_⟩
                exact echo_folders again.echo step grows

include grounded spared member

theorem draw_again (forest : Forest) (working : plan.Working directory first session)
    (paved : session.world.disk.Paved (plan.placeOf directory config)) (product : Product)
    (done : plan.draw config forest moment session = (.ok product, after)) :
    plan.Working directory first after ∧ session.world.disk.Grows after.world.disk ∧
      ∀ left, after.world.disk.Grows left → ∀ twin, plan.Reworking directory first left session twin →
        ∃ after', plan.draw config forest moment twin = (.ok product, after') ∧
          plan.Reworking directory first left after after' := by
  have own (place : Place) (inside : plan.placeOf directory config <+: place) :
      plan.FolderAt directory place ∧ plan.FileAt directory place :=
    ⟨.inl ⟨config, member, inside⟩, config, member, inside⟩
  have backs := @backs_redraws (plan.FolderAt directory) (plan.FileAt directory) first directory
    (plan.generatorOf config forest moment) grounded.settled own grounded.rooted (paved_of_grounded grounded) spared
  obtain ⟨drawing, grown, same⟩ := render_framed backs Engine.entryTemplate .null { session }
    ⟨working.seen, working.built, paved⟩
  rw [draw] at done
  obtain ⟨listed, middle, rendered, rest⟩ := ok_of_bind done
  cases drawn : (plan.generatorOf config forest moment).render Engine.entryTemplate .null { session } with
  | mk result stage =>
      rw [drawn] at drawing grown same
      rw [render_entry_run _ session result stage drawn] at rendered
      cases result with
      | error trouble => cases rendered
      | ok text =>
          cases rendered
          rw [bind_ok (Run.say_run _ _ _)] at rest
          cases rest
          refine ⟨⟨drawing.seen, drawing.built⟩, grown, fun left grows twin again => ?_⟩
          obtain ⟨alike, still⟩ := same text rfl left grows { session := twin } ⟨again.seen, rfl, again.echo⟩
          cases drawn' : (plan.generatorOf config forest moment).render Engine.entryTemplate .null { session := twin } with
          | mk result' stage' =>
              rw [drawn'] at alike still
              cases alike
              rw [draw, bind_ok (render_entry_run _ twin _ _ drawn'), bind_ok (Run.say_run _ _ _)]
              rw [still.listed]
              exact ⟨_, rfl, still.seen, still.echo⟩

-- A configuration that succeeded succeeds again, and gives the same product.
theorem generate_again (working : plan.Working directory first session) (product : Product)
    (done : plan.generate commands moment config session = (.ok product, after)) :
    plan.Working directory first after ∧ session.world.disk.Grows after.world.disk ∧
      ∀ left, after.world.disk.Grows left → ∀ twin, plan.Reworking directory first left session twin →
        ∃ after', plan.generate commands moment config twin = (.ok product, after') ∧
          plan.Reworking directory first left after after' := by
  cases built : Forest.ofCommands (Command.filter config.packages commands) with
  | error fault =>
      rw [generate_of_fault config fault built] at done
      cases done
  | ok forest =>
      have entry (now : Session) (seen : now.directory = directory) (disk : plan.BuiltBy directory first now.world.disk) :
          plan.entryOn config now.directory now.world.disk = plan.entryOn config directory first := by
        rw [seen]
        exact Disk.read_built disk grounded.rooted (paved_of_grounded grounded) plan.engine spared _
      obtain ⟨started, world, home, run⟩ := @generate_run plan commands moment config forest built session
      rw [run, entry session working.seen working.built] at done
      cases found : sought config.scheme Engine.entryTemplate (plan.entryOn config directory first) with
      | error error =>
          rw [found] at done
          cases done
      | ok body =>
          rw [found] at done
          dsimp only at done
          rw [makeAndDraw] at done
          obtain ⟨_, made, prepared, drawn⟩ := ok_of_bind done
          have begun : plan.Working directory first started :=
            ⟨home.trans working.seen, by rw [world]; exact working.built⟩
          obtain ⟨ready, grown, paved, remade⟩ := make_target_again grounded member begun prepared
          obtain ⟨last, more, redrawn⟩ := draw_again grounded spared member forest ready paved product drawn
          refine ⟨last, Disk.grows_trans (world ▸ grown) more, fun left grows twin again => ?_⟩
          obtain ⟨started', world', home', run'⟩ := @generate_run plan commands moment config forest built twin
          obtain ⟨made', prepared', still⟩ := remade left (Disk.grows_trans more grows) started'
            ⟨home'.trans again.seen, by rw [world, world']; exact again.echo⟩
          obtain ⟨after', drawn', ended⟩ := redrawn left grows made' still
          refine ⟨after', ?_, ended⟩
          rw [run', entry twin again.seen (built_of_echo again.echo), found]
          exact (bind_ok prepared' _).trans drawn'

omit member in
-- By induction on a row in which every configuration succeeded: it can be gone through again.
theorem row_again (attempts : List (Configuration × Outcome)) (before last : Session)
    (row : Attempts plan commands moment attempts before last)
    (listed : ∀ attempt ∈ attempts, attempt.1 ∈ plan.configurations)
    (succeeded : ∀ attempt ∈ attempts, ∃ product, attempt.2 = .ok product)
    (working : plan.Working directory first before) :
    plan.Working directory first last ∧ before.world.disk.Grows last.world.disk ∧
      ∀ left, last.world.disk.Grows left → ∀ twin, plan.Reworking directory first left before twin →
        ∃ last', Attempts plan commands moment attempts twin last' ∧
          plan.Reworking directory first left last last' := by
  induction row with
  | none session =>
      exact ⟨working, Disk.grows_refl _, fun _ _ twin again => ⟨twin, .none twin, again⟩⟩
  | next config outcome rest before middle last generated others ih =>
      obtain ⟨member, more⟩ := List.forall_mem_cons.mp listed
      obtain ⟨⟨product, made⟩, later⟩ := List.forall_mem_cons.mp succeeded
      dsimp only at made
      subst made
      obtain ⟨working, grown, remade⟩ := generate_again grounded spared member working product generated
      obtain ⟨ended, further, regained⟩ := ih more later working
      refine ⟨ended, Disk.grows_trans grown further, fun left grows twin again => ?_⟩
      obtain ⟨middle', generated', still⟩ := remade left (Disk.grows_trans further grows) twin again
      obtain ⟨last', row', ends⟩ := regained left grows middle' still
      exact ⟨last', .next config _ rest twin middle' last' generated' row', ends⟩

end

/-! ### Whole runs -/

-- No target lies in the class path or in a folder of templates, and none of these lies in a target.
def Detached (plan : Plan) (directory : Place) : Prop :=
  ∀ config ∈ plan.configurations, ∀ root ∈ plan.classpath ++ plan.engine.folders,
    ¬ plan.placeOf directory config <+: root.folder directory ∧ ¬ root.folder directory <+: plan.placeOf directory config

instance (plan : Plan) (directory : Place) : Decidable (plan.Detached directory) :=
  inferInstanceAs (Decidable (∀ _, _))

-- A run reads nothing that it makes: its targets lie apart from what it reads, which is not written as leading up out of
-- a folder that it may make; no root has an overlong name below such a folder; and no folder is made in a root on the way
-- to a target.
structure Undisturbed (plan : Plan) (directory : Place) (disk : Disk) : Prop where
  apart : plan.Detached directory
  led : ∀ root ∈ plan.classpath ++ plan.engine.folders, ∀ front, front ++ [".."] <+: root.parts →
    plan.FolderAt directory (Path.climb (Disk.start directory root) front) →
      disk.at? (Path.climb (Disk.start directory root) front) ≠ none
  short : ∀ root ∈ plan.classpath, ∀ front name, front ++ [name] <+: root.parts → Disk.tooLong name = true →
    plan.FolderAt directory (Path.climb (Disk.start directory root) front) →
      disk.at? (Path.climb (Disk.start directory root) front) ≠ none
  passed : ∀ config ∈ plan.configurations, ∀ place, Disk.Passes directory (config.targetBelow plan.output) place →
    ∀ root ∈ plan.classpath, root.folder directory <+: place → disk.at? place ≠ none

-- Where no path is written as leading up and no root has an overlong name, it is enough that they lie apart.
theorem undisturbed_of_plain {plan : Plan} {directory : Place} (disk : Disk) (apart : plan.Detached directory)
    (plain : ∀ config ∈ plan.configurations, ".." ∉ (config.targetBelow plan.output).parts)
    (level : ∀ root ∈ plan.classpath ++ plan.engine.folders, ".." ∉ root.parts)
    (short : ∀ root ∈ plan.classpath, ∀ name ∈ root.parts, Disk.tooLong name = false) :
    plan.Undisturbed directory disk where
  apart := apart
  led root member front leads := absurd (leads.subset (by simp)) (level root member)
  short root member front name leads long := by
    rw [short root member name (leads.subset (by simp))] at long
    cases long
  passed config listed place passes root member below := by
    obtain ⟨front, leads, rfl⟩ := passes
    have own := plain config listed
    rw [Path.climb_plain _ _ fun inside => own (leads.subset inside)] at below
    refine absurd (below.trans ?_) (apart config listed root (List.mem_append_left _ member)).2
    rw [placeOf, Path.folder_eq_climb, Path.climb_plain _ _ own]
    exact (List.prefix_append_right_inj _).mpr leads

section

variable {plan : Plan} {directory : Place} {disk : Disk} (undisturbed : plan.Undisturbed directory disk)
include undisturbed

theorem spared_of_undisturbed (root : Path) (member : root ∈ plan.classpath ++ plan.engine.folders) :
    Disk.Spared (plan.FolderAt directory) (plan.FileAt directory) disk directory root where
  apart place written := by
    obtain ⟨config, listed, inside⟩ := written
    obtain ⟨above, below⟩ := undisturbed.apart config listed root member
    refine ⟨fun leads => above (inside.trans leads), fun leads => ?_⟩
    exact (List.prefix_or_prefix_of_prefix inside leads).elim above below
  led := undisturbed.led root member

theorem untouched_of_undisturbed (root : Path) (member : root ∈ plan.classpath) :
    Disk.Untouched (plan.FolderAt directory) (plan.FileAt directory) disk directory root where
  toSpared := spared_of_undisturbed undisturbed root (List.mem_append_left _ member)
  kept place below made := by
    rcases made with written | ⟨config, listed, passes⟩
    · exact absurd below
        ((spared_of_undisturbed undisturbed root (List.mem_append_left _ member)).apart place written).2
    · exact undisturbed.passed config listed place passes root member below
  short := undisturbed.short root member

variable (grounded : Grounded disk directory) (settled : ∀ part ∈ directory, Path.Component part)
  (written : ∀ root ∈ plan.classpath, ∀ part ∈ root.parts, Path.Component part)

include grounded in
theorem agree_of_built (last : Disk) (built : plan.BuiltBy directory disk last) :
    Import.Agree disk last (Import.Within directory plan.classpath) where
  joined := Import.within_joined directory plan.classpath
  archived := Import.archive_above_untouched built grounded.rooted (untouched_of_undisturbed undisturbed)
  searched := Import.search_untouched built grounded.rooted (untouched_of_undisturbed undisturbed)

omit undisturbed in
include settled written in
theorem within_of_root (root : Path) (member : root ∈ plan.classpath) :
    Import.Within directory plan.classpath (root.resolve directory).toString := by
  refine ⟨root, member, ?_⟩
  rw [Path.resolve_eq_folder, Path.parts_of_written _ (Path.folder_components directory root settled (written root member))]

omit undisturbed in
-- No bundled module has places to look for others in.
theorem confined_initial (good : String → Prop) : World.Confined disk good (World.initial disk) where
  disk := rfl
  path := nofun
  places name record found places searched := by
    have bundled : ∀ entry ∈ World.bundledModules, entry.2.searchPath.getD [] = [] := by decide
    obtain ⟨entry, held, rfl⟩ := Option.map_eq_some_iff.mp found
    have none := bundled entry (List.mem_of_find?_eq_some held)
    rw [searched, Option.getD_some] at none
    simp [none]

include grounded settled written

-- Where a run that knew its commands made nothing but what it may, another one from the start knows the same ones.
theorem discover_again (last : Disk) (built : plan.BuiltBy directory disk last) (commands : List Command)
    (discovered : Session) (found : plan.discover (Session.fresh disk directory) = (.ok commands, discovered)) :
    ∃ after, plan.discover (Session.fresh last directory) = (.ok commands, after) := by
  have agree := agree_of_built undisturbed grounded last built
  have moved : Session.Moved disk last (Import.Within directory plan.classpath) (Session.fresh disk directory)
      (Session.fresh last directory) := ⟨⟨confined_initial _, rfl⟩, rfl⟩
  refine plan.discover_moved agree _ _ discovered moved (fun packages => ?_) ?_ commands found
  · exact Disk.scan_untouched built grounded.rooted (paved_of_grounded grounded) plan.classpath packages
      (untouched_of_undisturbed undisturbed)
  · exact within_of_root settled written

end

/-! ### Runs that are repeated -/

-- The files that a run reports, configuration by configuration.
def reported : Except Error (List Product) → Option (List (List String))
  | .ok products => some (products.map fun product => product.files.map Path.toString)
  | .error _ => none

-- A run on the disk that a first one left, by a process of its own.
def rerun (plan : Plan) (disk : Disk) (directory : Place) : Except Error (List Product) × Session :=
  plan.run (Session.fresh (plan.run (Session.fresh disk directory)).2.world.disk directory)

def ownPlan (target : List String) (roots : List (List String)) : Plan where
  configurations := [{ name := "a", scheme := "own", packages := ["shop"], target := some ⟨.relative, target⟩ }]
  classpath := roots.map fun parts => ⟨.relative, parts⟩
  engine := { folders := [⟨.relative, ["tpl"]⟩] }
  clock := "0"

-- The template of a scheme that gives every package a file.
def listing : String :=
  "\x7b% for p in packages %\x7d\x7b\x7b generator.generate_file(p.name, 'leaf') \x7d\x7d\x7b% endfor %\x7d"

def shelf (main : String) (more : List (Place × Entry)) : Disk where
  entries := [(["w"], .folder), (["w", "lib"], .folder), (["w", "tpl"], .folder), (["w", "tpl", "own"], .folder),
    (["w", "tpl", "own", "main.j2"], textFile main), (["w", "tpl", "own", "leaf.j2"], textFile "hi")] ++ more

def findCommand : Statement := .define { name := "Find", bases := ["IpcCommand"], methods := ["execute"] } []

def shopPlan : Plan := ownPlan ["out"] [["lib"]]

def shopDisk : Disk := shelf listing [(["w", "lib", "shop.py"], .file (.module [findCommand]))]

-- A root that leads up out of the target, and is found only once that is there.
def rootThrough : Plan := ownPlan ["x"] [["lib"], ["x", "..", "more"]]

-- A root with a name that is too long, which is told of only once the folder above it is there.
def rootOverlong : Plan := ownPlan ["x", "y"] [["lib"], ["x", longName]]

-- A target with a folder of a root on the way to it, which makes that folder a package.
def targetThrough : Plan := ownPlan ["lib", "x", "..", "..", "y"] [["lib"]]

-- A folder of templates that leads up out of the target of the second configuration.
def folderThrough : Plan := planOf "own" "json" ["y"] ["x"] [["x", "..", "more"], ["tpl"]]

end Plan

end StubForge
