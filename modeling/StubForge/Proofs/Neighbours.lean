import StubForge.Proofs.Containment
import StubForge.Proofs.DiskDependence
import StubForge.Proofs.KeepGoing

set_option autoImplicit false

/-!
A configuration among others: where the others write below their own targets only, it comes to what it comes to alone,
and leaves what it leaves alone.
-/

namespace StubForge

open Template

/-! ### Templates -/

-- Off some targets, folders above a target may have been made where nothing was.
def Disk.Outlying (targets : List Place) (first disk : Disk) : Prop :=
  ∀ place, (∀ target ∈ targets, ¬ target <+: place) →
    disk.at? place = first.at? place ∨
      disk.at? place = some .folder ∧ first.at? place = none ∧ ∃ target ∈ targets, place <+: target

theorem Disk.outlying_refl (targets : List Place) (first : Disk) : Disk.Outlying targets first first :=
  fun _ _ => .inl rfl

-- The folders of templates lie apart from all targets, and are written without leading up.
structure Engine.Clear (engine : Engine) (directory : Place) (targets : List Place) : Prop where
  plain : ∀ folder ∈ engine.folders, ".." ∉ folder.parts
  apart : ∀ folder ∈ engine.folders, ∀ target ∈ targets,
    ¬ folder.folder directory <+: target ∧ ¬ target <+: folder.folder directory

theorem Path.folder_of_plain (directory : Place) (path : Path) (plain : ".." ∉ path.parts) :
    path.folder directory = Disk.start directory path ++ path.parts := by
  cases known : path.anchor <;> simp [folder, resolve, Disk.start, known, climb_plain _ _ plain]

section

variable {directory : Place} {targets : List Place} {first : Disk} {engine : Engine}
  (clear : engine.Clear directory targets) (rooted : first.Rooted)
include clear rooted

theorem read_outlying (disk : Disk) (outlying : Disk.Outlying targets first disk) (path : String) :
    engine.read disk directory path = engine.read first directory path := by
  have each (pieces : List String) (split_path : Engine.pieces? path = some pieces) (folder : Path)
      (member : folder ∈ engine.folders) :
      Engine.fileIn? disk directory pieces folder = Engine.fileIn? first directory pieces folder := by
    have home := Path.folder_of_plain directory folder (clear.plain folder member)
    have apart := clear.apart folder member
    rw [home] at apart
    have plain : ".." ∉ folder.parts ++ pieces := by
      rw [List.mem_append, not_or]
      exact ⟨clear.plain folder member, Engine.pieces_plain path pieces split_path⟩
    -- A place on the way lies above the folder or below it, and so in no target.
    have off (front : List String) (leads : front <+: folder.parts ++ pieces) (target : Place)
        (among : target ∈ targets) : ¬ target <+: Disk.start directory folder ++ front := by
      intro above
      rcases List.prefix_or_prefix_of_prefix leads (List.prefix_append folder.parts pieces) with short | long
      · exact (apart target among).2 (above.trans ((List.prefix_append_right_inj _).mpr short))
      · have below := (List.prefix_append_right_inj (Disk.start directory folder)).mpr long
        rcases List.prefix_or_prefix_of_prefix above below with inside | outside
        · exact (apart target among).2 inside
        · exact (apart target among).1 outside
    refine Disk.file_in_fuller directory pieces folder rooted plain fun front leads => ?_
    rcases outlying _ (off front leads) with same | ⟨made, missing, -⟩
    · exact .inl same
    · exact .inr ⟨made, missing⟩
  exact engine.read_same disk first directory path each

end

/-! ### Rendering -/

-- Two renderings of one generator: they hold the same at its target and below, and elsewhere what they began with.
structure Twinned (directory target : Place) (disk other : Disk) (stage twin : Stage) : Prop where
  seen : stage.session.directory = directory ∧ twin.session.directory = directory
  files : stage.files = twin.files
  inside : ∀ place, target <+: place → stage.session.world.disk.at? place = twin.session.world.disk.at? place
  outside : ∀ place, ¬ target <+: place →
    stage.session.world.disk.at? place = disk.at? place ∧ twin.session.world.disk.at? place = other.at? place

-- A disk on which the folder of a target is made, among what others may have left.
structure Prepared (targets : List Place) (first : Disk) (target : Place) (disk : Disk) : Prop where
  outlying : Disk.Outlying targets first disk
  made : ∀ front, front <+: target → disk.at? front = some .folder

-- Renderings that come to the same from related stages.
abbrev Twins (related : Stage → Stage → Prop) (α : Type) (steps : Render α) : Prop := Alike related Trouble.Usual steps

instance twins_framed (related : Stage → Stage → Prop) : Framed (Twins related) where
  pure := alike_pure
  throw := alike_throw
  bind := alike_bind
  blamed alike usual := alike_catch Trouble.Usual alike fun trouble raised => alike_throw _ (usual trouble raised)

theorem file_for_free {generator : Generator} {directory : Place} (relative : Path) (relativeText : String)
    (file : Path) (settled : Path.Settled directory)
    (given : Generator.fileFor directory generator.scene generator.scheme relative relativeText = .ok file) :
    file.hasNul = false := by
  simp only [Generator.fileFor] at given
  split at given
  · cases given
  · rename_i free
    split at given
    · cases given
      rw [Path.resolve_eq_folder]
      refine Path.folder_has_nul directory _ settled ?_
      simp only [Bool.or_eq_true, not_or, Bool.not_eq_true] at free
      exact free.2
    · cases given

section

variable {directory : Place} {targets : List Place} {first : Disk} {generator : Generator}
  (clear : generator.engine.Clear directory targets) (rooted : first.Rooted) (settled : Path.Settled directory)
  (member : generator.scene.target.folder directory ∈ targets)

theorem outlying_of_outside {target : Place} (member : target ∈ targets) {disk later : Disk}
    (outlying : Disk.Outlying targets first disk)
    (outside : ∀ place, ¬ target <+: place → later.at? place = disk.at? place) :
    Disk.Outlying targets first later := by
  intro place off
  rw [outside place (off _ member)]
  exact outlying place off

-- A file below the target of one rendering is written below the target only.
theorem write_text_outside {target parts : Place} (plain : ".." ∉ parts) (free : (Path.mk .single parts).hasNul = false)
    (below : Path.Below target parts) (disk : Disk) (encoding text : String)
    (made : ∀ front, front <+: target → front ≠ target → disk.at? front = some .folder) (place : Place)
    (off : ¬ target <+: place) :
    (Generator.writeText disk directory ⟨.single, parts⟩ encoding text).2.at? place = disk.at? place := by
  obtain ⟨name, rest, rfl⟩ := below
  have other : place ≠ target ++ name :: rest := by
    rintro rfl
    exact off (List.prefix_append _ _)
  rcases @Disk.write_text_at disk directory _ plain free encoding text place other with kept | ⟨missing, leads⟩
  · exact kept
  · rcases List.prefix_or_prefix_of_prefix leads (List.prefix_append target (name :: rest)) with short | long
    · have different : place ≠ target := by
        rintro rfl
        exact off List.prefix_rfl
      rw [made place short different] at missing
      cases missing
    · exact absurd long off

section

variable (disk other : Disk) (prepared : Prepared targets first (generator.scene.target.folder directory) disk)
  (prepared' : Prepared targets first (generator.scene.target.folder directory) other)

-- Both find the templates that were there at first.
include clear rooted member prepared prepared' in
theorem read_twinned (stage twin : Stage)
    (twins : Twinned directory (generator.scene.target.folder directory) disk other stage twin) (path : String) :
    generator.engine.read stage.session.world.disk stage.session.directory path =
      generator.engine.read twin.session.world.disk twin.session.directory path := by
  have left := outlying_of_outside member prepared.outlying fun place off => (twins.outside place off).1
  have right := outlying_of_outside member prepared'.outlying fun place off => (twins.outside place off).2
  rw [twins.seen.1, twins.seen.2, read_outlying clear rooted _ left, read_outlying clear rooted _ right]

include settled prepared prepared' in
theorem write_file_twinned (relative : Path) (relativeText : String) (file : Path) (text : String)
    (given : Generator.fileFor directory generator.scene generator.scheme relative relativeText = .ok file) :
    Alike (Twinned directory (generator.scene.target.folder directory) disk other) Trouble.Usual
      (generator.writeFile file text) := by
  intro stage twin twins
  have free := file_for_free relative relativeText file settled given
  obtain ⟨parts, rfl, plain, below⟩ := file_for_below relative relativeText file settled given
  have leads : generator.scene.target.folder directory <+: parts := by
    obtain ⟨name, rest, rfl⟩ := below
    exact List.prefix_append _ _
  have above (front : List String) (short : front <+: generator.scene.target.folder directory)
      (strict : front ≠ generator.scene.target.folder directory) :
      stage.session.world.disk.at? front = some .folder ∧ twin.session.world.disk.at? front = some .folder := by
    have off : ¬ generator.scene.target.folder directory <+: front := fun long =>
      strict (short.eq_of_length_le long.length_le)
    obtain ⟨kept, kept'⟩ := twins.outside front off
    rw [kept, kept', prepared.made front short, prepared'.made front short]
    exact ⟨rfl, rfl⟩
  have alike (front : List String) (on : front <+: parts) :
      stage.session.world.disk.at? front = twin.session.world.disk.at? front := by
    by_cases within : generator.scene.target.folder directory <+: front
    · exact twins.inside front within
    · have short := (List.prefix_or_prefix_of_prefix on leads).resolve_right within
      have strict : front ≠ generator.scene.target.folder directory := fun same => within (same ▸ List.prefix_rfl)
      obtain ⟨there, there'⟩ := above front short strict
      rw [there, there']
  obtain ⟨same, changed⟩ :=
    @Disk.write_text_same _ _ directory parts plain alike free generator.config.fileEncoding text
  have outside := @write_text_outside directory _ parts plain free below stage.session.world.disk
    generator.config.fileEncoding text fun front short strict => (above front short strict).1
  have outside' := @write_text_outside directory _ parts plain free below twin.session.world.disk
    generator.config.fileEncoding text fun front short strict => (above front short strict).2
  rw [write_file_run, write_file_run, twins.seen.1, twins.seen.2]
  generalize Generator.writeText stage.session.world.disk directory ⟨.single, parts⟩
    generator.config.fileEncoding text = left at same changed outside
  generalize Generator.writeText twin.session.world.disk directory ⟨.single, parts⟩ generator.config.fileEncoding text =
    right at same changed outside'
  obtain ⟨result, after⟩ := left
  obtain ⟨result', after'⟩ := right
  cases same
  have inside (place : Place) (within : generator.scene.target.folder directory <+: place) :
      after.at? place = after'.at? place := by
    rcases changed place with same | ⟨kept, kept'⟩
    · exact same
    · rw [kept, kept', twins.inside place within]
  have elsewhere (place : Place) (off : ¬ generator.scene.target.folder directory <+: place) :
      after.at? place = disk.at? place ∧ after'.at? place = other.at? place :=
    ⟨(outside place off).trans (twins.outside place off).1, (outside' place off).trans (twins.outside place off).2⟩
  cases result with
  | ok done => exact ⟨rfl, ⟨twins.seen, by rw [twins.files], inside, elsewhere⟩, nofun⟩
  | error cause =>
      refine ⟨rfl, ⟨twins.seen, twins.files, inside, elsewhere⟩, ?_⟩
      rintro trouble ⟨⟩
      rfl

include clear rooted settled member prepared prepared'

theorem backs_twinned :
    Backs (Twins (Twinned directory (generator.scene.target.folder directory) disk other)) generator directory where
  placed next alike := alike_read (fun _ _ twins => by rw [twins.seen.1, twins.seen.2]) fun _ _ twins => by
    rw [twins.seen.1]
    exact alike
  read path next alike := alike_read
    (fun stage twin twins =>
      congrArg next (read_twinned clear rooted member disk other prepared prepared' stage twin twins path))
    fun _ _ _ => alike _
  said level message := fun stage twin twins => ⟨rfl, ⟨twins.seen, twins.files, twins.inside, twins.outside⟩, by rintro trouble ⟨⟩⟩
  sought scheme template := by
    intro stage twin twins
    rw [Render.ofRun, Render.ofRun, template_run, template_run,
      read_twinned clear rooted member disk other prepared prepared' stage twin twins]
    cases generator.engine.read twin.session.world.disk twin.session.directory
      (Engine.templatePath scheme template) with
    | ok body => exact ⟨rfl, twins, by rintro trouble ⟨⟩⟩
    | error fault =>
        cases fault with
        | missing => exact ⟨rfl, twins, by rintro trouble ⟨⟩; rfl⟩
        | malformed line => exact ⟨rfl, twins, by rintro trouble ⟨⟩; rfl⟩
        | undecodable fault => exact ⟨rfl, twins, by rintro trouble ⟨⟩; trivial⟩
  wrote relative relativeText file text given :=
    write_file_twinned settled disk other prepared prepared' relative relativeText file text given

-- Rendering the entry of a scheme gives the same, and leaves the same at the target and below.
theorem render_entry_twinned (session twin : Session)
    (twins : Twinned directory (generator.scene.target.folder directory) disk other { session } { session := twin }) :
    (Plan.renderEntry generator session).1 = (Plan.renderEntry generator twin).1 ∧ ∃ files,
      Twinned directory (generator.scene.target.folder directory) disk other
        { session := (Plan.renderEntry generator session).2, files }
        { session := (Plan.renderEntry generator twin).2, files } := by
  have backs := backs_twinned clear rooted settled member disk other prepared prepared'
  obtain ⟨same, still, -⟩ := render_framed backs Engine.entryTemplate .null { session } { session := twin } twins
  cases left : generator.render Engine.entryTemplate .null { session } with
  | mk result stage =>
      cases right : generator.render Engine.entryTemplate .null { session := twin } with
      | mk result' stage' =>
          rw [left, right] at same still
          rw [Plan.render_entry_run generator session result stage left,
            Plan.render_entry_run generator twin result' stage' right]
          cases same
          refine ⟨?_, stage.files, still.seen, rfl, still.inside, still.outside⟩
          cases result with
          | ok text => exact congrArg Except.ok still.files
          | error trouble => rfl

end

end

/-! ### Making a target -/

-- A directory on a disk in which what lies somewhere lies in a folder.
structure Grounded (first : Disk) (directory : Place) : Prop where
  rooted : first.Rooted
  there : first.at? directory = some .folder
  settled : Path.Settled directory

-- What others may have left before the turn of a configuration: at its target and below nothing changed.
structure Beside (targets : List Place) (first : Disk) (target : Place) (disk : Disk) : Prop where
  outlying : Disk.Outlying targets first disk
  inside : ∀ place, target <+: place → disk.at? place = first.at? place

theorem beside_refl (targets : List Place) (first : Disk) (target : Place) : Beside targets first target first :=
  ⟨Disk.outlying_refl targets first, fun _ _ => rfl⟩

section

variable {targets : List Place} {first disk : Disk} {directory : Place} {path : Path}
  (grounded : Grounded first directory) (plain : ".." ∉ path.parts) (free : path.hasNul = false)
  (member : path.folder directory ∈ targets)
  (apart : ∀ other ∈ targets, other <+: path.folder directory → other = path.folder directory)
  (beside : Beside targets first (path.folder directory) disk)

include apart beside in
theorem fuller_above (front : Place) (leads : front <+: path.folder directory) : Disk.Fuller disk first front := by
  by_cases own : path.folder directory <+: front
  · exact .inl (beside.inside front own)
  · have off : ∀ target ∈ targets, ¬ target <+: front := by
      intro target among above
      exact own (apart target among (above.trans leads) ▸ above)
    rcases beside.outlying front off with same | ⟨made, missing, -⟩
    · exact .inl same
    · exact .inr ⟨made, missing⟩

include grounded in
theorem folder_at_start (front : Place) (leads : front <+: Disk.start directory path) :
    first.at? front = some .folder := by
  have there : first.at? (Disk.start directory path) = some .folder := by
    unfold Disk.start
    split
    · exact grounded.there
    · rfl
  obtain ⟨rest, whole⟩ := leads
  by_cases last : rest = []
  · subst last
    rw [← there, ← whole, List.append_nil]
  · exact Disk.folder_above grounded.rooted front rest .folder last (by rw [whole, there])

include grounded plain apart beside in
theorem folder_at_start_beside (front : Place) (leads : front <+: Disk.start directory path) :
    disk.at? front = some .folder := by
  have known := folder_at_start grounded front leads
  have above : front <+: path.folder directory := by
    rw [Path.folder_of_plain directory path plain]
    exact leads.trans (List.prefix_append _ _)
  rcases fuller_above apart beside front above with same | ⟨there, -⟩
  · rw [same, known]
  · exact there

include grounded plain free apart beside

theorem ensure_run : disk.ensureFolders directory path =
    Disk.lay path disk (Disk.start directory path) [] false path.parts :=
  Disk.ensure_folders_lays rfl plain free (folder_at_start_beside grounded plain apart beside _ List.prefix_rfl)

-- The folders of a target are made as they are made without the others.
theorem ensure_overlaid :
    Disk.SameFault (disk.ensureFolders directory path).1 (first.ensureFolders directory path).1 ∧
      Disk.Overlaid first (first.ensureFolders directory path).2 disk (disk.ensureFolders directory path).2 := by
  rw [ensure_run grounded plain free apart beside,
    ensure_run grounded plain free apart (beside_refl targets first _)]
  refine Disk.lay_overlaid disk first _ path path.parts grounded.rooted (folder_at_start grounded _ List.prefix_rfl) ?_
  intro front leads
  refine fuller_above apart beside _ ?_
  rw [Path.folder_of_plain directory path plain]
  exact (List.prefix_append_right_inj _).mpr leads

theorem ensure_at (place : Place) :
    (disk.ensureFolders directory path).2.at? place = disk.at? place ∨
      disk.at? place = none ∧ (disk.ensureFolders directory path).2.at? place = some .folder ∧
        place <+: path.folder directory := by
  rw [ensure_run grounded plain free apart beside]
  rcases Disk.lay_at disk (Disk.start directory path) path [] false path.parts place with
    kept | ⟨missing, made, front, -, leads, rfl⟩
  · exact .inl kept
  · refine .inr ⟨missing, made, ?_⟩
    rw [Path.folder_of_plain directory path plain]
    exact (List.prefix_append_right_inj _).mpr leads

include member in
theorem ensure_prepared (done : (disk.ensureFolders directory path).1 = .ok ()) :
    Prepared targets first (path.folder directory) (disk.ensureFolders directory path).2 where
  outlying := by
    intro place off
    rcases ensure_at grounded plain free apart beside place with kept | ⟨missing, made, leads⟩
    · rw [kept]
      exact beside.outlying place off
    · rcases beside.outlying place off with same | ⟨there, -⟩
      · exact .inr ⟨made, same ▸ missing, _, member, leads⟩
      · rw [missing] at there
        cases there
  made := by
    intro front leads
    have home := folder_at_start_beside grounded plain apart beside
    rw [Path.folder_of_plain directory path plain] at leads
    rw [ensure_run grounded plain free apart beside] at done ⊢
    have kept := Disk.lay_keeps_folder disk (Disk.start directory path) path [] false path.parts
    rcases List.prefix_or_prefix_of_prefix leads (List.prefix_append _ path.parts) with short | ⟨parts, rfl⟩
    · exact kept front (home front short)
    · obtain ⟨more, whole⟩ := (List.prefix_append_right_inj _).mp leads
      refine Disk.at_chain parts more (kept _ (home _ List.prefix_rfl)) ?_
      rw [whole]
      exact Disk.chain_of_lay path [] false path.parts _ plain (Prod.ext done rfl)

end

-- What a turn changes lies at the target and below, apart from folders made above it.
def ChangesOwn (target : Place) (first last : Disk) : Prop :=
  ∀ place, last.at? place = first.at? place ∨ target <+: place ∨
    first.at? place = none ∧ last.at? place = some .folder ∧ place <+: target

section

variable {directory target : Place} {first before made made' : Disk} {stage twin : Stage}
  (twins : Twinned directory target made made' stage twin)
include twins

theorem overlaid_of_twinned (replaced : Disk.Overlaid first made' before made)
    (inside : ∀ place, target <+: place → before.at? place = first.at? place) :
    Disk.Overlaid first twin.session.world.disk before stage.session.world.disk := by
  intro place
  by_cases own : target <+: place
  · have same := twins.inside place own
    by_cases kept : twin.session.world.disk.at? place = first.at? place
    · exact .inl ⟨kept, by rw [same, kept, inside place own]⟩
    · exact .inr ⟨kept, same⟩
  · obtain ⟨left, right⟩ := twins.outside place own
    rw [left, right]
    exact replaced place

theorem changes_of_twinned (changed : ChangesOwn target first made') :
    ChangesOwn target first twin.session.world.disk := by
  intro place
  by_cases own : target <+: place
  · exact .inr (.inl own)
  · rw [(twins.outside place own).2]
    exact changed place

end

/-! ### One configuration -/

namespace Plan

-- A configuration whose target cannot be made because a name in it is too long, told of a path.
def overlong (plan : Plan) (config : Configuration) (path : Path) : Error :=
  .ofFault (.output (.directoryNotCreated (config.targetBelow plan.output).toString
    (Errno.nameTooLong.message path.toString)) (some config.scheme))

-- The same outcome, whatever path an error about an overlong name is told of.
def SameOutcome (plan : Plan) (config : Configuration) (first second : Outcome) : Prop :=
  first = second ∨ ∃ path other,
    first = .error (plan.overlong config path) ∧ second = .error (plan.overlong config other)

section

variable {plan : Plan} {commands : List Command} {moment : Moment} {config : Configuration}

theorem same_outcome_trans {first middle last : Outcome} (before : plan.SameOutcome config first middle)
    (after : plan.SameOutcome config last middle) : plan.SameOutcome config first last := by
  rcases before with rfl | ⟨path, other, rfl, rfl⟩
  · rcases after with rfl | ⟨path, other, rfl, rfl⟩
    · exact .inl rfl
    · exact .inr ⟨_, _, rfl, rfl⟩
  · rcases after with rfl | ⟨own, _, rfl, -⟩
    · exact .inr ⟨_, _, rfl, rfl⟩
    · exact .inr ⟨_, _, rfl, rfl⟩

theorem ends_same {first second : Outcome} (same : plan.SameOutcome config first second) :
    plan.ends first = plan.ends second := by
  have told (path : Path) : plan.ends (.error (plan.overlong config path)) = (plan.failFast || false) := rfl
  rcases same with rfl | ⟨path, other, rfl, rfl⟩
  · rfl
  · rw [told, told]

-- What is done once the target of a configuration is made, and once its entry template is found.
def draw (plan : Plan) (config : Configuration) (forest : Forest) (moment : Moment) : Run Product := do
  let files ← renderEntry (plan.generatorOf config forest moment)
  Run.say .info (finishText config)
  return { name := config.name, target := config.targetBelow plan.output, files }

def makeAndDraw (plan : Plan) (config : Configuration) (forest : Forest) (moment : Moment) : Run Product := do
  makeTarget config (config.targetBelow plan.output)
  plan.draw config forest moment

theorem generate_run (forest : Forest)
    (built : Forest.ofCommands (Command.filter config.packages commands) = .ok forest) (before : Session) :
    ∃ started : Session, started.world = before.world ∧ started.directory = before.directory ∧
      plan.generate commands moment config before =
        match sought config.scheme Engine.entryTemplate (plan.entryOn config before.directory before.world.disk) with
        | .error error => (.error error, started)
        | .ok _ => plan.makeAndDraw config forest moment started := by
  refine ⟨{ before with records := before.records ++ [{ level := .info, message := startText config }] }, rfl, rfl, ?_⟩
  rw [generate_of_forest config forest built, bind_ok (Run.say_run before .info (startText config)), bind_run,
    template_run]
  simp only [entryOn]
  cases sought config.scheme Engine.entryTemplate (plan.engine.read before.world.disk before.directory
      (Engine.templatePath config.scheme Engine.entryTemplate)) with
  | error error => rfl
  | ok body => rfl

-- A turn among others that began on a disk, and the turn that the configuration takes alone on the first disk.
structure AsAlone (plan : Plan) (config : Configuration) (directory : Place) (first before : Disk)
    (turn alone : Outcome × Session) : Prop where
  outcome : plan.SameOutcome config turn.1 alone.1
  disk : Disk.Overlaid first alone.2.world.disk before turn.2.world.disk
  seen : turn.2.directory = directory
  changes : ChangesOwn ((config.targetBelow plan.output).folder directory) first alone.2.world.disk

section

variable {directory : Place} {first before : Disk} {turn alone : Session}

theorem as_alone_unchanged (outcome : Outcome) (seen : turn.directory = directory) (same : turn.world.disk = before)
    (begins : alone.world.disk = first) :
    plan.AsAlone config directory first before (outcome, turn) (outcome, alone) where
  outcome := .inl rfl
  disk place := .inl ⟨by rw [begins], by rw [same]⟩
  seen := seen
  changes place := .inl (by rw [begins])

variable {targets : List Place} {forest : Forest} (grounded : Grounded first directory)
  (clear : plan.engine.Clear directory targets)
  (member : (config.targetBelow plan.output).folder directory ∈ targets)
  (inside : ∀ place, (config.targetBelow plan.output).folder directory <+: place → before.at? place = first.at? place)
include grounded clear member inside

-- From where both targets are made, the renderings do not part.
theorem draw_as_alone (seen : turn.directory = directory) (fresh : alone.directory = directory)
    (prepared : Prepared targets first ((config.targetBelow plan.output).folder directory) turn.world.disk)
    (prepared' : Prepared targets first ((config.targetBelow plan.output).folder directory) alone.world.disk)
    (replaced : Disk.Overlaid first alone.world.disk before turn.world.disk)
    (changed : ChangesOwn ((config.targetBelow plan.output).folder directory) first alone.world.disk) :
    plan.AsAlone config directory first before (plan.draw config forest moment turn)
      (plan.draw config forest moment alone) := by
  have twins : Twinned directory ((config.targetBelow plan.output).folder directory) turn.world.disk alone.world.disk
      { session := turn } { session := alone } := by
    refine ⟨⟨seen, fresh⟩, rfl, fun place own => ?_, fun _ _ => ⟨rfl, rfl⟩⟩
    rcases replaced place with ⟨kept, kept'⟩ | ⟨-, same⟩
    · exact kept'.trans ((inside place own).trans kept.symm)
    · exact same
  obtain ⟨same, files, drawn⟩ := @render_entry_twinned directory targets first
    (plan.generatorOf config forest moment) clear grounded.rooted grounded.settled member turn.world.disk
    alone.world.disk prepared prepared' turn alone twins
  have replaced := overlaid_of_twinned drawn replaced inside
  have changed := changes_of_twinned drawn changed
  have home := drawn.seen.1
  rw [draw, bind_run, bind_run]
  generalize renderEntry (plan.generatorOf config forest moment) turn = left at same replaced home
  generalize renderEntry (plan.generatorOf config forest moment) alone = right at same replaced changed
  obtain ⟨result, last⟩ := left
  obtain ⟨result', last'⟩ := right
  cases same
  cases result with
  | error error => exact ⟨.inl rfl, replaced, home, changed⟩
  | ok files => exact ⟨.inl rfl, replaced, home, changed⟩

end

section

variable {targets : List Place} {first : Disk} {directory : Place} (grounded : Grounded first directory)
  (clear : plan.engine.Clear directory targets) (plain : ".." ∉ (config.targetBelow plan.output).parts)
  (member : (config.targetBelow plan.output).folder directory ∈ targets)
  (apart : ∀ other ∈ targets, other <+: (config.targetBelow plan.output).folder directory →
    other = (config.targetBelow plan.output).folder directory)
  (turn alone : Session) (seen : turn.directory = directory) (fresh : alone.directory = directory)
  (begins : alone.world.disk = first)
  (beside : Beside targets first ((config.targetBelow plan.output).folder directory) turn.world.disk)
include grounded clear plain member apart seen fresh begins beside

theorem make_and_draw_as_alone (forest : Forest) :
    plan.AsAlone config directory first turn.world.disk (plan.makeAndDraw config forest moment turn)
      (plan.makeAndDraw config forest moment alone) := by
  rw [makeAndDraw, bind_run, bind_run]
  cases nul : (config.targetBelow plan.output).hasNul with
  | true =>
      rw [make_target_nul _ turn nul, make_target_nul _ alone nul]
      exact as_alone_unchanged _ seen rfl begins
  | false =>
      obtain ⟨fault, replaced⟩ := ensure_overlaid grounded plain nul apart beside
      have changed : ChangesOwn ((config.targetBelow plan.output).folder directory) first
          (first.ensureFolders directory (config.targetBelow plan.output)).2 := fun place =>
        (ensure_at grounded plain nul apart (beside_refl targets first _) place).imp_right .inr
      have prepared := ensure_prepared grounded plain nul member apart beside
      have prepared' := ensure_prepared grounded plain nul member apart (beside_refl targets first _)
      cases ensured : turn.world.disk.ensureFolders directory (config.targetBelow plan.output) with
      | mk result made =>
          cases ensured' : first.ensureFolders directory (config.targetBelow plan.output) with
          | mk result' made' =>
              rw [ensured, ensured'] at fault replaced
              rw [ensured] at prepared
              rw [ensured'] at prepared' changed
              rw [make_target_run _ turn nul result made (by rw [seen, ensured]),
                make_target_run _ alone nul result' made' (by rw [begins, fresh, ensured'])]
              rcases fault with same | ⟨path, other, long, long'⟩
              · cases same
                cases result with
                | error failure => exact ⟨.inl rfl, replaced, seen, changed⟩
                | ok done =>
                    exact draw_as_alone grounded clear member beside.inside seen fresh (prepared rfl) (prepared' rfl)
                      replaced changed
              · cases long
                cases long'
                exact ⟨.inr ⟨path, other, rfl, rfl⟩, replaced, seen, changed⟩

-- Whatever a configuration comes to alone, it comes to among others that keep to their own targets.
theorem generate_as_alone :
    plan.AsAlone config directory first turn.world.disk (plan.generate commands moment config turn)
      (plan.generate commands moment config alone) := by
  cases built : Forest.ofCommands (Command.filter config.packages commands) with
  | error fault =>
      rw [generate_of_fault config fault built]
      exact as_alone_unchanged _ seen rfl begins
  | ok forest =>
      obtain ⟨started, world, home, run⟩ := @generate_run plan commands moment config forest built turn
      obtain ⟨started', world', home', run'⟩ := @generate_run plan commands moment config forest built alone
      have read : plan.entryOn config directory turn.world.disk = plan.entryOn config directory first :=
        read_outlying clear grounded.rooted _ beside.outlying _
      rw [run, run', seen, fresh, begins, read]
      rw [← world] at beside ⊢
      cases sought config.scheme Engine.entryTemplate (plan.entryOn config directory first) with
      | error error => exact as_alone_unchanged _ (home.trans seen) rfl (by rw [world', begins])
      | ok body =>
          exact make_and_draw_as_alone grounded clear plain member apart started started' (home.trans seen)
            (home'.trans fresh) (by rw [world', begins]) beside forest

end

end

end Plan

end StubForge
