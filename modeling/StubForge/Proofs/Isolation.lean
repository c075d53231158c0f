import Mathlib.Data.List.Pairwise
import StubForge.Proofs.Neighbours
import StubForge.Proofs.Reordering

set_option autoImplicit false

/-!
Configurations do not interfere: a run that goes on after failures comes to the same for each of them, and writes the
same files, in whatever order they are given.
-/

namespace StubForge

-- A text without marks and escapes is quoted as it is.
theorem Text.quoted_plain (text : String) (plain : ∀ c ∈ text.toList, Text.escapeQuoted '\'' c = [c]) :
    Text.quoted text = "'" ++ text ++ "'" := by
  have bare : '\'' ∉ text.toList := fun inside => by cases plain _ inside
  have kept : text.toList.flatMap (Text.escapeQuoted '\'') = text.toList := by
    rw [List.flatMap_congr plain, List.flatMap_singleton']
  have mark : Text.quoteFor text.toList = '\'' := by simp [Text.quoteFor, bare]
  rw [Text.quoted, Text.quotedChars, mark, kept, ← String.toList_inj]
  simp

/-! ### What the turns leave together -/

-- Every change that a turn makes alone is there, and where no turn changes anything, it is as it was at first.
def Merged (first : Disk) (alone : Configuration → Disk) (done : List Configuration) (disk : Disk) : Prop :=
  ∀ place,
    (∃ config ∈ done, (alone config).at? place ≠ first.at? place ∧ disk.at? place = (alone config).at? place) ∨
      (∀ config ∈ done, (alone config).at? place = first.at? place) ∧ disk.at? place = first.at? place

section

variable {first : Disk} {alone : Configuration → Disk}

theorem merged_nil (first : Disk) (alone : Configuration → Disk) : Merged first alone [] first :=
  fun _ => .inr ⟨by simp, rfl⟩

theorem merged_next (done : List Configuration) (config : Configuration) (before after : Disk)
    (merged : Merged first alone done before) (replaced : Disk.Overlaid first (alone config) before after) :
    Merged first alone (done ++ [config]) after := by
  intro place
  rcases replaced place with ⟨unchanged, kept⟩ | ⟨changed, same⟩
  · rw [kept]
    rcases merged place with ⟨earlier, member, changed, same⟩ | ⟨none, still⟩
    · exact .inl ⟨earlier, List.mem_append_left _ member, changed, same⟩
    · refine .inr ⟨fun other member => ?_, still⟩
      rcases List.mem_append.mp member with earlier | own
      · exact none other earlier
      · exact List.mem_singleton.mp own ▸ unchanged
  · exact .inl ⟨config, by simp, changed, same⟩

-- Two turns change the same place in the same way only, so that the order in which they are taken does not show.
theorem merged_unique (done others : List Configuration) (disk other : Disk)
    (same : ∀ config, config ∈ done ↔ config ∈ others)
    (agree : ∀ one ∈ done, ∀ two ∈ done, ∀ place, (alone one).at? place ≠ first.at? place →
      (alone two).at? place ≠ first.at? place → (alone one).at? place = (alone two).at? place)
    (merged : Merged first alone done disk) (merged' : Merged first alone others other) (place : Place) :
    disk.at? place = other.at? place := by
  rcases merged place with ⟨one, member, changed, left⟩ | ⟨none, left⟩
  · rcases merged' place with ⟨two, member', changed', right⟩ | ⟨none, -⟩
    · rw [left, right]
      exact agree one member two ((same two).mpr member') place changed changed'
    · exact absurd (none one ((same one).mp member)) changed
  · rcases merged' place with ⟨two, member', changed', -⟩ | ⟨-, right⟩
    · exact absurd (none two ((same two).mpr member')) changed'
    · rw [left, right]

end

namespace Plan

-- Where the files of a configuration go.
def placeOf (plan : Plan) (directory : Place) (config : Configuration) : Place :=
  (config.targetBelow plan.output).folder directory

def Apart (plan : Plan) (directory : Place) (one other : Configuration) : Prop :=
  ¬ plan.placeOf directory one <+: plan.placeOf directory other ∧
    ¬ plan.placeOf directory other <+: plan.placeOf directory one

instance (plan : Plan) (directory : Place) : DecidableRel (plan.Apart directory) := fun one other =>
  inferInstanceAs (Decidable (¬ plan.placeOf directory one <+: plan.placeOf directory other ∧ _))

-- The targets are written without leading up, none is another or lies inside one, and the folders of templates are
-- written so too and lie apart from all of them.
structure Separate (plan : Plan) (directory : Place) : Prop where
  plain : ∀ config ∈ plan.configurations, ".." ∉ (config.targetBelow plan.output).parts
  apart : plan.configurations.Pairwise (plan.Apart directory)
  clear : plan.engine.Clear directory (plan.configurations.map (plan.placeOf directory))

section

variable {plan : Plan} {directory : Place} {commands : List Command} {moment : Moment}

instance : Std.Symm (plan.Apart directory) := ⟨fun _ _ apart => ⟨apart.2, apart.1⟩⟩

theorem separate_reordered (order : List Configuration) (permuted : order.Perm plan.configurations)
    (separate : plan.Separate directory) : (plan.reordered order).Separate directory where
  plain config member := separate.plain config (permuted.mem_iff.mp member)
  apart := (permuted.pairwise_iff fun apart => Std.Symm.symm _ _ apart).mpr separate.apart
  clear := by
    refine ⟨separate.clear.plain, fun folder member target among => separate.clear.apart folder member target ?_⟩
    exact (permuted.map _).mem_iff.mp among

theorem own_of_above (separate : plan.Separate directory) (config : Configuration)
    (member : config ∈ plan.configurations) (other : Place)
    (among : other ∈ plan.configurations.map (plan.placeOf directory))
    (above : other <+: plan.placeOf directory config) : other = plan.placeOf directory config := by
  obtain ⟨one, listed, rfl⟩ := List.mem_map.mp among
  by_cases same : one = config
  · rw [same]
  · exact absurd above (separate.apart.forall listed member same).1

variable (separate : plan.Separate directory) (start : Session) (home : start.directory = directory)
  (grounded : Grounded start.world.disk directory)

-- What a configuration leaves when it is the first to be generated.
def aloneDisk (plan : Plan) (commands : List Command) (moment : Moment) (start : Session) (config : Configuration) :
    Disk := (plan.generate commands moment config start).2.world.disk

include separate home grounded

theorem turn_alone (config : Configuration) (member : config ∈ plan.configurations) (session : Session)
    (seen : session.directory = directory)
    (beside : Beside (plan.configurations.map (plan.placeOf directory)) start.world.disk (plan.placeOf directory config)
      session.world.disk) :
    plan.AsAlone config directory start.world.disk session.world.disk (plan.generate commands moment config session)
      (plan.generate commands moment config start) :=
  generate_as_alone grounded separate.clear (separate.plain config member) (List.mem_map_of_mem member)
    (own_of_above separate config member) session start seen home rfl beside

theorem changes_alone (config : Configuration) (member : config ∈ plan.configurations) :
    ChangesOwn (plan.placeOf directory config) start.world.disk (plan.aloneDisk commands moment start config) :=
  (turn_alone separate start home grounded config member start home (beside_refl _ _ _)).changes

-- Before its turn, a configuration finds what turns that are apart from it left.
theorem beside_of_merged (done : List Configuration) (config : Configuration) (disk : Disk)
    (listed : ∀ other ∈ done, other ∈ plan.configurations) (apart : ∀ other ∈ done, plan.Apart directory other config)
    (merged : Merged start.world.disk (plan.aloneDisk commands moment start) done disk) :
    Beside (plan.configurations.map (plan.placeOf directory)) start.world.disk (plan.placeOf directory config)
      disk where
  outlying := by
    intro place off
    rcases merged place with ⟨other, member, changed, same⟩ | ⟨-, same⟩
    · rcases changes_alone separate start home grounded other (listed other member) place with kept | inside |
        ⟨missing, made, above⟩
      · exact absurd kept changed
      · exact absurd inside (off _ (List.mem_map_of_mem (listed other member)))
      · exact .inr ⟨same.trans made, missing, _, List.mem_map_of_mem (listed other member), above⟩
    · exact .inl same
  inside := by
    intro place own
    rcases merged place with ⟨other, member, changed, -⟩ | ⟨-, same⟩
    · rcases changes_alone separate start home grounded other (listed other member) place with kept | inside |
        ⟨-, -, above⟩
      · exact absurd kept changed
      · rcases List.prefix_or_prefix_of_prefix inside own with short | long
        · exact absurd short (apart other member).1
        · exact absurd long (apart other member).2
      · exact absurd (own.trans above) (apart other member).2
    · exact same

theorem changes_agree (one two : Configuration) (member : one ∈ plan.configurations)
    (member' : two ∈ plan.configurations) (place : Place)
    (changed : (plan.aloneDisk commands moment start one).at? place ≠ start.world.disk.at? place)
    (changed' : (plan.aloneDisk commands moment start two).at? place ≠ start.world.disk.at? place) :
    (plan.aloneDisk commands moment start one).at? place = (plan.aloneDisk commands moment start two).at? place := by
  by_cases same : one = two
  · rw [same]
  · have apart := separate.apart.forall member member' same
    rcases changes_alone separate start home grounded one member place with kept | inside | ⟨-, made, above⟩
    · exact absurd kept changed
    · rcases changes_alone separate start home grounded two member' place with kept | inside' | ⟨-, -, above'⟩
      · exact absurd kept changed'
      · rcases List.prefix_or_prefix_of_prefix inside inside' with short | long
        · exact absurd short apart.1
        · exact absurd long apart.2
      · exact absurd (inside.trans above') apart.1
    · rcases changes_alone separate start home grounded two member' place with kept | inside' | ⟨-, made', -⟩
      · exact absurd kept changed'
      · exact absurd (inside'.trans above) apart.2
      · rw [made, made']

-- By induction on the turns: each comes to what it comes to alone.
theorem row_alone (attempts : List (Configuration × Outcome)) (before last : Session)
    (row : Attempts plan commands moment attempts before last) (done : List Configuration)
    (listed : done ++ attempts.map (·.1) <+: plan.configurations) (seen : before.directory = directory)
    (merged : Merged start.world.disk (plan.aloneDisk commands moment start) done before.world.disk) :
    (∀ attempt ∈ attempts,
        plan.SameOutcome attempt.1 attempt.2 (plan.generate commands moment attempt.1 start).1) ∧
      Merged start.world.disk (plan.aloneDisk commands moment start) (done ++ attempts.map (·.1)) last.world.disk := by
  induction row generalizing done with
  | none session => exact ⟨by simp, by simpa using merged⟩
  | next config outcome rest before middle last generated others ih =>
      have member : config ∈ plan.configurations := listed.subset (by simp)
      have earlier : ∀ other ∈ done, other ∈ plan.configurations := fun other inside =>
        listed.subset (List.mem_append_left _ inside)
      have apart : ∀ other ∈ done, plan.Apart directory other config := fun other inside =>
        (List.pairwise_append.mp (separate.apart.sublist listed.sublist)).2.2 other inside config (by simp)
      have beside := beside_of_merged separate start home grounded done config before.world.disk earlier apart merged
      have turn := @turn_alone plan directory commands moment separate start home grounded config member before
        seen beside
      rw [generated] at turn
      obtain ⟨records, same⟩ := plan.recorded_eq config outcome middle
      rw [same] at ih
      obtain ⟨outcomes, merged⟩ := ih (done ++ [config]) (by simpa using listed) turn.seen
        (merged_next done config before.world.disk middle.world.disk merged turn.disk)
      exact ⟨List.forall_mem_cons.mpr ⟨turn.outcome, outcomes⟩, by simpa using merged⟩

end

/-! ### Whole runs -/

section

variable {plan : Plan} {session : Session}

-- A run that goes through all configurations, or gives up only for the failures that it collected, got so far that it
-- knew its commands and its time, and no configuration ended it.
theorem attempts_of_collected
    (collected : ∀ error, (plan.run session).1 = .error error → ∃ failures, error = .ofFault (.generation failures)) :
    ∃ commands moment discovered attempts last, plan.discover session = (.ok commands, discovered) ∧
      Moment.ofPinned plan.clock = .ok moment ∧ Attempts plan commands moment attempts discovered last ∧
      Completes plan plan.configurations attempts ∧ plan.run session = (verdict attempts, last) := by
  have early := (@reads_only_plan_discover plan session.world.disk session.directory session ⟨rfl, rfl⟩).2
  cases found : plan.discover session with
  | mk result discovered =>
      rw [found] at early
      cases result with
      | error error =>
          obtain ⟨failures, rfl⟩ := collected error (by rw [run, bind_error found])
          exact absurd (early _ rfl) id
      | ok commands =>
          cases read : Moment.ofPinned plan.clock with
          | error fault =>
              have untimed : plan.moment discovered = (.error (clockError fault), discovered) := by
                rw [moment, read]
                rfl
              obtain ⟨failures, same⟩ := collected _ (by rw [run, bind_ok found, bind_error untimed])
              cases fault <;> cases same
          | ok moment =>
              obtain ⟨attempts, last, row, ended⟩ := run_attempts session discovered found read
              rcases ended with ⟨complete, result⟩ | ⟨config, outcome, error, -, reason, result⟩
              · exact ⟨commands, moment, discovered, attempts, last, rfl, rfl, row, complete, result⟩
              · obtain ⟨failures, rfl⟩ := collected error (by rw [result])
                cases outcome with
                | ok product => cases reason
                | error own => cases own <;> cases reason

theorem disk_of_discover (discovered : Session) (commands : List Command)
    (found : plan.discover session = (.ok commands, discovered)) :
    discovered.world.disk = session.world.disk ∧ discovered.directory = session.directory := by
  have kept := (@reads_only_plan_discover plan session.world.disk session.directory session ⟨rfl, rfl⟩).1
  rwa [found] at kept

-- The attempts of a run come to what the configurations come to alone, and leave what these leave together.
theorem attempts_alone (separate : plan.Separate session.directory)
    (grounded : Grounded session.world.disk session.directory) (commands : List Command) (moment : Moment)
    (discovered last : Session) (found : plan.discover session = (.ok commands, discovered))
    (attempts : List (Configuration × Outcome)) (row : Attempts plan commands moment attempts discovered last)
    (started : attempts.map (·.1) <+: plan.configurations) :
    (∀ attempt ∈ attempts,
        plan.SameOutcome attempt.1 attempt.2 (plan.generate commands moment attempt.1 session).1) ∧
      Merged session.world.disk (plan.aloneDisk commands moment session) (attempts.map (·.1)) last.world.disk := by
  obtain ⟨same, home⟩ := disk_of_discover discovered commands found
  exact row_alone separate session rfl grounded attempts discovered last row [] started home
    (same ▸ merged_nil _ _)

-- What a run tells of the configurations that failed, unless it failed otherwise.
def told : Except Error (List Product) → Option (List (String × String))
  | .ok _ => some []
  | .error (.failure (.of none (.generation failures))) => some (failures.map fun entry => (entry.1, entry.2.message))
  | .error _ => none

theorem collected_of_told (result : Except Error (List Product)) (known : (told result).isSome = true) (error : Error)
    (failed : result = .error error) : ∃ failures, error = .ofFault (.generation failures) := by
  subst failed
  unfold told at known
  split at known
  · rename_i same
    cases same
  · rename_i same
    cases same
    exact ⟨_, rfl⟩
  · cases known

def longName : String := String.ofList (List.replicate 256 'n')

def planOf (scheme scheme' : String) (target target' : List String) (folders : List (List String)) : Plan where
  configurations := [
    { name := "a", scheme, packages := ["shop"], target := some ⟨.relative, target⟩ },
    { name := "b", scheme := scheme', packages := ["shop"], target := some ⟨.relative, target'⟩ }]
  classpath := [⟨.relative, ["lib"]⟩]
  engine := { folders := folders.map fun parts => ⟨.relative, parts⟩ }
  failFast := false
  clock := "0"

def shopWith (more : List (Place × Entry)) : Session where
  world := World.initial { entries := [(["w"], .folder), (["w", "lib"], .folder),
    (["w", "lib", "shop.py"], .file (.module []))] ++ more }
  directory := ["w"]

-- The second target has a name that is too long, below a folder that the first target needs too.
def sharedParent : Plan := planOf "json" "json" ["out", "x"] ["out", longName, "y"] []

def notMade (path : String) : String :=
  "configuration 'b': cannot create stub directory out/" ++ longName ++
    "/y: [Errno 36] File name too long: '" ++ path ++ "' (scheme 'json')"

theorem told_of_failures (attempts : List (Configuration × Outcome)) (name : String) (failure : Failure)
    (collected : failures attempts = [(name, failure)]) :
    told (verdict attempts) = some [(name, failure.message)] := by
  rw [verdict, collected]
  rfl

-- A target below a folder with a name of the letter `n` alone, which may be too long. What is told of it is worked out
-- for every such name: to compute with the letters of a long one takes too much.
def pathBelow (name : String) : Path := ⟨.relative, ["out", name, "y"]⟩

def configBelow (name : String) : Configuration :=
  { name := "b", scheme := "json", packages := ["shop"], target := some (pathBelow name) }

def configBeside : Configuration :=
  { name := "a", scheme := "json", packages := ["shop"], target := some ⟨.relative, ["out", "x"]⟩ }

def notMadeFor (name : String) (path : Path) : OutputFault :=
  .directoryNotCreated (pathBelow name).toString (Errno.nameTooLong.message path.toString)

def failedFor (name : String) (path : Path) : Outcome :=
  .error (.ofFault (.output (notMadeFor name path) (some "json")))

theorem goes_on_below {plan : Plan} (collects : plan.failFast = false) (name : String) (path : Path) :
    plan.ends (failedFor name path) = false := by
  rw [failedFor, Error.ofFault, ends, collects]
  rfl

def begunBelow (name : String) (disk : Disk) (session : Session) : Session :=
  Template.onDisk disk
    { session with records := session.records ++ [{ level := .info, message := startText (configBelow name) }] }

theorem text_of_target (name : String) : (pathBelow name).toString = "out/" ++ name ++ "/y" := by
  simp [pathBelow, Path.toString, Path.anchorText, Text.join, ← String.toList_inj]

section

variable {name : String} (letters : ∀ c ∈ name.toList, c = 'n')
include letters

theorem quoted_below (back : String) (plain : back.toList.all (fun c => Text.escapeQuoted '\'' c == [c]) = true) :
    Text.quoted ("out/" ++ name ++ back) = "'" ++ ("out/" ++ name ++ back) ++ "'" := by
  have harmless : "out/".toList.all (fun c => Text.escapeQuoted '\'' c == [c]) = true := by decide
  refine Text.quoted_plain _ fun c inside => ?_
  rw [String.toList_append, String.toList_append, List.mem_append, List.mem_append] at inside
  rcases inside with (front | own) | behind
  · exact eq_of_beq (List.all_eq_true.mp harmless c front)
  · obtain rfl := letters c own
    decide
  · exact eq_of_beq (List.all_eq_true.mp plain c behind)

theorem message_below (back : String) (plain : back.toList.all (fun c => Text.escapeQuoted '\'' c == [c]) = true)
    (path : Path) (spelled : path.toString = "out/" ++ name ++ back) :
    (Failure.of (some "b") (.output (notMadeFor name path) (some "json"))).message =
      "configuration 'b': cannot create stub directory out/" ++ name ++ "/y: [Errno 36] File name too long: '" ++
        ("out/" ++ name ++ back) ++ "' (scheme 'json')" := by
  have number : Text.natText 36 = "36" := by decide
  have unfolded : (Failure.of (some "b") (.output (notMadeFor name path) (some "json"))).message =
      "configuration '" ++ "b" ++ "': " ++ ("cannot create stub directory " ++ (pathBelow name).toString ++ ": " ++
        ("[Errno " ++ Text.natText 36 ++ "] " ++ "File name too long" ++ ": " ++ Text.quoted path.toString) ++
          " (scheme '" ++ "json" ++ "')") := rfl
  rw [unfolded, number, text_of_target, spelled, quoted_below letters back plain, ← String.toList_inj]
  simp only [String.toList_append, List.append_assoc]
  simp

section

variable {plan : Plan} {moment : Moment} {session : Session} (builtin : plan.engine = {})
  (directory : session.directory = ["w"]) (there : session.world.disk.at? ["w"] = some .folder)
include builtin directory there

theorem generate_below (path : Path) (made : Disk)
    (stops : Disk.lay (pathBelow name) session.world.disk ["w"] [] false (pathBelow name).parts =
      (.error (.nameTooLong, path), made)) :
    plan.generate [] moment (configBelow name) session = (failedFor name path, begunBelow name made session) := by
  have free : (pathBelow name).hasNul = false := by
    have bare : name.toList.contains '\x00' = false := by
      rw [List.contains_eq_mem, decide_eq_false_iff_not]
      intro inside
      cases letters _ inside
    simp only [Path.hasNul, pathBelow, List.any_cons, bare, List.any_nil]
    decide
  have plain : ".." ∉ (pathBelow name).parts := by
    have down : ".." ≠ name := by
      rintro rfl
      cases letters '.' (by decide)
    simp [pathBelow, down]
  have ensured : session.world.disk.ensureFolders session.directory (pathBelow name) =
      (.error (.nameTooLong, path), made) := by
    rw [directory, Disk.ensure_folders_lays (show Disk.start ["w"] (pathBelow name) = ["w"] from rfl) plain free
      there, stops]
  obtain ⟨body, bundled, -⟩ := ok_of_computed (Engine.read {} {} [] (Engine.templatePath "json" Engine.entryTemplate))
    (fun _ => true) (by decide +kernel)
  have read : plan.engine.read session.world.disk session.directory
      (Engine.templatePath (configBelow name).scheme Engine.entryTemplate) = .ok body := by
    rw [builtin, ← bundled]
    simp only [Engine.read, List.findSome?_nil, configBelow]
  rw [generate_of_forest (configBelow name) {} rfl, bind_ok (Run.say_run session .info (startText (configBelow name))),
    bind_ok (show plan.engine.template _ _ _ = (.ok body, _) by rw [Template.template_run, read]; rfl)]
  have failed := @make_target_run (configBelow name) (pathBelow name)
    { session with records := session.records ++ [{ level := .info, message := startText (configBelow name) }] } free _
    made ensured
  exact bind_error failed _

end

section

variable {plan : Plan} {session found last : Session} {product : Product} (long : Disk.tooLong name = true)
  (builtin : plan.engine = {}) (collects : plan.failFast = false) (clock : Moment.ofPinned plan.clock = .ok epoch)
  (discovered : plan.discover session = (.ok [], found))
include long builtin collects clock discovered

-- The folder above is there when the second target is made.
theorem told_after (configs : plan.configurations = [configBeside, configBelow name])
    (generated : plan.generate [] epoch configBeside found = (.ok product, last)) (directory : last.directory = ["w"])
    (there : last.world.disk.at? ["w"] = some .folder) (out : last.world.disk.at? ["w", "out"] = some .folder) :
    told (plan.run session).1 = some [("b", "configuration 'b': cannot create stub directory out/" ++ name ++
      "/y: [Errno 36] File name too long: '" ++ ("out/" ++ name ++ "/y") ++ "' (scheme 'json')")] := by
  have stops : Disk.lay (pathBelow name) last.world.disk ["w"] [] false (pathBelow name).parts =
      (.error (.nameTooLong, pathBelow name), last.world.disk) := by
    simp [Disk.lay, pathBelow, show Disk.tooLong "out" = false by decide, out, long]
  have row : plan.Attempts [] epoch [(configBeside, .ok product), (configBelow name, failedFor name (pathBelow name))]
      found _ :=
    .next _ _ _ _ _ _ generated
      (.next _ _ _ _ _ _ (generate_below letters builtin directory there _ _ stops) (.none _))
  have going : ∀ attempt ∈ [(configBeside, Except.ok product), (configBelow name, failedFor name (pathBelow name))],
      plan.ends attempt.2 = false := by
    intro attempt member
    simp only [List.mem_cons, List.not_mem_nil, or_false] at member
    rcases member with rfl | rfl
    · rfl
    · exact goes_on_below collects _ _
  rw [run_of_attempts _ _ _ discovered clock _ row ⟨configs.symm, going⟩, told_of_failures _ _ _ rfl,
    ← message_below letters "/y" (by decide) _ (text_of_target name)]
  rfl

-- The folder above is made on the way to the second target.
theorem told_before (configs : plan.configurations = [configBelow name, configBeside])
    (directory : found.directory = ["w"]) (there : found.world.disk.at? ["w"] = some .folder)
    (free : found.world.disk.at? ["w", "out"] = none)
    (generated : plan.generate [] epoch configBeside (plan.recorded (configBelow name)
      (failedFor name ⟨.relative, ["out", name]⟩)
      (begunBelow name (found.world.disk.set ["w", "out"] .folder) found)) = (.ok product, last)) :
    told (plan.run session).1 = some [("b", "configuration 'b': cannot create stub directory out/" ++ name ++
      "/y: [Errno 36] File name too long: '" ++ ("out/" ++ name) ++ "' (scheme 'json')")] := by
  have stops : Disk.lay (pathBelow name) found.world.disk ["w"] [] false (pathBelow name).parts =
      (.error (.nameTooLong, ⟨.relative, ["out", name]⟩), found.world.disk.set ["w", "out"] .folder) := by
    simp [Disk.lay, pathBelow, show Disk.tooLong "out" = false by decide, free, long]
  have row : plan.Attempts [] epoch
      [(configBelow name, failedFor name ⟨.relative, ["out", name]⟩), (configBeside, .ok product)] found _ :=
    .next _ _ _ _ _ _ (generate_below letters builtin directory there _ _ stops) (.next _ _ _ _ _ _ generated (.none _))
  have going : ∀ attempt ∈
      [(configBelow name, failedFor name ⟨.relative, ["out", name]⟩), (configBeside, Except.ok product)],
      plan.ends attempt.2 = false := by
    intro attempt member
    simp only [List.mem_cons, List.not_mem_nil, or_false] at member
    rcases member with rfl | rfl
    · exact goes_on_below collects _ _
    · rfl
  have spelled : (Path.mk .relative ["out", name]).toString = "out/" ++ name ++ "" := by
    simp [Path.toString, Path.anchorText, Text.join]
  have message := message_below letters "" (by decide) _ spelled
  rw [String.append_empty] at message
  rw [run_of_attempts _ _ _ discovered clock _ row ⟨configs.symm, going⟩, told_of_failures _ _ _ rfl, ← message]
  rfl

end

end

theorem letters_of_long_name (c : Char) (inside : c ∈ longName.toList) : c = 'n' := by
  have spelled : longName.toList = List.replicate 256 'n' := String.toList_ofList
  rw [spelled] at inside
  exact List.eq_of_mem_replicate inside

theorem long_name_too_long : Disk.tooLong longName = true := by decide +kernel

def hasFolder (disk : Disk) (place : Place) : Bool :=
  match disk.at? place with
  | some .folder => true
  | _ => false

theorem at_of_has_folder {disk : Disk} {place : Place} (held : hasFolder disk place = true) :
    disk.at? place = some .folder := by
  unfold hasFolder at held
  split at held
  · assumption
  · cases held

theorem nothing_discovered (plan : Plan)
    (computed : okHolds List.isEmpty (plan.discover (shopWith [])).1 = true) :
    plan.discover (shopWith []) = (.ok [], (plan.discover (shopWith [])).2) := by
  obtain ⟨commands, found, none⟩ := ok_of_computed _ _ computed
  rw [List.isEmpty_iff.mp none] at found
  exact pair_of_fst found

theorem told_of_shared_parent :
    told (sharedParent.run (shopWith [])).1 = some [("b", notMade ("out/" ++ longName ++ "/y"))] := by
  have discovered := nothing_discovered sharedParent (by decide +kernel)
  generalize same : sharedParent.generate [] epoch configBeside (sharedParent.discover (shopWith [])).2 = turn
  obtain ⟨product, made, computed⟩ := ok_of_computed turn.1
    (fun _ => turn.2.directory == ["w"] && (hasFolder turn.2.world.disk ["w"] &&
      hasFolder turn.2.world.disk ["w", "out"])) (by rw [← same]; decide +kernel)
  obtain ⟨directory, folders⟩ := Bool.and_eq_true_iff.mp computed
  obtain ⟨there, out⟩ := Bool.and_eq_true_iff.mp folders
  exact told_after letters_of_long_name long_name_too_long rfl rfl (by decide +kernel) discovered rfl
    (same.trans (pair_of_fst made)) (eq_of_beq directory) (at_of_has_folder there) (at_of_has_folder out)

theorem told_of_shared_parent_reversed :
    told ((sharedParent.reordered sharedParent.configurations.reverse).run (shopWith [])).1 =
      some [("b", notMade ("out/" ++ longName))] := by
  have discovered := nothing_discovered (sharedParent.reordered sharedParent.configurations.reverse)
    (by decide +kernel)
  obtain ⟨product, made, -⟩ := ok_of_computed ((sharedParent.reordered sharedParent.configurations.reverse).generate []
    epoch configBeside ((sharedParent.reordered sharedParent.configurations.reverse).recorded (configBelow longName)
      (failedFor longName ⟨.relative, ["out", longName]⟩)
      (begunBelow longName
        (((sharedParent.reordered sharedParent.configurations.reverse).discover (shopWith [])).2.world.disk.set
          ["w", "out"] .folder)
        ((sharedParent.reordered sharedParent.configurations.reverse).discover (shopWith [])).2))).1
    (fun _ => true) (by decide +kernel)
  exact told_before letters_of_long_name long_name_too_long rfl rfl (by decide +kernel) discovered rfl
    (by decide +kernel) (at_of_has_folder (by decide +kernel)) (by decide +kernel) (pair_of_fst made)

-- What was to be asked of targets alone: they are written without leading up, none is another or lies inside one, and
-- they lie outside the class path and the folders of templates.
def Outside (plan : Plan) (directory : Place) : Prop :=
  (∀ config ∈ plan.configurations, ".." ∉ (config.targetBelow plan.output).parts) ∧
    plan.configurations.Pairwise (plan.Apart directory) ∧
      ∀ root ∈ plan.classpath ++ plan.engine.folders, ∀ config ∈ plan.configurations,
        ¬ root.folder directory <+: plan.placeOf directory config

instance (plan : Plan) (directory : Place) : Decidable (plan.Outside directory) :=
  inferInstanceAs (Decidable (_ ∧ _ ∧ _))

-- The folder of templates is written through the target of the other configuration.
def templatesThrough : Plan := planOf "json" "own" ["x"] ["y"] [["x", "..", "tpl"]]

-- The second folder of templates lies in the target of the other configuration, which makes a template there.
def templatesInside : Plan := planOf "maker" "own" ["x"] ["y"] [["tpl"], ["x", "tpl"]]

def textFile (text : String) : Entry := .file (.bytes (text.toList.map fun c => c.toNat.toUInt8))

def withOwn : Session := shopWith [(["w", "tpl"], .folder), (["w", "tpl", "own"], .folder),
  (["w", "tpl", "own", "main.j2"], textFile "hi")]

def withMaker : Session := shopWith [(["w", "tpl"], .folder), (["w", "tpl", "maker"], .folder),
  (["w", "tpl", "maker", "main.j2"],
    textFile "\x7b\x7b generator.generate_file('tpl/own/main.j2', 'part') \x7d\x7d"),
  (["w", "tpl", "maker", "part.j2"], textFile "hi")]

def notFound : String := "configuration 'b': cannot find template (scheme 'own', template 'main')"

end

end Plan

end StubForge
