import StubForge.Proofs.StubFiles

set_option autoImplicit false

/-!
The files that a configuration reports. Files are written while others are rendered, to any depth: the course of a
rendering tells them in the order in which they were written, and the disk, the list of files and the encoding keep in
step with it.
-/

namespace StubForge

open Template

open Stubs (Document fileOf generated_file)

/-! ### Encodings -/

-- A file gets the bytes of a text as a whole, but for names of hosts.
theorem Codec.encode_of_written (codec : Codec) (text : String) (bytes : Bytes) (named : codec ≠ .domain)
    (written : codec.written text = .ok bytes) : codec.encode text = .ok bytes := by
  cases codec with
  | domain => exact absurd rfl named
  | _ => exact written

theorem Generator.codec_of_encode (encoding text : String) (bytes : Bytes)
    (encoded : Generator.encode encoding text = .ok bytes) :
    ∃ codec, Codec.lookup? encoding = some codec ∧ codec.isText = true ∧ codec.written text = .ok bytes := by
  unfold Generator.encode at encoded
  cases known : Codec.lookup? encoding with
  | none => simp [known] at encoded
  | some codec =>
      simp only [known] at encoded
      split at encoded
      · rename_i own
        refine ⟨codec, rfl, own, ?_⟩
        cases written : codec.written text with
        | error fault => simp [written, Except.mapError] at encoded
        | ok data => simpa [written, Except.mapError] using encoded
      · cases encoded

/-! ### Courses -/

-- What a rendering that succeeds does: it makes records, and generates files one after the other. The files that were
-- generated while the text of a file was rendered come before that file.
inductive Course (generator : Generator) : List Document → Stage → Stage → Prop
  | start (stage : Stage) : Course generator [] stage stage
  | said (documents : List Document) (first stage : Stage) (record : Record)
      (earlier : Course generator documents first stage) : Course generator documents first (noted record stage)
  | generated (documents inner : List Document) (call : Call) (text : String) (depth : Nat)
      (first before drawn after : Stage) (earlier : Course generator documents first before)
      (rendered : Generator.renderArgs (generator.services depth) generator call.template call.args before =
        (.ok text, drawn))
      (within : Course generator inner before drawn)
      (made : call.perform (generator.services depth) generator before = (.ok (), after)) :
      Course generator (documents ++ inner ++ [⟨call, text⟩]) first after

section

variable {generator : Generator}

theorem course_append {documents more : List Document} {first middle last : Stage}
    (start : Course generator documents first middle) (rest : Course generator more middle last) :
    Course generator (documents ++ more) first last := by
  induction rest with
  | start => rwa [List.append_nil]
  | said more _ stage record _ ih => exact .said _ _ stage record (ih start)
  | generated more inner call text depth _ before drawn after _ rendered within made ih =>
      rw [← List.append_assoc, ← List.append_assoc]
      exact .generated _ inner call text depth first before drawn after (ih start) rendered within made

-- Renderings that have a course when they succeed.
def Coursing (generator : Generator) (α : Type) (block : Render α) : Prop :=
  ∀ before value after, block before = (.ok value, after) → ∃ documents, Course generator documents before after

instance coursing_framed : Framed (Coursing generator) where
  pure value before _ after ran := by
    cases ran
    exact ⟨[], .start before⟩
  throw trouble _ before value after ran := by cases ran
  bind first rest before value after ran := by
    obtain ⟨given, middle, ran, others⟩ := ok_of_bind ran
    obtain ⟨documents, start⟩ := first before given middle ran
    obtain ⟨more, course⟩ := rest given middle value after others
    exact ⟨documents ++ more, course_append start course⟩
  blamed {_ block _} own _ before value after ran := by
    rw [try_catch_run] at ran
    cases result : block before with
    | mk outcome stage =>
        rw [result] at ran
        cases outcome with
        | ok given =>
            cases ran
            exact own before value after result
        | error trouble => cases ran

theorem draws_coursing : Draws (Coursing generator) generator where
  read path next own before value after ran := by
    rw [bind_ok (show (get : Render Stage) before = (.ok before, before) from rfl)] at ran
    exact own _ before value after ran
  said level message before value after ran := by
    rw [say_run_stage] at ran
    cases ran
    exact ⟨[], .said [] before before _ (.start before)⟩
  sought scheme template before value after ran := by
    rw [Render.ofRun, template_run] at ran
    cases found : generator.engine.read before.session.world.disk before.session.directory
        (Engine.templatePath scheme template) with
    | ok body =>
        rw [found] at ran
        cases ran
        exact ⟨[], .start before⟩
    | error fault =>
        rw [found] at ran
        cases fault <;> cases ran

theorem generates_coursing (depth : Nat) (serves : Serves (Coursing generator) (generator.services depth)) :
    Generates (Coursing generator) (generator.services depth) generator := by
  intro path template args before value after made
  obtain ⟨-, text, drawn, -, rendered, -⟩ := generated_file made
  obtain ⟨inner, within⟩ := render_args_framed serves draws_coursing template args before text drawn rendered
  exact ⟨_, .generated [] inner ⟨path, template, args⟩ text depth before before drawn after (.start before) rendered
    within made⟩

theorem course_of_render {template text : String} {args : Value} {before after : Stage}
    (rendered : generator.render template args before = (.ok text, after)) :
    ∃ documents, Course generator documents before after :=
  render_args_framed (services_framed_of draws_coursing generates_coursing generator.depthLimit) draws_coursing
    template args before text after rendered

/-! ### What was written -/

-- What a document is written as, below a target.
def Stubs.Document.WrittenAs (encoding : String) (target : Place) (document : Document)
    (write : Place × Bytes) : Prop :=
  write.1 = Path.landing target document.call.path ∧ Generator.encode encoding document.text = .ok write.2

-- From one stage to another, documents were written one after the other, and each was added to the files.
structure Tracked (generator : Generator) (target : Place) (documents : List Document) (first last : Stage) : Prop where
  seen : last.session.directory = first.session.directory
  files : last.files = first.files ++ documents.map fun document => fileOf target document.call
  below : ∀ document ∈ documents, Path.Below target (Path.landing target document.call.path)
  writes : ∃ writes, List.Forall₂ (Stubs.Document.WrittenAs generator.config.fileEncoding target) documents writes ∧
    Disk.Written first.session.world.disk writes last.session.world.disk

theorem tracked_append {target : Place} {documents more : List Document} {first middle last : Stage}
    (start : Tracked generator target documents first middle) (rest : Tracked generator target more middle last) :
    Tracked generator target (documents ++ more) first last := by
  obtain ⟨writes, own, written⟩ := start.writes
  obtain ⟨others, same, later⟩ := rest.writes
  refine ⟨rest.seen.trans start.seen, ?_, ?_, writes ++ others, List.rel_append own same,
    Disk.written_trans written later⟩
  · rw [rest.files, start.files, List.map_append, List.append_assoc]
  · intro document member
    rcases List.mem_append.mp member with among | among
    · exact start.below document among
    · exact rest.below document among

-- Writing the text of a call leaves one more file.
theorem tracked_writing {target : Place} (call : Call) (text : String) (drawn after : Stage)
    (plain : ".." ∉ Path.landing target call.path) (below : Path.Below target (Path.landing target call.path))
    (written : Manifest.writing generator (fileOf target call) text drawn = (.ok (), after)) :
    Tracked generator target [⟨call, text⟩] drawn after := by
  rw [Manifest.writing, bind_ok (say_run_stage _ _ drawn), write_file_run] at written
  split at written
  · rename_i disk done
    cases written
    obtain ⟨bytes, encoded, reached⟩ := Disk.written_write_text _ disk _ _ _ text plain done
    exact ⟨rfl, rfl, by simpa using below, [(_, bytes)], .cons ⟨rfl, encoded⟩ .nil, reached⟩
  · cases written

variable {directory : Place} (settled : Path.Settled directory)
include settled

-- By induction on the course: the files that were generated while a text was rendered were tracked before its own.
theorem tracked_of_course {documents : List Document} {first last : Stage}
    (course : Course generator documents first last) (seen : first.session.directory = directory) :
    Tracked generator (generator.scene.target.folder directory) documents first last := by
  induction course with
  | start stage => exact ⟨rfl, by simp, by simp, [], .nil, .first⟩
  | said documents first stage record _ ih =>
      obtain ⟨same, files, below, writes⟩ := ih seen
      exact ⟨same, files, below, writes⟩
  | generated documents inner call text depth first before drawn after _ rendered within made ih inside =>
      have earlier := ih seen
      have here : before.session.directory = directory := earlier.seen.trans seen
      obtain ⟨file, own, stage, given, again, written⟩ := generated_file made
      rw [rendered] at again
      cases again
      rw [here] at given
      obtain ⟨parts, rfl, plain, below⟩ := file_for_below _ _ file settled given
      cases file_for_landing call.path _ settled given
      exact tracked_append (tracked_append earlier (inside here))
        (tracked_writing call text drawn after plain below written)

end

/-! ### What is reported -/

-- What a configuration reports, against the disks before and after it. A file that is written again holds what was
-- written last.
structure Reported (encoding : String) (target : Place) (documents : List Document) (files : List Path)
    (before after : Disk) : Prop where
  listed : files = documents.map fun document => fileOf target document.call
  written : ∃ writes, List.Forall₂ (Stubs.Document.WrittenAs encoding target) documents writes ∧
    Disk.Written before writes after
  held : ∀ earlier document later, documents = earlier ++ document :: later →
    (∀ other ∈ later, fileOf target other.call ≠ fileOf target document.call) →
    ∃ codec bytes, Codec.lookup? encoding = some codec ∧ codec.written document.text = .ok bytes ∧
      (codec ≠ .domain → codec.encode document.text = .ok bytes) ∧
      after.at? (fileOf target document.call).parts = some (.file (.bytes bytes))
  others : ∀ place, Path.mk .single place ∉ files →
    after.at? place = before.at? place ∨ before.at? place = none ∧ after.at? place = some .folder

theorem places_of_written {encoding : String} {target : Place} {documents : List Document}
    {writes : List (Place × Bytes)}
    (own : List.Forall₂ (Stubs.Document.WrittenAs encoding target) documents writes) :
    writes.map (·.1) = documents.map fun document => (fileOf target document.call).parts := by
  induction own with
  | nil => rfl
  | cons first _ ih => rw [List.map_cons, List.map_cons, ih, first.1, fileOf]

theorem write_of_split {encoding : String} {target : Place} {writes : List (Place × Bytes)} (earlier : List Document)
    (document : Document) (later : List Document)
    (own : List.Forall₂ (Stubs.Document.WrittenAs encoding target) (earlier ++ document :: later) writes) :
    ∃ write others, Stubs.Document.WrittenAs encoding target document write ∧
      List.Forall₂ (Stubs.Document.WrittenAs encoding target) later others ∧
      writes = writes.take earlier.length ++ write :: others := by
  have rest := List.forall₂_drop_append _ _ _ own.flip
  cases known : writes.drop earlier.length with
  | nil =>
      rw [known] at rest
      cases rest
  | cons write others =>
      rw [known] at rest
      obtain ⟨first, more⟩ := List.forall₂_cons.mp rest
      exact ⟨write, others, first, more.flip, by rw [← known, List.take_append_drop]⟩

theorem reported_of_tracked {generator : Generator} {target : Place} {documents : List Document} {first last : Stage}
    {disk : Disk} (begun : Disk.Written disk [] first.session.world.disk)
    (tracked : Tracked generator target documents first last) (fresh : first.files = []) :
    Reported generator.config.fileEncoding target documents last.files disk last.session.world.disk := by
  have files : last.files = documents.map fun document => fileOf target document.call := by
    rw [tracked.files, fresh, List.nil_append]
  obtain ⟨writes, own, written⟩ := tracked.writes
  replace written := Disk.written_trans begun written
  rw [List.nil_append] at written
  refine ⟨files, ⟨writes, own, written⟩, ?_, ?_⟩
  · intro earlier document later split_documents final
    rw [split_documents] at own
    obtain ⟨write, others, first, rest, split_writes⟩ := write_of_split earlier document later own
    obtain ⟨place, bytes⟩ := write
    obtain ⟨rfl, encoded⟩ := first
    obtain ⟨codec, known, -, bytesOf⟩ := Generator.codec_of_encode _ _ bytes encoded
    refine ⟨codec, bytes, known, bytesOf, fun named => codec.encode_of_written _ bytes named bytesOf, ?_⟩
    refine Disk.at_of_written written _ others _ bytes ?_ split_writes ?_
    · obtain ⟨name, more, lands⟩ := tracked.below document (by simp [split_documents])
      simp [fileOf, lands]
    · rw [places_of_written rest]
      intro member
      obtain ⟨other, among, same⟩ := List.mem_map.mp member
      exact final other among (by simpa [fileOf] using same)
  · intro place missing
    by_cases root : place = []
    · subst root
      exact .inl rfl
    · refine Disk.untouched_of_reaches (Disk.reaches_of_written written) place root ?_
      rw [places_of_written own]
      intro member
      obtain ⟨document, among, rfl⟩ := List.mem_map.mp member
      exact missing (files ▸ List.mem_map_of_mem among)

/-! ### Configurations -/

-- The entry of a scheme generates a file from a template that generates the same file in its text.
def nestedEntries : List (Place × Entry) := [(["tpl"], .folder), (["tpl", "own"], .folder),
  (["tpl", "own", "main.j2"],
    .file (.bytes "\x7b\x7b generator.generate_file('a.txt', 'part') \x7d\x7d".toUTF8.toList)),
  (["tpl", "own", "part.j2"],
    .file (.bytes "a.b\x7b\x7b generator.generate_file('a.txt', 'leaf') \x7d\x7d".toUTF8.toList)),
  (["tpl", "own", "leaf.j2"], .file (.bytes "inner".toUTF8.toList))]

def nested : Session where
  world := World.initial { entries := nestedEntries }

def nestedConfig (encoding : String) : Configuration where
  name := "p"
  scheme := "own"
  packages := ["shop"]
  encoding := some encoding

def nestedPlan (encoding : String) : Plan where
  configurations := [nestedConfig encoding]
  classpath := []
  engine := { folders := [Path.ofString "tpl"] }
  clock := "0"

def nestedTarget : Place := ["build", "ipcstub", "p"]

def nestedFile : Path := ⟨.single, nestedTarget ++ ["a.txt"]⟩

-- Whether a place holds a file with these bytes.
def holdsBytes (disk : Disk) (place : Place) (data : Bytes) : Bool :=
  match disk.at? place with
  | some (.file (.bytes own)) => own == data
  | _ => false

theorem at_of_holds_bytes {disk : Disk} {place : Place} {data : Bytes} (holds : holdsBytes disk place data = true) :
    disk.at? place = some (.file (.bytes data)) := by
  unfold holdsBytes at holds
  split at holds
  · rename_i own held
    rw [held, eq_of_beq holds]
  · cases holds

theorem nested_generates (encoding : String) (content : String)
    (known : (encoding, content) ∈ [("latin-1", "a.b"), ("idna", "a.")]) : ∃ product after,
    (nestedPlan encoding).generate [] Plan.epoch (nestedConfig encoding) nested = (.ok product, after) ∧
    product.files = [nestedFile, nestedFile] ∧
    after.world.disk.at? nestedFile.parts = some (.file (.bytes content.toUTF8.toList)) := by
  simp only [List.mem_cons, List.not_mem_nil, or_false, Prod.mk.injEq] at known
  have done : ∃ product after,
      (nestedPlan encoding).generate [] Plan.epoch (nestedConfig encoding) nested = (.ok product, after) ∧
        (product.files == [nestedFile, nestedFile] &&
          holdsBytes after.world.disk nestedFile.parts content.toUTF8.toList) = true := by
    rcases known with ⟨rfl, rfl⟩ | ⟨rfl, rfl⟩ <;> exact run_of_computed _ _ (by decide +kernel)
  obtain ⟨product, after, generated, computed⟩ := done
  obtain ⟨files, holds⟩ := Bool.and_eq_true_iff.mp computed
  exact ⟨product, after, generated, eq_of_beq files, at_of_holds_bytes holds⟩

end StubForge
