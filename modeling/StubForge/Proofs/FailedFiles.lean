import StubForge.Proofs.Interruptions

set_option autoImplicit false

/-!
What a call that fails to generate its file leaves behind. The files of the calls within it that had been made are
there and are listed, and the failing call is listed nowhere. Every other file is as it was, with one exception: a text
that cannot be encoded is only found out after its file was emptied.
-/

namespace StubForge

open Template

open Stubs (Document fileOf)

-- A file is there just when it was there before, with the same content.
def Disk.KeepsFile (first last : Disk) (place : Place) : Prop :=
  ∀ content, last.at? place = some (.file content) ↔ first.at? place = some (.file content)

theorem Disk.keeps_file_of_written {first last : Disk} {writes : List (Place × Bytes)}
    (written : Written first writes last) (place : Place) (other : place ∉ writes.map (·.1)) :
    first.KeepsFile last place := by
  intro content
  by_cases root : place = []
  · subst root
    exact Iff.rfl
  · rcases untouched_of_reaches (reaches_of_written written) place root other with kept | ⟨missing, made⟩
    · rw [kept]
    · simp [missing, made]

/-! ### What is left behind -/

-- The file of a document was emptied, and the text of the document cannot be encoded.
def Interruption.Empties (interruption : Interruption) (encoding : String) (target place : Place) : Prop :=
  ∃ document reason, interruption.unwritten = some document ∧
    Generator.encode encoding document.text = .error reason ∧ place = Path.landing target document.call.path

-- From one stage to another, the documents of an interruption were written and listed, and at most one more file was
-- emptied.
structure LeftBehind (generator : Generator) (target : Place) (interruption : Interruption) (first last : Stage) :
    Prop where
  seen : last.session.directory = first.session.directory
  files : last.files = first.files ++ interruption.documents.map fun document => fileOf target document.call
  writes : ∃ writes,
    List.Forall₂ (Stubs.Document.WrittenAs generator.config.fileEncoding target) interruption.documents writes ∧
    (Disk.Written first.session.world.disk writes last.session.world.disk ∨
      ∃ place, interruption.Empties generator.config.fileEncoding target place ∧ Path.Below target place ∧
        Disk.Written first.session.world.disk (writes ++ [(place, [])]) last.session.world.disk)

section

variable {generator : Generator} {target : Place}

theorem left_behind_nothing (cause : Trouble) (stage : Stage) : LeftBehind generator target { cause } stage stage :=
  ⟨rfl, by simp, [], .nil, .inl .first⟩

theorem left_behind_later {interruption : Interruption} {documents : List Document} {first middle last : Stage}
    (tracked : Tracked generator target documents first middle)
    (behind : LeftBehind generator target interruption middle last) :
    LeftBehind generator target (interruption.behind documents) first last := by
  obtain ⟨writes, own, written⟩ := tracked.writes
  obtain ⟨more, others, ended⟩ := behind.writes
  refine ⟨behind.seen.trans tracked.seen, ?_, writes ++ more, List.rel_append own others, ?_⟩
  · rw [behind.files, tracked.files, Interruption.behind, List.map_append, List.append_assoc]
  · rcases ended with later | ⟨place, empties, below, later⟩
    · exact .inl (Disk.written_trans written later)
    · refine .inr ⟨place, empties, below, ?_⟩
      rw [List.append_assoc]
      exact Disk.written_trans written later

-- A file that cannot be written is listed nowhere.
theorem left_behind_unwritten (cause : Trouble) (documents : List Document) (call : Call) (text : String)
    (before drawn after : Stage) (tracked : Tracked generator target documents before drawn)
    (plain : ".." ∉ Path.landing target call.path) (below : Path.Below target (Path.landing target call.path))
    (failed : Manifest.writing generator (fileOf target call) text drawn = (.error cause, after)) :
    LeftBehind generator target { documents, unwritten := some ⟨call, text⟩, cause } before after := by
  obtain ⟨writes, own, written⟩ := tracked.writes
  rw [Manifest.writing, bind_ok (say_run_stage _ _ drawn), write_file_run] at failed
  split at failed
  · cases failed
  · rename_i reason disk refused
    cases failed
    refine ⟨tracked.seen, tracked.files, writes, own, ?_⟩
    rcases Disk.written_failed_text _ disk _ _ _ text plain reason refused with unopened | ⟨unfit, encoded, emptied⟩
    · rw [← List.append_nil writes]
      exact .inl (Disk.written_trans written unopened)
    · exact .inr ⟨_, ⟨⟨call, text⟩, unfit, rfl, encoded, rfl⟩, below, Disk.written_trans written emptied⟩

variable {directory : Place} (settled : Path.Settled directory)
include settled

-- By induction on how it stopped.
theorem left_behind_of_halts {interruption : Interruption} {first last : Stage}
    (halted : Halts generator interruption first last) (seen : first.session.directory = directory) :
    LeftBehind generator (generator.scene.target.folder directory) interruption first last := by
  induction halted with
  | raised cause stage => exact left_behind_nothing cause stage
  | refused cause stage => exact left_behind_nothing cause stage
  | unresolved cause stage => exact left_behind_nothing cause stage
  | unwritten cause documents call text file depth before drawn after given rendered within failed =>
      rw [seen] at given
      obtain ⟨parts, rfl, plain, below⟩ := file_for_below _ _ file settled given
      cases file_for_landing call.path _ settled given
      exact left_behind_unwritten cause documents call text before drawn after (tracked_of_course settled within seen)
        plain below failed
  | inside interruption template args body depth before after found drawn halted ih =>
      obtain ⟨same, files, writes⟩ := ih seen
      exact ⟨same, files, writes⟩
  | behind interruption documents before middle after earlier halted ih =>
      have tracked := tracked_of_course settled earlier seen
      exact left_behind_later tracked (ih (tracked.seen.trans seen))

end

/-! ### Files of others -/

theorem places_of_documents {encoding : String} {target : Place} {documents : List Document}
    {writes : List (Place × Bytes)} (own : List.Forall₂ (Stubs.Document.WrittenAs encoding target) documents writes)
    (place : Place) (other : ∀ document ∈ documents, Path.landing target document.call.path ≠ place) :
    place ∉ writes.map (·.1) := by
  rw [places_of_written own]
  intro member
  obtain ⟨document, among, same⟩ := List.mem_map.mp member
  exact other document among same

-- A call fails: the calls within it that were made are listed, the call itself is not. Each file that they did not
-- write is there just when it was there before and with the same content, or one file is empty whose text cannot be
-- encoded, and the others are as they were.
theorem failing_call_left_behind (generator : Generator) (depth : Nat) (call : Call) (directory : Place)
    (before after : Stage) (trouble : Trouble) (settled : Path.Settled directory)
    (seen : before.session.directory = directory)
    (failed : call.perform (generator.services depth) generator before = (.error trouble, after)) :
    ∃ interruption, Halts generator interruption before after ∧
      trouble = interruption.surfaced generator.scheme ∧
      after.files = before.files ++
        interruption.documents.map (fun document => fileOf (generator.scene.target.folder directory) document.call) ∧
      ((∀ place, (∀ document ∈ interruption.documents,
            Path.landing (generator.scene.target.folder directory) document.call.path ≠ place) →
          before.session.world.disk.KeepsFile after.session.world.disk place) ∨
        ∃ emptied, interruption.Empties generator.config.fileEncoding (generator.scene.target.folder directory)
            emptied ∧
          after.session.world.disk.at? emptied = some (.file (.bytes [])) ∧
          ∀ place, place ≠ emptied → (∀ document ∈ interruption.documents,
              Path.landing (generator.scene.target.folder directory) document.call.path ≠ place) →
            before.session.world.disk.KeepsFile after.session.world.disk place) := by
  obtain ⟨interruption, halted, surfaced⟩ :=
    (generates_breaking depth (services_breaking depth) call.path call.template call.args).2 before trouble after failed
  have behind := left_behind_of_halts settled halted seen
  obtain ⟨writes, own, ended⟩ := behind.writes
  refine ⟨interruption, halted, surfaced, behind.files, ?_⟩
  rcases ended with written | ⟨emptied, empties, ⟨name, rest, inner⟩, written⟩
  · exact .inl fun place other => Disk.keeps_file_of_written written place (places_of_documents own place other)
  · refine .inr ⟨emptied, empties, ?_, fun place apart other => ?_⟩
    · exact Disk.at_of_written written writes [] emptied [] (by simp [inner]) rfl (by simp)
    · refine Disk.keeps_file_of_written written place ?_
      rw [List.map_append, List.mem_append, not_or]
      exact ⟨places_of_documents own place other, by simpa using apart⟩

-- A file that is there, and a template with a character that its encoding lacks.
def pricedEntries : List (Place × Entry) := [(["tpl"], .folder), (["tpl", "own"], .folder),
  (["tpl", "own", "price.j2"], .file (.bytes "price €".toUTF8.toList)), (["out"], .folder),
  (["out", "f.txt"], .file (.bytes "plain".toUTF8.toList))]

def pricedStage : Stage where
  session := { world := World.initial { entries := pricedEntries } }

def latinConfig : Configuration := { name := "web", scheme := "own", packages := ["shop"], encoding := some "latin-1" }

def latinGenerator : Generator :=
  { ownGenerator with scene := { ownGenerator.scene with configuration := latinConfig } }

def priceCall : Call := ⟨"f.txt", "price", .null⟩

def priceRun : Except Trouble Unit × Stage := priceCall.perform (latinGenerator.services 1) latinGenerator pricedStage

theorem price_run_fails : ∃ trouble, priceRun = (.error trouble, priceRun.2) ∧
    trouble.error.message = "cannot create file /out/f.txt: 'latin-1' codec can't encode character '\\u20ac' in " ++
      "position 6: ordinal not in range(256) (scheme 'own')" ∧
    priceRun.2.files = [] ∧ priceRun.2.session.world.disk.at? ["out", "f.txt"] = some (.file (.bytes [])) := by
  obtain ⟨trouble, failed, computed⟩ := error_of_computed priceRun.1
    (fun trouble => trouble.error.message ==
      "cannot create file /out/f.txt: 'latin-1' codec can't encode character '\\u20ac' in " ++
        "position 6: ordinal not in range(256) (scheme 'own')" &&
      (priceRun.2.files == [] && holdsBytes priceRun.2.session.world.disk ["out", "f.txt"] [])) (by decide +kernel)
  obtain ⟨message, rest⟩ := Bool.and_eq_true_iff.mp computed
  obtain ⟨files, emptied⟩ := Bool.and_eq_true_iff.mp rest
  exact ⟨trouble, pair_of_fst failed, eq_of_beq message, eq_of_beq files, at_of_holds_bytes emptied⟩

theorem price_held :
    pricedStage.session.world.disk.at? ["out", "f.txt"] = some (.file (.bytes "plain".toUTF8.toList)) :=
  at_of_holds_bytes (by decide +kernel)

theorem price_lost : ¬ pricedStage.session.world.disk.KeepsFile priceRun.2.session.world.disk ["out", "f.txt"] := by
  intro keeps
  obtain ⟨-, -, -, -, emptied⟩ := price_run_fails
  have same := (keeps _).mp emptied
  simp only [price_held, Option.some.injEq, Entry.file.injEq, Content.bytes.injEq] at same
  exact absurd same (by decide +kernel)

theorem price_call_left_behind : Path.Settled [] ∧ pricedStage.session.directory = [] ∧
    ∃ trouble interruption, priceRun = (.error trouble, priceRun.2) ∧
      Halts latinGenerator interruption pricedStage priceRun.2 ∧ trouble = interruption.surfaced "own" ∧
      interruption.documents = [] ∧ interruption.Empties "latin-1" ["out"] ["out", "f.txt"] := by
  obtain ⟨trouble, failed, -, files, -⟩ := price_run_fails
  obtain ⟨interruption, halted, surfaced, listed, left⟩ :=
    failing_call_left_behind latinGenerator 1 priceCall [] pricedStage _ trouble (by decide) rfl failed
  have nothing : interruption.documents = [] := by
    rw [files] at listed
    exact List.map_eq_nil_iff.mp (List.append_eq_nil_iff.mp listed.symm).2
  refine ⟨by decide, rfl, trouble, interruption, failed, halted, surfaced, nothing, ?_⟩
  rcases left with kept | ⟨place, empties, -, others⟩
  · exact absurd (kept ["out", "f.txt"] (by simp [nothing])) price_lost
  · by_cases same : ["out", "f.txt"] = place
    · exact same ▸ empties
    · exact absurd (others ["out", "f.txt"] same (by simp [nothing])) price_lost

-- The call fails after its file was emptied: what the file held is lost.
theorem unencodable_text_empties_file : Configuration.check [latinConfig] = .ok () ∧
    pricedStage.session.world.disk.at? ["out", "f.txt"] = some (.file (.bytes "plain".toUTF8.toList)) ∧
    ∃ trouble after, priceCall.perform (latinGenerator.services 1) latinGenerator pricedStage =
        (.error trouble, after) ∧
      after.files = [] ∧ after.session.world.disk.at? ["out", "f.txt"] = some (.file (.bytes [])) ∧
      ¬ pricedStage.session.world.disk.KeepsFile after.session.world.disk ["out", "f.txt"] := by
  obtain ⟨trouble, failed, -, files, emptied⟩ := price_run_fails
  obtain ⟨⟨⟩, checked, -⟩ := ok_of_computed (Configuration.check [latinConfig]) (fun _ => true) (by decide +kernel)
  exact ⟨checked, price_held, trouble, _, failed, files, emptied, price_lost⟩

end StubForge
