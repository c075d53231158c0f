import StubForge.Proofs.ConfigurationRules
import StubForge.Proofs.FailedFiles

set_option autoImplicit false

/-!
Encodings that are accepted, and encodings that files can be written in. A name that no encoding has is refused before
anything is done. Among the encodings that are accepted there are some of bytes, in which no file of text can be opened,
and one that no text has.
-/

namespace StubForge

open Template

/-! ### Encodings of texts -/

namespace Codec

-- An encoding that texts can be written in.
structure Usable (codec : Codec) : Prop where
  textual : codec ≠ .binary
  defined : codec ≠ .undefined

instance (codec : Codec) : Decidable codec.Usable :=
  decidable_of_iff (codec ≠ .binary ∧ codec ≠ .undefined)
    ⟨fun usable => ⟨usable.1, usable.2⟩, fun usable => ⟨usable.textual, usable.defined⟩⟩

-- Some text is written in the encoding of this name.
def Writes (encoding : String) : Prop := ∃ text bytes, Generator.encode encoding text = .ok bytes

theorem is_text_iff (codec : Codec) : codec.isText = true ↔ codec ≠ .binary := by
  cases codec <;> simp [isText]

-- The encodings that no text is written in, by their proper names.
def unusableNames : List String := "undefined" :: binaryNames

theorem usable_iff_named (proper : String) : (ofProperName proper).Usable ↔ proper ∉ unusableNames := by
  constructor
  · intro usable inside
    have useless : ∀ proper ∈ unusableNames, ¬(ofProperName proper).Usable := by decide
    exact useless proper inside usable
  · intro outside
    simp only [unusableNames, List.mem_cons, not_or] at outside
    unfold ofProperName
    split
    case h_18 => exact absurd rfl outside.1
    case h_19 =>
      rw [if_neg (by simpa using outside.2)]
      split
      · exact ⟨nofun, nofun⟩
      · exact ⟨nofun, nofun⟩
    all_goals exact ⟨nofun, nofun⟩

-- An empty text lacks nothing.
theorem empty_text_written (codec : Codec) (usable : codec.Usable) : ∃ bytes, codec.written "" = .ok bytes := by
  cases codec with
  | utf16 order marked => cases marked <;> exact ⟨_, rfl⟩
  | utf32 order marked => cases marked <;> exact ⟨_, rfl⟩
  | undefined => exact absurd rfl usable.defined
  | binary => exact absurd rfl usable.textual
  | _ => exact ⟨_, rfl⟩

end Codec

namespace Generator

variable {encoding : String} {codec : Codec} (known : Codec.lookup? encoding = some codec)
include known

theorem encode_of_text (textual : codec ≠ .binary) (text : String) :
    encode encoding text = (codec.written text).mapError EncodeFault.message := by
  rw [encode, known]
  exact if_pos ((Codec.is_text_iff codec).mpr textual)

-- What is read off an error: it is about a character of the text, or the encoding is of no use for any text.
theorem encode_error (text reason : String) (failed : encode encoding text = .error reason) :
    (codec = .binary ∧ reason = textCodecNeeded encoding) ∨ (codec = .undefined ∧ reason = "undefined encoding") ∨
      codec.Usable ∧ ∃ fault, codec.written text = .error fault ∧ reason = fault.message := by
  by_cases bytes : codec = .binary
  · rw [encode, known, bytes] at failed
    cases failed
    exact .inl ⟨bytes, rfl⟩
  · rw [encode_of_text known bytes] at failed
    by_cases undefined : codec = .undefined
    · rw [undefined] at failed
      cases failed
      exact .inr (.inl ⟨undefined, rfl⟩)
    · refine .inr (.inr ⟨⟨bytes, undefined⟩, ?_⟩)
      cases written : codec.written text with
      | ok data =>
          rw [written] at failed
          cases failed
      | error fault =>
          rw [written] at failed
          cases failed
          exact ⟨fault, rfl, rfl⟩

-- An encoding takes some text just when it is usable.
theorem writes_iff : Codec.Writes encoding ↔ codec.Usable := by
  constructor
  · rintro ⟨text, bytes, encoded⟩
    constructor
    · rintro rfl
      rw [encode, known] at encoded
      cases encoded
    · rintro rfl
      rw [encode_of_text known nofun] at encoded
      cases encoded
  · intro usable
    obtain ⟨bytes, written⟩ := Codec.empty_text_written codec usable
    exact ⟨"", bytes, by rw [encode_of_text known usable.textual, written]; rfl⟩

end Generator

/-! ### Files that are not written -/

-- What keeps a text out of its file: a folder above it, the file itself, a character that the encoding lacks, or an
-- encoding that is of no use for texts.
inductive Hindrance (codec : Codec) (encoding text : String) (disk : Disk) (directory : Place) (file : Path) :
    String → Prop
  | folder (errno : Errno) (path : Path) (made : Disk)
      (refused : disk.ensureFolders directory file.parent = (.error (errno, path), made)) :
      Hindrance codec encoding text disk directory file (errno.message path.toString)
  | place (errno : Errno) (made : Disk) (ensured : disk.ensureFolders directory file.parent = (.ok (), made))
      (refused : made.openPlace directory file = .error errno) :
      Hindrance codec encoding text disk directory file (errno.message file.toString)
  | lacking (fault : EncodeFault) (usable : codec.Usable) (unfit : codec.written text = .error fault) :
      Hindrance codec encoding text disk directory file fault.message
  | bytes (kind : codec = .binary) :
      Hindrance codec encoding text disk directory file (Generator.textCodecNeeded encoding)
  | undefined (kind : codec = .undefined) : Hindrance codec encoding text disk directory file "undefined encoding"

theorem hindrance_of_text {encoding : String} {codec : Codec} (known : Codec.lookup? encoding = some codec)
    {disk last : Disk} {directory : Place} {file : Path} {text reason : String}
    (failed : Generator.writeText disk directory file encoding text = (.error reason, last)) :
    Hindrance codec encoding text disk directory file reason := by
  rw [Generator.writeText] at failed
  cases ensured : disk.ensureFolders directory file.parent with
  | mk result made =>
      rw [ensured] at failed
      cases result with
      | error refused =>
          cases failed
          exact .folder refused.1 refused.2 _ ensured
      | ok done =>
          dsimp only at failed
          cases opened : made.openPlace directory file with
          | error errno =>
              rw [opened] at failed
              cases failed
              exact .place errno _ ensured opened
          | ok place =>
              rw [opened] at failed
              dsimp only at failed
              cases encoded : Generator.encode encoding text with
              | ok bytes =>
                  rw [encoded] at failed
                  cases failed
              | error unfit =>
                  rw [encoded] at failed
                  cases failed
                  rcases Generator.encode_error known text reason encoded with
                    ⟨kind, rfl⟩ | ⟨kind, rfl⟩ | ⟨usable, fault, own, rfl⟩
                  · exact .bytes kind
                  · exact .undefined kind
                  · exact .lacking fault usable own

-- The error of a rendering is that a document could not be written, for one of the reasons for that.
def Interruption.Hindered (interruption : Interruption) (generator : Generator) (codec : Codec) (text : String) : Prop :=
  ∃ (file : Path) (disk : Disk) (directory : Place) (reason : String),
    Hindrance codec generator.config.fileEncoding text disk directory file reason ∧
      interruption.cause =
        .failure (.of none (.output (.fileNotCreated file.toString reason) (some generator.scheme)))

-- By induction on how it stopped: a document that is not written is what stopped it.
theorem hindered_of_halts {generator : Generator} {codec : Codec}
    (known : Codec.lookup? generator.config.fileEncoding = some codec) {interruption : Interruption}
    {first last : Stage} (halted : Halts generator interruption first last) (document : Stubs.Document)
    (unwritten : interruption.unwritten = some document) : interruption.Hindered generator codec document.text := by
  induction halted with
  | raised | refused | unresolved => cases unwritten
  | unwritten cause documents call text file depth before drawn after given rendered within failed =>
      cases unwritten
      rw [Manifest.writing, bind_ok (say_run_stage _ _ drawn), write_file_run] at failed
      split at failed
      · cases failed
      · rename_i reason disk stopped
        cases failed
        exact ⟨file, _, _, reason, hindrance_of_text known stopped, rfl⟩
  | inside interruption template args body depth before after found drawn halted ih => exact ih unwritten
  | behind interruption documents before middle after earlier halted ih => exact ih unwritten

/-! ### Accepted encodings -/

namespace Configuration

theorem encoding_found {configs : List Configuration} (checked : check configs = .ok ()) (config : Configuration)
    (member : config ∈ configs) : Rule.encoded.Kept [] config := by
  rw [check] at checked
  split at checked
  · cases checked
  · obtain ⟨every, -⟩ := (check_from_iff configs []).mp checked
    exact (error_none [] config).mp (every config member) .encoded

theorem file_encoding_given (config : Configuration) (encoding : String) (given : config.encoding = some encoding)
    (filled : encoding ≠ "") : config.fileEncoding = encoding := by
  rw [fileEncoding, given]
  split
  · rename_i blank
    exact absurd (Option.some.inj blank) filled
  · rename_i same
    exact (Option.some.inj same).symm
  · rename_i none
    cases none

theorem file_encoding_known {configs : List Configuration} (checked : check configs = .ok ()) (config : Configuration)
    (member : config ∈ configs) : ∃ codec, Codec.lookup? config.fileEncoding = some codec := by
  have found := encoding_found checked config member
  have default : ∃ codec, Codec.lookup? defaultEncoding = some codec := ⟨.utf8, by decide +kernel⟩
  cases given : config.encoding with
  | none =>
      rw [fileEncoding, given]
      exact default
  | some encoding =>
      by_cases blank : encoding = ""
      · rw [fileEncoding, given, blank]
        exact default
      · rw [file_encoding_given config encoding given blank]
        exact Option.isSome_iff_exists.mp (found encoding given blank).2

theorem unfound_refused {configs : List Configuration} (config : Configuration) (member : config ∈ configs)
    (encoding : String) (given : config.encoding = some encoding) (filled : encoding ≠ "")
    (unknown : ¬ Codec.Found encoding) : ∃ error, check configs = .error error := by
  cases checked : check configs with
  | ok done => exact absurd (encoding_found checked config member encoding given filled) unknown
  | error error => exact ⟨error, rfl⟩

end Configuration

namespace Plan

-- What is refused is refused before anything is looked for, made or said.
theorem refused_at_once (plan : Plan) (error : Error) (refused : Configuration.check plan.configurations = .error error)
    (session : Session) : plan.discover session = (.error error, session) ∧ plan.run session = (.error error, session) := by
  have stopped : plan.discover session = (.error error, session) := by
    rw [discover, refused]
    rfl
  exact ⟨stopped, by rw [run, bind_error stopped]⟩

-- A name that no encoding has ends a run before it begins. Where a configuration is accepted, its encoding is known. It
-- takes texts unless it is one of eight, and then no call fails to generate a file because of it: a file that is not
-- written is hindered by what lies on the disk or by a character of its text.
theorem accepted_encodings_known (plan : Plan) (config : Configuration) (member : config ∈ plan.configurations) :
    (∀ encoding, config.encoding = some encoding → encoding ≠ "" → ¬ Codec.Found encoding →
      ∃ error, ∀ session, plan.discover session = (.error error, session) ∧
        plan.run session = (.error error, session)) ∧
    (Configuration.check plan.configurations = .ok () → ∃ codec, Codec.lookup? config.fileEncoding = some codec ∧
      (Codec.Writes config.fileEncoding ↔ codec.Usable) ∧
      (codec.Usable ↔
        ∀ proper, Codec.properName? config.fileEncoding = some proper → proper ∉ Codec.unusableNames) ∧
      ∀ generator : Generator, generator.config = config → ∀ (depth : Nat) (call : Call) (before after : Stage) trouble,
        call.perform (generator.services depth) generator before = (.error trouble, after) →
          ∃ interruption, Halts generator interruption before after ∧
            trouble = interruption.surfaced generator.scheme ∧
            ∀ document, interruption.unwritten = some document →
              interruption.Hindered generator codec document.text) := by
  refine ⟨fun encoding given filled unknown => ?_, fun checked => ?_⟩
  · obtain ⟨error, refused⟩ := Configuration.unfound_refused config member encoding given filled unknown
    exact ⟨error, plan.refused_at_once error refused⟩
  · obtain ⟨codec, known⟩ := Configuration.file_encoding_known checked config member
    obtain ⟨proper, named, rfl⟩ := Option.map_eq_some_iff.mp known
    refine ⟨Codec.ofProperName proper, known, Generator.writes_iff known, ?_, ?_⟩
    · rw [Codec.usable_iff_named, named]
      simp
    · rintro generator rfl depth call before after trouble failed
      obtain ⟨interruption, halted, surfaced⟩ :=
        (generates_breaking depth (services_breaking depth) call.path call.template call.args).2 before trouble after
          failed
      exact ⟨interruption, halted, surfaced, hindered_of_halts known halted⟩

def latinPlan : Plan where
  configurations := [latinConfig]
  classpath := []
  clock := "0"

theorem latin_encoding_known : latinConfig ∈ latinPlan.configurations ∧
    Configuration.check latinPlan.configurations = .ok () ∧ ∃ trouble interruption,
      priceRun = (.error trouble, priceRun.2) ∧ Codec.Writes "latin-1" ∧
        Halts latinGenerator interruption pricedStage priceRun.2 ∧ trouble = interruption.surfaced "own" ∧
        ∀ document, interruption.unwritten = some document →
          interruption.Hindered latinGenerator .latin1 document.text := by
  have member : latinConfig ∈ latinPlan.configurations := List.mem_singleton_self _
  obtain ⟨⟨⟩, checked, -⟩ :=
    ok_of_computed (Configuration.check latinPlan.configurations) (fun _ => true) (by decide +kernel)
  obtain ⟨codec, known, writes, -, hindered⟩ := (accepted_encodings_known latinPlan latinConfig member).2 checked
  have latin : Codec.lookup? latinConfig.fileEncoding = some .latin1 := by decide +kernel
  obtain rfl := Option.some.inj (latin.symm.trans known)
  obtain ⟨trouble, failed, -⟩ := price_run_fails
  obtain ⟨interruption, halted, surfaced, unwritten⟩ := hindered latinGenerator rfl 1 priceCall pricedStage _ trouble failed
  exact ⟨member, checked, trouble, interruption, failed, writes.mpr (by decide), halted, surfaced, unwritten⟩

def rotConfig : Configuration := { latinConfig with encoding := some "rot13" }

def rotGenerator : Generator := { latinGenerator with scene := { latinGenerator.scene with configuration := rotConfig } }

-- The eight are accepted all the same, and no text can be written in them. With an encoding of bytes a call fails where
-- it opens its file, which is empty then.
theorem byte_encodings_accepted :
    (∀ encoding ∈ Codec.unusableNames,
      Configuration.check [{ latinConfig with encoding := some encoding }] = .ok () ∧ ¬ Codec.Writes encoding) ∧
    Configuration.check [rotConfig] = .ok () ∧
    ∃ trouble after, priceCall.perform (rotGenerator.services 1) rotGenerator pricedStage = (.error trouble, after) ∧
      trouble.error.message = "cannot create file /out/f.txt: 'rot13' is not a text encoding; " ++
        "use codecs.open() to handle arbitrary codecs (scheme 'own')" ∧
      after.session.world.disk.at? ["out", "f.txt"] = some (.file (.bytes [])) := by
  have accepted : ∀ encoding ∈ Codec.unusableNames,
      okHolds (fun _ => true) (Configuration.check [{ latinConfig with encoding := some encoding }]) = true := by
    decide +kernel
  have named : ∀ encoding ∈ Codec.unusableNames,
      Codec.lookup? encoding = some (Codec.ofProperName encoding) := by
    decide +kernel
  refine ⟨fun encoding member => ⟨?_, fun writes => ?_⟩, ?_, ?_⟩
  · obtain ⟨⟨⟩, checked, -⟩ := ok_of_computed _ _ (accepted encoding member)
    exact checked
  · have usable := (Generator.writes_iff (named encoding member)).mp writes
    exact (Codec.usable_iff_named encoding).mp usable member
  · obtain ⟨⟨⟩, checked, -⟩ := ok_of_computed (Configuration.check [rotConfig]) (fun _ => true) (by decide +kernel)
    exact checked
  · obtain ⟨trouble, failed, computed⟩ := error_of_computed
      (priceCall.perform (rotGenerator.services 1) rotGenerator pricedStage).1
      (fun trouble => trouble.error.message == "cannot create file /out/f.txt: 'rot13' is not a text encoding; " ++
          "use codecs.open() to handle arbitrary codecs (scheme 'own')" &&
        holdsBytes (priceCall.perform (rotGenerator.services 1) rotGenerator pricedStage).2.session.world.disk
          ["out", "f.txt"] []) (by decide +kernel)
    obtain ⟨message, emptied⟩ := Bool.and_eq_true_iff.mp computed
    exact ⟨trouble, _, pair_of_fst failed, eq_of_beq message, at_of_holds_bytes emptied⟩

end Plan

end StubForge
