import StubForge.Proofs.Runs
import StubForge.Settings

set_option autoImplicit false

/-!
What comes of a settings file. The schema of settings is said by itself, as the forms that data must
have, and reading accepts exactly the data of these forms. Loading a file then gives settings, a
failure of the program's own, or one of a few errors from outside, and which of them is said by the
bytes of the file.
-/

namespace StubForge

/-! ### Forms of data -/

-- Texts, and bytes that are a text in UTF-8.
inductive Texted : Datum → Prop where
  | text (value : String) : Texted (.text value)
  | bytes (data : Bytes) (chars : List Char) (decoded : Utf8.decode data = .ok chars) : Texted (.bytes data)

inductive Switched : Datum → Prop where
  | bool (value : Bool) : Switched (.bool value)
  | int (value : Int) (bit : value = 1 ∨ value = 0) : Switched (.int value)
  | float (value : Real64) (bit : value.toInt? = some 1 ∨ value.toInt? = some 0) : Switched (.float value)
  | text (value : String) (word : (Reading.switchWord? value).isSome) : Switched (.text value)
  | bytes (data : Bytes) (chars : List Char) (decoded : Utf8.decode data = .ok chars)
      (word : (Reading.switchWord? (String.ofList chars)).isSome) : Switched (.bytes data)

def Listed (form : Datum → Prop) (datum : Datum) : Prop :=
  ∃ found, (datum = .list found ∨ datum = .set found) ∧ ∀ item ∈ found, form item

def OrNull (form : Datum → Prop) (datum : Datum) : Prop := datum = .null ∨ form datum

def TextTable (datum : Datum) : Prop :=
  ∃ found, datum = .mapping found ∧ ∀ entry ∈ found, Texted entry.1 ∧ Texted entry.2

-- The fields of a record: the names that each goes by, and the form of what it holds.
abbrev Schema := List (List String × (Datum → Prop))

-- Each key is the name by which a field is given, and each field that is given holds what it should. A key that
-- is no field's name is out of place, and so is a field's second name beside its first.
structure Schema.Fits (schema : Schema) (record : Reading.Fields) : Prop where
  known : ∀ entry ∈ record.entries, ∃ field ∈ schema, ∃ name value,
    entry.1 = .text name ∧ record.find? field.1 = some (name, value)
  formed : ∀ field ∈ schema, ∀ name value, record.find? field.1 = some (name, value) → field.2 value

def Schema.Record (schema : Schema) (datum : Datum) : Prop :=
  ∃ entries, datum = .mapping entries ∧ ∀ location, schema.Fits { location, entries }

def Configuration.schema : Schema := [
  (["name"], Texted), (["scheme"], Texted), (["packages"], Listed Texted), (["aliases"], OrNull TextTable),
  (["target"], OrNull Texted), (["legalText", "legal_text"], OrNull Texted), (["encoding"], OrNull Texted)]

def Settings.schema : Schema := [
  (["generators"], Listed Configuration.schema.Record), (["classpath"], Listed Texted), (["output"], Texted),
  (["capability"], Texted), (["fail_fast"], Switched), (["template_dirs"], Listed Texted)]

/-! ### What readers accept -/

namespace Reading

variable {α β : Type}

def Accepts (read : Reader α) (form : Datum → Prop) : Prop :=
  ∀ location datum, (∃ value, read location datum = .ok value) ↔ form datum

theorem map_accepts (reading : Reading α) (change : α → β) :
    (∃ value, reading.map change = .ok value) ↔ ∃ value, reading = .ok value := by
  cases reading with
  | error details => exact ⟨nofun, nofun⟩
  | ok value => exact ⟨fun _ => ⟨value, rfl⟩, fun _ => ⟨change value, rfl⟩⟩

theorem apply_accepts (function : Reading (α → β)) (argument : Reading α) :
    (∃ value, apply function argument = .ok value) ↔
      (∃ value, function = .ok value) ∧ ∃ value, argument = .ok value := by
  cases function with
  | error details => cases argument <;> exact ⟨nofun, nofun⟩
  | ok change =>
      cases argument with
      | error details => exact ⟨nofun, nofun⟩
      | ok value => exact ⟨fun _ => ⟨⟨change, rfl⟩, value, rfl⟩, fun _ => ⟨change value, rfl⟩⟩

theorem accepts_text : Accepts text Texted := by
  intro location datum
  constructor
  · rintro ⟨value, read⟩
    cases datum with
    | text value => exact .text value
    | bytes data =>
        cases decoded : Utf8.decode data with
        | ok chars => exact .bytes data chars decoded
        | error fault =>
            rw [text, decoded] at read
            cases read
    | _ => cases read
  · intro form
    cases form with
    | text value => exact ⟨value, rfl⟩
    | bytes data chars decoded => exact ⟨String.ofList chars, by rw [text, decoded]⟩

theorem accepts_path : Accepts path Texted := by
  intro location datum
  rw [← accepts_text location datum]
  cases known : text location datum with
  | ok value => exact ⟨fun _ => ⟨value, rfl⟩, fun _ => ⟨Path.ofString value, by rw [path, known]⟩⟩
  | error details =>
      refine ⟨fun ⟨value, read⟩ => ?_, nofun⟩
      rw [path, known] at read
      cases read

theorem accepts_switch : Accepts switch Switched := by
  intro location datum
  have word (text : String) : (∃ value, switch location (.text text) = .ok value) ↔ (switchWord? text).isSome := by
    simp only [switch]
    cases switchWord? text with
    | none => simp [wrong]
    | some value => exact ⟨fun _ => rfl, fun _ => ⟨value, rfl⟩⟩
  cases datum with
  | bool value => exact ⟨fun _ => .bool value, fun _ => ⟨value, rfl⟩⟩
  | text value =>
      refine (word value).trans ⟨.text value, fun form => ?_⟩
      cases form with
      | text _ held => exact held
  | int value =>
      constructor
      · rintro ⟨bit, read⟩
        by_cases one : value = 1
        · exact .int value (.inl one)
        by_cases zero : value = 0
        · exact .int value (.inr zero)
        simp only [switch, if_neg one, if_neg zero] at read
        cases read
      · rintro (_ | ⟨_, rfl | rfl⟩)
        · exact ⟨true, rfl⟩
        · exact ⟨false, rfl⟩
  | float value =>
      constructor
      · rintro ⟨bit, read⟩
        simp only [switch] at read
        split at read
        · exact .float value (.inl ‹_›)
        · exact .float value (.inr ‹_›)
        · cases read
      · rintro (_ | _ | ⟨_, one | zero⟩)
        · exact ⟨true, by simp only [switch, one]⟩
        · exact ⟨false, by simp only [switch, zero]⟩
  | bytes data =>
      cases decoded : Utf8.decode data with
      | error fault =>
          have refused : switch location (.bytes data) = wrong location "bool_parsing" := by
            simp only [switch, text, decoded, wrong]
          refine ⟨fun accepted => ?_, fun form => ?_⟩
          · obtain ⟨_, read⟩ := accepted
            rw [refused] at read
            cases read
          · cases form with
            | bytes _ chars held =>
                rw [decoded] at held
                cases held
      | ok chars =>
          have same : switch location (.bytes data) = switch location (.text (String.ofList chars)) := by
            simp only [switch, text, decoded]
          rw [same]
          refine (word (String.ofList chars)).trans ⟨.bytes data chars decoded, fun form => ?_⟩
          cases form with
          | bytes _ others held known =>
              rw [decoded] at held
              cases held
              exact known
  | _ =>
      refine ⟨fun accepted => ?_, fun form => by cases form⟩
      obtain ⟨_, read⟩ := accepted
      cases read

theorem accepts_optional {read : Reader α} {form : Datum → Prop} (accepts : Accepts read form) :
    Accepts (optional read) (OrNull form) := by
  intro location datum
  cases datum with
  | null => exact ⟨fun _ => .inl rfl, fun _ => ⟨none, rfl⟩⟩
  | _ =>
      refine (map_accepts _ _).trans ((accepts location _).trans ⟨.inr, ?_⟩)
      rintro (none | formed)
      · cases none
      · exact formed

theorem accepts_items {read : Reader α} {form : Datum → Prop} (accepts : Accepts read form) (location : Location)
    (index : Nat) (found : List Datum) :
    (∃ value, items read location index found = .ok value) ↔ ∀ item ∈ found, form item := by
  induction found generalizing index with
  | nil => exact ⟨fun _ => nofun, fun _ => ⟨[], rfl⟩⟩
  | cons item rest ih =>
      rw [items, apply_accepts, map_accepts, accepts, ih, List.forall_mem_cons]

theorem accepts_list {read : Reader α} {form : Datum → Prop} (accepts : Accepts read form) (kind : String) :
    Accepts (listOf read kind) (Listed form) := by
  intro location datum
  cases datum with
  | list found =>
      refine (accepts_items accepts location 0 found).trans ⟨fun formed => ⟨found, .inl rfl, formed⟩, ?_⟩
      rintro ⟨others, same | same, formed⟩ <;> cases same
      exact formed
  | set found =>
      refine (accepts_items accepts location 0 found).trans ⟨fun formed => ⟨found, .inr rfl, formed⟩, ?_⟩
      rintro ⟨others, same | same, formed⟩ <;> cases same
      exact formed
  | _ =>
      refine ⟨nofun, ?_⟩
      rintro ⟨others, same | same, formed⟩ <;> cases same

theorem accepts_entries (location : Location) (found : List (Datum × Datum)) :
    (∃ value, entries location found = .ok value) ↔ ∀ entry ∈ found, Texted entry.1 ∧ Texted entry.2 := by
  induction found with
  | nil => exact ⟨fun _ => nofun, fun _ => ⟨[], rfl⟩⟩
  | cons entry rest ih =>
      rw [entries, apply_accepts, map_accepts, apply_accepts, map_accepts, accepts_text, accepts_text, ih,
        List.forall_mem_cons]

theorem accepts_dictionary : Accepts dictionary TextTable := by
  intro location datum
  cases datum with
  | mapping found =>
      refine (accepts_entries location found).trans ⟨fun formed => ⟨found, rfl, formed⟩, ?_⟩
      rintro ⟨others, same, formed⟩
      cases same
      exact formed
  | _ =>
      refine ⟨nofun, ?_⟩
      rintro ⟨others, same, formed⟩
      cases same

/-! ### Records -/

namespace Fields

theorem field_accepts {read : Reader α} {form : Datum → Prop} (accepts : Accepts read form) (record : Fields)
    (names : List String) (fallback : α) :
    (∃ value, record.field names fallback read = .ok value) ↔
      ∀ name value, record.find? names = some (name, value) → form value := by
  unfold field
  cases record.find? names with
  | none => exact ⟨fun _ => nofun, fun _ => ⟨fallback, rfl⟩⟩
  | some given =>
      obtain ⟨name, value⟩ := given
      refine (accepts _ value).trans ⟨fun formed other found same => ?_, fun formed => formed name value rfl⟩
      cases same
      exact formed

-- Nothing of a record is left over if each of its keys is the name by which a field is given.
theorem left_over_nothing (record : Fields) (fields : List (List String)) :
    record.leftOver fields = [] ↔ ∀ entry ∈ record.entries, ∃ names ∈ fields, ∃ name value,
      entry.1 = .text name ∧ record.find? names = some (name, value) := by
  rw [leftOver, List.filterMap_eq_nil_iff]
  refine forall₂_congr fun entry inside => ?_
  obtain ⟨key, held⟩ := entry
  cases key with
  | text name =>
      simp only [ite_eq_left_iff, reduceCtorEq, imp_false, List.contains_eq_mem, List.mem_filterMap,
        Option.map_eq_some_iff, decide_eq_true_eq, Datum.text.injEq, exists_and_left, Prod.exists]
      grind
  | _ =>
      refine ⟨nofun, ?_⟩
      rintro ⟨names, listed, name, value, same, given⟩
      cases same

theorem complete_accepts (record : Fields) (fields : List (List String)) (value : Reading α) :
    (∃ found, record.complete fields value = .ok found) ↔
      record.leftOver fields = [] ∧ ∃ found, value = .ok found := by
  unfold complete
  cases value with
  | error details => exact ⟨nofun, nofun⟩
  | ok value =>
      cases record.leftOver fields with
      | nil => exact ⟨fun _ => ⟨rfl, value, rfl⟩, fun _ => ⟨value, rfl⟩⟩
      | cons first rest => exact ⟨nofun, nofun⟩

end Fields

theorem accepts_record {read : Fields → Reading α} {schema : Schema}
    (accepts : ∀ record, (∃ value, read record = .ok value) ↔ schema.Fits record) :
    Accepts (recordOf read) schema.Record := by
  intro location datum
  cases datum with
  | mapping entries =>
      refine (accepts { location, entries }).trans ⟨fun fits => ⟨entries, rfl, fun other => ?_⟩, ?_⟩
      · exact ⟨fits.known, fits.formed⟩
      · rintro ⟨others, same, fits⟩
        cases same
        exact fits location
  | _ =>
      refine ⟨nofun, ?_⟩
      rintro ⟨others, same, fits⟩
      cases same

end Reading

open Reading

theorem Schema.fits_iff (schema : Schema) (record : Fields) :
    schema.Fits record ↔ record.leftOver (schema.map (·.1)) = [] ∧
      ∀ field ∈ schema, ∀ name value, record.find? field.1 = some (name, value) → field.2 value := by
  rw [Fields.left_over_nothing]
  constructor
  · intro fits
    refine ⟨fun entry inside => ?_, fits.formed⟩
    obtain ⟨field, listed, given⟩ := fits.known entry inside
    exact ⟨field.1, List.mem_map_of_mem listed, given⟩
  · rintro ⟨known, formed⟩
    refine ⟨fun entry inside => ?_, formed⟩
    obtain ⟨names, named, given⟩ := known entry inside
    obtain ⟨field, listed, rfl⟩ := List.mem_map.1 named
    exact ⟨field, listed, given⟩

theorem Configuration.of_record_accepts (record : Fields) :
    (∃ config, Configuration.ofRecord record = .ok config) ↔ Configuration.schema.Fits record := by
  have fieldNames : Configuration.schema.map (·.1) = Configuration.fieldNames := rfl
  rw [Configuration.ofRecord, Schema.fits_iff, fieldNames]
  simp only [Fields.complete_accepts, apply_accepts, map_accepts, Fields.field_accepts accepts_text,
    Fields.field_accepts (accepts_list accepts_text "tuple_type"),
    Fields.field_accepts (accepts_optional accepts_dictionary), Fields.field_accepts (accepts_optional accepts_path),
    Fields.field_accepts (accepts_optional accepts_text), Configuration.schema, List.forall_mem_cons, and_assoc,
    List.not_mem_nil, false_imp_iff, implies_true, and_true]

namespace Settings

theorem of_record_accepts (record : Fields) :
    (∃ settings, ofRecord record = .ok settings) ↔ schema.Fits record := by
  have fieldNames : schema.map (·.1) = fieldNames := rfl
  rw [ofRecord, Schema.fits_iff, fieldNames]
  simp only [Fields.complete_accepts, apply_accepts, map_accepts, Fields.field_accepts accepts_text,
    Fields.field_accepts accepts_path, Fields.field_accepts accepts_switch,
    Fields.field_accepts (accepts_list accepts_path "list_type"),
    Fields.field_accepts (accepts_list (accepts_record Configuration.of_record_accepts) "list_type"), schema,
    List.forall_mem_cons, and_assoc, List.not_mem_nil, false_imp_iff, implies_true, and_true]

/-! ### Documents -/

-- Data that stand for nothing are read as an empty document is.
theorem of_datum_empty (datum : Datum) (empty : datum.isEmpty = true) : ofDatum datum = .ok {} := by
  rw [ofDatum, if_pos empty]
  rfl

theorem of_datum_mapping (entries : List (Datum × Datum)) (filled : entries ≠ []) :
    ofDatum (.mapping entries) =
      if entries.all fun entry => isText entry.1 then
        (ofRecord { location := [], entries }).mapError fun details => .configuration (.settingsInvalid details)
      else .error (.raised "TypeError" keysText) := by
  have full : (Datum.mapping entries).isEmpty = false := by simpa [Datum.isEmpty] using filled
  rw [ofDatum, full]
  rfl

theorem of_datum_other (datum : Datum) (full : datum.isEmpty = false)
    (other : ∀ entries, datum ≠ .mapping entries) : ofDatum datum = .error (.configuration .settingsNotMapping) := by
  rw [ofDatum, full]
  cases datum with
  | mapping entries => exact absurd rfl (other entries)
  | _ => rfl

-- A mapping that fits has texts for keys, so it is read as a record.
theorem of_datum_accepts (datum : Datum) :
    (∃ settings, ofDatum datum = .ok settings) ↔ datum.isEmpty = true ∨ schema.Record datum := by
  by_cases empty : datum.isEmpty = true
  · exact ⟨fun _ => .inl empty, fun _ => ⟨{}, of_datum_empty datum empty⟩⟩
  have full : datum.isEmpty = false := by simpa using empty
  rw [full, or_iff_right (by simp)]
  by_cases mapped : ∃ entries, datum = .mapping entries
  · obtain ⟨entries, rfl⟩ := mapped
    have filled : entries ≠ [] := by
      rintro rfl
      cases full
    rw [of_datum_mapping entries filled]
    constructor
    · rintro ⟨settings, read⟩
      split at read
      · have accepted : ∃ settings, ofRecord { location := [], entries } = .ok settings := by
          cases made : ofRecord { location := [], entries } with
          | ok settings => exact ⟨settings, rfl⟩
          | error details =>
              rw [made] at read
              cases read
        have fits := (of_record_accepts _).1 accepted
        exact ⟨entries, rfl, fun _ => ⟨fits.known, fits.formed⟩⟩
      · cases read
    · rintro ⟨others, same, fits⟩
      cases same
      have texts : (entries.all fun entry => isText entry.1) = true := by
        rw [List.all_eq_true]
        intro entry inside
        obtain ⟨field, listed, name, value, key, given⟩ := (fits []).known entry inside
        rw [key]
        rfl
      obtain ⟨settings, made⟩ := (of_record_accepts _).2 (fits [])
      exact ⟨settings, by rw [if_pos texts, made]; rfl⟩
  · rw [of_datum_other datum full fun entries same => mapped ⟨entries, same⟩]
    exact ⟨nofun, fun ⟨entries, same, _⟩ => absurd ⟨entries, same⟩ mapped⟩

/-! ### Files -/

-- The bytes of a file are a document with this value.
def Holds (data : Bytes) (datum : Datum) : Prop :=
  ∃ chars, Utf8.decode data = .ok chars ∧ Yaml.read (Text.unifyNewlines chars) = .ok datum

-- Errors that are not of the program's own: the bytes are no text, a scalar or an escape has a value that cannot be
-- made, or a key of the settings is no text.
inductive Foreign (data : Bytes) : Error → Prop where
  | undecodable (fault : DecodeFault) (failed : Utf8.decode data = .error fault) :
      Foreign data (.raised "UnicodeDecodeError" fault.message)
  | outOfRange (chars : List Char) (mishap : Mishap) (decoded : Utf8.decode data = .ok chars)
      (failed : Yaml.read (Text.unifyNewlines chars) = .error (.mishap mishap)) : Foreign data (.mishap mishap)
  | keyword (entries : List (Datum × Datum)) (holds : Holds data (.mapping entries)) (entry : Datum × Datum)
      (inside : entry ∈ entries) (other : isText entry.1 = false) : Foreign data (.raised "TypeError" keysText)

-- What the bytes of a settings file are read as.
def ofBytes (data : Bytes) (folder : Path) : Except Error Settings := do
  read (← textOf (.bytes data)) (some folder)

theorem of_bytes_undecodable {data : Bytes} {fault : DecodeFault} (failed : Utf8.decode data = .error fault)
    (folder : Path) : ofBytes data folder = .error (.raised "UnicodeDecodeError" fault.message) := by
  rw [ofBytes, textOf, failed]
  rfl

theorem of_bytes_unreadable {data : Bytes} {chars : List Char} {fault : Yaml.Fault}
    (decoded : Utf8.decode data = .ok chars) (failed : Yaml.read (Text.unifyNewlines chars) = .error fault)
    (folder : Path) : ofBytes data folder = .error (documentError fault) := by
  rw [ofBytes, textOf, decoded]
  change read (String.ofList (Text.unifyNewlines chars)) (some folder) = _
  rw [read, String.toList_ofList, failed]
  rfl

theorem of_bytes_held {data : Bytes} {datum : Datum} (holds : Holds data datum) (folder : Path) :
    ofBytes data folder = (ofDatum datum).map (below folder) := by
  obtain ⟨chars, decoded, parsed⟩ := holds
  rw [ofBytes, textOf, decoded]
  change read (String.ofList (Text.unifyNewlines chars)) (some folder) = _
  rw [read, String.toList_ofList, parsed]
  change (ofDatum datum >>= fun settings => .ok (settings.below folder)) = _
  cases ofDatum datum <;> rfl

-- Bytes are no text, or a text that is no document, or they hold a value.
theorem bytes_cases (data : Bytes) :
    (∃ fault, Utf8.decode data = .error fault) ∨
      (∃ chars fault, Utf8.decode data = .ok chars ∧ Yaml.read (Text.unifyNewlines chars) = .error fault) ∨
      ∃ datum, Holds data datum := by
  cases decoded : Utf8.decode data with
  | error fault => exact .inl ⟨fault, rfl⟩
  | ok chars =>
      cases parsed : Yaml.read (Text.unifyNewlines chars) with
      | error fault => exact .inr (.inl ⟨chars, fault, rfl, parsed⟩)
      | ok datum => exact .inr (.inr ⟨datum, chars, decoded, parsed⟩)

theorem load_bytes (session : Session) (file : Path) (place : Place) (data : Bytes) (plain : file.hasNul = false)
    (there : session.world.disk.find session.directory file = .ok (place, .file (.bytes data))) :
    load file session = (ofBytes data file.parent, session) := by
  have present : session.world.disk.existsAt session.directory file = .ok true := by
    rw [Disk.existsAt, Disk.ask, plain, there]
    rfl
  rw [load, bind_ok (Run.get_run session)]
  simp only [present, there]
  have told : (textOf (.bytes data) >>= fun text => read text (some file.parent)) = ofBytes data file.parent := rfl
  rw [told]
  cases ofBytes data file.parent <;> rfl

theorem of_bytes_accepts (data : Bytes) (folder : Path) :
    (∃ settings, ofBytes data folder = .ok settings) ↔
      ∃ datum, Holds data datum ∧ (datum.isEmpty = true ∨ schema.Record datum) := by
  constructor
  · rintro ⟨settings, read⟩
    obtain ⟨fault, failed⟩ | ⟨chars, fault, decoded, failed⟩ | ⟨datum, holds⟩ := bytes_cases data
    · rw [of_bytes_undecodable failed] at read
      cases read
    · rw [of_bytes_unreadable decoded failed] at read
      cases read
    · refine ⟨datum, holds, (of_datum_accepts datum).1 ?_⟩
      rw [of_bytes_held holds] at read
      cases made : ofDatum datum with
      | ok own => exact ⟨own, rfl⟩
      | error error =>
          rw [made] at read
          cases read
  · rintro ⟨datum, holds, sound⟩
    obtain ⟨settings, made⟩ := (of_datum_accepts datum).2 sound
    exact ⟨settings.below folder, by rw [of_bytes_held holds, made]; rfl⟩

-- What is made of a value fails by a failure of the program's own, but for a key that is no text.
theorem of_datum_fails {datum : Datum} {error : Error} (failed : ofDatum datum = .error error) :
    (∃ fault, error = .configuration fault) ∨
      error = .raised "TypeError" keysText ∧
        ∃ entries, datum = .mapping entries ∧ ∃ entry ∈ entries, isText entry.1 = false := by
  by_cases empty : datum.isEmpty = true
  · rw [of_datum_empty datum empty] at failed
    cases failed
  have full : datum.isEmpty = false := by simpa using empty
  by_cases mapped : ∃ entries, datum = .mapping entries
  · obtain ⟨entries, rfl⟩ := mapped
    have filled : entries ≠ [] := by
      rintro rfl
      cases full
    rw [of_datum_mapping entries filled] at failed
    by_cases texts : (entries.all fun entry => isText entry.1) = true
    · rw [if_pos texts] at failed
      cases made : ofRecord { location := [], entries } with
      | ok settings =>
          rw [made] at failed
          cases failed
      | error details =>
          rw [made] at failed
          cases failed
          exact .inl ⟨_, rfl⟩
    · rw [if_neg texts] at failed
      cases failed
      simp only [List.all_eq_true, Classical.not_forall, Bool.not_eq_true, exists_prop] at texts
      exact .inr ⟨rfl, entries, rfl, texts⟩
  · rw [of_datum_other datum full fun entries same => mapped ⟨entries, same⟩] at failed
    cases failed
    exact .inl ⟨_, rfl⟩

theorem of_bytes_fails {data : Bytes} {folder : Path} {error : Error} (failed : ofBytes data folder = .error error) :
    (∃ fault, error = .configuration fault) ∨ Foreign data error := by
  obtain ⟨fault, undecoded⟩ | ⟨chars, fault, decoded, unread⟩ | ⟨datum, holds⟩ := bytes_cases data
  · rw [of_bytes_undecodable undecoded] at failed
    cases failed
    exact .inr (.undecodable fault undecoded)
  · rw [of_bytes_unreadable decoded unread] at failed
    cases failed
    cases fault with
    | malformed => exact .inl ⟨_, rfl⟩
    | mishap mishap => exact .inr (.outOfRange chars mishap decoded unread)
  · rw [of_bytes_held holds] at failed
    cases made : ofDatum datum with
    | ok settings =>
        rw [made] at failed
        cases failed
    | error cause =>
        rw [made] at failed
        cases failed
        obtain own | ⟨rfl, entries, rfl, entry, inside, other⟩ := of_datum_fails made
        · exact .inl own
        · exact .inr (.keyword entries holds entry inside other)

theorem of_bytes_foreign {data : Bytes} {error : Error} (foreign : Foreign data error) (folder : Path) :
    ofBytes data folder = .error error := by
  cases foreign with
  | undecodable fault failed => exact of_bytes_undecodable failed folder
  | outOfRange chars mishap decoded failed => exact of_bytes_unreadable decoded failed folder
  | keyword entries holds entry inside other =>
      have texts : ¬ (entries.all fun entry => isText entry.1) = true := by
        rw [List.all_eq_true]
        intro all
        exact Bool.noConfusion ((all entry inside).symm.trans other)
      rw [of_bytes_held holds, of_datum_mapping entries (List.ne_nil_of_mem inside), if_neg texts]
      rfl

-- A session in whose folder lies a settings file.
def holding (data : Bytes) : Session where
  world := World.initial { entries := [(["s.yaml"], .file (.bytes data))] }

def settingsFile : Path := Path.ofString "s.yaml"

def shopSettings : Bytes :=
  "generators:\n- name: p\n  scheme: json\n  packages: [shop]\nfail_fast: yes\n".toUTF8.toList

def isOther : Datum → Bool
  | .null => false
  | .mapping _ => false
  | _ => true

def datumOf (data : Bytes) : Option Datum :=
  match Utf8.decode data with
  | .ok chars => (Yaml.read (Text.unifyNewlines chars)).toOption
  | .error _ => none

theorem holds_of_computed (data : Bytes) (test : Datum → Bool) (computed : (datumOf data).any test = true) :
    ∃ datum, Holds data datum ∧ test datum = true := by
  obtain ⟨datum, found, passed⟩ := (Option.any_eq_true _ _).mp computed
  unfold datumOf at found
  split at found
  · rename_i chars decoded
    cases parsed : Yaml.read (Text.unifyNewlines chars) with
    | error fault =>
        rw [parsed] at found
        cases found
    | ok own =>
        rw [parsed] at found
        cases found
        exact ⟨datum, ⟨chars, decoded, parsed⟩, passed⟩
  · cases found

end Settings

end StubForge
