import StubForge.Proofs.Dates
import StubForge.Proofs.JsonNumbers
import StubForge.Proofs.Segments

set_option autoImplicit false

/-!
The date line of generated files. It is read back word by word, and what is read is the second that the files are dated
with.
-/

namespace StubForge

namespace Text

/-! ### Numbers -/

def readDigits? (digits : List Char) : Option Nat :=
  if digits ≠ [] ∧ digits.all Char.isDigit then some (countOf digits) else none

theorem read_digits (digits : List Char) (present : digits ≠ []) (all : ∀ c ∈ digits, c.isDigit = true) :
    readDigits? digits = some (countOf digits) := by
  rw [readDigits?, if_pos ⟨present, List.all_eq_true.mpr all⟩]

theorem read_digits_of_nat (n : Nat) : readDigits? (Nat.toDigits 10 n) = some n := by
  rw [read_digits _ Nat.toDigits_ne_nil (digits_of_to_digits n), count_of_to_digits]

theorem ascii_of_digit (c : Char) (digit : c.isDigit = true) : 48 ≤ c.toNat ∧ c.toNat ≤ 57 := by
  simp only [Char.isDigit, Bool.and_eq_true, decide_eq_true_eq, UInt32.le_iff_toNat_le] at digit
  exact digit

theorem digit_value (c : Char) (digit : c.isDigit = true) : digitValue? c = some (c.toNat - 48) := by
  have bounds := ascii_of_digit c digit
  rw [digitValue?]
  simp [show c.toNat < 128 by omega, digit]

theorem digit_run (digits : List Char) (present : digits ≠ []) (all : ∀ c ∈ digits, c.isDigit = true) :
    digitRun? digits = some (digits.map fun c => c.toNat - 48) := by
  induction digits with
  | nil => exact absurd rfl present
  | cons c rest ih =>
      obtain ⟨own, others⟩ := List.forall_mem_cons.mp all
      cases rest with
      | nil => simp [digitRun?, digit_value c own]
      | cons d more =>
          have inner := ih (List.cons_ne_nil d more) others
          have bare : d ≠ '_' := by
            rintro rfl
            exact absurd (others '_' List.mem_cons_self) (by decide)
          rw [digitRun?, digit_value c own, inner]
          · rfl
          · simp
          · exact fun _ same => bare (List.cons.inj same).1

theorem trim_chars_none (blank : Char → Bool) (s : List Char) (none : ∀ c ∈ s, blank c = false) :
    trimChars blank s = s := by
  have kept (t : List Char) (none : ∀ c ∈ t, blank c = false) : t.dropWhile blank = t := by
    cases t with
    | nil => rfl
    | cons c rest => simp [none c List.mem_cons_self]
  rw [trimChars, kept s none, kept s.reverse fun c member => none c (List.mem_reverse.mp member), List.reverse_reverse]

theorem signed_digits_plain (c : Char) (known : c = '-' ∨ c.isDigit = true) :
    c.toNat < 128 ∧ isAsciiBlank c = false := by
  cases known with
  | inl minus => exact minus ▸ ⟨by decide, by decide⟩
  | inr digit =>
      have bounds := ascii_of_digit c digit
      refine ⟨by omega, ?_⟩
      simp only [isAsciiBlank, Bool.or_eq_false_iff, Bool.and_eq_false_imp, decide_eq_true_eq, decide_eq_false_iff_not,
        beq_eq_false_iff_ne]
      omega

-- The decimal text of an integer is read as that integer, unless it has more digits than are read.
theorem read_integer_text (n : Int) (short : (Nat.toDigits 10 n.natAbs).length ≤ 4300) :
    readInteger (intText n) = .ok n := by
  have digits := digits_of_to_digits n.natAbs
  have run := digit_run (Nat.toDigits 10 n.natAbs) Nat.toDigits_ne_nil digits
  have value : ofDigits 10 ((Nat.toDigits 10 n.natAbs).map fun c => c.toNat - 48) = n.natAbs :=
    count_of_to_digits n.natAbs
  have known (c : Char) (member : c ∈ (intText n).toList) : c = '-' ∨ c.isDigit = true := by
    rw [Json.int_text_chars] at member
    by_cases negative : n < 0
    · rw [if_pos negative, List.mem_cons] at member
      exact member.imp id (digits c)
    · rw [if_neg negative] at member
      exact .inr (digits c member)
  have ascii : (intText n).toList.all (·.toNat < 128) = true :=
    List.all_eq_true.mpr fun c member => decide_eq_true (signed_digits_plain c (known c member)).1
  have trimmed : trimChars isAsciiBlank (intText n).toList = (intText n).toList :=
    trim_chars_none isAsciiBlank _ fun c member => (signed_digits_plain c (known c member)).2
  unfold readInteger
  simp only [ascii, if_true, trimmed]
  rw [Json.int_text_chars]
  by_cases negative : n < 0
  · simp only [if_pos negative, run, List.length_map, if_neg (Nat.not_lt.mpr short), value, if_true]
    congr 1
    omega
  · have whole : (n.natAbs : Int) = n := by omega
    obtain ⟨first, rest, shape⟩ := List.exists_cons_of_ne_nil (Nat.toDigits_ne_nil (n := n.natAbs) (b := 10))
    have digit := digits first (shape ▸ List.mem_cons_self)
    have unsigned : first ≠ '-' ∧ first ≠ '+' := by
      constructor <;> rintro rfl <;> exact absurd digit (by decide)
    rw [shape] at run value short
    simp [-List.map_cons, -List.length_cons, negative, shape, unsigned, run, value, whole, Nat.not_lt.mpr short]

theorem digits_without (separator : Char) (other : separator.isDigit = false) (digits : List Char)
    (all : ∀ c ∈ digits, c.isDigit = true) : separator ∉ digits :=
  fun member => absurd (all separator member) (by simp [other])

end Text

namespace Moment

/-! ### Reading a date line -/

def readClock? (time : List Char) : Option (Nat × Nat × Nat) :=
  match Text.splitAt ':' time with
  | [hour, minute, second] => do
      return (← Text.readDigits? hour, ← Text.readDigits? minute, ← Text.readDigits? second)
  | _ => none

-- Seconds east of Greenwich, from a sign, two digits of hours and two of minutes.
def readOffset? (offset : List Char) : Option Int := do
  let size := (← Text.readDigits? ((offset.drop 1).take 2)) * 3600 + (← Text.readDigits? (offset.drop 3)) * 60
  match offset.head? with
  | some '+' => return size
  | some '-' => return -(size : Int)
  | _ => none

def wordsOf (text : String) : List String := (Text.splitAt ' ' text.toList).map String.ofList

-- The weekday and the moment that a date line tells.
def ofHeader? (text : String) : Option (Nat × Moment) :=
  match wordsOf text with
  | [weekday, day, month, year, time, offset] => do
      let weekday ← weekdayNames.findIdx? (· ++ "," = weekday)
      let day ← Text.readDigits? day.toList
      let month ← monthNames.findIdx? (· = month)
      let year ← Text.readDigits? year.toList
      let (hour, minute, second) ← readClock? time.toList
      let offset ← readOffset? offset.toList
      return (weekday, { date := { year, month := month + 1, day }, hour, minute, second, offset := some offset })
  | _ => none

-- The second that a date line tells, counted from 1970 in UTC.
def secondOfHeader? (text : String) : Option Int := do
  let (_, moment) ← ofHeader? text
  return moment.seconds - moment.offset.getD 0

/-! ### Writing and reading -/

theorem two_digits_chars (n : Nat) : ∀ c ∈ (twoDigits n).toList, c.isDigit = true := by
  intro c member
  rw [twoDigits, String.toList_ofList, Text.padLeft, List.mem_append] at member
  cases member with
  | inl zero => exact List.eq_of_mem_replicate zero ▸ rfl
  | inr digit => exact Text.digits_of_to_digits n c digit

theorem read_two_digits (n : Nat) : Text.readDigits? (twoDigits n).toList = some n := by
  have present : (twoDigits n).toList ≠ [] := by
    rw [twoDigits, String.toList_ofList, Text.padLeft]
    exact List.append_ne_nil_of_right_ne_nil _ Nat.toDigits_ne_nil
  rw [Text.read_digits _ present (two_digits_chars n), twoDigits, String.toList_ofList, Text.padLeft,
    Text.count_of_append, Text.count_of_zeros, Text.count_of_to_digits, Nat.zero_mul, Nat.zero_add]

def clockText (hour minute second : Nat) : String := twoDigits hour ++ ":" ++ twoDigits minute ++ ":" ++ twoDigits second

theorem read_clock (hour minute second : Nat) :
    readClock? (clockText hour minute second).toList = some (hour, minute, second) := by
  have plain (n : Nat) : ':' ∉ (twoDigits n).toList := Text.digits_without ':' rfl _ (two_digits_chars n)
  have pieces : Text.splitAt ':' (clockText hour minute second).toList =
      [(twoDigits hour).toList, (twoDigits minute).toList, (twoDigits second).toList] := by
    rw [← Text.split_at_join_with ':' [(twoDigits hour).toList, (twoDigits minute).toList, (twoDigits second).toList]
      (by simp) (by simp [plain])]
    simp [clockText, Text.joinWith]
  rw [readClock?, pieces]
  simp [read_two_digits]

-- The words of a date line in UTC.
def headerWords (weekday : Nat) (m : Moment) : List String :=
  [weekdayNames.getD weekday "" ++ ",", Text.natText m.date.day, monthNames.getD (m.date.month - 1) "",
    Text.intText m.date.year, clockText m.hour m.minute m.second, "+0000"]

theorem weekday_bound (d : Date) : d.weekday < 7 := by
  rw [Date.weekday]
  omega

theorem unblank_of_names (names : List String) (all : ∀ name ∈ names, ' ' ∉ name.toList) (index : Nat) :
    ' ' ∉ (names.getD index "").toList := by
  rw [List.getD_eq_getElem?_getD]
  cases found : names[index]? with
  | none => exact List.not_mem_nil
  | some name => exact all name (List.mem_of_getElem? found)

theorem words_of_header (m : Moment) (utc : m.offset = some 0) :
    wordsOf m.headerText = headerWords m.date.weekday m := by
  have digits (n : Nat) : ' ' ∉ (twoDigits n).toList := Text.digits_without ' ' rfl _ (two_digits_chars n)
  have counted (n : Nat) : ' ' ∉ Nat.toDigits 10 n := Text.digits_without ' ' rfl _ (Text.digits_of_to_digits n)
  have weekday := unblank_of_names weekdayNames (by decide) m.date.weekday
  have month := unblank_of_names monthNames (by decide) (m.date.month - 1)
  have year : ' ' ∉ (Text.intText m.date.year).toList := by
    rw [Json.int_text_chars]
    split <;> simp [counted]
  have offset : offsetText (some 0) = "+0000" := by decide
  have chars : m.headerText.toList = Text.joinWith [' '] ((headerWords m.date.weekday m).map String.toList) := by
    simp [-List.getD_eq_getElem?_getD, headerText, headerWords, clockText, Text.joinWith, utc, offset]
  have plain : ∀ word ∈ (headerWords m.date.weekday m).map String.toList, ' ' ∉ word := by
    simp [-List.getD_eq_getElem?_getD, headerWords, clockText, weekday, month, year, digits, Text.natText, counted]
  rw [wordsOf, chars, Text.split_at_join_with ' ' _ (by simp [headerWords]) plain, List.map_map]
  simp [Function.comp_def]

theorem read_year (year : Int) (counted : 0 ≤ year) : Text.readDigits? (Text.intText year).toList = some year.toNat := by
  have size : year.natAbs = year.toNat := by omega
  rw [Json.int_text_chars, if_neg (Int.not_lt.mpr counted), Text.read_digits_of_nat, size]

theorem header_read_back (m : Moment) (utc : m.offset = some 0) (valid : m.date.Valid) (counted : 0 ≤ m.date.year) :
    ofHeader? m.headerText = some (m.date.weekday, m) := by
  have weekday : ∀ index < 7, weekdayNames.findIdx? (· ++ "," = weekdayNames.getD index "" ++ ",") = some index := by
    decide
  have month : ∀ index < 12, monthNames.findIdx? (· = monthNames.getD index "") = some index := by decide
  have offset : readOffset? "+0000".toList = some 0 := by decide
  obtain ⟨first, last, -, -⟩ := valid
  have day : (Text.natText m.date.day).toList = Nat.toDigits 10 m.date.day := String.toList_ofList
  rw [ofHeader?, words_of_header m utc]
  dsimp only [headerWords]
  rw [weekday _ (weekday_bound m.date), month (m.date.month - 1) (by omega), day, Text.read_digits_of_nat,
    read_year _ counted, read_clock, offset]
  have named : m.date.month - 1 + 1 = m.date.month := Nat.sub_add_cancel first
  have dated : (m.date.year.toNat : Int) = m.date.year := Int.toNat_of_nonneg counted
  dsimp only [Option.bind_eq_bind, Option.bind_some, Option.pure_def]
  rw [named, dated, ← utc]

/-! ### The second of a line -/

theorem date_of_seconds (n : Int) : Date.Falls (n / 86400) (ofSeconds n).date := Date.falls_of_days (n / 86400)

theorem time_of_seconds (n : Int) :
    (ofSeconds n).hour < 24 ∧ (ofSeconds n).minute < 60 ∧ (ofSeconds n).second < 60 ∧
      n % 86400 = ((ofSeconds n).hour * 3600 + (ofSeconds n).minute * 60 + (ofSeconds n).second : Nat) := by
  dsimp only [ofSeconds]
  omega

theorem seconds_of_seconds (n : Int) : (ofSeconds n).seconds = n := by
  obtain ⟨-, number⟩ := Date.days_of_falls _ _ (date_of_seconds n)
  obtain ⟨-, -, -, rest⟩ := time_of_seconds n
  rw [seconds, number, ← rest]
  omega

-- The first day of 1970 was a Thursday.
theorem weekday_of_falls (day : Int) (d : Date) (falls : Date.Falls day d) : d.weekday = ((day + 3) % 7).toNat := by
  obtain ⟨-, number⟩ := Date.days_of_falls day d falls
  rw [Date.weekday, number, epochDay]
  omega

-- The days of the years with up to four digits.
theorem day_of_four_digits (day : Int) (d : Date) (falls : Date.Falls day d) (early : 1 ≤ d.year) (late : d.year ≤ 9999) :
    -719162 ≤ day ∧ day < 2932897 := by
  obtain ⟨valid, number⟩ := Date.days_of_falls day d falls
  obtain ⟨first, last⟩ := Date.days_within_year d valid
  have least := Date.year_start_mono 0 d.year (by omega)
  have most := Date.year_start_mono d.year 10000 (by omega)
  have lower : Date.yearStart (0 + 1) = 0 := by decide
  have upper : Date.yearStart 10000 = 3652059 := by decide
  rw [epochDay] at number
  omega

theorem of_seconds_dated (n : Int) (early : 1 ≤ (ofSeconds n).date.year) (late : (ofSeconds n).date.year ≤ 9999) :
    ofSeconds? n = .ok (ofSeconds n) := by
  have bounds := day_of_four_digits _ _ (date_of_seconds n) early late
  have clock : (n < -clockLimit || clockLimit ≤ n) = false := by
    rw [Bool.or_eq_false_iff, decide_eq_false_iff_not, decide_eq_false_iff_not, clockLimit]
    omega
  have wide : (widestYear < (ofSeconds n).date.year || (ofSeconds n).date.year < -2147481748) = false := by
    rw [Bool.or_eq_false_iff, decide_eq_false_iff_not, decide_eq_false_iff_not, widestYear]
    omega
  have dated : ((ofSeconds n).date.year < 1 || 9999 < (ofSeconds n).date.year) = false := by
    rw [Bool.or_eq_false_iff, decide_eq_false_iff_not, decide_eq_false_iff_not]
    omega
  rw [ofSeconds?, clock]
  dsimp only
  rw [wide, dated]
  rfl

-- The line of a second between the years 1 and 9999 tells its date, its time and its weekday in UTC, as the calendar has
-- them, the year without zeros in front. From the line the second is known.
theorem header_identifies_second (n : Int) (text : String) (pinned : Text.readInteger text = .ok n) (date : Date)
    (falls : Date.Falls (n / 86400) date) (early : 1 ≤ date.year) (late : date.year ≤ 9999) :
    Text.readInteger (Text.intText n) = .ok n ∧
    ∃ moment, ofPinned text = .ok moment ∧
      moment.date = date ∧ moment.hour < 24 ∧ moment.minute < 60 ∧ moment.second < 60 ∧
      n % 86400 = (moment.hour * 3600 + moment.minute * 60 + moment.second : Nat) ∧ moment.offset = some 0 ∧
      wordsOf moment.headerText = headerWords ((n / 86400 + 3) % 7).toNat moment ∧
      (Text.intText date.year).toList.head? ≠ some '0' ∧
      ofHeader? moment.headerText = some (((n / 86400 + 3) % 7).toNat, moment) ∧
      secondOfHeader? moment.headerText = some n := by
  obtain rfl : date = (ofSeconds n).date := (Date.falls_iff _ date).mp falls
  have bounds := day_of_four_digits _ _ falls early late
  obtain ⟨valid, -⟩ := Date.days_of_falls _ _ falls
  have weekday := weekday_of_falls _ _ falls
  obtain ⟨hours, minutes, seconds, rest⟩ := time_of_seconds n
  have utc : (ofSeconds n).offset = some 0 := rfl
  have read := header_read_back (ofSeconds n) utc valid (by omega)
  rw [weekday] at read
  have short : (Nat.toDigits 10 n.natAbs).length ≤ 4300 := by
    have few : (Nat.toDigits 10 n.natAbs).length ≤ 12 := (Nat.length_toDigits_le_iff (by decide) (by decide)).mpr (by omega)
    omega
  have unpadded : (Text.intText (ofSeconds n).date.year).toList.head? ≠ some '0' := by
    obtain ⟨first, more, shape, -, filled⟩ := Text.head_of_to_digits (ofSeconds n).date.year.natAbs (by omega)
    rw [Json.int_text_chars, if_neg (by omega), shape, List.head?_cons]
    exact fun same => filled (Option.some.inj same)
  refine ⟨Text.read_integer_text n short, ofSeconds n, ?_, rfl, hours, minutes, seconds, rest, utc, ?_, unpadded, read, ?_⟩
  · rw [ofPinned, pinned]
    exact of_seconds_dated n early late
  · rw [words_of_header _ utc, weekday]
  · rw [secondOfHeader?, read]
    dsimp only [Option.bind_eq_bind, Option.bind_some, Option.pure_def]
    rw [seconds_of_seconds, utc, Option.getD_some, Int.sub_zero]

-- The last second of February 1900, a year that is no leap year.
theorem last_of_february : Text.readInteger "-2203891201" = .ok (-2203891201) ∧
    Date.Falls (-2203891201 / 86400) { year := 1900, month := 2, day := 28 } ∧
    ∃ moment, ofPinned "-2203891201" = .ok moment ∧
      wordsOf moment.headerText = ["Wed,", "28", "Feb", "1900", "23:59:59", "+0000"] ∧
      secondOfHeader? moment.headerText = some (-2203891201) := by
  have read : Text.readInteger "-2203891201" = .ok (-2203891201) := by rfl
  have falls : Date.Falls (-2203891201 / 86400) { year := 1900, month := 2, day := 28 } :=
    (Date.falls_iff _ _).mpr (by decide)
  obtain ⟨-, moment, made, -, -, -, -, -, -, words, -, -, back⟩ :=
    header_identifies_second (-2203891201) "-2203891201" read _ falls (by decide) (by decide)
  refine ⟨read, falls, moment, made, ?_, back⟩
  cases made
  exact words.trans rfl

end Moment

end StubForge
