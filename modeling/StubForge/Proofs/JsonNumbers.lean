import StubForge.Json
import StubForge.Proofs.Digits

set_option autoImplicit false

/-!
Reading the texts of integers back, and finding the end of a number in a text.
-/

namespace StubForge.Json

-- The form that the texts of all numbers have: number characters, with a digit in front or behind the sign.
structure NumberText (s : List Char) : Prop where
  chars : ∀ c ∈ s, isNumberChar c = true
  front : (∃ first rest, s = first :: rest ∧ first.isDigit = true) ∨
    ∃ first rest, s = '-' :: first :: rest ∧ first.isDigit = true

theorem digit_is_number_char (c : Char) (digit : c.isDigit = true) : isNumberChar c = true := by
  rw [isNumberChar, digit]
  rfl

theorem number_text_of_digits (digits : List Char) (present : digits ≠ [])
    (all : ∀ c ∈ digits, c.isDigit = true) : NumberText digits := by
  refine ⟨fun c member => digit_is_number_char c (all c member), .inl ?_⟩
  cases digits with
  | nil => exact absurd rfl present
  | cons first rest => exact ⟨first, rest, rfl, all first List.mem_cons_self⟩

theorem number_text_neg (digits : List Char) (text : NumberText digits)
    (front : ∃ first rest, digits = first :: rest ∧ first.isDigit = true) : NumberText ('-' :: digits) := by
  obtain ⟨first, rest, rfl, digit⟩ := front
  refine ⟨?_, .inr ⟨first, rest, rfl, digit⟩⟩
  intro c member
  rcases List.mem_cons.mp member with rfl | inside
  · rfl
  · exact text.chars c inside

theorem int_text_chars (n : Int) : (Text.intText n).toList =
    if n < 0 then '-' :: Nat.toDigits 10 n.natAbs else Nat.toDigits 10 n.natAbs := by
  cases n with
  | ofNat m => simp [Text.intText, Text.natText]
  | negSucc m => simp [Text.intText, Text.natText, Int.natAbs]

theorem number_text_of_int (n : Int) : NumberText (Text.intText n).toList := by
  have digits := number_text_of_digits (Nat.toDigits 10 n.natAbs) Nat.toDigits_ne_nil
    (Text.digits_of_to_digits n.natAbs)
  rw [int_text_chars]
  split
  · refine number_text_neg _ digits ?_
    rcases digits.front with front | ⟨first, rest, signed, -⟩
    · exact front
    · have minus := Text.digits_of_to_digits n.natAbs '-' (by simp [signed])
      exact absurd minus (by decide)
  · exact digits

-- The digits of a number have no zero in front, unless the number is zero.
theorem whole_of_to_digits (n : Nat) :
    ((Nat.toDigits 10 n).length = 1 ∨ (Nat.toDigits 10 n).head? ≠ some '0') := by
  rcases Nat.eq_zero_or_pos n with rfl | positive
  · exact .inl rfl
  · obtain ⟨first, rest, shape, -, filled⟩ := Text.head_of_to_digits n positive
    refine .inr ?_
    rw [shape]
    exact fun same => filled (Option.some.inj same)

-- Reading what follows the sign of a number.
def readUnsigned (negative : Bool) (body : List Char) : Option Json :=
  let whole := body.takeWhile Char.isDigit
  let rest := body.dropWhile Char.isDigit
  if whole.isEmpty || (whole.length ≠ 1 && whole.head? = some '0') then none
  else
    let (fraction, rest, pointed) := match rest with
      | '.' :: more => (more.takeWhile Char.isDigit, more.dropWhile Char.isDigit, true)
      | more => ([], more, false)
    if pointed && fraction.isEmpty then none
    else
      let number := fun (e : Int) =>
        Json.float (Real64.ofDecimal negative (Text.countOf (whole ++ fraction)) (e - fraction.length))
      match rest with
      | [] =>
          if pointed then some (number 0)
          else some (.int (if negative then -(Text.countOf whole : Int) else Text.countOf whole))
      | e :: more => if e = 'e' || e = 'E' then (readExponent more).map number else none

theorem read_number_neg (rest : List Char) : readNumber ('-' :: rest) = readUnsigned true rest := rfl

theorem read_number_unsigned (first : Char) (rest : List Char) (digit : first.isDigit = true) :
    readNumber (first :: rest) = readUnsigned false (first :: rest) := by
  have unsigned : first ≠ '-' := by
    rintro rfl
    exact absurd digit (by decide)
  rw [readNumber]
  · rfl
  · exact fun _ same => unsigned (List.cons.inj same).1

theorem whole_ok (whole : List Char) (present : whole ≠ []) (bare : whole.length = 1 ∨ whole.head? ≠ some '0') :
    (whole.isEmpty || (whole.length ≠ 1 && whole.head? = some '0')) = false := by
  cases whole with
  | nil => exact absurd rfl present
  | cons first rest =>
      rcases bare with single | other
      · simp [show rest = [] by simpa using single]
      · have different : first ≠ '0' := by simpa using other
        simp [different]

theorem read_whole (negative : Bool) (whole : List Char) (all : ∀ c ∈ whole, c.isDigit = true)
    (present : whole ≠ []) (bare : whole.length = 1 ∨ whole.head? ≠ some '0') :
    readUnsigned negative whole =
      some (.int (if negative then -(Text.countOf whole : Int) else Text.countOf whole)) := by
  obtain ⟨taken, dropped⟩ := Text.take_run Char.isDigit whole [] all (by simp)
  rw [List.append_nil] at taken dropped
  simp only [readUnsigned, taken, dropped, whole_ok whole present bare]
  simp

theorem read_pointed (negative : Bool) (whole fraction : List Char) (all : ∀ c ∈ whole, c.isDigit = true)
    (present : whole ≠ []) (bare : whole.length = 1 ∨ whole.head? ≠ some '0')
    (others : ∀ c ∈ fraction, c.isDigit = true) (more : fraction ≠ []) :
    readUnsigned negative (whole ++ '.' :: fraction) =
      some (.float (Real64.ofDecimal negative (Text.countOf (whole ++ fraction)) (0 - fraction.length))) := by
  obtain ⟨taken, dropped⟩ := Text.take_run Char.isDigit whole ('.' :: fraction) all (by simp)
  obtain ⟨takenMore, droppedMore⟩ := Text.take_run Char.isDigit fraction [] others (by simp)
  rw [List.append_nil] at takenMore droppedMore
  simp only [readUnsigned, taken, dropped, whole_ok whole present bare, takenMore, droppedMore]
  simp [more]

theorem read_scientific (negative : Bool) (whole fraction exponent : List Char)
    (all : ∀ c ∈ whole, c.isDigit = true) (present : whole ≠ [])
    (bare : whole.length = 1 ∨ whole.head? ≠ some '0') (others : ∀ c ∈ fraction, c.isDigit = true) (e : Int)
    (power : readExponent exponent = some e) :
    readUnsigned negative (whole ++ (if fraction.isEmpty then [] else '.' :: fraction) ++ 'e' :: exponent) =
      some (.float (Real64.ofDecimal negative (Text.countOf (whole ++ fraction)) (e - fraction.length))) := by
  cases fraction with
  | nil =>
      obtain ⟨taken, dropped⟩ := Text.take_run Char.isDigit whole ('e' :: exponent) all (by simp)
      simp only [List.isEmpty_nil, if_true, List.append_nil]
      simp only [readUnsigned, taken, dropped, whole_ok whole present bare]
      simp [power]
  | cons first rest =>
      obtain ⟨taken, dropped⟩ :=
        Text.take_run Char.isDigit whole ('.' :: (first :: rest ++ 'e' :: exponent)) all (by simp)
      obtain ⟨takenMore, droppedMore⟩ :=
        Text.take_run Char.isDigit (first :: rest) ('e' :: exponent) others (by simp)
      simp only [List.isEmpty_cons, Bool.false_eq_true, if_false, List.append_assoc, List.cons_append] at *
      simp only [readUnsigned, taken, dropped, whole_ok whole present bare, takenMore, droppedMore]
      simp [power]

theorem read_int (n : Int) : readNumber (Text.intText n).toList = some (.int n) := by
  have all := Text.digits_of_to_digits n.natAbs
  have read := fun negative => read_whole negative (Nat.toDigits 10 n.natAbs) all Nat.toDigits_ne_nil
    (whole_of_to_digits n.natAbs)
  rw [int_text_chars]
  split
  · rw [read_number_neg, read true, Text.count_of_to_digits, if_pos rfl]
    congr 2
    omega
  · cases shape : Nat.toDigits 10 n.natAbs with
    | nil => exact absurd shape Nat.toDigits_ne_nil
    | cons first rest =>
        rw [read_number_unsigned first rest (all first (by simp [shape])), ← shape, read false,
          Text.count_of_to_digits]
        simp only [Bool.false_eq_true, if_false]
        congr 2
        omega

end StubForge.Json
