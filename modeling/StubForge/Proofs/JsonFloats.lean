import StubForge.Proofs.Decimals
import StubForge.Proofs.JsonNumbers

set_option autoImplicit false

/-!
Reading the texts of floating point numbers back.
-/

namespace StubForge.Json

open Real64

theorem pad_left_eq (width : Nat) (digits : List Char) :
    Text.padLeft width '0' digits = List.replicate (width - digits.length) '0' ++ digits := rfl

theorem read_exponent_text (n : Int) : readExponent (exponentText n) = some n := by
  have digits := Text.digits_of_to_digits n.natAbs
  have all : (Text.padLeft 2 '0' (Nat.toDigits 10 n.natAbs)).all Char.isDigit = true := by
    rw [pad_left_eq, List.all_append, Bool.and_eq_true]
    refine ⟨?_, List.all_eq_true.mpr digits⟩
    rw [List.all_replicate]
    simp
  have present : (Text.padLeft 2 '0' (Nat.toDigits 10 n.natAbs)).isEmpty = false := by
    rw [pad_left_eq, List.isEmpty_eq_false_iff]
    exact List.append_ne_nil_of_right_ne_nil _ Nat.toDigits_ne_nil
  have counted : Text.countOf (Text.padLeft 2 '0' (Nat.toDigits 10 n.natAbs)) = n.natAbs := by
    rw [pad_left_eq, Text.count_of_append, Text.count_of_zeros, Text.count_of_to_digits]
    simp
  have natural : readExponent.natural (Text.padLeft 2 '0' (Nat.toDigits 10 n.natAbs)) = some (n.natAbs : Int) := by
    rw [readExponent.natural, all, present]
    exact congrArg (fun count : Nat => some (count : Int)) counted
  rw [exponentText]
  split
  · rw [readExponent, natural, Option.map_some]
    congr 1
    omega
  · rw [readExponent, natural]
    congr 1
    omega

-- The digits of a number that is written as a decimal.
structure Written (digits : Nat) (text : List Char) : Prop where
  all : ∀ c ∈ text, c.isDigit = true
  front : ∃ first rest, text = first :: rest ∧ first ≠ '0'
  count : Text.countOf text = digits

theorem written_to_digits (digits : Nat) (some' : 0 < digits) : Written digits (Nat.toDigits 10 digits) := by
  obtain ⟨first, rest, shape, -, filled⟩ := Text.head_of_to_digits digits some'
  exact ⟨Text.digits_of_to_digits digits, ⟨first, rest, shape, filled⟩, Text.count_of_to_digits digits⟩

theorem zero_digit : ∀ c ∈ ['0'], c.isDigit = true := List.forall_mem_singleton.mpr rfl

theorem of_decimal_same (negative : Bool) (digits : Nat) (power : Int) (m : Nat) (e : Int) (some' : 0 < digits)
    (filled : 0 < m) (nearest : Nearest (decimal digits power) m e) (most : e ≤ 971) (other : Nat) (shift : Int)
    (same : decimal other shift = decimal digits power) :
    ofDecimal negative other shift = .finite negative m e := by
  have positive : 0 < decimal digits power := by
    rw [decimal]
    have cast : (0 : ℚ) < digits := by exact_mod_cast some'
    positivity
  have otherFilled : 0 < other := by
    by_contra none
    rw [← same, decimal, Nat.eq_zero_of_not_pos none] at positive
    simp at positive
  exact (of_decimal_iff negative other shift m e otherFilled filled).mpr ⟨same ▸ nearest, most⟩

section

variable {negative : Bool} {digits m : Nat} {power e : Int} {text : List Char}
  (written : Written digits text)

include written

theorem read_below_one (after : text.length + power ≤ 0) :
    readUnsigned negative ('0' :: '.' :: (List.replicate (-(text.length + power)).toNat '0' ++ text)) =
      some (.float (ofDecimal negative digits power)) := by
  obtain ⟨all, ⟨first, rest, shape, -⟩, count⟩ := written
  have fraction : ∀ c ∈ List.replicate (-(text.length + power)).toNat '0' ++ text, c.isDigit = true := by
    intro c member
    rcases List.mem_append.mp member with zero | digit
    · rw [List.eq_of_mem_replicate zero]
      rfl
    · exact all c digit
  have read := read_pointed negative ['0'] (List.replicate (-(text.length + power)).toNat '0' ++ text)
    zero_digit (by decide) (.inl rfl) fraction (by simp [shape])
  have counted : Text.countOf (['0'] ++ (List.replicate (-(text.length + power)).toNat '0' ++ text)) = digits := by
    rw [Text.count_of_append, Text.count_of_append, Text.count_of_zeros, count]
    simp [Text.countOf, Text.ofDigits]
  have shift : (0 : Int) - (List.replicate (-(text.length + power)).toNat '0' ++ text).length = power := by
    rw [List.length_append, List.length_replicate]
    push_cast
    omega
  rw [counted, shift] at read
  exact read

theorem read_split (n : Nat) (some' : 0 < n) (fewer : n < text.length) (shift : (n : Int) = text.length + power) :
    readUnsigned negative (text.take n ++ '.' :: text.drop n) = some (.float (ofDecimal negative digits power)) := by
  obtain ⟨all, ⟨first, rest, shape, unpadded⟩, count⟩ := written
  obtain ⟨k, rfl⟩ := Nat.exists_eq_succ_of_ne_zero some'.ne'
  have read := read_pointed negative (text.take (k + 1)) (text.drop (k + 1))
    (fun c member => all c (List.mem_of_mem_take member)) (by simp [shape]) (.inr (by simp [shape, unpadded]))
    (fun c member => all c (List.mem_of_mem_drop member)) (by simpa using fewer)
  have back : (0 : Int) - (text.drop (k + 1)).length = power := by
    rw [List.length_drop]
    omega
  rw [List.take_append_drop, count, back] at read
  exact read

theorem read_with_exponent :
    readUnsigned negative
        (text.take 1 ++ (if (text.drop 1).isEmpty then [] else '.' :: text.drop 1) ++
          'e' :: exponentText (text.length + power - 1)) =
      some (.float (ofDecimal negative digits power)) := by
  obtain ⟨all, ⟨first, rest, shape, unpadded⟩, count⟩ := written
  have read := read_scientific negative (text.take 1) (text.drop 1) (exponentText (text.length + power - 1))
    (fun c member => all c (List.mem_of_mem_take member)) (by simp [shape]) (.inl (by simp [shape]))
    (fun c member => all c (List.mem_of_mem_drop member)) _ (read_exponent_text _)
  have back : (text.length + power - 1 : Int) - (text.drop 1).length = power := by
    rw [List.length_drop, shape, List.length_cons]
    omega
  rw [List.take_append_drop, count, back] at read
  exact read

theorem read_padded (n : Nat) :
    readUnsigned negative (text ++ List.replicate n '0' ++ ['.', '0']) =
      some (.float (ofDecimal negative (digits * 10 ^ n * 10) (-1))) := by
  obtain ⟨all, ⟨first, rest, shape, unpadded⟩, count⟩ := written
  have whole : ∀ c ∈ text ++ List.replicate n '0', c.isDigit = true := by
    intro c member
    rcases List.mem_append.mp member with digit | zero
    · exact all c digit
    · rw [List.eq_of_mem_replicate zero]
      rfl
  have read := read_pointed negative (text ++ List.replicate n '0') ['0'] whole (by simp [shape])
    (.inr (by simp [shape, unpadded])) zero_digit (by decide)
  have counted : Text.countOf (text ++ List.replicate n '0' ++ ['0']) = digits * 10 ^ n * 10 := by
    rw [Text.count_of_append, Text.count_of_append, Text.count_of_zeros, count, List.length_replicate]
    simp [Text.countOf, Text.ofDigits]
  rw [counted] at read
  exact read

theorem read_decimal_text (some' : 0 < digits) (filled : 0 < m) (nearest : Nearest (decimal digits power) m e)
    (most : e ≤ 971) :
    readUnsigned negative (decimalText text power) = some (.float (.finite negative m e)) := by
  have value := of_decimal_same negative digits power m e some' filled nearest most
  have own := value digits power rfl
  rw [decimalText]
  by_cases positional : -4 < (text.length : Int) + power ∧ (text.length : Int) + power ≤ 16
  · simp only [positional.1, positional.2, decide_true, Bool.and_self, if_true]
    by_cases below : (text.length : Int) + power ≤ 0
    · rw [if_pos below, read_below_one written below, own]
    · rw [if_neg below]
      by_cases whole : text.length ≤ ((text.length : Int) + power).toNat
      · rw [if_pos whole, read_padded written, value]
        obtain ⟨k, rfl⟩ := Int.eq_ofNat_of_zero_le (show 0 ≤ power by omega)
        rw [show ((text.length : Int) + (k : Int)).toNat - text.length = k by omega, decimal, decimal]
        push_cast
        rw [zpow_neg_one, zpow_natCast]
        ring
      · have point : ((((text.length : Int) + power).toNat : Nat) : Int) = text.length + power := by omega
        rw [if_neg whole, read_split written _ (by omega) (by omega) point, own]
  · have scientific :
        (decide (-4 < (text.length : Int) + power) && decide ((text.length : Int) + power ≤ 16)) = false := by
      simpa using positional
    simp only [scientific, Bool.false_eq_true, if_false]
    rw [read_with_exponent written, own]

end

/-! ### The texts as a whole -/

theorem number_chars_of_digits (text : List Char) (all : ∀ c ∈ text, c.isDigit = true) :
    ∀ c ∈ text, isNumberChar c = true :=
  fun c member => digit_is_number_char c (all c member)

theorem number_chars_append (before after : List Char) (first : ∀ c ∈ before, isNumberChar c = true)
    (second : ∀ c ∈ after, isNumberChar c = true) : ∀ c ∈ before ++ after, isNumberChar c = true := by
  intro c member
  exact (List.mem_append.mp member).elim (first c) (second c)

theorem number_chars_cons (first : Char) (rest : List Char) (accepted : isNumberChar first = true)
    (others : ∀ c ∈ rest, isNumberChar c = true) : ∀ c ∈ first :: rest, isNumberChar c = true :=
  List.forall_mem_cons.mpr ⟨accepted, others⟩

theorem number_chars_zeros (n : Nat) : ∀ c ∈ List.replicate n '0', isNumberChar c = true := by
  intro c member
  rw [List.eq_of_mem_replicate member]
  rfl

theorem number_chars_exponent (n : Int) : ∀ c ∈ exponentText n, isNumberChar c = true := by
  refine number_chars_cons _ _ (by split <;> rfl) ?_
  refine number_chars_append _ _ (number_chars_zeros _) ?_
  exact number_chars_of_digits _ (Text.digits_of_to_digits n.natAbs)

theorem number_text_of_decimal (digits : Nat) (text : List Char) (written : Written digits text) (power : Int) :
    NumberText (decimalText text power) ∧
      ∃ first rest, decimalText text power = first :: rest ∧ first.isDigit = true := by
  obtain ⟨all, ⟨first, rest, rfl, -⟩, -⟩ := written
  have chars := number_chars_of_digits _ all
  have digit := all first List.mem_cons_self
  have front : ∃ head tail, decimalText (first :: rest) power = head :: tail ∧ head.isDigit = true := by
    rw [decimalText]
    split
    · split
      · exact ⟨'0', _, rfl, rfl⟩
      · split
        · exact ⟨first, _, rfl, digit⟩
        · rename_i positive _
          obtain ⟨k, step⟩ := Nat.exists_eq_succ_of_ne_zero
            (show ((first :: rest).length + power).toNat ≠ 0 by omega)
          exact ⟨first, _, by rw [step]; rfl, digit⟩
    · exact ⟨first, _, rfl, digit⟩
  refine ⟨⟨?_, .inl front⟩, front⟩
  have taken : ∀ n, ∀ c ∈ (first :: rest).take n, isNumberChar c = true :=
    fun n c member => chars c (List.mem_of_mem_take member)
  have dropped : ∀ n, ∀ c ∈ (first :: rest).drop n, isNumberChar c = true :=
    fun n c member => chars c (List.mem_of_mem_drop member)
  rw [decimalText]
  split
  · split
    · exact number_chars_cons _ _ rfl (number_chars_cons _ _ rfl
        (number_chars_append _ _ (number_chars_zeros _) chars))
    · split
      · exact number_chars_append _ _ (number_chars_append _ _ chars (number_chars_zeros _))
          (number_chars_cons _ _ rfl (List.forall_mem_singleton.mpr rfl))
      · exact number_chars_append _ _ (taken _) (number_chars_cons _ _ rfl (dropped _))
  · refine number_chars_append _ _ (number_chars_append _ _ (taken 1) ?_)
      (number_chars_cons _ _ rfl (number_chars_exponent _))
    split
    · exact fun c member => absurd member List.not_mem_nil
    · exact number_chars_cons _ _ rfl (dropped 1)

-- The digits of a number without its sign.
theorem float_text (negative : Bool) (m : Nat) (e : Int) : (Real64.finite negative m e).text.toList =
    if negative then '-' :: (Real64.finite false m e).text.toList else (Real64.finite false m e).text.toList := by
  cases negative <;> simp [Real64.text]

theorem unsigned_text (m : Nat) (e : Int) (number : (Real64.finite false m e).IsNumber) (negative : Bool) :
    (NumberText (Real64.finite false m e).text.toList ∧
      ∃ first rest, (Real64.finite false m e).text.toList = first :: rest ∧ first.isDigit = true) ∧
      readUnsigned negative (Real64.finite false m e).text.toList = some (.float (.finite negative m e)) := by
  rcases Nat.eq_zero_or_pos m with rfl | filled
  · obtain ⟨-, least, -, wide | lowest⟩ := number
    · exact absurd wide (by decide)
    · subst lowest
      have chars : ∀ c ∈ ['0', '.', '0'], isNumberChar c = true :=
        number_chars_cons _ _ rfl (number_chars_cons _ _ rfl (List.forall_mem_singleton.mpr rfl))
      refine ⟨⟨⟨chars, .inl ⟨'0', ['.', '0'], rfl, rfl⟩⟩, '0', ['.', '0'], rfl, rfl⟩, ?_⟩
      exact read_pointed negative ['0'] ['0'] zero_digit (by decide) (.inl rfl) zero_digit (by decide)
  · obtain ⟨some', nearest, most⟩ := shortest_nearest false m e filled number
    have shape : (Real64.finite false m e).text.toList =
        decimalText (Nat.toDigits 10 (shortest m e).1) (shortest m e).2 := by
      simp [Real64.text, filled.ne']
    have written := written_to_digits (shortest m e).1 some'
    rw [shape]
    exact ⟨number_text_of_decimal _ _ written _, read_decimal_text written some' filled nearest most⟩

theorem number_text_of_float (x : Real64) (number : x.IsNumber) : NumberText x.text.toList := by
  match x, number with
  | .finite negative m e, number =>
      obtain ⟨⟨text, front⟩, -⟩ := unsigned_text m e number false
      rw [float_text]
      split
      · exact number_text_neg _ text front
      · exact text

theorem read_float (x : Real64) (number : x.IsNumber) : readNumber x.text.toList = some (.float x) := by
  match x, number with
  | .finite negative m e, number =>
      obtain ⟨⟨-, first, rest, shape, digit⟩, read⟩ := unsigned_text m e number negative
      rw [float_text]
      cases negative with
      | true => rw [if_pos rfl, read_number_neg, read]
      | false =>
          rw [if_neg (by decide), shape, read_number_unsigned first rest digit, ← shape, read]

end StubForge.Json
