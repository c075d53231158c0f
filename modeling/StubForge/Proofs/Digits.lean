import Mathlib.Algebra.Group.Nat.Defs
import StubForge.Text.Integer

set_option autoImplicit false

/-!
Decimal digits: what a run of digits counts, and that writing a number and counting its digits are
inverse to each other.
-/

namespace StubForge.Text

-- The number that a run of decimal digits stands for.
def countOf (digits : List Char) : Nat := ofDigits 10 (digits.map fun c => c.toNat - 48)

theorem count_of_eq (digits : List Char) : countOf digits = Nat.ofDigitChars 10 digits 0 := by
  rw [countOf, ofDigits, List.foldl_map, Nat.ofDigitChars]
  congr 1
  funext total c
  rw [Nat.mul_comm]
  rfl

theorem count_of_to_digits (n : Nat) : countOf (Nat.toDigits 10 n) = n := by
  rw [count_of_eq, Nat.ofDigitChars_ten_toDigits]

theorem count_of_append (before after : List Char) :
    countOf (before ++ after) = countOf before * 10 ^ after.length + countOf after := by
  rw [count_of_eq, count_of_eq, count_of_eq, Nat.ofDigitChars_append, Nat.ofDigitChars_eq_ofDigitChars_zero,
    Nat.mul_comm]

theorem count_of_zeros (n : Nat) : countOf (List.replicate n '0') = 0 := by
  rw [count_of_eq, Nat.ofDigitChars_replicate_zero, Nat.mul_zero]

theorem digits_of_to_digits (n : Nat) : ∀ c ∈ Nat.toDigits 10 n, c.isDigit = true := by
  intro c member
  exact Nat.isDigit_of_mem_toDigits (by decide) (by decide) member

-- A number that is not zero starts with another digit than zero.
theorem head_of_to_digits (n : Nat) (positive : 0 < n) :
    ∃ first rest, Nat.toDigits 10 n = first :: rest ∧ first.isDigit = true ∧ first ≠ '0' := by
  induction n using Nat.strongRecOn with
  | ind n ih =>
      by_cases small : n < 10
      · refine ⟨n.digitChar, [], Nat.toDigits_of_lt_base small, ?_, ?_⟩
        · exact digits_of_to_digits n _ (by simp [Nat.toDigits_of_lt_base small])
        · intro zero
          have value := Nat.toNat_digitChar_sub_48_of_lt_ten small
          rw [zero] at value
          simp at value
          omega
      · obtain ⟨first, rest, shape, digit, filled⟩ := ih (n / 10) (by omega) (by omega)
        refine ⟨first, rest ++ [Nat.digitChar (n % 10)], ?_, digit, filled⟩
        rw [Nat.toDigits_of_base_le (by decide) (by omega), shape]
        rfl

-- A run of accepted characters ends where the first other one stands.
theorem take_run (accepts : Char → Bool) (run rest : List Char) (all : ∀ c ∈ run, accepts c = true)
    (ends : ∀ c ∈ rest.head?, accepts c = false) :
    (run ++ rest).takeWhile accepts = run ∧ (run ++ rest).dropWhile accepts = rest := by
  induction run with
  | nil =>
      cases rest with
      | nil => exact ⟨rfl, rfl⟩
      | cons c more =>
          have stop : accepts c = false := ends c rfl
          simp [stop]
  | cons c more ih =>
      obtain ⟨taken, dropped⟩ := ih fun d member => all d (List.mem_cons_of_mem c member)
      have accepted := all c List.mem_cons_self
      simp [accepted, taken, dropped]

end StubForge.Text
