import Mathlib.Data.Nat.Cast.Order.Field
import StubForge.Proofs.Digits
import StubForge.Proofs.Rounding

set_option autoImplicit false

/-!
Decimals and floating point numbers: which number a decimal is read as, and that the shortest decimal
of a number is read as that number.
-/

namespace StubForge.Real64

-- The numbers among the floating point values, in their one form.
def IsNumber : Real64 → Prop
  | .finite _ mantissa exponent =>
      mantissa < 2 ^ 53 ∧ -1074 ≤ exponent ∧ exponent ≤ 971 ∧ (2 ^ 52 ≤ mantissa ∨ exponent = -1074)
  | _ => False

/-! ### Reading decimals -/

def decimal (digits : ℕ) (power : ℤ) : ℚ := digits * 10 ^ power

theorem ten_power_of_nonneg (power : ℤ) (up : 0 ≤ power) : (10 : ℚ) ^ power = (tenTo power.toNat : ℕ) := by
  obtain ⟨k, rfl⟩ := Int.eq_ofNat_of_zero_le up
  rw [zpow_natCast, tenTo]
  simp

theorem ten_power_of_neg (power : ℤ) (down : power < 0) : (10 : ℚ) ^ power = 1 / (tenTo (-power).toNat : ℕ) := by
  rw [← ten_power_of_nonneg (-power) (by omega), zpow_neg, one_div, inv_inv]

-- All numbers lie well within the powers of ten that are looked at.
theorem powers_within : (2 : ℚ) ^ (1075 : ℤ) < 10 ^ (400 : ℤ) := by
  calc (2 : ℚ) ^ (1075 : ℤ) = (2 ^ (43 : ℤ)) ^ (25 : ℤ) := zpow_mul 2 43 25
    _ < (10 ^ (16 : ℤ)) ^ (25 : ℤ) := zpow_lt_zpow_left₀ (by norm_num) (by norm_num) (by norm_num)
    _ = 10 ^ (400 : ℤ) := (zpow_mul 10 16 25).symm

theorem decimal_too_large (digits : ℕ) (power : ℤ) (m : ℕ) (e : ℤ) (some' : 0 < digits) (large : 400 < power)
    (nearest : Nearest (decimal digits power) m e) : 971 < e := by
  by_contra small
  have below := lt_of_lt_of_le nearest.below (limit_mono e 971 (by omega))
  have least : (1 : ℚ) ≤ digits := by exact_mod_cast some'
  have power' : (10 : ℚ) ^ (400 : ℤ) ≤ 10 ^ power := zpow_le_zpow_right₀ (by norm_num) large.le
  have whole : (10 : ℚ) ^ power ≤ decimal digits power := by
    rw [decimal]
    exact le_mul_of_one_le_left (by positivity) least
  have beyond : limit * 2 ^ (971 : ℤ) < 2 ^ (1075 : ℤ) := by
    calc limit * 2 ^ (971 : ℤ) < 2 ^ (104 : ℤ) * 2 ^ (971 : ℤ) :=
          mul_lt_mul_of_pos_right (by norm_num [limit]) (by positivity)
      _ = 2 ^ (1075 : ℤ) := (zpow_add₀ two_ne_zero _ _).symm
  exact lt_irrefl _ ((below.trans beyond).trans (powers_within.trans_le (power'.trans whole)))

theorem decimal_too_small (digits : ℕ) (power : ℤ) (m : ℕ) (e : ℤ)
    (small : power < -400 - (Nat.toDigits 10 digits).length) (nearest : Nearest (decimal digits power) m e) :
    m = 0 := by
  by_contra some'
  have few : digits < 10 ^ (Nat.toDigits 10 digits).length :=
    (Nat.length_toDigits_le_iff (by decide) Nat.length_toDigits_pos).mp le_rfl
  generalize (Nat.toDigits 10 digits).length = count at *
  have above : decimal digits power ≤ (10 : ℚ) ^ (-400 : ℤ) := by
    calc decimal digits power ≤ (10 : ℚ) ^ (count : ℤ) * 10 ^ power := by
          rw [decimal, zpow_natCast]
          refine mul_le_mul_of_nonneg_right ?_ (by positivity)
          exact_mod_cast few.le
      _ = 10 ^ (count + power) := (zpow_add₀ (by norm_num) _ _).symm
      _ ≤ 10 ^ (-400 : ℤ) := zpow_le_zpow_right₀ (by norm_num) (by omega)
  have least : (1 : ℚ) ≤ m := by exact_mod_cast Nat.pos_of_ne_zero some'
  have lower := nearest.rounds.lower
  have power' : (2 : ℚ) ^ (-1074 : ℤ) ≤ 2 ^ e := zpow_le_zpow_right₀ one_le_two nearest.least
  have half : 1 / 2 * (2 : ℚ) ^ e ≤ decimal digits power := by
    rw [← le_div_iff₀ (by positivity)]
    linarith
  have beyond : (10 : ℚ) ^ (-400 : ℤ) < 1 / 2 * 2 ^ (-1074 : ℤ) := by
    calc (10 : ℚ) ^ (-400 : ℤ) < 2 ^ (-1075 : ℤ) := by
          rw [zpow_neg, zpow_neg]
          exact inv_strictAnti₀ (by positivity) powers_within
      _ = 1 / 2 * 2 ^ (-1074 : ℤ) := by
          rw [show (-1075 : ℤ) = -1 + -1074 by norm_num, zpow_add₀ two_ne_zero]
          norm_num
  have least' : 1 / 2 * (2 : ℚ) ^ (-1074 : ℤ) ≤ 1 / 2 * 2 ^ e := mul_le_mul_of_nonneg_left power' (by norm_num)
  exact lt_irrefl _ (beyond.trans_le (least'.trans (half.trans above)))

theorem of_decimal_iff (negative : Bool) (digits : ℕ) (power : ℤ) (m : ℕ) (e : ℤ) (some' : 0 < digits)
    (filled : 0 < m) :
    ofDecimal negative digits power = .finite negative m e ↔ Nearest (decimal digits power) m e ∧ e ≤ 971 := by
  rw [ofDecimal, if_neg some'.ne']
  split
  · rename_i large
    constructor
    · intro same
      cases same
    · rintro ⟨nearest, bound⟩
      have beyond := decimal_too_large digits power m e some' large nearest
      omega
  · split
    · rename_i small
      constructor
      · intro same
        cases same
        omega
      · rintro ⟨nearest, -⟩
        have zero := decimal_too_small digits power m e small nearest
        omega
    · have tens : ∀ k, 0 < tenTo k := fun k => Nat.pow_pos (by decide)
      split
      · rename_i up
        rw [of_quotient_iff negative _ 1 (Nat.mul_pos some' (tens _)) one_pos]
        have ratio : ((digits * tenTo power.toNat : ℕ) : ℚ) / (1 : ℕ) = decimal digits power := by
          rw [decimal, ten_power_of_nonneg power up]
          push_cast
          ring
        rw [ratio]
      · rename_i down
        rw [of_quotient_iff negative digits _ some' (tens _)]
        have ratio : (digits : ℚ) / (tenTo (-power).toNat : ℕ) = decimal digits power := by
          rw [decimal, ten_power_of_neg power (by omega)]
          ring
        rw [ratio]

/-! ### Finding the shortest decimal -/

theorem strip_zeros_value (fuel digits : ℕ) (power : ℤ) :
    decimal (stripZeros fuel digits power).1 (stripZeros fuel digits power).2 = decimal digits power := by
  induction fuel generalizing digits power with
  | zero => rfl
  | succ fuel ih =>
      rw [stripZeros]
      split
      · rename_i ends
        rw [ih]
        have zero : digits % 10 = 0 := by
          simp only [ne_eq, Bool.and_eq_true, decide_eq_true_eq] at ends
          exact ends.2
        have tenfold : (digits : ℚ) = 10 * (digits / 10 : ℕ) := by
          exact_mod_cast (by omega : digits = 10 * (digits / 10))
        rw [decimal, decimal, zpow_add_one₀ (by norm_num), tenfold]
        ring
      · rfl

theorem digit_count_bounds (n : ℕ) (some' : 0 < n) :
    10 ^ ((Nat.toDigits 10 n).length - 1) ≤ n ∧ n < 10 ^ (Nat.toDigits 10 n).length := by
  refine ⟨?_, (Nat.length_toDigits_le_iff (by decide) Nat.length_toDigits_pos).mp le_rfl⟩
  have present : 0 < (Nat.toDigits 10 n).length := Nat.length_toDigits_pos
  by_cases single : (Nat.toDigits 10 n).length = 1
  · rw [single]
    exact some'
  · by_contra fewer
    have short := (Nat.length_toDigits_le_iff (by decide) (by omega)).mpr (Nat.lt_of_not_le fewer)
    omega

-- The number whose shortest decimal is looked for.
theorem decimal_top_le (m : ℕ) (e : ℤ) (filled : 0 < m) : (10 : ℚ) ^ (decimalTop m e - 1) ≤ m * 2 ^ e := by
  have tens : ∀ n : ℕ, 0 < n → (10 : ℚ) ^ (((Nat.toDigits 10 n).length : ℤ) - 1) ≤ n := by
    intro n some'
    have present : 0 < (Nat.toDigits 10 n).length := Nat.length_toDigits_pos
    have low := (digit_count_bounds n some').1
    rw [show ((Nat.toDigits 10 n).length : ℤ) - 1 = ((Nat.toDigits 10 n).length - 1 : ℕ) by omega, zpow_natCast]
    exact_mod_cast low
  rw [decimalTop]
  simp only
  split
  · rename_i up
    have bound := tens (m * twoTo e.toNat) (Nat.mul_pos filled (Nat.pow_pos two_pos))
    rw [two_power_of_nonneg e up]
    exact_mod_cast bound
  · rename_i down
    have twos : 0 < twoTo (-e).toNat := Nat.pow_pos two_pos
    rw [two_power_of_neg e (by omega), mul_one_div]
    split
    · rename_i whole
      have bound := tens (m / twoTo (-e).toNat) (Nat.div_pos whole twos)
      exact bound.trans Nat.cast_div_le
    · have above := (digit_count_bounds (twoTo (-e).toNat / m) (Nat.div_pos (by omega) filled)).2
      rw [Nat.div_lt_iff_lt_mul filled] at above
      generalize (Nat.toDigits 10 (twoTo (-e).toNat / m)).length = count at above ⊢
      have wide : ((twoTo (-e).toNat : ℕ) : ℚ) ≤ 10 ^ count * m := by exact_mod_cast above.le
      rw [show (1 - (count : ℤ)) - 1 = -(count : ℤ) by ring, zpow_neg, zpow_natCast,
        inv_le_iff_one_le_mul₀ (by positivity), mul_comm, mul_div_assoc', one_le_div (by exact_mod_cast twos)]
      exact wide

theorem grid_floor_ratio (m : ℕ) (e power : ℤ) : ∃ num den : ℕ, 0 < den ∧
    (num : ℚ) / den = m * 2 ^ e / 10 ^ power ∧ (gridFloor m e power).1 = num / den := by
  have twos : ∀ k, 0 < twoTo k := fun k => Nat.pow_pos two_pos
  have tens : ∀ k, 0 < tenTo k := fun k => Nat.pow_pos (by decide)
  have scaled : ∃ num den : ℕ, 0 < den ∧ (num : ℚ) / den = m * 2 ^ e ∧
      (if 0 ≤ e then (m * twoTo e.toNat, 1) else (m, twoTo (-e).toNat)) = (num, den) := by
    split
    · rename_i up
      exact ⟨_, 1, one_pos, by rw [two_power_of_nonneg e up]; simp, rfl⟩
    · rename_i down
      exact ⟨_, _, twos _, by rw [two_power_of_neg e (by omega), mul_one_div], rfl⟩
  obtain ⟨num, den, positive, ratio, pair⟩ := scaled
  rw [gridFloor, pair, ← ratio]
  simp only
  split
  · rename_i up
    refine ⟨num, den * tenTo power.toNat, Nat.mul_pos positive (tens _), ?_, rfl⟩
    rw [ten_power_of_nonneg power up, div_div, Nat.cast_mul]
  · rename_i down
    refine ⟨num * tenTo (-power).toNat, den, positive, ?_, rfl⟩
    rw [ten_power_of_neg power (by omega), div_div_eq_mul_div, div_one, Nat.cast_mul]
    ring

theorem grid_floor_bounds (m : ℕ) (e power : ℤ) :
    ((gridFloor m e power).1 : ℚ) * 10 ^ power ≤ m * 2 ^ e ∧
      (m : ℚ) * 2 ^ e < ((gridFloor m e power).1 + 1) * 10 ^ power := by
  obtain ⟨num, den, positive, ratio, grid⟩ := grid_floor_ratio m e power
  have step : (0 : ℚ) < 10 ^ power := by positivity
  have filled : (0 : ℚ) < den := by exact_mod_cast positive
  rw [← le_div_iff₀ step, ← div_lt_iff₀ step, ← ratio, grid]
  refine ⟨Nat.cast_div_le, ?_⟩
  rw [div_lt_iff₀ filled]
  exact_mod_cast (Nat.lt_mul_div_succ num positive).trans_eq (Nat.mul_comm _ _)

theorem reads_back_iff (m : ℕ) (e : ℤ) (digits : ℕ) (power : ℤ) (filled : 0 < m) :
    readsBack m e digits power = true ↔ 0 < digits ∧ Nearest (decimal digits power) m e ∧ e ≤ 971 := by
  rw [readsBack, beq_iff_eq]
  constructor
  · intro reads
    have some' : 0 < digits := by
      by_contra none
      rw [ofDecimal, if_pos (by omega)] at reads
      cases reads
      omega
    exact ⟨some', (of_decimal_iff false digits power m e some' filled).mp reads⟩
  · rintro ⟨some', nearest⟩
    exact (of_decimal_iff false digits power m e some' filled).mpr nearest

-- On a fine enough grid, the point right above a number is read as the number.
theorem reads_back_above (negative : Bool) (m : ℕ) (e power : ℤ) (filled : 0 < m)
    (number : (finite negative m e).IsNumber) (fine : (10 : ℚ) ^ power * 4 ≤ 2 ^ e) :
    readsBack m e ((gridFloor m e power).1 + 1) power = true := by
  obtain ⟨bound, least, most, full⟩ := number
  rw [reads_back_iff m e _ power filled]
  refine ⟨Nat.succ_pos _, ?_, most⟩
  obtain ⟨low, high⟩ := grid_floor_bounds m e power
  have unit : (0 : ℚ) < 2 ^ e := by positivity
  have point : decimal ((gridFloor m e power).1 + 1) power = ((gridFloor m e power).1 + 1) * 10 ^ power := by
    rw [decimal]
    push_cast
    rfl
  rw [← point] at high
  have close : decimal ((gridFloor m e power).1 + 1) power ≤ (m + 1 / 4) * 2 ^ e := by
    rw [point]
    linarith
  generalize decimal ((gridFloor m e power).1 + 1) power = y at *
  have fits : (m : ℚ) + 1 ≤ 2 ^ 53 := by exact_mod_cast bound
  refine ⟨least, rounds_to_near _ _ ?_ ?_, ?_, ?_⟩
  · rw [lt_div_iff₀ unit]
    linarith
  · rw [div_lt_iff₀ unit]
    linarith
  · refine close.trans_lt (mul_lt_mul_of_pos_right ?_ unit)
    rw [limit]
    linarith
  · rcases full with full | lowest
    · right
      have wide : (2 : ℚ) ^ 52 ≤ m := by exact_mod_cast full
      have half : (2 : ℚ) ^ (e - 1) = 2 ^ e / 2 := zpow_sub_one₀ two_ne_zero e
      have below : limit / 2 * 2 ^ e ≤ m * 2 ^ e := by
        refine mul_le_mul_of_nonneg_right ?_ unit.le
        rw [limit]
        linarith
      rw [half]
      linarith
    · exact .inl lowest

theorem shortest_from_reads_back (m : ℕ) (e top : ℤ) (fuel count k : ℕ) (least : count ≤ k)
    (most : k < count + fuel)
    (found : readsBack m e ((gridFloor m e (top - k)).1 + 1) (top - k) = true) :
    readsBack m e (shortestFrom m e top fuel count).1 (shortestFrom m e top fuel count).2 = true := by
  induction fuel generalizing count with
  | zero => omega
  | succ fuel ih =>
      rw [shortestFrom]
      generalize grid : gridFloor m e (top - count) = pair
      obtain ⟨low, nearer⟩ := pair
      simp only
      -- The point right above the number is one of the two that are tried.
      have tried : (if nearer = true then low + 1 else low) = low + 1 ∨
          (if nearer = true then low else low + 1) = low + 1 := by
        cases nearer <;> simp
      generalize (if nearer = true then low + 1 else low) = first at *
      generalize (if nearer = true then low else low + 1) = second at *
      by_cases readsFirst : readsBack m e first (top - count) = true
      · rw [if_pos readsFirst]
        exact readsFirst
      · rw [if_neg readsFirst]
        by_cases readsSecond : readsBack m e second (top - count) = true
        · rw [if_pos readsSecond]
          exact readsSecond
        · rw [if_neg readsSecond]
          refine ih (count + 1) ?_ (by omega)
          by_contra last
          have here : k = count := by omega
          rw [here, grid] at found
          rcases tried with same | same
          · exact readsFirst (same ▸ found)
          · exact readsSecond (same ▸ found)

theorem shortest_nearest (negative : Bool) (m : ℕ) (e : ℤ) (filled : 0 < m)
    (number : (finite negative m e).IsNumber) :
    0 < (shortest m e).1 ∧ Nearest (decimal (shortest m e).1 (shortest m e).2) m e ∧ e ≤ 971 := by
  have fine : (10 : ℚ) ^ (decimalTop m e + 1 - (20 : ℕ)) * 4 ≤ 2 ^ e := by
    have top := decimal_top_le m e filled
    have bound : (m : ℚ) ≤ 2 ^ 53 := by exact_mod_cast number.1.le
    have unit : (0 : ℚ) < 2 ^ e := by positivity
    have whole : (m : ℚ) * 2 ^ e ≤ 2 ^ 53 * 2 ^ e := mul_le_mul_of_nonneg_right bound unit.le
    have split : (10 : ℚ) ^ (decimalTop m e + 1 - (20 : ℕ)) = 10 ^ (decimalTop m e - 1) / 10 ^ 18 := by
      rw [show decimalTop m e + 1 - (20 : ℕ) = decimalTop m e - 1 - (18 : ℕ) by push_cast; ring,
        zpow_sub₀ (by norm_num),
        zpow_natCast]
    rw [split, div_mul_eq_mul_div, div_le_iff₀ (by positivity)]
    linarith
  have found := shortest_from_reads_back m e (decimalTop m e + 1) 20 1 20 (by decide) (by decide)
    (reads_back_above negative m e _ filled number fine)
  rw [shortest]
  generalize shortestFrom m e (decimalTop m e + 1) 20 1 = pair at *
  obtain ⟨digits, power⟩ := pair
  rw [reads_back_iff m e _ _ filled] at found
  obtain ⟨some', nearest, most⟩ := found
  have value := strip_zeros_value 20 digits power
  have positive : 0 < decimal digits power := by
    rw [decimal]
    have cast : (0 : ℚ) < digits := by exact_mod_cast some'
    positivity
  refine ⟨?_, value ▸ nearest, most⟩
  by_contra none
  rw [← value, decimal, Nat.eq_zero_of_not_pos none] at positive
  simp at positive

end StubForge.Real64
