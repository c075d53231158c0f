import Mathlib.Algebra.Order.Field.Power
import Mathlib.Algebra.Order.Field.Rat
import Mathlib.Data.Int.LeastGreatest
import Mathlib.Data.Rat.Cast.Order
import Mathlib.Tactic.FieldSimp
import Mathlib.Tactic.Linarith
import Mathlib.Tactic.NormNum
import Mathlib.Tactic.Positivity
import Mathlib.Tactic.Ring
import StubForge.Number

set_option autoImplicit false

/-!
Rounding quotients to floating point numbers: what comes out depends on the rational number alone,
and says which numbers are rounded to it.
-/

namespace StubForge.Real64

/-! ### Rounding to an integer -/

-- The nearest integer of a number, from the middle between two of them the even one.
structure RoundsTo (x : ℚ) (r : ℕ) : Prop where
  lower : r - 1 / 2 ≤ x
  upper : x ≤ r + 1 / 2
  even : x = r - 1 / 2 ∨ x = r + 1 / 2 → r % 2 = 0

theorem rounds_to_mono (x y : ℚ) (r s : ℕ) (le : x ≤ y) (first : RoundsTo x r) (second : RoundsTo y s) : r ≤ s := by
  by_contra less
  have apart : (s : ℚ) + 1 ≤ r := by exact_mod_cast Nat.lt_of_not_le less
  have lower := first.lower
  have upper := second.upper
  -- Both are rounded from the middle between them, and one of the two is odd.
  have next : (r : ℚ) = s + 1 := by linarith
  have evenFirst := first.even (.inl (by linarith))
  have evenSecond := second.even (.inr (by linarith))
  have step : r = s + 1 := by exact_mod_cast next
  omega

theorem rounds_to_unique (x : ℚ) (r s : ℕ) (first : RoundsTo x r) (second : RoundsTo x s) : r = s :=
  Nat.le_antisymm (rounds_to_mono x x r s le_rfl first second) (rounds_to_mono x x s r le_rfl second first)

theorem rounds_to_near (x : ℚ) (r : ℕ) (lower : r - 1 / 2 < x) (upper : x < r + 1 / 2) : RoundsTo x r := by
  refine ⟨lower.le, upper.le, ?_⟩
  rintro (low | high) <;> linarith

theorem round_quotient_rounds (num den : ℕ) (positive : 0 < den) :
    RoundsTo ((num : ℚ) / den) (roundQuotient num den) := by
  have bound := Nat.mod_lt num positive
  have split : (num : ℚ) / den = (num / den : ℕ) + (num % den : ℕ) / den := by
    have whole : (num : ℚ) = den * (num / den : ℕ) + (num % den : ℕ) := by
      exact_mod_cast (Nat.div_add_mod num den).symm
    field_simp
    linarith
  rw [roundQuotient, split]
  generalize num / den = q at *
  generalize num % den = r at *
  have filled : (0 : ℚ) < den := by exact_mod_cast positive
  have part : (0 : ℚ) ≤ (r : ℚ) / den := by positivity
  split
  · rename_i small
    have less : (r : ℚ) / den < 1 / 2 := by
      rw [div_lt_div_iff₀ filled two_pos]
      exact_mod_cast (by omega : r * 2 < 1 * den)
    exact rounds_to_near _ _ (by linarith) (by linarith)
  · split
    · rename_i large
      have more : 1 / 2 < (r : ℚ) / den := by
        rw [div_lt_div_iff₀ two_pos filled]
        exact_mod_cast (by omega : 1 * den < r * 2)
      have less : (r : ℚ) / den < 1 := by
        rw [div_lt_one filled]
        exact_mod_cast bound
      refine rounds_to_near _ _ ?_ ?_
      all_goals
        push_cast
        linarith
    · rename_i notSmall notLarge
      have middle : (r : ℚ) / den = 1 / 2 := by
        rw [div_eq_div_iff filled.ne' two_ne_zero]
        exact_mod_cast (by omega : r * 2 = 1 * den)
      split
      · rename_i even
        exact ⟨by linarith, by linarith, fun _ => even⟩
      · rename_i odd
        refine ⟨?_, ?_, fun _ => by omega⟩
        all_goals
          push_cast
          linarith

/-! ### The number nearest to a quotient -/

theorem two_power_of_nonneg (e : ℤ) (up : 0 ≤ e) : (2 : ℚ) ^ e = (twoTo e.toNat : ℕ) := by
  obtain ⟨k, rfl⟩ := Int.eq_ofNat_of_zero_le up
  rw [zpow_natCast, twoTo]
  simp

theorem two_power_of_neg (e : ℤ) (down : e < 0) : (2 : ℚ) ^ e = 1 / (twoTo (-e).toNat : ℕ) := by
  rw [← two_power_of_nonneg (-e) (by omega), zpow_neg, one_div, inv_inv]

-- From here on, numbers are rounded to an integer of more than 53 bits.
def limit : ℚ := 2 ^ 53 - 1 / 2

theorem below_limit_iff (x : ℚ) (r : ℕ) (rounds : RoundsTo x r) : r < 2 ^ 53 ↔ x < limit := by
  have lower := rounds.lower
  have upper := rounds.upper
  rw [limit]
  constructor
  · intro small
    have le : (r : ℚ) + 1 ≤ 2 ^ 53 := by exact_mod_cast small
    refine lt_of_le_of_ne (by linarith) ?_
    intro same
    -- The middle below the limit is rounded up, to the even side.
    have last : (r : ℚ) + 1 = 2 ^ 53 := by linarith
    have even := rounds.even (.inr (by linarith))
    have step : r + 1 = 2 ^ 53 := by exact_mod_cast last
    omega
  · intro below
    by_contra large
    have le : (2 : ℚ) ^ 53 ≤ r := by exact_mod_cast Nat.le_of_not_lt large
    linarith

-- A finite number is the one that a rational number is rounded to: its exponent is the least one that leaves room
-- for the mantissa.
structure Nearest (x : ℚ) (mantissa : ℕ) (exponent : ℤ) : Prop where
  least : -1074 ≤ exponent
  rounds : RoundsTo (x / 2 ^ exponent) mantissa
  below : x < limit * 2 ^ exponent
  full : exponent = -1074 ∨ limit * 2 ^ (exponent - 1) ≤ x

theorem limit_mono (a b : ℤ) (le : a ≤ b) : limit * 2 ^ a ≤ limit * 2 ^ b := by
  have filled : 0 ≤ limit := by norm_num [limit]
  exact mul_le_mul_of_nonneg_left (zpow_le_zpow_right₀ one_le_two le) filled

theorem exponent_le (x : ℚ) (m : ℕ) (e other : ℤ) (nearest : Nearest x m e) (least : -1074 ≤ other)
    (below : x < limit * 2 ^ other) : e ≤ other := by
  by_contra greater
  rcases nearest.full with lowest | full
  · omega
  · have mono := limit_mono other (e - 1) (by omega)
    linarith

theorem nearest_unique (x : ℚ) (m n : ℕ) (e f : ℤ) (first : Nearest x m e) (second : Nearest x n f) :
    m = n ∧ e = f := by
  have same : e = f := le_antisymm (exponent_le x m e f first second.least second.below)
    (exponent_le x n f e second first.least first.below)
  subst same
  exact ⟨rounds_to_unique _ _ _ first.rounds second.rounds, rfl⟩

theorem nearest_bound (x : ℚ) (m : ℕ) (e : ℤ) (nearest : Nearest x m e) : m < 2 ^ 53 := by
  rw [below_limit_iff _ _ nearest.rounds, div_lt_iff₀ (by positivity)]
  exact nearest.below

theorem scale_ratio (num den : ℕ) (positive : 0 < den) (e : ℤ) :
    0 < (scale num den e).2 ∧
      ((scale num den e).1 : ℚ) / (scale num den e).2 = (num : ℚ) / den / 2 ^ e := by
  have filled : (den : ℚ) ≠ 0 := by exact_mod_cast positive.ne'
  rw [scale]
  split
  · rename_i up
    have twos : 0 < twoTo e.toNat := Nat.pow_pos two_pos
    refine ⟨Nat.mul_pos positive twos, ?_⟩
    rw [two_power_of_nonneg e up, div_div, Nat.cast_mul]
  · rename_i down
    refine ⟨positive, ?_⟩
    rw [two_power_of_neg e (by omega), div_div_eq_mul_div, div_one, Nat.cast_mul]
    ring

theorem guess_bounds (num den : ℕ) (some' : 0 < num) (positive : 0 < den) :
    limit * 2 ^ ((num.log2 : ℤ) - den.log2 - 53 - 1) ≤ (num : ℚ) / den ∧
      (num : ℚ) / den < limit * 2 ^ ((num.log2 : ℤ) - den.log2 - 53 + 2) := by
  have numLow : (2 : ℚ) ^ (num.log2 : ℤ) ≤ num := by
    rw [zpow_natCast]
    exact_mod_cast Nat.log2_self_le some'.ne'
  have numHigh : (num : ℚ) < 2 ^ (num.log2 : ℤ) * 2 := by
    rw [zpow_natCast, ← pow_succ]
    exact_mod_cast Nat.lt_log2_self
  have denLow : (2 : ℚ) ^ (den.log2 : ℤ) ≤ den := by
    rw [zpow_natCast]
    exact_mod_cast Nat.log2_self_le positive.ne'
  have denHigh : (den : ℚ) < 2 ^ (den.log2 : ℤ) * 2 := by
    rw [zpow_natCast, ← pow_succ]
    exact_mod_cast Nat.lt_log2_self
  have filled : (0 : ℚ) < den := by exact_mod_cast positive
  have lowPower : (2 : ℚ) ^ ((num.log2 : ℤ) - den.log2 - 53 - 1) =
      2 ^ (num.log2 : ℤ) / (2 ^ (den.log2 : ℤ) * 2 ^ 54) := by
    rw [sub_sub, sub_sub, zpow_sub₀ two_ne_zero, zpow_add₀ two_ne_zero]
    norm_num
  have highPower : (2 : ℚ) ^ ((num.log2 : ℤ) - den.log2 - 53 + 2) =
      2 ^ (num.log2 : ℤ) / (2 ^ (den.log2 : ℤ) * 2 ^ 51) := by
    rw [show (num.log2 : ℤ) - den.log2 - 53 + 2 = num.log2 - (den.log2 + 51) by ring, zpow_sub₀ two_ne_zero,
      zpow_add₀ two_ne_zero]
    norm_num
  rw [lowPower, highPower]
  have aFilled : (0 : ℚ) < 2 ^ (num.log2 : ℤ) := by positivity
  have bFilled : (0 : ℚ) < 2 ^ (den.log2 : ℤ) := by positivity
  generalize (2 : ℚ) ^ (num.log2 : ℤ) = a at *
  generalize (2 : ℚ) ^ (den.log2 : ℤ) = b at *
  constructor
  · calc limit * (a / (b * 2 ^ 54)) ≤ 2 ^ 53 * (a / (b * 2 ^ 54)) := by
          refine mul_le_mul_of_nonneg_right ?_ (by positivity)
          norm_num [limit]
      _ = a / (b * 2) := by
          field_simp
      _ ≤ num / den := div_le_div₀ (by positivity) numLow filled denHigh.le
  · calc (num : ℚ) / den < a * 2 / b := div_lt_div₀ numHigh denLow (by positivity) bFilled
      _ = 2 ^ 52 * (a / (b * 2 ^ 51)) := by
          field_simp
      _ ≤ limit * (a / (b * 2 ^ 51)) := by
          refine mul_le_mul_of_nonneg_right ?_ (by positivity)
          norm_num [limit]

theorem exists_nearest (num den : ℕ) (some' : 0 < num) (positive : 0 < den) :
    ∃ m e, Nearest ((num : ℚ) / den) m e ∧
      ((num.log2 : ℤ) - den.log2 - 53 ≤ e) ∧ (e ≤ -1074 ∨ e ≤ (num.log2 : ℤ) - den.log2 - 53 + 2) := by
  obtain ⟨low, high⟩ := guess_bounds num den some' positive
  generalize (num.log2 : ℤ) - den.log2 - 53 = guess at *
  obtain ⟨e, ⟨least, below⟩, first⟩ := Int.exists_least_of_bdd
    (P := fun e => -1074 ≤ e ∧ (num : ℚ) / den < limit * 2 ^ e) ⟨-1074, fun e holds => holds.1⟩
    ⟨max (-1074) (guess + 2), le_max_left _ _, lt_of_lt_of_le high (limit_mono _ _ (le_max_right _ _))⟩
  obtain ⟨filled, ratio⟩ := scale_ratio num den positive e
  refine ⟨_, e, ⟨least, ratio ▸ round_quotient_rounds _ _ filled, below, ?_⟩, ?_, ?_⟩
  · by_contra neither
    obtain ⟨notLeast, notFull⟩ := not_or.mp neither
    have earlier := first (e - 1) ⟨by omega, lt_of_not_ge notFull⟩
    omega
  · by_contra less
    have mono := limit_mono e (guess - 1) (by omega)
    linarith
  · by_contra neither
    obtain ⟨notLeast, notFew⟩ := not_or.mp neither
    have earlier := first (max (-1074) (guess + 2))
      ⟨le_max_left _ _, lt_of_lt_of_le high (limit_mono _ _ (le_max_right _ _))⟩
    omega


theorem build_eq (negative : Bool) (e : ℤ) (m : ℕ) (bound : m < 2 ^ 53) :
    ofQuotient.build negative e m = if 971 < e then .infinite negative else .finite negative m e := by
  have fits : m ≠ twoTo 53 := bound.ne
  simp [ofQuotient.build, fits]

theorem of_quotient_eq (negative : Bool) (num den : ℕ) (some' : 0 < num) (positive : 0 < den) (m : ℕ) (e : ℤ)
    (nearest : Nearest ((num : ℚ) / den) m e) :
    ofQuotient negative num den = if 971 < e then .infinite negative else .finite negative m e := by
  obtain ⟨lowest, highest⟩ : (num.log2 : ℤ) - den.log2 - 53 ≤ e ∧
      (e ≤ -1074 ∨ e ≤ (num.log2 : ℤ) - den.log2 - 53 + 2) := by
    obtain ⟨other, f, found, bounds⟩ := exists_nearest num den some' positive
    obtain ⟨-, rfl⟩ := nearest_unique _ _ _ _ _ nearest found
    exact bounds
  have least := nearest.least
  have rounds : ∀ f, RoundsTo ((num : ℚ) / den / 2 ^ f) (roundQuotient (scale num den f).1 (scale num den f).2) := by
    intro f
    obtain ⟨filled, ratio⟩ := scale_ratio num den positive f
    exact ratio ▸ round_quotient_rounds _ _ filled
  -- No exponent before the right one leaves room for the mantissa.
  have settled : ∀ f, -1074 ≤ f → f ≤ e →
      roundQuotient (scale num den f).1 (scale num den f).2 < 2 ^ 53 → f = e := by
    intro f from' upTo small
    rw [below_limit_iff _ _ (rounds f), div_lt_iff₀ (by positivity)] at small
    exact le_antisymm upTo (exponent_le _ m e f nearest from' small)
  have attempt : roundQuotient (scale num den e).1 (scale num den e).2 = m :=
    rounds_to_unique _ _ _ (rounds e) nearest.rounds
  have room : roundQuotient (scale num den e).1 (scale num den e).2 < 2 ^ 53 :=
    attempt ▸ nearest_bound _ m e nearest
  have reached : ofQuotient.build negative e (roundQuotient (scale num den e).1 (scale num den e).2) =
      if 971 < e then .infinite negative else .finite negative m e :=
    attempt ▸ build_eq negative e _ room
  have bounded : ∀ f : ℤ, (if f < -1074 then (-1074 : ℤ) else f) = max (-1074) f := by
    intro f
    rw [max_def]
    split_ifs <;> omega
  rw [ofQuotient, if_neg some'.ne']
  simp only [bounded, show twoTo 53 = 2 ^ 53 from rfl]
  generalize (num.log2 : ℤ) - den.log2 - 53 = guess at *
  by_cases first : roundQuotient (scale num den (max (-1074) guess)).1 (scale num den (max (-1074) guess)).2 < 2 ^ 53
  · rw [if_pos first, settled _ (le_max_left _ _) (by omega) first]
    exact reached
  · rw [if_neg first]
    have later : max (-1074) guess < e := lt_of_le_of_ne (by omega) fun same => first (same ▸ room)
    by_cases second :
        roundQuotient (scale num den (max (-1074) (guess + 1))).1 (scale num den (max (-1074) (guess + 1))).2 < 2 ^ 53
    · rw [if_pos second, settled _ (le_max_left _ _) (by omega) second]
      exact reached
    · rw [if_neg second]
      have last : max (-1074) (guess + 1) < e := lt_of_le_of_ne (by omega) fun same => second (same ▸ room)
      rw [show max (-1074) (guess + 2) = e by omega]
      exact reached

theorem of_quotient_iff (negative : Bool) (num den : ℕ) (some' : 0 < num) (positive : 0 < den) (m : ℕ) (e : ℤ) :
    ofQuotient negative num den = .finite negative m e ↔ Nearest ((num : ℚ) / den) m e ∧ e ≤ 971 := by
  obtain ⟨n, f, nearest, -⟩ := exists_nearest num den some' positive
  rw [of_quotient_eq negative num den some' positive n f nearest]
  constructor
  · intro same
    split at same
    · cases same
    · rename_i small
      cases same
      exact ⟨nearest, by omega⟩
  · rintro ⟨other, small⟩
    obtain ⟨rfl, rfl⟩ := nearest_unique _ _ _ _ _ nearest other
    rw [if_neg (by omega)]

end StubForge.Real64
