import Mathlib.Algebra.Order.Field.Power
import Mathlib.Data.Real.Basic
import Mathlib.Tactic.FieldSimp
import Mathlib.Tactic.Linarith
import Mathlib.Tactic.Positivity
import Mathlib.Tactic.Ring

/-!
# Rounding to 24 binary digits

A number is rounded to 24 binary digits at the place of its own size, to the nearest one, and to an
even last digit if it lies in the middle.  Whether the rounded number reaches a bound depends on
which side of the middle below that bound the number lies; this is the only thing the uses of
rounding need to know, and nothing has to be known about how the digits are found.
-/

namespace HitMonitor

/-- A whole number is nearest to a number, and even if another one is just as near. -/
structure NearestEven (number : ℝ) (whole : ℕ) : Prop where
  above : (whole : ℝ) - 1 / 2 ≤ number
  below : number ≤ whole + 1 / 2
  even : number = whole - 1 / 2 ∨ number = whole + 1 / 2 → whole % 2 = 0

namespace NearestEven

variable {number : ℝ} {whole bound : ℕ}

/-- An even bound is reached from the middle below it on, and an odd one only behind it. -/
theorem le_iff (nearest : NearestEven number whole) :
    bound ≤ whole ↔
      if bound % 2 = 0 then (bound : ℝ) - 1 / 2 ≤ number else (bound : ℝ) - 1 / 2 < number := by
  constructor
  · intro reached
    have bound_le : (bound : ℝ) ≤ whole := by exact_mod_cast reached
    have above := nearest.above
    split
    next => linarith
    next odd =>
      apply lt_of_le_of_ne (by linarith)
      intro middle
      have same : bound = whole := by
        apply le_antisymm reached
        have whole_le : (whole : ℝ) ≤ bound := by linarith
        exact_mod_cast whole_le
      subst same
      exact odd (nearest.even (.inl middle.symm))
  · intro reaches
    by_contra missed
    have whole_le : (whole : ℝ) + 1 ≤ bound := by exact_mod_cast Nat.lt_of_not_le missed
    have below := nearest.below
    split at reaches
    next even =>
      have same : bound = whole + 1 := by
        apply le_antisymm _ (Nat.lt_of_not_le missed)
        have bound_le : (bound : ℝ) ≤ whole + 1 := by linarith
        exact_mod_cast bound_le
      have middle : number = whole + 1 / 2 := by
        have cast : (bound : ℝ) = whole + 1 := by exact_mod_cast same
        linarith
      have whole_even := nearest.even (.inr middle)
      omega
    next => linarith

/-- A larger number has no smaller whole number nearest to it. -/
theorem mono {other : ℝ} {next : ℕ} (nearest : NearestEven number whole)
    (nearest' : NearestEven other next) (number_le : number ≤ other) : whole ≤ next := by
  have above := nearest.above
  rw [nearest'.le_iff]
  split
  next => linarith
  next odd =>
    apply lt_of_le_of_ne (by linarith)
    intro middle
    exact odd (nearest.even (.inl (by linarith)))

end NearestEven

/-! ## Digits at a place -/

/-- A place further left is worth at least twice as much. -/
theorem two_mul_place_le {place other : ℤ} (lower : place < other) :
    2 * (2 : ℝ) ^ place ≤ 2 ^ other := by
  rw [mul_comm, ← zpow_add_one₀ two_ne_zero]
  exact zpow_le_zpow_right₀ one_le_two lower

/-- A number that is written with exactly 24 binary digits. -/
inductive HasDigits : ℝ → Prop where
  | intro {digits : ℕ} (place : ℤ) :
      2 ^ 23 ≤ digits → digits < 2 ^ 24 → HasDigits (digits * 2 ^ place)

theorem HasDigits.pos {number : ℝ} (has : HasDigits number) : 0 < number := by
  obtain @⟨digits, place, digits_ge, -⟩ := has
  have digits_pos : (0 : ℝ) < digits := by
    exact_mod_cast lt_of_lt_of_le (by decide : 0 < 2 ^ 23) digits_ge
  positivity

/-- Between two neighbours with 24 digits there is no other number with 24 digits. -/
theorem HasDigits.gap {number : ℝ} (has : HasDigits number) {digits : ℕ} (place : ℤ)
    (digits_gt : 2 ^ 23 < digits) :
    number ≤ (digits - 1) * 2 ^ place ∨ digits * 2 ^ place ≤ number := by
  obtain @⟨own, ownPlace, own_ge, own_lt⟩ := has
  have positive : (0 : ℝ) < 2 ^ place := by positivity
  have digits_ge : (2 : ℝ) ^ 23 + 1 ≤ digits := by exact_mod_cast digits_gt
  by_cases lower : ownPlace < place
  · left
    have doubled := two_mul_place_le lower
    have own_le : (own : ℝ) ≤ 2 ^ 24 := by exact_mod_cast own_lt.le
    calc (own : ℝ) * 2 ^ ownPlace
        ≤ 2 ^ 24 * 2 ^ ownPlace := by gcongr
      _ = 2 ^ 23 * (2 * 2 ^ ownPlace) := by ring
      _ ≤ (digits - 1) * 2 ^ place :=
          mul_le_mul (by linarith) doubled (by positivity) (by linarith)
  · obtain ⟨shift, rfl⟩ := Int.le.dest (not_lt.mp lower)
    have multiple : (own : ℝ) * 2 ^ (place + shift) = (own * 2 ^ shift : ℕ) * 2 ^ place := by
      rw [zpow_add₀ two_ne_zero, zpow_natCast]
      push_cast
      ring
    rw [multiple]
    rcases Nat.lt_or_ge (own * 2 ^ shift) digits with less | more
    · left
      have at_most : ((own * 2 ^ shift : ℕ) : ℝ) ≤ digits - 1 := by
        have cast : ((own * 2 ^ shift : ℕ) : ℝ) + 1 ≤ digits := by exact_mod_cast less
        linarith
      gcongr
    · right
      have at_least : (digits : ℝ) ≤ (own * 2 ^ shift : ℕ) := by exact_mod_cast more
      gcongr

/-- Fewer digits are filled up with zeros. -/
theorem HasDigits.of_digits {digits : ℕ} (place : ℤ) (digits_pos : 0 < digits)
    (digits_lt : digits < 2 ^ 24) : HasDigits (digits * 2 ^ place) := by
  obtain ⟨leading_le, lt_leading⟩ := (Nat.log2_eq_iff digits_pos.ne').mp rfl
  have log2_le : digits.log2 ≤ 23 :=
    Nat.lt_succ_iff.mp ((Nat.log2_lt digits_pos.ne').mpr digits_lt)
  obtain ⟨missing, missing_eq⟩ := Nat.exists_eq_add_of_le' log2_le
  have widened : (digits : ℝ) * 2 ^ place =
      (digits * 2 ^ missing : ℕ) * 2 ^ (place - missing) := by
    rw [zpow_sub₀ two_ne_zero, zpow_natCast]
    push_cast
    field_simp
  rw [widened]
  apply HasDigits.intro
  · rw [missing_eq, pow_add, mul_comm]
    exact Nat.mul_le_mul_right _ leading_le
  · calc digits * 2 ^ missing < 2 ^ (digits.log2 + 1) * 2 ^ missing :=
          Nat.mul_lt_mul_of_pos_right lt_leading (by positivity)
      _ = 2 ^ 24 := by rw [← pow_add]; congr 1; omega

theorem HasDigits.of_pow (exponent : ℤ) : HasDigits (2 ^ exponent) := by
  simpa using HasDigits.of_digits exponent one_pos (by decide)

theorem HasDigits.one : HasDigits 1 := by
  simpa using HasDigits.of_pow 0

theorem HasDigits.of_nat {number : ℕ} (number_pos : 0 < number) (number_lt : number < 2 ^ 24) :
    HasDigits number := by
  simpa using HasDigits.of_digits 0 number_pos number_lt

/-- The number on the right has 24 digits, or one more that is zero, and is nearest to the number on
the left among those at the same place. -/
inductive RoundsTo (number : ℝ) : ℝ → Prop where
  | intro {digits : ℕ} (place : ℤ) :
      2 ^ 23 * 2 ^ place ≤ number → number < 2 ^ 24 * 2 ^ place →
      NearestEven (number / 2 ^ place) digits → RoundsTo number (digits * 2 ^ place)

namespace RoundsTo

variable {number rounded bound : ℝ} {digits : ℕ} {place : ℤ}

/-- The rounded digits lie between the smallest and the largest ones, or overflow by one. -/
theorem digits_bounds (low : 2 ^ 23 * 2 ^ place ≤ number) (high : number < 2 ^ 24 * 2 ^ place)
    (nearest : NearestEven (number / 2 ^ place) digits) : 2 ^ 23 ≤ digits ∧ digits ≤ 2 ^ 24 := by
  have positive : (0 : ℝ) < 2 ^ place := by positivity
  have above := nearest.above
  have below := nearest.below
  rw [← le_div_iff₀ positive] at low
  rw [← div_lt_iff₀ positive] at high
  constructor
  · apply Nat.lt_succ_iff.mp
    have below_succ : (2 : ℝ) ^ 23 < digits + 1 := by linarith
    exact_mod_cast below_succ
  · apply Nat.lt_succ_iff.mp
    have below_succ : (digits : ℝ) < 2 ^ 24 + 1 := by linarith
    exact_mod_cast below_succ

theorem hasDigits (rounds : RoundsTo number rounded) : HasDigits rounded := by
  obtain @⟨digits, place, low, high, nearest⟩ := rounds
  obtain ⟨digits_ge, digits_le⟩ := digits_bounds low high nearest
  rcases Nat.lt_or_eq_of_le digits_le with less | carried
  · exact .intro place digits_ge less
  · have carry_eq : (digits : ℝ) * 2 ^ place = (2 ^ 23 : ℕ) * 2 ^ (place + 1) := by
      rw [carried, zpow_add_one₀ two_ne_zero]
      push_cast
      ring
    rw [carry_eq]
    exact .intro (place + 1) le_rfl (by norm_num)

/-- Rounding keeps the order. -/
theorem mono {other next : ℝ} (rounds : RoundsTo number rounded) (rounds' : RoundsTo other next)
    (number_le : number ≤ other) : rounded ≤ next := by
  obtain @⟨digits, place, low, high, nearest⟩ := rounds
  obtain @⟨digits', place', low', high', nearest'⟩ := rounds'
  have positive : (0 : ℝ) < 2 ^ place := by positivity
  rcases lt_trichotomy place place' with lower | rfl | higher
  · -- Both are rounded to their own sides of the smallest digits at the higher place.
    have doubled := two_mul_place_le lower
    have digits_le : (digits : ℝ) ≤ 2 ^ 24 := by exact_mod_cast (digits_bounds low high nearest).2
    have digits_ge : (2 : ℝ) ^ 23 ≤ digits' := by
      exact_mod_cast (digits_bounds low' high' nearest').1
    nlinarith
  · have digits_le : (digits : ℝ) ≤ digits' := by
      exact_mod_cast nearest.mono nearest' (by gcongr)
    gcongr
  · have doubled := two_mul_place_le higher
    linarith

/-- There is only one number to round to. -/
theorem unique {other : ℝ} (rounds : RoundsTo number rounded) (rounds' : RoundsTo number other) :
    rounded = other :=
  le_antisymm (rounds.mono rounds' le_rfl) (rounds'.mono rounds le_rfl)

/-- A number with 24 digits stays as it is. -/
theorem of_hasDigits (has : HasDigits number) : RoundsTo number number := by
  obtain @⟨digits, place, digits_ge, digits_lt⟩ := has
  have positive : (0 : ℝ) < 2 ^ place := by positivity
  have digits_ge : (2 : ℝ) ^ 23 ≤ digits := by exact_mod_cast digits_ge
  have digits_lt : (digits : ℝ) < 2 ^ 24 := by exact_mod_cast digits_lt
  have itself : NearestEven (digits : ℝ) digits :=
    ⟨by linarith, by linarith, by rintro (middle | middle) <;> linarith⟩
  refine .intro place (by gcongr) (by gcongr) ?_
  rwa [mul_div_cancel_right₀ _ positive.ne']

theorem eq_of_hasDigits (rounds : RoundsTo number rounded) (has : HasDigits number) :
    rounded = number :=
  rounds.unique (of_hasDigits has)

/-- Rounding does not go below a number with 24 digits from above. -/
theorem ge_of_hasDigits (rounds : RoundsTo number rounded) (has : HasDigits bound)
    (bound_le : bound ≤ number) : bound ≤ rounded :=
  (of_hasDigits has).mono rounds bound_le

/-- Rounding does not go beyond a number with 24 digits from below. -/
theorem le_of_hasDigits (rounds : RoundsTo number rounded) (has : HasDigits bound)
    (le_bound : number ≤ bound) : rounded ≤ bound :=
  rounds.mono (of_hasDigits has) le_bound

/-- A number with 24 digits is reached from the middle below it on, if its last digit is even, and
only behind that middle otherwise.  The smallest digits are left out, as the numbers below them lie
closer together. -/
theorem digits_le_iff (rounds : RoundsTo number rounded) (digits_gt : 2 ^ 23 < digits)
    (digits_lt : digits < 2 ^ 24) :
    digits * 2 ^ place ≤ rounded ↔
      if digits % 2 = 0 then ((digits : ℝ) - 1 / 2) * 2 ^ place ≤ number
      else ((digits : ℝ) - 1 / 2) * 2 ^ place < number := by
  obtain @⟨own, ownPlace, low, high, nearest⟩ := rounds
  obtain ⟨own_ge, own_le⟩ := digits_bounds low high nearest
  have positive : (0 : ℝ) < 2 ^ place := by positivity
  have ownPositive : (0 : ℝ) < 2 ^ ownPlace := by positivity
  have digits_ge : (2 : ℝ) ^ 23 + 1 ≤ digits := by exact_mod_cast digits_gt
  have digits_le : (digits : ℝ) + 1 ≤ 2 ^ 24 := by exact_mod_cast digits_lt
  have own_ge : (2 : ℝ) ^ 23 ≤ own := by exact_mod_cast own_ge
  have own_le : (own : ℝ) ≤ 2 ^ 24 := by exact_mod_cast own_le
  rcases lt_trichotomy ownPlace place with lower | rfl | higher
  · -- Everything at a lower place stays below the digits asked for.
    have doubled := two_mul_place_le lower
    have rounded_lt : own * (2 : ℝ) ^ ownPlace < digits * 2 ^ place := by nlinarith
    have number_lt : number < ((digits : ℝ) - 1 / 2) * 2 ^ place := by nlinarith
    rw [iff_of_false (not_le.mpr rounded_lt)]
    split
    next => exact not_le.mpr number_lt
    next => exact not_lt.mpr number_lt.le
  · rw [mul_le_mul_iff_of_pos_right positive, Nat.cast_le, nearest.le_iff, le_div_iff₀ positive,
      lt_div_iff₀ positive]
  · -- Everything at a higher place is beyond them.
    have doubled := two_mul_place_le higher
    have rounded_ge : digits * (2 : ℝ) ^ place ≤ own * 2 ^ ownPlace := by nlinarith
    have number_gt : ((digits : ℝ) - 1 / 2) * 2 ^ place < number := by nlinarith
    rw [iff_of_true rounded_ge]
    split
    next => exact number_gt.le
    next => exact number_gt

/-- Which numbers are rounded to a bound or beyond, where `digits` are the first ones that reach
it. -/
theorem le_iff (rounds : RoundsTo number rounded) (digits_gt : 2 ^ 23 < digits)
    (digits_lt : digits < 2 ^ 24) (missed : (digits - 1) * 2 ^ place < bound)
    (reached : bound ≤ digits * 2 ^ place) :
    bound ≤ rounded ↔
      if digits % 2 = 0 then ((digits : ℝ) - 1 / 2) * 2 ^ place ≤ number
      else ((digits : ℝ) - 1 / 2) * 2 ^ place < number := by
  rw [← rounds.digits_le_iff digits_gt digits_lt]
  refine ⟨fun bound_le => ?_, reached.trans⟩
  rcases rounds.hasDigits.gap place digits_gt with less | more
  · linarith
  · exact more

/-- Which numbers are rounded beyond a bound, where `digits` are the first ones beyond it. -/
theorem lt_iff (rounds : RoundsTo number rounded) (digits_gt : 2 ^ 23 < digits)
    (digits_lt : digits < 2 ^ 24) (missed : (digits - 1) * 2 ^ place ≤ bound)
    (passed : bound < digits * 2 ^ place) :
    bound < rounded ↔
      if digits % 2 = 0 then ((digits : ℝ) - 1 / 2) * 2 ^ place ≤ number
      else ((digits : ℝ) - 1 / 2) * 2 ^ place < number := by
  rw [← rounds.digits_le_iff digits_gt digits_lt]
  refine ⟨fun bound_lt => ?_, passed.trans_le⟩
  rcases rounds.hasDigits.gap place digits_gt with less | more
  · linarith
  · exact more

end RoundsTo

end HitMonitor
