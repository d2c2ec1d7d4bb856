import HitMonitor.Decimal.Fixed
import HitMonitor.Proofs.Binary.Single

/-!
# Where a number lies behind its whole part

Operations work out some digits of a result and note what they left out: the next digit, and whether
anything follows.  That is enough to round to the nearest number, so an operation is right if its
digits and its note are.
-/

namespace HitMonitor

open Float.Model
open Float.Model.UnpackedFloat (Accuracy ExtendedMantissa roundWithAccuracy shiftToTargetExponent
  shiftToExponent)

/-! ## Where a number lies behind its whole part -/

/-- The round bit of a mantissa is the first binary digit of what a number has beyond the mantissa,
and the sticky bit says whether anything follows. -/
structure Locates (mantissa : ExtendedMantissa) (number : ℝ) : Prop where
  exact : mantissa.stickyBit = false →
    number = mantissa.mantissa + mantissa.roundBit.toNat / 2
  inexact : mantissa.stickyBit = true →
    mantissa.mantissa + mantissa.roundBit.toNat / 2 < number ∧
      number < mantissa.mantissa + mantissa.roundBit.toNat / 2 + 1 / 2

/-- How the square root of a whole number lies above the whole part of that root. -/
def rootAccuracy (number : ℕ) : Accuracy :=
  let left := number - number.sqrt * number.sqrt
  if left = 0 then .exact else .inexact (if left ≤ number.sqrt then .lt else .gt)

namespace Locates

variable {mantissa : ExtendedMantissa} {number : ℝ}

theorem bounds (locates : Locates mantissa number) :
    mantissa.mantissa ≤ number ∧ number < mantissa.mantissa + 1 := by
  obtain ⟨whole, half, rest⟩ := mantissa
  cases rest
  case false =>
    have number_eq := locates.exact rfl
    cases half <;> norm_num at number_eq ⊢ <;> constructor <;> linarith
  case true =>
    have between := locates.inexact rfl
    cases half <;> norm_num at between ⊢ <;> constructor <;> linarith

/-- One of the bits is set if the number lies behind the mantissa, and none if it is there. -/
theorem behind (locates : Locates mantissa number) :
    if mantissa.roundBit || mantissa.stickyBit then mantissa.mantissa < number
    else number = mantissa.mantissa := by
  obtain ⟨whole, half, rest⟩ := mantissa
  cases rest
  case false =>
    have number_eq := locates.exact rfl
    cases half <;> norm_num at number_eq ⊢ <;> linarith
  case true =>
    have above := (locates.inexact rfl).1
    cases half <;> norm_num at above ⊢ <;> linarith

/-- The whole part is what a conversion to whole numbers keeps. -/
theorem floor_eq (locates : Locates mantissa number) : ⌊number⌋₊ = mantissa.mantissa := by
  obtain ⟨above, below⟩ := locates.bounds
  exact (Nat.floor_eq_iff ((Nat.cast_nonneg _).trans above)).mpr ⟨above, below⟩

/-- The two bits are enough to round to the nearest whole number. -/
theorem nearestEven (locates : Locates mantissa number) :
    NearestEven number mantissa.roundedMantissa := by
  obtain ⟨whole, half, rest⟩ := mantissa
  cases half <;> cases rest
  case false.false =>
    have number_eq := locates.exact rfl
    change NearestEven number whole
    norm_num at number_eq
    exact ⟨by linarith, by linarith, by rintro (middle | middle) <;> linarith⟩
  case false.true =>
    obtain ⟨above, below⟩ := locates.inexact rfl
    change NearestEven number whole
    norm_num at above below
    exact ⟨by linarith, by linarith, by rintro (middle | middle) <;> linarith⟩
  case true.false =>
    have number_eq := locates.exact rfl
    change NearestEven number (whole + whole % 2 : ℕ)
    norm_num at number_eq
    rcases Nat.mod_two_eq_zero_or_one whole with even | odd
    · rw [even]
      exact ⟨by push_cast; linarith, by push_cast; linarith, fun _ => even⟩
    · rw [odd]
      exact ⟨by push_cast; linarith, by push_cast; linarith, fun _ => by omega⟩
  case true.true =>
    obtain ⟨above, below⟩ := locates.inexact rfl
    change NearestEven number (whole + 1 : ℕ)
    norm_num at above below
    refine ⟨by push_cast; linarith, by push_cast; linarith, ?_⟩
    push_cast
    rintro (middle | middle) <;> linarith

/-- A whole number is halved in its whole part and its last digit. -/
theorem half_eq (whole : ℕ) :
    (whole / 2 : ℕ) + ((whole % 2 != 0).toNat : ℝ) / 2 = whole / 2 := by
  have split : (whole : ℝ) = 2 * (whole / 2 : ℕ) + (whole % 2 : ℕ) := by
    exact_mod_cast (Nat.div_add_mod whole 2).symm
  have last : ((whole % 2 != 0).toNat : ℝ) = (whole % 2 : ℕ) := by
    rcases Nat.mod_two_eq_zero_or_one whole with even | odd
    · simp [even]
    · simp [odd]
  rw [last]
  linarith

/-- Halving moves the last digit of the mantissa into the round bit. -/
theorem shiftRightOne (locates : Locates mantissa number) :
    Locates mantissa.shiftRightOne (number / 2) := by
  have behind := locates.behind
  have halved : (mantissa.shiftRightOne.mantissa : ℝ) + mantissa.shiftRightOne.roundBit.toNat / 2 =
      mantissa.mantissa / 2 := half_eq mantissa.mantissa
  constructor
  · intro exact
    change (mantissa.roundBit || mantissa.stickyBit) = false at exact
    rw [exact] at behind
    rw [halved, show number = mantissa.mantissa from behind]
  · intro inexact
    change (mantissa.roundBit || mantissa.stickyBit) = true at inexact
    rw [if_pos inexact] at behind
    have below := locates.bounds.2
    rw [halved]
    constructor <;> linarith

/-- A mantissa with nothing left out is at its own whole number. -/
theorem of_exact (digits : ℕ) :
    Locates (ExtendedMantissa.ofMantissaAndAccuracy digits .exact) digits :=
  ⟨fun _ => by simp [ExtendedMantissa.ofMantissaAndAccuracy],
    fun sticky => absurd sticky Bool.false_ne_true⟩

theorem of_lt {digits : ℕ} (above : digits < number) (below : number < digits + 1 / 2) :
    Locates (ExtendedMantissa.ofMantissaAndAccuracy digits (.inexact .lt)) number :=
  ⟨fun exact => absurd exact.symm Bool.false_ne_true,
    fun _ => by simpa [ExtendedMantissa.ofMantissaAndAccuracy] using And.intro above below⟩

theorem of_eq {digits : ℕ} (middle : number = digits + 1 / 2) :
    Locates (ExtendedMantissa.ofMantissaAndAccuracy digits (.inexact .eq)) number :=
  ⟨fun _ => by simpa [ExtendedMantissa.ofMantissaAndAccuracy] using middle,
    fun sticky => absurd sticky Bool.false_ne_true⟩

theorem of_gt {digits : ℕ} (above : digits + 1 / 2 < number) (below : number < digits + 1) :
    Locates (ExtendedMantissa.ofMantissaAndAccuracy digits (.inexact .gt)) number := by
  refine ⟨fun exact => absurd exact.symm Bool.false_ne_true, fun _ => ?_⟩
  simp only [ExtendedMantissa.ofMantissaAndAccuracy, Bool.toNat_true, Nat.cast_one]
  exact ⟨above, by linarith⟩

/-- What a division leaves over says where the quotient is. -/
theorem of_quotient (dividend : ℕ) {divisor : ℕ} (divisor_pos : 0 < divisor) :
    Locates (ExtendedMantissa.ofMantissaAndAccuracy (dividend / divisor)
      (UnpackedFloat.accuracyOfFraction (dividend % divisor) divisor))
      ((dividend : ℝ) / divisor) := by
  have positive : (0 : ℝ) < divisor := by exact_mod_cast divisor_pos
  have split : (dividend : ℝ) = (dividend / divisor : ℕ) * divisor + (dividend % divisor : ℕ) := by
    exact_mod_cast (Nat.div_add_mod' dividend divisor).symm
  have less : ((dividend % divisor : ℕ) : ℝ) < divisor := by
    exact_mod_cast Nat.mod_lt dividend divisor_pos
  rw [split, add_div, mul_div_cancel_right₀ _ positive.ne']
  generalize dividend % divisor = left at less ⊢
  generalize dividend / divisor = whole
  rw [UnpackedFloat.accuracyOfFraction]
  split
  next none_left =>
    simpa [none_left] using of_exact whole
  next some_left =>
    have left_pos : (0 : ℝ) < left := by exact_mod_cast Nat.pos_of_ne_zero some_left
    rcases lt_trichotomy (2 * left) divisor with lower | middle | higher
    · have lower_cast : 2 * (left : ℝ) < divisor := by exact_mod_cast lower
      rw [compare_lt_iff_lt.mpr lower]
      apply of_lt
      · have share_pos := div_pos left_pos positive
        linarith
      · have share_lt : (left : ℝ) / divisor < 1 / 2 := by
          rw [div_lt_iff₀ positive]
          linarith
        linarith
    · have middle_cast : 2 * (left : ℝ) = divisor := by exact_mod_cast middle
      rw [compare_eq_iff_eq.mpr middle]
      apply of_eq
      rw [← middle_cast]
      field_simp
    · have higher_cast : (divisor : ℝ) < 2 * left := by exact_mod_cast higher
      rw [compare_gt_iff_gt.mpr higher]
      apply of_gt
      · have share_gt : 1 / 2 < (left : ℝ) / divisor := by
          rw [lt_div_iff₀ positive]
          linarith
        linarith
      · have share_lt : (left : ℝ) / divisor < 1 := (div_lt_one positive).mpr less
        linarith

/-- What a square root leaves over says where the root is. -/
theorem of_sqrt (number : ℕ) :
    Locates (ExtendedMantissa.ofMantissaAndAccuracy number.sqrt (rootAccuracy number))
      (√number) := by
  rw [rootAccuracy]
  have square_le := Nat.sqrt_le number
  have lt_square := Nat.lt_succ_sqrt number
  generalize number.sqrt = root at square_le lt_square ⊢
  have root_nonneg : (0 : ℝ) ≤ root := Nat.cast_nonneg root
  obtain ⟨left, rfl⟩ := Nat.exists_eq_add_of_le square_le
  rw [Nat.add_sub_cancel_left]
  split
  next none_left =>
    rw [none_left, add_zero, Nat.cast_mul, Real.sqrt_mul_self root_nonneg]
    exact of_exact root
  next some_left =>
    have left_pos : (0 : ℝ) < left := by exact_mod_cast Nat.pos_of_ne_zero some_left
    split
    next lower =>
      have left_le : (left : ℝ) ≤ root := by exact_mod_cast lower
      apply of_lt
      · rw [Real.lt_sqrt root_nonneg]
        push_cast
        linarith
      · rw [Real.sqrt_lt' (by positivity)]
        push_cast
        linarith
    next higher =>
      have left_ge : (root : ℝ) + 1 ≤ left := by exact_mod_cast Nat.lt_of_not_le higher
      have left_lt : (root : ℝ) * root + left < (root + 1) * (root + 1) := by
        exact_mod_cast lt_square
      apply of_gt
      · rw [Real.lt_sqrt (by positivity)]
        push_cast
        linarith
      · rw [Real.sqrt_lt' (by positivity)]
        push_cast
        linarith

theorem shiftRight (locates : Locates mantissa number) (count : ℕ) :
    Locates (mantissa >>> count) (number / 2 ^ count) := by
  induction count with
  | zero =>
    rw [pow_zero, div_one]
    exact locates
  | succ count shifted =>
    have halved := shifted.shiftRightOne
    rwa [div_div, ← pow_succ] at halved

end Locates

/-! ## Rounding a result -/

theorem targetExponent_eq {total : ℤ} (total_ge : -125 ≤ total) :
    Format.binary32.targetExponent total = total - 24 := by
  change max (total - 24) (3 - 2 ^ 7 - 24) = total - 24
  omega

/-- Digits beyond the 24th are shifted out. -/
theorem shiftToTargetExponent_eq {digits surplus : ℕ} {place : ℤ} {accuracy : Accuracy}
    (log2_eq : digits.log2 = 23 + surplus) (place_ge : -149 ≤ place + surplus) :
    shiftToTargetExponent Format.binary32 digits place accuracy =
      (ExtendedMantissa.ofMantissaAndAccuracy digits accuracy >>> surplus, place + surplus) := by
  have total_eq : totalExponent digits place = place + surplus + 24 := by
    simp only [totalExponent, log2_eq]
    push_cast
    ring
  have count_eq : (place + surplus + 24 - 24 - place).toNat = surplus := by omega
  simp only [shiftToTargetExponent, shiftToExponent, total_eq]
  rw [targetExponent_eq (by omega), count_eq]

theorem ofMantissaAndAccuracy_mantissa (digits : ℕ) (accuracy : Accuracy) :
    (ExtendedMantissa.ofMantissaAndAccuracy digits accuracy).mantissa = digits := by
  cases accuracy with
  | exact => rfl
  | inexact order => cases order <;> rfl

/-- Rounded digits that overflow by a carry are shifted once more, which loses nothing. -/
theorem exists_shiftToTargetExponent {rounded : ℕ} {place : ℤ} (rounded_ge : 2 ^ 23 ≤ rounded)
    (rounded_le : rounded ≤ 2 ^ 24) (place_ge : -149 ≤ place) (place_le : place ≤ 103) :
    ∃ single : Single, single.value = rounded * 2 ^ place ∧
      (shiftToTargetExponent Format.binary32 rounded place .exact).1.mantissa = single.digits ∧
        (shiftToTargetExponent Format.binary32 rounded place .exact).2 = single.place := by
  rcases Nat.lt_or_eq_of_le rounded_le with less | rfl
  · have log2_eq : rounded.log2 = 23 + 0 :=
      (Nat.log2_eq_iff (by omega)).mpr ⟨rounded_ge, less⟩
    refine ⟨⟨rounded, place, rounded_ge, less, place_ge, by omega⟩, rfl, ?_⟩
    rw [shiftToTargetExponent_eq log2_eq (by omega)]
    exact ⟨rfl, add_zero place⟩
  · refine ⟨⟨2 ^ 23, place + 1, le_rfl, by decide, by omega, by omega⟩, ?_, ?_⟩
    · rw [Single.value, zpow_add_one₀ two_ne_zero]
      push_cast
      ring
    · have log2_eq : (2 ^ 24).log2 = 23 + 1 := by decide
      rw [shiftToTargetExponent_eq log2_eq (by omega)]
      exact ⟨rfl, rfl⟩

/-- The place at which a number has 24 digits. -/
theorem exists_surplus {digits : ℕ} {place : ℤ} {number : ℝ} (digits_ge : 2 ^ 23 ≤ digits)
    (above : digits ≤ number / 2 ^ place) (below : number / 2 ^ place < digits + 1) :
    ∃ surplus : ℕ, digits.log2 = 23 + surplus ∧ 2 ^ 23 * 2 ^ (place + surplus) ≤ number ∧
      number < 2 ^ 24 * 2 ^ (place + surplus) := by
  have digits_ne : digits ≠ 0 := (lt_of_lt_of_le (by decide) digits_ge).ne'
  obtain ⟨surplus, log2_eq⟩ : ∃ surplus, digits.log2 = 23 + surplus :=
    Nat.exists_eq_add_of_le ((Nat.le_log2 digits_ne).mpr digits_ge)
  obtain ⟨leading_le, lt_leading⟩ := (Nat.log2_eq_iff digits_ne).mp log2_eq
  have positive : (0 : ℝ) < 2 ^ place := by positivity
  have shifted : ∀ count : ℕ,
      (2 : ℝ) ^ count * 2 ^ (place + surplus) = 2 ^ (count + surplus) * 2 ^ place := by
    intro count
    rw [zpow_add₀ two_ne_zero, zpow_natCast, pow_add]
    ring
  refine ⟨surplus, log2_eq, ?_, ?_⟩
  · rw [shifted, ← le_div_iff₀ positive]
    exact le_trans (by exact_mod_cast leading_le) above
  · rw [shifted, ← div_lt_iff₀ positive]
    have next_le : digits + 1 ≤ 2 ^ (24 + surplus) := by
      rw [show 24 + surplus = 23 + surplus + 1 by ring]
      exact lt_leading
    exact below.trans_le (by exact_mod_cast next_le)

theorem place_bounds {place : ℤ} {number : ℝ} (low : 2 ^ 23 * 2 ^ place ≤ number)
    (high : number < 2 ^ 24 * 2 ^ place) (small : 2 ^ (-126 : ℤ) ≤ number)
    (large : number < 2 ^ (127 : ℤ)) : -149 ≤ place ∧ place ≤ 103 := by
  have lower := small.trans_lt high
  have upper := low.trans_lt large
  rw [← zpow_natCast, ← zpow_add₀ two_ne_zero, zpow_lt_zpow_iff_right₀ one_lt_two] at lower upper
  push_cast at lower upper
  omega

/-- A result that is known exactly enough is rounded to the nearest number with 24 digits. -/
theorem exists_roundWithAccuracy {digits : ℕ} {place : ℤ} {accuracy : Accuracy} {number : ℝ}
    (locates : Locates (.ofMantissaAndAccuracy digits accuracy) (number / 2 ^ place))
    (digits_ge : 2 ^ 23 ≤ digits) (small : 2 ^ (-126 : ℤ) ≤ number)
    (large : number < 2 ^ (127 : ℤ)) :
    ∃ single : Single,
      roundWithAccuracy Format.binary32 .positive digits place accuracy = single.unpacked ∧
        RoundsTo number single.value := by
  obtain ⟨above, below⟩ := locates.bounds
  rw [ofMantissaAndAccuracy_mantissa] at above below
  obtain ⟨surplus, log2_eq, low, high⟩ := exists_surplus digits_ge above below
  obtain ⟨place_ge, place_le⟩ := place_bounds low high small large
  have nearest := (locates.shiftRight surplus).nearestEven
  rw [div_div, ← zpow_natCast, ← zpow_add₀ two_ne_zero] at nearest
  obtain ⟨rounded_ge, rounded_le⟩ := RoundsTo.digits_bounds low high nearest
  obtain ⟨single, value_eq, digits_eq, place_eq⟩ :=
    exists_shiftToTargetExponent rounded_ge rounded_le place_ge place_le
  refine ⟨single, ?_, value_eq ▸ RoundsTo.intro _ low high nearest⟩
  simp only [roundWithAccuracy, shiftToTargetExponent_eq log2_eq place_ge, digits_eq, place_eq]
  exact dif_neg single.digits_pos.ne'

/-- Digits that are known entirely are rounded to the nearest number with 24 digits. -/
theorem exists_round {digits : ℕ} {place : ℤ} (digits_pos : 0 < digits)
    (small : 2 ^ (-126 : ℤ) ≤ (digits : ℝ) * 2 ^ place)
    (large : (digits : ℝ) * 2 ^ place < 2 ^ (127 : ℤ)) :
    ∃ single : Single,
      UnpackedFloat.round Format.binary32 .positive digits place = single.unpacked ∧
        RoundsTo (digits * 2 ^ place) single.value := by
  have total_ge : -125 ≤ totalExponent digits place := by
    have digits_lt : (digits : ℝ) < 2 ^ (digits.log2 + 1) := by exact_mod_cast Nat.lt_log2_self
    have positive : (0 : ℝ) < 2 ^ place := by positivity
    have powers := small.trans_lt (mul_lt_mul_of_pos_right digits_lt positive)
    rw [← zpow_natCast, ← zpow_add₀ two_ne_zero, zpow_lt_zpow_iff_right₀ one_lt_two] at powers
    simp only [totalExponent]
    push_cast at powers
    omega
  have count_eq : (place - (totalExponent digits place - 24)).toNat = 23 - digits.log2 := by
    simp only [totalExponent]
    omega
  simp only [UnpackedFloat.round, UnpackedFloat.decreaseExponent, targetExponent_eq total_ge,
    count_eq]
  generalize count_def : 23 - digits.log2 = count
  have widened : (digits : ℝ) * 2 ^ place / 2 ^ (place - count) = (digits <<< count : ℕ) := by
    rw [Nat.shiftLeft_eq, zpow_sub₀ two_ne_zero, zpow_natCast]
    push_cast
    field_simp
  apply exists_roundWithAccuracy _ _ small large
  · rw [widened]
    exact Locates.of_exact _
  · calc 2 ^ 23 ≤ 2 ^ (digits.log2 + count) := Nat.pow_le_pow_right (by decide) (by omega)
      _ = 2 ^ digits.log2 * 2 ^ count := pow_add _ _ _
      _ ≤ digits * 2 ^ count := Nat.mul_le_mul_right _ (Nat.log2_self_le digits_pos.ne')
      _ = digits <<< count := (Nat.shiftLeft_eq _ _).symm

/-! ## Whole numbers -/

theorem normalize_eq {number : ℕ} (number_pos : 0 < number) (place : ℤ) :
    UnpackedFloat.normalize Format.binary32 number place .positive =
      UnpackedFloat.round Format.binary32 .positive number place := by
  have positive : compare (number : ℤ) 0 = .gt :=
    compare_gt_iff_gt.mpr (by exact_mod_cast number_pos)
  rw [UnpackedFloat.normalize, positive]
  rfl

/-- A whole number is rounded to the nearest number. -/
theorem exists_ofNat {number : ℕ} (number_pos : 0 < number) (number_lt : number < 2 ^ 127) :
    ∃ single : Single, UnpackedFloat.ofNat Format.binary32 number = single.unpacked ∧
      RoundsTo number single.value := by
  have number_ge : (1 : ℝ) ≤ number := by exact_mod_cast number_pos
  have number_eq : (number : ℝ) * 2 ^ (0 : ℤ) = number := by rw [zpow_zero, mul_one]
  have small : (2 : ℝ) ^ (-126 : ℤ) ≤ number * 2 ^ (0 : ℤ) := by
    rw [number_eq]
    exact le_trans (by norm_num) number_ge
  have large : (number : ℝ) * 2 ^ (0 : ℤ) < 2 ^ (127 : ℤ) := by
    rw [number_eq]
    exact_mod_cast number_lt
  obtain ⟨single, round_eq, rounds⟩ := exists_round number_pos small large
  rw [number_eq] at rounds
  refine ⟨single, ?_, rounds⟩
  rw [UnpackedFloat.ofNat, UnpackedFloat.ofInt, normalize_eq number_pos, round_eq]

/-- A whole number with only its first 24 binary digits, the others rounded into them, a half to an
even last digit. -/
def significant (number : ℕ) : ℕ :=
  let unit := 2 ^ (number.log2 - 23)
  roundHalfEven number unit * unit

theorem significant_eq {number : ℕ} (number_lt : number < 2 ^ 24) :
    significant number = number := by
  have short : number.log2 - 23 = 0 := by
    rcases Nat.eq_zero_or_pos number with rfl | number_pos
    · rfl
    · have log2_lt := (Nat.log2_lt number_pos.ne').mpr number_lt
      omega
  simp [significant, short, roundHalfEven, Nat.mod_one]

/-- `roundHalfEven` rounds a quotient as the operations do. -/
theorem roundHalfEven_eq (numerator : ℕ) {denominator : ℕ} (denominator_pos : 0 < denominator) :
    roundHalfEven numerator denominator =
      (ExtendedMantissa.ofMantissaAndAccuracy (numerator / denominator)
        (UnpackedFloat.accuracyOfFraction (numerator % denominator)
          denominator)).roundedMantissa := by
  rw [roundHalfEven, UnpackedFloat.accuracyOfFraction]
  generalize numerator / denominator = whole, numerator % denominator = left
  rcases lt_trichotomy (2 * left) denominator with lower | middle | higher
  · simp only [if_pos lower, compare_lt_iff_lt.mpr lower]
    split <;> rfl
  · have some_left : left ≠ 0 := by omega
    rw [if_neg middle.not_lt, if_neg middle.not_gt, if_neg some_left, compare_eq_iff_eq.mpr middle]
    change _ = whole + whole % 2
    split <;> omega
  · have some_left : left ≠ 0 := by omega
    simp only [if_neg higher.not_gt, if_pos higher, if_neg some_left, compare_gt_iff_gt.mpr higher]
    rfl

theorem roundsTo_significant {number : ℕ} (number_pos : 0 < number) :
    RoundsTo number (significant number) := by
  by_cases short : number < 2 ^ 24
  · rw [significant_eq short]
    exact .of_hasDigits (.of_nat number_pos short)
  obtain ⟨leading_le, lt_leading⟩ := (Nat.log2_eq_iff number_pos.ne').mp rfl
  have log2_ge : 24 ≤ number.log2 := (Nat.le_log2 number_pos.ne').mpr (Nat.le_of_not_lt short)
  obtain ⟨place, log2_eq⟩ := Nat.exists_eq_add_of_le (Nat.le_of_succ_le log2_ge)
  have nearest := (Locates.of_quotient number (Nat.two_pow_pos place)).nearestEven
  rw [← roundHalfEven_eq _ (Nat.two_pow_pos place)] at nearest
  have significant_eq : (significant number : ℝ) =
      (roundHalfEven number (2 ^ place) : ℕ) * 2 ^ (place : ℤ) := by
    rw [significant, log2_eq, Nat.add_sub_cancel_left, zpow_natCast]
    push_cast
    rfl
  rw [significant_eq]
  rw [log2_eq] at leading_le lt_leading
  refine .intro place ?_ ?_ ?_
  · rw [zpow_natCast, ← pow_add]
    exact_mod_cast leading_le
  · rw [zpow_natCast, ← pow_add, show 24 + place = 23 + place + 1 by omega]
    exact_mod_cast lt_leading
  · rw [zpow_natCast]
    exact_mod_cast nearest

end HitMonitor
