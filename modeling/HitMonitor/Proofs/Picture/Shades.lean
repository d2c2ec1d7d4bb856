import HitMonitor.Proofs.Binary.Operations
import HitMonitor.Proofs.Picture.Panels
import HitMonitor.Proofs.Projection.Highest

/-!
# Shades of sparse cells

The background is a dark gray, and a cell with a count may take its colour.  How dark a cell is
depends on the ratio of its count to the largest one, through three roundings: of the ratio, of its
square root, and of the 255-fold of that.  Each of them is monotone, so a level is reached from some
ratio on, and that ratio is found by going back through the roundings.  Between the ratios at which
the levels 24 and 25 are reached, a cell in gray cannot be told from an empty one.  In no other
colormap is there such a pair of counts.
-/

namespace HitMonitor

variable {value : Float32} {single : Single}

/-! ## Bytes -/

/-- Bounds do not change what lies between them. -/
theorem Holds.clamp_eq {number : ℕ} (holds : Holds value single) (number_pos : 0 < number)
    (number_lt : number < 2 ^ 24) (value_le : single.value ≤ number) :
    clampFloat32 0 (Float32.ofNat number) value = value := by
  obtain ⟨bound, holds', bound_eq⟩ := Holds.ofNat_exact number_pos number_lt
  have inside : ¬ Float32.ofNat number < value := by
    rw [holds'.lt_iff holds, bound_eq]
    exact value_le.not_gt
  rw [clampFloat32, if_neg holds.not_lt_zero, if_neg inside]

/-- What is left behind the whole part is known exactly. -/
theorem Holds.fraction (holds : Holds value single) (value_le : single.value ≤ 255) :
    0.5 ≤ value - value.toUInt8.toFloat32 ↔ 1 / 2 ≤ single.value - ⌊single.value⌋₊ := by
  have value_lt : single.value < 256 := value_le.trans_lt (by norm_num)
  have whole_eq := holds.toUInt8 value_lt
  rcases Nat.eq_zero_or_pos ⌊single.value⌋₊ with floor_eq | floor_pos
  · have zero : value.toUInt8.toFloat32 = 0 := by
      have byte_eq : value.toUInt8 = 0 := UInt8.toNat_inj.mp (whole_eq.trans floor_eq)
      rw [byte_eq]
      decide +kernel
    rw [zero, Holds.half.le_iff holds.sub_nothing, floor_eq, Single.value_half, Nat.cast_zero,
      sub_zero]
  obtain ⟨whole, holds', value_eq⟩ := Holds.toFloat32 (whole_eq ▸ floor_pos)
  rw [whole_eq] at value_eq
  have value_ge : 1 ≤ single.value := Nat.floor_pos.mp floor_pos
  obtain ⟨left, count, left_lt, count_lt, left_eq⟩ := Single.exists_fraction value_ge value_lt
  rcases Nat.eq_zero_or_pos left with rfl | left_pos
  · rw [Nat.cast_zero, zero_mul] at left_eq
    rw [holds.sub_same holds' (by rw [value_eq]; linarith), left_eq]
    apply iff_of_false
    · decide +kernel
    · norm_num
  · have has : HasDigits (single.value - whole.value) := by
      rw [value_eq, left_eq]
      exact .of_digits _ left_pos left_lt
    have small : (2 : ℝ) ^ (-126 : ℤ) ≤ single.value - whole.value := by
      have left_ge : (1 : ℝ) ≤ left := by exact_mod_cast left_pos
      calc (2 : ℝ) ^ (-126 : ℤ) ≤ 2 ^ (-count : ℤ) :=
            zpow_le_zpow_right₀ one_le_two (by omega)
        _ ≤ left * 2 ^ (-count : ℤ) := le_mul_of_one_le_left (by positivity) left_ge
        _ = single.value - whole.value := by rw [value_eq, left_eq]
    have large : single.value - whole.value < 2 ^ (127 : ℤ) := by
      have whole_pos := whole.value_pos
      norm_num
      linarith
    obtain ⟨difference, held, rounds⟩ := holds.sub holds' small large
    rw [Holds.half.le_iff held, rounds.eq_of_hasDigits has, value_eq, Single.value_half]

/-- The nearest byte, a half going up. -/
theorem Holds.nearestByte_toNat (holds : Holds value single) (value_le : single.value ≤ 255) :
    (nearestByte value).toNat = ⌊single.value + 1 / 2⌋₊ := by
  have clamped : clampFloat32 0 255 value = value :=
    holds.clamp_eq (by decide : 0 < 255) (by decide) (by exact_mod_cast value_le)
  have whole_eq := holds.toUInt8 (value_le.trans_lt (by norm_num))
  have floor_le : (⌊single.value⌋₊ : ℝ) ≤ single.value := Nat.floor_le single.value_pos.le
  have lt_next : single.value < ⌊single.value⌋₊ + 1 := Nat.lt_floor_add_one single.value
  simp only [nearestByte, clamped, holds.fraction value_le]
  rw [eq_comm, Nat.floor_eq_iff (by linarith [single.value_pos])]
  split
  next up =>
    have below : ⌊single.value⌋₊ < 255 := by
      by_contra reached
      have reached : (255 : ℝ) ≤ ⌊single.value⌋₊ := by exact_mod_cast Nat.le_of_not_lt reached
      linarith
    have next : (value.toUInt8 + 1).toNat = ⌊single.value⌋₊ + 1 := by
      rw [UInt8.toNat_add, whole_eq]
      change (⌊single.value⌋₊ + 1) % 256 = ⌊single.value⌋₊ + 1
      omega
    rw [next]
    push_cast
    constructor <;> linarith
  next down =>
    rw [whole_eq]
    constructor <;> linarith

/-- The nearest byte to a rounded product. -/
theorem Holds.nearestByte_mul {other : Float32} {second : Single} (holds : Holds value single)
    (holds' : Holds other second) (small : 2 ^ (-126 : ℤ) ≤ single.value * second.value)
    (large : single.value * second.value ≤ 255) :
    ∃ product : ℝ, RoundsTo (single.value * second.value) product ∧
      (nearestByte (value * other)).toNat = ⌊product + 1 / 2⌋₊ := by
  obtain ⟨product, held, rounds⟩ := holds.mul holds' small (large.trans_lt (by norm_num))
  have byte : HasDigits (255 : ℕ) := .of_nat (by decide) (by decide)
  have product_le := rounds.le_of_hasDigits byte (by exact_mod_cast large)
  exact ⟨product.value, rounds, held.nearestByte_toNat (by exact_mod_cast product_le)⟩

/-- A byte for a share between zero and one, whichever way it is multiplied. -/
theorem Holds.exists_level (holds : Holds value single) (value_ge : 2 ^ (-64 : ℤ) ≤ single.value)
    (value_le : single.value ≤ 1) :
    ∃ product : ℝ, RoundsTo (single.value * 255) product ∧
      (nearestByte (value * 255)).toNat = ⌊product + 1 / 2⌋₊ ∧
        (nearestByte (255 * value)).toNat = ⌊product + 1 / 2⌋₊ := by
  obtain ⟨scale, heldScale, scale_eq⟩ := Holds.ofNat_exact (by decide : 0 < 255) (by decide)
  have scaled_eq : single.value * scale.value = single.value * 255 := by
    rw [scale_eq]
    norm_num
  have small : (2 : ℝ) ^ (-126 : ℤ) ≤ single.value * 255 := by
    norm_num at value_ge ⊢
    linarith
  have large : single.value * 255 ≤ 255 := by linarith
  obtain ⟨product, rounds, behind_eq⟩ :=
    holds.nearestByte_mul heldScale (scaled_eq ▸ small) (scaled_eq ▸ large)
  rw [← scaled_eq, mul_comm] at small large
  obtain ⟨same, rounds', before_eq⟩ := heldScale.nearestByte_mul holds small large
  rw [mul_comm] at rounds'
  rw [← rounds.unique rounds'] at before_eq
  exact ⟨product, scaled_eq ▸ rounds, behind_eq, before_eq⟩

/-! ## Shares -/

/-- What is known of the share of a count. -/
structure Shares (count highest : ℕ) (share : Single) : Prop where
  rounded : ∃ quotient : ℝ, RoundsTo (significant count / significant highest) quotient ∧
    RoundsTo (√quotient) share.value
  share_ge : 2 ^ (-32 : ℤ) ≤ share.value
  share_le : share.value ≤ 1

/-- Two roundings lie between a ratio of counts and its share. -/
theorem exists_shares {count highest : ℕ} (count_pos : 0 < count) (count_le : count ≤ highest)
    (highest_le : highest ≤ word64Max) :
    ∃ share : Single, Holds (normalizedShare count highest) share ∧
      Shares count highest share := by
  have word_lt : word64Max < 2 ^ 127 := by decide
  have highest_pos : 0 < highest := count_pos.trans_le count_le
  obtain ⟨part, heldPart, partRounds⟩ := Holds.ofNat count_pos (by omega)
  obtain ⟨whole, heldWhole, wholeRounds⟩ := Holds.ofNat highest_pos (by omega)
  have one_le : 1 ≤ part.value :=
    partRounds.ge_of_hasDigits .one (by exact_mod_cast count_pos)
  have part_le : part.value ≤ whole.value :=
    partRounds.mono wholeRounds (by exact_mod_cast count_le)
  have whole_le : whole.value ≤ 2 ^ (64 : ℤ) := by
    apply wholeRounds.le_of_hasDigits (.of_pow 64)
    have word_le : highest ≤ 2 ^ 64 := highest_le.trans (by decide)
    exact_mod_cast word_le
  have ratio_ge : 2 ^ (-64 : ℤ) ≤ part.value / whole.value := by
    rw [le_div_iff₀ whole.value_pos]
    calc (2 : ℝ) ^ (-64 : ℤ) * whole.value ≤ 2 ^ (-64 : ℤ) * 2 ^ (64 : ℤ) := by gcongr
      _ = 1 := by norm_num
      _ ≤ part.value := one_le
  have ratio_le : part.value / whole.value ≤ 1 := (div_le_one whole.value_pos).mpr part_le
  obtain ⟨quotient, heldQuotient, quotientRounds⟩ := heldPart.div heldWhole
    (le_trans (by norm_num) ratio_ge) (ratio_le.trans_lt (by norm_num))
  obtain ⟨share, heldShare, shareRounds⟩ := heldQuotient.sqrt
  have quotient_ge : 2 ^ (-64 : ℤ) ≤ quotient.value :=
    quotientRounds.ge_of_hasDigits (.of_pow _) ratio_ge
  have quotient_le : quotient.value ≤ 1 := quotientRounds.le_of_hasDigits .one ratio_le
  refine ⟨share, ?_, ⟨quotient.value, ?_, shareRounds⟩, ?_, ?_⟩
  · rw [normalizedShare, if_neg highest_pos.ne']
    exact heldShare
  · rwa [partRounds.unique (roundsTo_significant count_pos),
      wholeRounds.unique (roundsTo_significant highest_pos)] at quotientRounds
  · apply shareRounds.ge_of_hasDigits (.of_pow _)
    apply Real.le_sqrt_of_sq_le
    exact le_trans (by norm_num) quotient_ge
  · exact shareRounds.le_of_hasDigits .one (Real.sqrt_le_one.mpr quotient_le)

/-! ## Levels of gray -/

/-- Whether a level is reached is decided by the ratio of the counts, at a middle between two
neighbours with 24 digits; each of the three roundings moves the bound to another middle. -/
theorem reaches_iff {ratio quotient share product : ℝ}
    (divided : RoundsTo ratio quotient) (rooted : RoundsTo (√quotient) share)
    (scaled : RoundsTo (share * 255) product) {first third : ℕ} {place place'' : ℤ}
    (second : ℕ) (place' : ℤ)
    (first_even : first % 2 = 0) (second_odd : second % 2 ≠ 0) (third_odd : third % 2 ≠ 0)
    (first_range : 2 ^ 23 < first ∧ first < 2 ^ 24)
    (second_range : 2 ^ 23 < second ∧ second < 2 ^ 24)
    (third_range : 2 ^ 23 < third ∧ third < 2 ^ 24)
    (second_between : ((second : ℝ) - 1) * 2 ^ place' < ((first : ℝ) - 1 / 2) * 2 ^ place / 255 ∧
      ((first : ℝ) - 1 / 2) * 2 ^ place / 255 ≤ second * 2 ^ place')
    (third_between : ((third : ℝ) - 1) * 2 ^ place'' ≤ (((second : ℝ) - 1 / 2) * 2 ^ place') ^ 2 ∧
      (((second : ℝ) - 1 / 2) * 2 ^ place') ^ 2 < third * 2 ^ place'') :
    first * 2 ^ place ≤ product ↔ ((third : ℝ) - 1 / 2) * 2 ^ place'' < ratio := by
  have second_ge : (1 : ℝ) ≤ second := by exact_mod_cast (by omega : 1 ≤ second)
  rw [scaled.digits_le_iff first_range.1 first_range.2, if_pos first_even,
    ← div_le_iff₀ (by norm_num),
    rooted.le_iff second_range.1 second_range.2 second_between.1 second_between.2,
    if_neg second_odd, Real.lt_sqrt (mul_nonneg (by linarith) (by positivity)),
    divided.lt_iff third_range.1 third_range.2 third_between.1 third_between.2, if_neg third_odd]

/-- The level of gray of a count is that of the background.  This is so between about 0.85 and 0.92
percent of the largest count. -/
def Faint (count highest : ℕ) : Prop :=
  18238337 * significant highest < 2 ^ 31 * significant count ∧
    2 ^ 31 * significant count ≤ 19823561 * significant highest

instance (count highest : ℕ) : Decidable (Faint count highest) := by
  unfold Faint; infer_instance

/-- The level of gray is 24 exactly for faint counts. -/
theorem Shares.floor_eq_iff {count highest : ℕ} {product : ℝ} (shares : Shares count highest single)
    (highest_pos : 0 < highest) (scaled : RoundsTo (single.value * 255) product) :
    ⌊product + 1 / 2⌋₊ = 24 ↔ Faint count highest := by
  obtain ⟨quotient, divided, rooted⟩ := shares.rounded
  have positive : (0 : ℝ) < significant highest :=
    (roundsTo_significant highest_pos).hasDigits.pos
  have product_nonneg : 0 ≤ product := scaled.hasDigits.pos.le
  have lower : ((12320768 : ℕ) : ℝ) * 2 ^ (-19 : ℤ) ≤ product ↔
      ((9119169 : ℕ) - 1 / 2 : ℝ) * 2 ^ (-30 : ℤ) < significant count / significant highest :=
    reaches_iff divided rooted scaled 12369085 (-27) (by decide) (by decide)
      (by decide) (by decide) (by decide) (by decide) (by norm_num) (by norm_num)
  have upper : ((12845056 : ℕ) : ℝ) * 2 ^ (-19 : ℤ) ≤ product ↔
      ((9911781 : ℕ) - 1 / 2 : ℝ) * 2 ^ (-30 : ℤ) < significant count / significant highest :=
    reaches_iff divided rooted scaled 12895429 (-27) (by decide) (by decide)
      (by decide) (by decide) (by decide) (by decide) (by norm_num) (by norm_num)
  rw [lt_div_iff₀ positive] at lower upper
  have reached : 47 / 2 ≤ product ↔
      18238337 * significant highest < 2 ^ 31 * significant count := by
    rw [show (47 / 2 : ℝ) = (12320768 : ℕ) * 2 ^ (-19 : ℤ) by norm_num, lower, ← @Nat.cast_lt ℝ]
    push_cast
    constructor <;> intro less <;> linarith
  have passed : 49 / 2 ≤ product ↔
      19823561 * significant highest < 2 ^ 31 * significant count := by
    rw [show (49 / 2 : ℝ) = (12845056 : ℕ) * 2 ^ (-19 : ℤ) by norm_num, upper, ← @Nat.cast_lt ℝ]
    push_cast
    constructor <;> intro less <;> linarith
  rw [Nat.floor_eq_iff (by linarith), Faint, ← reached, ← @not_lt ℕ, ← passed, not_le]
  push_cast
  constructor
  · rintro ⟨above, below⟩
    constructor <;> linarith
  · rintro ⟨above, below⟩
    constructor <;> linarith

/-! ## Colours of shares -/

namespace Colormap

variable {count highest : ℕ}

/-- Shares are not changed by the bounds between which they lie. -/
theorem clamp_share (holds : Holds value single) (share_le : single.value ≤ 1) :
    clampFloat32 0 1 value = value :=
  holds.clamp_eq one_pos (by decide) (by exact_mod_cast share_le)

theorem grayscale_eq_background_iff (holds : Holds value single)
    (shares : Shares count highest single) (highest_pos : 0 < highest) :
    grayscale.apply value = .background ↔ Faint count highest := by
  obtain ⟨product, scaled, level_eq, -⟩ :=
    holds.exists_level (le_trans (by norm_num) shares.share_ge) shares.share_le
  rw [← shares.floor_eq_iff highest_pos scaled, ← level_eq]
  have level_iff : nearestByte (value * 255) = 24 ↔ (nearestByte (value * 255)).toNat = 24 :=
    UInt8.toNat_inj.symm
  simp only [apply, clamp_share holds shares.share_le, Colour.background, Colour.mk.injEq,
    level_iff, and_self, and_true]

/-- A level as low as that of the background means a small share. -/
theorem lt_of_level {share product : ℝ} (scaled : RoundsTo (share * 255) product)
    (level_eq : ⌊product + 1 / 2⌋₊ = 24) : share < 1 / 8 := by
  by_contra large
  have product_ge : ((25 : ℕ) : ℝ) ≤ product := by
    apply scaled.ge_of_hasDigits (.of_nat (by decide) (by decide))
    norm_num
    linarith
  have below := Nat.lt_floor_add_one (product + 1 / 2)
  rw [level_eq] at below
  norm_num at below product_ge
  linarith

/-- The square of a small share has a level near zero. -/
theorem level_le_of_square {share square product : ℝ} (share_nonneg : 0 ≤ share)
    (share_lt : share < 1 / 8) (squared : RoundsTo (share * share) square)
    (scaled : RoundsTo (square * 255) product) : ⌊product + 1 / 2⌋₊ ≤ 4 := by
  have square_le : square ≤ 2 ^ (-6 : ℤ) := by
    apply squared.le_of_hasDigits (.of_pow _)
    norm_num
    nlinarith
  have product_le : product ≤ (4 : ℕ) := by
    apply scaled.le_of_hasDigits (.of_nat (by decide) (by decide))
    norm_num at square_le ⊢
    linarith
  have product_pos := scaled.hasDigits.pos
  apply Nat.lt_succ_iff.mp
  rw [Nat.floor_lt (by linarith)]
  norm_num at product_le ⊢
  linarith

/-- Where green is as in the background, the share is so small that its square leaves hardly any
red. -/
theorem viridis_ne_background (holds : Holds value single)
    (shares : Shares count highest single) : viridis.apply value ≠ .background := by
  have share_ge := shares.share_ge
  have share_le := shares.share_le
  have share_pos := single.value_pos
  have square_ge : 2 ^ (-64 : ℤ) ≤ single.value * single.value := by
    calc (2 : ℝ) ^ (-64 : ℤ) = 2 ^ (-32 : ℤ) * 2 ^ (-32 : ℤ) := by norm_num
      _ ≤ single.value * single.value := by gcongr
  have square_le : single.value * single.value ≤ 1 := mul_le_one₀ share_le share_pos.le share_le
  obtain ⟨square, heldSquare, squared⟩ := holds.mul holds
    (le_trans (by norm_num) square_ge) (square_le.trans_lt (by norm_num))
  obtain ⟨green, greenScaled, -, green_eq⟩ :=
    holds.exists_level (le_trans (by norm_num) share_ge) share_le
  obtain ⟨red, redScaled, -, red_eq⟩ :=
    heldSquare.exists_level (squared.ge_of_hasDigits (.of_pow _) square_ge)
      (squared.le_of_hasDigits .one square_le)
  intro background
  simp only [apply, clamp_share holds share_le, Colour.background, Colour.mk.injEq] at background
  have green_level := green_eq.symm.trans (congrArg UInt8.toNat background.2.1)
  have red_level := red_eq.symm.trans (congrArg UInt8.toNat background.1)
  have red_le := level_le_of_square share_pos.le (lt_of_level greenScaled green_level) squared
    redScaled
  rw [red_level] at red_le
  exact absurd red_le (by decide)

theorem hot_ne_background (value : Float32) : hot.apply value ≠ .background := by
  intro background
  rw [apply] at background
  have red : (255 : UInt8) = 24 := by
    split at background <;> exact congrArg Colour.red background
  exact absurd red (by decide)

theorem green_ne_background (value : Float32) : green.apply value ≠ .background := by
  intro background
  have red : (0 : UInt8) = 24 := congrArg Colour.red background
  exact absurd red (by decide)

/-- The colour of a cell with a count is that of the background only for faint counts, and only in
gray. -/
theorem cellColour_eq_background_iff (colormap : Colormap) (count_pos : 0 < count)
    (count_le : count ≤ highest) (highest_le : highest ≤ word64Max) :
    colormap.cellColour highest count = .background ↔
      colormap = .grayscale ∧ Faint count highest := by
  obtain ⟨share, holds, shares⟩ := exists_shares count_pos count_le highest_le
  rw [cellColour, if_neg count_pos.ne']
  cases colormap with
  | grayscale => simp [grayscale_eq_background_iff holds shares (count_pos.trans_le count_le)]
  | hot => simp [hot_ne_background]
  | viridis => simp [viridis_ne_background holds shares]
  | green => simp [green_ne_background]

end Colormap

/-! ## Pictures -/

namespace Histograms

variable {histograms : Histograms} {scale column row : Nat} {colormap : Colormap} {raster : Raster}
  {projection : Projection}

theorem pixel?_of_covers (drawn : histograms.draw scale colormap = .ok raster)
    (covers : projection.Covers histograms.grid.toExtents scale column row) :
    raster.pixel? column row = some ((histograms.plane projection).pixelColour scale colormap
      (column - projection.left histograms.grid.toExtents scale) row) := by
  obtain ⟨⟨width, height⟩, size, same⟩ := bind_eq_ok_iff.mp drawn
  cases same
  have drawable := drawable_of_drawableSize size
  obtain ⟨columnsInside, rowsInside⟩ := drawable.panel projection
  have beforeRight := covers.2.1
  have above := covers.2.2
  rw [pixel?_raster drawable, if_pos ⟨by omega, by omega⟩, pixelColour_of_covers covers]

/-- The cell of a covered pixel is one of the plane. -/
theorem count_le_highest
    (covers : projection.Covers histograms.grid.toExtents scale column row) :
    (histograms.plane projection).count (row / scale)
        ((column - projection.left histograms.grid.toExtents scale) / scale) ≤
      (histograms.plane projection).highest := by
  obtain ⟨afterLeft, beforeRight, above⟩ := covers
  have rowInside := Nat.div_lt_of_lt_mul above
  have colInside : (column - projection.left histograms.grid.toExtents scale) / scale <
      projection.cols histograms.grid.toExtents := Nat.div_lt_of_lt_mul (by omega)
  exact ((histograms.plane projection).isGreatest_highest (Nat.zero_lt_of_lt rowInside)
    (Nat.zero_lt_of_lt colInside)).2 ⟨_, rowInside, _, colInside, rfl⟩

/-- A cell with a count is drawn in the colour of the background exactly if the picture is in gray
and the ratio of the count to the largest one, both rounded to 24 binary digits, is above
18238337 / 2³¹ and at most 19823561 / 2³¹.  This is so for the colour of any two counts that are
64-bit words, and so for each pixel of a picture's panels. -/
theorem occupied_cells_hidden_iff (histograms : Histograms) (scale : Nat) (colormap : Colormap) :
    (∀ count highest : Nat, 1 ≤ count → count ≤ highest → highest ≤ word64Max →
      (colormap.cellColour highest count = .background ↔
        colormap = .grayscale ∧ Faint count highest)) ∧
    ∀ raster : Raster, histograms.draw scale colormap = .ok raster →
      ∀ (projection : Projection) (column row : Nat),
        projection.Covers histograms.grid.toExtents scale column row →
          let plane := histograms.plane projection
          let count := plane.count (row / scale)
            ((column - projection.left histograms.grid.toExtents scale) / scale)
          1 ≤ count → plane.highest ≤ word64Max →
            (raster.pixel? column row = some .background ↔
              colormap = .grayscale ∧ Faint count plane.highest) := by
  refine ⟨fun count highest count_pos count_le highest_le =>
    colormap.cellColour_eq_background_iff count_pos count_le highest_le, ?_⟩
  intro raster drawn projection column row covers plane count count_pos highest_le
  rw [pixel?_of_covers drawn covers, Option.some_inj]
  exact colormap.cellColour_eq_background_iff count_pos (count_le_highest covers) highest_le

/-- Next to a cell with 113 hits a cell with one hit is lost. -/
theorem sparse_cell_is_hidden :
    let grid : Grid := ⟨⟨2, 1, 1⟩, by decide, by decide, by decide, by decide⟩
    let cells : List Coordinate := List.replicate 113 ⟨0, 0, 0⟩ ++ [⟨1, 0, 0⟩]
    let histograms := cells.foldl tally (zero grid)
    (histograms.plane .xy).highest = 113 ∧ (histograms.plane .xy).count 0 1 = 1 ∧
      ∃ raster, histograms.draw 1 .grayscale = .ok raster ∧
        raster.pixel? 1 0 = some .background := by
  intro grid cells histograms
  have extents : histograms.grid.toExtents = ⟨2, 1, 1⟩ := by decide +kernel
  refine ⟨by decide +kernel, by decide +kernel, histograms.raster 1 .grayscale 13 1, ?_,
    by decide +kernel⟩
  rw [draw, extents]
  rfl

end Histograms

end HitMonitor
