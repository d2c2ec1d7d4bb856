import HitMonitor.Proofs.Synthetic.Draws
import HitMonitor.Synthetic.Message

/-!
# Shares of a plan

Any float can be asked for as the share of records outside the grid.  What a plan keeps of it is a
number between zero and one, or NaN, which stands for no record.  Everything follows from how a
float compares with zero and one.
-/

namespace HitMonitor

namespace Chance

open Float.Model

/-! ## Comparing floats -/

/-- How a float compares with another one, unless one of them is NaN. -/
def order? (left right : Float) : Option Ordering :=
  left.toModel.unpack.compare right.toModel.unpack

/-- Comparing the other way round gives the opposite. -/
theorem compare_swap (left right : UnpackedFloat) :
    right.compare left = (left.compare right).map Ordering.swap := by
  cases left with
  | notANumber =>
      cases right with
      | notANumber => rfl
      | zero sign => rfl
      | infinity sign => cases sign <;> rfl
      | finite sign => cases sign <;> rfl
  | zero sign =>
      cases right with
      | notANumber => rfl
      | zero other => rfl
      | infinity other => cases other <;> rfl
      | finite other => cases other <;> rfl
  | infinity sign =>
      cases right with
      | notANumber => cases sign <;> rfl
      | zero other => cases sign <;> rfl
      | infinity other => cases sign <;> cases other <;> rfl
      | finite other => cases sign <;> cases other <;> rfl
  | finite sign mantissa exponent =>
      cases right with
      | notANumber => cases sign <;> rfl
      | zero other => cases sign <;> rfl
      | infinity other => cases sign <;> cases other <;> rfl
      | finite other otherMantissa otherExponent =>
          have magnitudes : (compare otherExponent exponent).then (compare otherMantissa mantissa) =
              ((compare exponent otherExponent).then (compare mantissa otherMantissa)).swap := by
            rw [Ordering.swap_then, Int.compare_swap, Nat.compare_swap]
          cases sign with
          | positive =>
              cases other with
              | positive => exact congrArg some magnitudes
              | negative => rfl
          | negative =>
              cases other with
              | positive => rfl
              | negative => exact congrArg (fun order => some order.swap) magnitudes

theorem order?_swap (left right : Float) :
    order? right left = (order? left right).map Ordering.swap := compare_swap ..

theorem lt_iff_order? {left right : Float} : left < right ↔ order? left right = some .lt := by
  rw [lt_iff_unpack]
  exact beq_iff_eq

theorem beq_iff_order? {left right : Float} :
    (left == right) = true ↔ order? left right = some .eq := by
  rw [beq_eq_unpack]
  exact beq_iff_eq

theorem gt_iff_order? {left right : Float} : right < left ↔ order? left right = some .gt := by
  rw [lt_iff_order?, order?_swap]
  cases order? left right with
  | none => simp
  | some order => cases order <;> simp

theorem le_iff_order? {left right : Float} :
    left ≤ right ↔ order? left right = some .lt ∨ order? left right = some .eq := by
  have unfolded : left ≤ right ↔ (order? left right).any (·.isLE) = true := decide_eq_true_iff
  rw [unfolded]
  cases order? left right with
  | none => simp
  | some order => cases order <;> simp

theorem ge_iff_order? {left right : Float} :
    right ≤ left ↔ order? left right = some .gt ∨ order? left right = some .eq := by
  rw [le_iff_order?, order?_swap]
  cases order? left right with
  | none => simp
  | some order => cases order <;> simp

/-! ## Zero and one -/

/-- Where a float can lie. -/
inductive Place (share : Float) : Prop where
  | nowhere (zero : order? share 0 = none) (one : order? share 1 = none)
  | below (zero : order? share 0 = some .lt) (one : order? share 1 = some .lt)
  | zero (zero : order? share 0 = some .eq) (one : order? share 1 = some .lt)
  | above (order : Ordering) (zero : order? share 0 = some .gt) (one : order? share 1 = some order)

theorem place (share : Float) : Place share := by
  have zero : order? share 0 = share.toModel.unpack.compare (.zero .positive) := rfl
  have one : order? share 1 = share.toModel.unpack.compare
    (.finite .positive (2 ^ 52) (-52) (by decide)) := rfl
  cases unpacked : share.toModel.unpack with
  | notANumber =>
      rw [unpacked] at zero one
      exact .nowhere zero one
  | zero sign =>
      rw [unpacked] at zero one
      exact .zero zero one
  | infinity sign =>
      rw [unpacked] at zero one
      cases sign with
      | negative => exact .below zero one
      | positive => exact .above .gt zero one
  | finite sign =>
      rw [unpacked] at zero one
      cases sign with
      | negative => exact .below zero one
      | positive => exact .above _ zero one

theorem order?_of_isNaN {share : Float} (nan : share.isNaN = true) (other : Float) :
    order? share other = none := by
  have unpacked : share.toModel.unpack.isNaN = true := nan
  unfold order?
  cases form : share.toModel.unpack with
  | notANumber => rfl
  | zero => rw [form] at unpacked; cases unpacked
  | infinity => rw [form] at unpacked; cases unpacked
  | finite => rw [form] at unpacked; cases unpacked

/-- A share that never leads outside is not positive, and one that always does is one. -/
theorem not_pos_of_ofShare {share : Float} (never : ofShare share = .never) : ¬ 0 < share := by
  intro positive
  unfold ofShare at never
  split at never
  next => cases never
  next => cases never

theorem beq_one_of_ofShare {share : Float} (always : ofShare share = .always) :
    (share == 1) = true := by
  unfold ofShare at always
  split at always
  next one => exact one
  next => split at always <;> cases always

theorem pos_of_beq_one {share : Float} (one : (share == 1) = true) : 0 < share := by
  rw [beq_iff_order?] at one
  rw [gt_iff_order?]
  rcases place share with ⟨_, away⟩ | ⟨_, away⟩ | ⟨_, away⟩ | ⟨_, above, _⟩
  · rw [away] at one
    cases one
  · rw [away] at one
    cases one
  · rw [away] at one
    cases one
  · exact above

end Chance

namespace SyntheticPlan

open Chance

variable (plan : SyntheticPlan) {share : Float}

/-! ## What a plan keeps -/

theorem invalidShare_of_lt_zero (negative : share < 0) :
    (plan.withInvalidShare share).invalidShare = 0 := if_pos negative

theorem invalidShare_of_one_lt (notNegative : ¬ share < 0) (above : 1 < share) :
    (plan.withInvalidShare share).invalidShare = 1 := (if_neg notNegative).trans (if_pos above)

theorem invalidShare_of_between (notNegative : ¬ share < 0) (notAbove : ¬ 1 < share) :
    (plan.withInvalidShare share).invalidShare = share :=
  (if_neg notNegative).trans (if_neg notAbove)

/-- What is asked for with a share that is not positive, or with NaN, is no record outside the
grid. -/
theorem ofShare_of_nonpositive (nonpositive : share ≤ 0 ∨ share.isNaN = true) :
    ofShare (plan.withInvalidShare share).invalidShare = .never := by
  rcases place share with ⟨zero, one⟩ | ⟨zero, one⟩ | ⟨zero, one⟩ | ⟨order, zero, one⟩
  · rw [plan.invalidShare_of_between (by simp [lt_iff_order?, zero])
      (by simp [gt_iff_order?, one])]
    simp [ofShare, beq_iff_order?, gt_iff_order?, zero, one]
  · rw [plan.invalidShare_of_lt_zero (lt_iff_order?.mpr zero)]
    exact ofShare_of_beq_zero rfl
  · rw [plan.invalidShare_of_between (by simp [lt_iff_order?, zero])
      (by simp [gt_iff_order?, one])]
    exact ofShare_of_beq_zero (beq_iff_order?.mpr zero)
  · rcases nonpositive with le | nan
    · simp [le_iff_order?, zero] at le
    · simp [order?_of_isNaN nan] at zero

/-- What is asked for with a share of one or more is no record on the grid. -/
theorem ofShare_of_one_le (le : 1 ≤ share) :
    ofShare (plan.withInvalidShare share).invalidShare = .always := by
  have reached := ge_iff_order?.mp le
  rcases place share with ⟨zero, one⟩ | ⟨zero, one⟩ | ⟨zero, one⟩ | ⟨order, zero, one⟩
  · simp [one] at reached
  · simp [one] at reached
  · simp [one] at reached
  · have notNegative : ¬ share < 0 := by simp [lt_iff_order?, zero]
    rcases reached with above | same
    · rw [plan.invalidShare_of_one_lt notNegative (gt_iff_order?.mpr above)]
      exact ofShare_of_beq_one rfl
    · rw [plan.invalidShare_of_between notNegative (by simp [gt_iff_order?, same])]
      exact ofShare_of_beq_one (beq_iff_order?.mpr same)

/-- What is kept is a chance as soon as it is positive. -/
theorem invalidShare_mem (positive : 0 < (plan.withInvalidShare share).invalidShare) :
    0 ≤ (plan.withInvalidShare share).invalidShare ∧
      (plan.withInvalidShare share).invalidShare ≤ 1 := by
  rcases place share with ⟨zero, one⟩ | ⟨zero, one⟩ | ⟨zero, one⟩ | ⟨order, zero, one⟩
  · rw [plan.invalidShare_of_between (by simp [lt_iff_order?, zero])
      (by simp [gt_iff_order?, one]), gt_iff_order?, zero] at positive
    cases positive
  · rw [plan.invalidShare_of_lt_zero (lt_iff_order?.mpr zero)] at positive
    exact absurd positive (by decide)
  · rw [plan.invalidShare_of_between (by simp [lt_iff_order?, zero])
      (by simp [gt_iff_order?, one]), gt_iff_order?, zero] at positive
    cases positive
  · have notNegative : ¬ share < 0 := by simp [lt_iff_order?, zero]
    by_cases above : 1 < share
    · rw [plan.invalidShare_of_one_lt notNegative above]
      decide
    · rw [plan.invalidShare_of_between notNegative above]
      rw [gt_iff_order?, one] at above
      refine ⟨ge_iff_order?.mpr (.inl zero), le_iff_order?.mpr ?_⟩
      rw [one]
      cases order <;> simp at above ⊢

end SyntheticPlan

end HitMonitor
