import HitMonitor.Proofs.Except
import HitMonitor.Word

/-!
# Arithmetic in machine words

The library counts with natural numbers.  A machine stops where a result does not fit its word,
where a smaller number should be left after more is taken away than there is, where a divisor is
zero and where a position lies outside a sequence.  The operations here stop there too, so a
calculation that is carried out with them and does not stop is the same on a machine.
-/

namespace HitMonitor

/-- Why a calculation in machine words stops. -/
inductive WordFault where
  | overflow
  | underflow
  | zeroDivisor
  | outOfBounds
  deriving DecidableEq, Repr

namespace Machine

/-- A result that has to fit a word, the largest of which is given. -/
def fit (largest result : Nat) : Except WordFault Nat :=
  if result ≤ largest then .ok result else .error .overflow

def difference (left right : Nat) : Except WordFault Nat :=
  if right ≤ left then .ok (left - right) else .error .underflow

def quotient (left right : Nat) : Except WordFault Nat :=
  if right = 0 then .error .zeroDivisor else .ok (left / right)

def remainder (left right : Nat) : Except WordFault Nat :=
  if right = 0 then .error .zeroDivisor else .ok (left % right)

/-- The item at a position of a sequence. -/
def item {Value : Type} (items : Array Value) (position : Nat) : Except WordFault Value :=
  match items[position]? with
  | some value => .ok value
  | none => .error .outOfBounds

/-- The first items of a sequence, which has to hold as many. -/
def front {Value : Type} (items : List Value) (count : Nat) : Except WordFault (List Value) :=
  if count ≤ items.length then .ok (items.take count) else .error .outOfBounds

/-! ## Where nothing stops -/

theorem fit_eq_ok {largest result : Nat} (fits : result ≤ largest) :
    fit largest result = .ok result := if_pos fits

theorem difference_eq_ok {left right : Nat} (enough : right ≤ left) :
    difference left right = .ok (left - right) := if_pos enough

theorem quotient_eq_ok {left right : Nat} (positive : 0 < right) :
    quotient left right = .ok (left / right) := if_neg (Nat.ne_of_gt positive)

theorem remainder_eq_ok {left right : Nat} (positive : 0 < right) :
    remainder left right = .ok (left % right) := if_neg (Nat.ne_of_gt positive)

theorem item_eq_ok {Value : Type} {items : Array Value} {position : Nat} {value : Value}
    (found : items[position]? = some value) : item items position = .ok value := by
  simp only [item, found]

theorem front_eq_ok {Value : Type} {items : List Value} {count : Nat}
    (enough : count ≤ items.length) : front items count = .ok (items.take count) :=
  if_pos enough

theorem mapM_eq_ok {Value Result : Type} {values : List Value}
    {step : Value → Except WordFault Result} {result : Value → Result}
    (each : ∀ value ∈ values, step value = .ok (result value)) :
    values.mapM step = .ok (values.map result) := by
  induction values with
  | nil => rfl
  | cons value values ih =>
      rw [List.forall_mem_cons] at each
      rw [List.mapM_cons, each.1, ok_bind, ih each.2, ok_bind, pure_eq_ok, List.map_cons]

end Machine

end HitMonitor
