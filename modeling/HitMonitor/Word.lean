/-!
# Machine words

Sizes, counts and offsets are natural numbers here.  Where a format or a limit speaks of 32-bit or
64-bit words, the largest word is named once, and a product or sum that has to fit is formed by an
operation that says so.
-/

namespace HitMonitor

/-- The largest 16-bit word. -/
def word16Max : Nat := 0xffff

/-- The largest 32-bit word. -/
def word32Max : Nat := 0xffffffff

/-- The largest 64-bit word. -/
def word64Max : Nat := 0xffffffffffffffff

theorem word32Max_le_word64Max : word32Max ≤ word64Max := by decide

/-- The product of two numbers, unless it exceeds `limit`. -/
def mulWithin? (limit left right : Nat) : Option Nat :=
  if left * right ≤ limit then some (left * right) else none

/-- The sum of two numbers, unless it exceeds `limit`. -/
def addWithin? (limit left right : Nat) : Option Nat :=
  if left + right ≤ limit then some (left + right) else none

theorem mulWithin?_eq_some_iff {limit left right result : Nat} :
    mulWithin? limit left right = some result ↔ left * right ≤ limit ∧ left * right = result := by
  simp only [mulWithin?, Option.ite_none_right_eq_some, Option.some.injEq]

theorem addWithin?_eq_some_iff {limit left right result : Nat} :
    addWithin? limit left right = some result ↔ left + right ≤ limit ∧ left + right = result := by
  simp only [addWithin?, Option.ite_none_right_eq_some, Option.some.injEq]

/-- The product of two numbers, held at the largest 64-bit word. -/
def cappedMul (left right : Nat) : Nat := min (left * right) word64Max

end HitMonitor
