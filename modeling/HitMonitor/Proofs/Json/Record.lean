import HitMonitor.Json.Record
import HitMonitor.Proofs.Except

/-!
# What reading a record keeps

A record is read through a partial result that one field after the other updates.  What the partial
result has at the start and every field keeps, the record has, whether it is written as an object
or as a list and whichever of its fields are there.
-/

namespace HitMonitor.Json

/-! ## Values -/

theorem refuseType_ne_ok {Value : Type} {expected : String} {input : Bytes} {value : Value} :
    refuseType expected input ≠ .ok value := by
  unfold refuseType
  split <;> exact fun impossible => by cases impossible

/-- No unsigned integer above its limit is read. -/
theorem readUnsigned_le {limit value : Nat} {name : String} {input rest : Bytes}
    (read : readUnsigned limit name input = .ok (value, rest)) : value ≤ limit := by
  unfold readUnsigned at read
  split at read
  next => cases read
  next =>
    split at read
    next =>
      simp only at read
      split at read
      next => cases read
      next =>
        split at read
        next inside =>
          cases read
          exact inside
        next => cases read
      next => cases read
      next => cases read
    next => exact (refuseType_ne_ok read).elim

/-- What is read of an optional value is read as the value itself. -/
theorem readOptional_eq_some {Value : Type} {read : Bytes → Except JsonError (Value × Bytes)}
    {input rest : Bytes} {value : Value} (found : readOptional read input = .ok (some value, rest)) :
    ∃ input, read input = .ok (value, rest) := by
  unfold readOptional at found
  split at found
  next =>
    split at found
    next =>
      obtain ⟨_, _, impossible⟩ := map_eq_ok_iff.mp found
      cases impossible
    next =>
      obtain ⟨⟨_, _⟩, same, wrapped⟩ := map_eq_ok_iff.mp found
      cases wrapped
      exact ⟨_, same⟩
  next =>
    obtain ⟨⟨_, _⟩, same, wrapped⟩ := map_eq_ok_iff.mp found
    cases wrapped
    exact ⟨_, same⟩

/-! ## Records -/

variable {Partial : Type} {Keeps : Partial → Prop}

/-- A field that turns a partial result with a property into one that has it too. -/
def RecordField.Preserves (field : RecordField Partial) (Keeps : Partial → Prop) : Prop :=
  ∀ ⦃result input next rest⦄, Keeps result → field.read result input = .ok (next, rest) →
    Keeps next

namespace RecordShape

variable {shape : RecordShape Partial} {result final : Partial} {input rest : Bytes}

theorem readItems_keeps {fields : List (RecordField Partial)}
    (each : ∀ field ∈ fields, field.Preserves Keeps) {count : Nat} (start : Keeps result)
    (read : shape.readItems fields count result input = .ok (final, rest)) : Keeps final := by
  induction fields generalizing count result input with
  | nil =>
      cases read
      exact start
  | cons field fields ih =>
      rw [List.forall_mem_cons] at each
      unfold readItems at read
      split at read
      next => cases read
      next =>
        split at read
        next => cases read
        next =>
          cases read
          exact start
      next =>
        split at read
        next => cases read
        next => exact ih each.2 (each.1 start ‹_›) read

theorem readMembers_keeps (each : ∀ field ∈ shape.fields, field.Preserves Keeps) {fuel : Nat}
    {isFirst : Bool} {seen : List String} (start : Keeps result)
    (read : shape.readMembers fuel isFirst seen result input = .ok (final, rest)) :
    Keeps final := by
  induction fuel generalizing isFirst seen result input with
  | zero => cases read
  | succ fuel ih =>
      unfold readMembers at read
      split at read
      next => cases read
      next =>
        split at read
        next => cases read
        next =>
          cases read
          exact start
      next =>
        obtain ⟨⟨key, behindKey⟩, _, read⟩ := bind_eq_ok_iff.mp read
        simp only at read
        split at read
        next field found =>
          split at read
          next => cases read
          next =>
            obtain ⟨behindColon, _, read⟩ := bind_eq_ok_iff.mp read
            obtain ⟨⟨next, behindValue⟩, value, read⟩ := bind_eq_ok_iff.mp read
            exact ih (each field (List.mem_of_find?_eq_some found) start value) read
        next =>
          obtain ⟨behindColon, _, read⟩ := bind_eq_ok_iff.mp read
          obtain ⟨behindValue, _, read⟩ := bind_eq_ok_iff.mp read
          exact ih start read

/-- A record has what its start has and its fields keep. -/
theorem read_keeps (each : ∀ field ∈ shape.fields, field.Preserves Keeps)
    (start : Keeps shape.start) (read : shape.read input = .ok (final, rest)) : Keeps final := by
  unfold RecordShape.read at read
  split at read
  next => cases read
  next =>
    split at read
    next =>
      obtain ⟨⟨result, behindItems⟩, items, read⟩ := bind_eq_ok_iff.mp read
      obtain ⟨_, _, same⟩ := bind_eq_ok_iff.mp read
      cases same
      exact readItems_keeps each start items
    next =>
      split at read
      next => exact readMembers_keeps each start read
      next => exact (refuseType_ne_ok read).elim

end RecordShape

/-- A document has what its value has. -/
theorem readDocument_keeps {Value : Type} {Keeps : Value → Prop}
    {read : Bytes → Except JsonError (Value × Bytes)}
    (each : ∀ ⦃input value rest⦄, read input = .ok (value, rest) → Keeps value) {input : Bytes}
    {value : Value} (found : readDocument read input = .ok value) : Keeps value := by
  obtain ⟨⟨result, rest⟩, first, found⟩ := bind_eq_ok_iff.mp found
  simp only at found
  split at found
  next =>
    cases found
    exact each first
  next => cases found

end HitMonitor.Json
