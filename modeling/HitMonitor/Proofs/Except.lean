/-!
# Calculations that can be refused

When a calculation in several steps has a result, each of its steps has one.
-/

namespace HitMonitor

variable {Fault Value Result : Type}

@[simp] theorem ok_bind (value : Value) (next : Value → Except Fault Result) :
    (Except.ok value >>= next) = next value := rfl

@[simp] theorem pure_eq_ok (value : Value) : (pure value : Except Fault Value) = .ok value := rfl

theorem bind_eq_ok_iff {first : Except Fault Value} {next : Value → Except Fault Result}
    {result : Result} :
    (first >>= next) = .ok result ↔ ∃ value, first = .ok value ∧ next value = .ok result := by
  cases first with
  | error fault => simp [bind, Except.bind]
  | ok value => simp [bind, Except.bind]

theorem map_eq_ok_iff {first : Except Fault Value} {change : Value → Result} {result : Result} :
    first.map change = .ok result ↔ ∃ value, first = .ok value ∧ change value = result := by
  cases first with
  | error fault => simp [Except.map]
  | ok value => simp [Except.map]

theorem mapError_eq_ok_iff {Wrapped : Type} {first : Except Fault Value}
    {wrap : Fault → Wrapped} {value : Value} :
    first.mapError wrap = .ok value ↔ first = .ok value := by
  cases first with
  | error fault =>
      constructor
      · intro same
        cases same
      · intro same
        cases same
  | ok found =>
      constructor
      · intro same
        cases same
        rfl
      · intro same
        cases same
        rfl

/-! ## Results without their reasons -/

@[simp] theorem toOption_ok (value : Value) :
    (Except.ok value : Except Fault Value).toOption = some value := rfl

@[simp] theorem toOption_error (fault : Fault) :
    (Except.error fault : Except Fault Value).toOption = none := rfl

theorem toOption_eq_some_iff {first : Except Fault Value} {value : Value} :
    first.toOption = some value ↔ first = .ok value := by
  cases first <;> simp

theorem toOption_eq_none_iff {first : Except Fault Value} :
    first.toOption = none ↔ ∃ fault, first = .error fault := by
  cases first <;> simp

theorem toOption_bind (first : Except Fault Value) (next : Value → Except Fault Result) :
    (first >>= next).toOption = first.toOption.bind fun value => (next value).toOption := by
  cases first <;> rfl

theorem toOption_map (first : Except Fault Value) (change : Value → Result) :
    (first.map change).toOption = first.toOption.map change := by
  cases first <;> rfl

end HitMonitor
