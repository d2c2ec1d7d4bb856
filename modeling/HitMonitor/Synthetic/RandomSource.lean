/-!
# Sources of random draws

Whatever hands out random bytes, decides whether an event happens and picks numbers from ranges can
make synthetic messages.  Only what is relied on of a source is said here; how likely a draw is does
not matter.
-/

namespace HitMonitor

/-- A source of random draws that keeps a state. -/
structure RandomSource (State : Type) where
  /-- Bytes, as many as are asked for. -/
  bytes : (count : Nat) → State → List UInt8 × State
  /-- Whether an event with a chance happens. -/
  happens : (chance : Float) → State → Bool × State
  /-- A number from a range. -/
  between : (low high : Nat) → State → Nat × State

namespace RandomSource

variable {State Value : Type}

/-- What is relied on of a source. -/
structure Sound (source : RandomSource State) : Prop where
  length_bytes : ∀ count state, (source.bytes count state).1.length = count
  happens_one : ∀ chance state, (chance == 1) = true → (source.happens chance state).1 = true
  between_mem : ∀ low high state, low ≤ high →
    low ≤ (source.between low high state).1 ∧ (source.between low high state).1 ≤ high

/-- Draw a number of values one after another, behind those in `drawn`. -/
def repeatedly (draw : State → Value × State) :
    (count : Nat) → (drawn : Array Value) → State → Array Value × State
  | 0, drawn, state => (drawn, state)
  | count + 1, drawn, state =>
      let (value, state) := draw state
      repeatedly draw count (drawn.push value) state

end RandomSource

end HitMonitor
