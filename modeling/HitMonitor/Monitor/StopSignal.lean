/-!
# Stop signals

A signal is a flag that its copies share: once any copy is raised, all of them are.  A board holds
the flags that have been created; a signal says which of them it refers to.
-/

namespace HitMonitor

/-- A reference to one flag of a board. -/
@[ext]
structure StopSignal where
  flag : Nat
  deriving DecidableEq, Repr

/-- The flags created so far, each either raised or not. -/
structure SignalBoard where
  flags : List Bool
  deriving DecidableEq, Repr

namespace SignalBoard

def empty : SignalBoard := ⟨[]⟩

/-- Create a signal with a flag of its own. -/
def create (board : SignalBoard) : StopSignal × SignalBoard :=
  (⟨board.flags.length⟩, ⟨board.flags ++ [false]⟩)

/-- Raise the flag of a signal.  A flag is never taken down. -/
def raise (board : SignalBoard) (signal : StopSignal) : SignalBoard :=
  ⟨board.flags.set signal.flag true⟩

def isRaised (board : SignalBoard) (signal : StopSignal) : Bool :=
  board.flags.getD signal.flag false

/-- A signal refers to a flag of a board. -/
def Knows (board : SignalBoard) (signal : StopSignal) : Prop := signal.flag < board.flags.length

theorem knows_create (board : SignalBoard) : board.create.2.Knows board.create.1 := by
  simp [Knows, create]

theorem isRaised_create (board : SignalBoard) :
    board.create.2.isRaised board.create.1 = false := by
  simp [isRaised, create]

/-- All copies of a signal see it raised, as they refer to the same flag. -/
theorem isRaised_raise {board : SignalBoard} {signal : StopSignal} (knows : board.Knows signal) :
    (board.raise signal).isRaised signal = true := by
  have inside : signal.flag < board.flags.length := knows
  simp [isRaised, raise, inside]

/-- Signals with flags of their own stay as they are. -/
theorem isRaised_raise_of_ne (board : SignalBoard) {signal other : StopSignal}
    (different : other ≠ signal) :
    (board.raise signal).isRaised other = board.isRaised other := by
  have flags : signal.flag ≠ other.flag := fun same => different (StopSignal.ext same.symm)
  simp [isRaised, raise, List.getElem?_set_ne flags]

end SignalBoard

end HitMonitor
