import HitMonitor.Storage.Error
import HitMonitor.Synthetic.Generator

/-!
# Synthetic messages

A synthetic message is made of random bytes with a pixel index written into each record.  Indices
lie on the grid as far as sixteen bits can say; a given share of them lies outside instead: zero or,
where the grid leaves room, an index above it.
-/

namespace HitMonitor

namespace RandomSource

variable {State : Type}

/-- Draw an index outside a grid whose highest index is given. -/
def drawOutside (source : RandomSource State) (highest : Nat) (state : State) : Nat × State :=
  if highest < word16Max then
    let (above, state) := source.happens 0.5 state
    if above then source.between (highest + 1) word16Max state else (0, state)
  else (0, state)

/-- Draw one index, outside the grid with the given share. -/
def drawIndex (source : RandomSource State) (highest : Nat) (share : Float) (state : State) :
    Nat × State :=
  let (outside, state) := if 0 < share then source.happens share state else (false, state)
  if outside then source.drawOutside highest state else source.between 1 highest state

end RandomSource

/-- What synthetic messages are made of. -/
structure SyntheticPlan where
  grid : Grid
  layout : Layout
  /-- Records per message. -/
  records : Nat
  seed : Nat
  /-- The share of records with an index outside the grid. -/
  invalidShare : Float

namespace SyntheticPlan

def standard : SyntheticPlan where
  grid := .demonstrator
  layout := .standard
  records := RecordReader.standardRecords
  seed := 0
  invalidShare := 0

/-- Set the share of records outside the grid, held between zero and one.  NaN is kept and stands
for none. -/
def withInvalidShare (plan : SyntheticPlan) (share : Float) : SyntheticPlan :=
  { plan with invalidShare := if share < 0 then 0 else if 1 < share then 1 else share }

def generator (plan : SyntheticPlan) : Generator := .ofSeed plan.seed

/-- The highest index of a grid that a pixel index field can hold. -/
def highestIndex (grid : Grid) : Nat := min grid.cells word16Max

/-- Write indices into the index fields of the records that make up some bytes. -/
def writeIndices (layout : Layout) (indices : Array Nat) (bytes : List UInt8) : List UInt8 :=
  bytes.mapIdx fun position byte =>
    let place := position % layout.stride
    if place = layout.indexOffset then
      (indices.getD (position / layout.stride) 0).toUInt8
    else if place = layout.indexOffset + 1 then
      (indices.getD (position / layout.stride) 0 / 256).toUInt8
    else byte

/-- The number of bytes of a message, if a frame can hold them. -/
def messageBytes (plan : SyntheticPlan) : Except StorageError Nat := do
  plan.layout.validate.mapError .record
  match mulWithin? word32Max plan.records plan.layout.stride with
  | some length => return length
  | none => .error (.format (.recordsTooLong plan.records plan.layout.stride))

/-- Make one message with the draws of a source. -/
def messageFrom {State : Type} (plan : SyntheticPlan) (source : RandomSource State)
    (state : State) : Except StorageError (List UInt8 × State) := do
  let length ← plan.messageBytes
  let (filling, state) := source.bytes length state
  let draw := source.drawIndex (highestIndex plan.grid) plan.invalidShare
  let (indices, state) := RandomSource.repeatedly draw plan.records #[] state
  return (writeIndices plan.layout indices filling, state)

/-- Make one message with the draws of a generator. -/
def message (plan : SyntheticPlan) (generator : Generator) :
    Except StorageError (List UInt8 × Generator) :=
  plan.messageFrom Generator.source generator

end SyntheticPlan

end HitMonitor
