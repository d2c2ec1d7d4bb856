/-!
# ChaCha key stream

A block of the key stream is sixteen words that depend on nothing but a key and the number of the
block.  The words are kept as four rows of four, so that one round works on all columns at once and
the diagonals become columns by turning the rows.
-/

namespace HitMonitor.ChaCha

/-- Four words side by side. -/
structure Row where
  first : UInt32
  second : UInt32
  third : UInt32
  fourth : UInt32
  deriving DecidableEq, Repr

namespace Row

def zipWith (combine : UInt32 → UInt32 → UInt32) (left right : Row) : Row :=
  ⟨combine left.first right.first, combine left.second right.second,
    combine left.third right.third, combine left.fourth right.fourth⟩

instance : Add Row := ⟨zipWith (· + ·)⟩

instance : XorOp Row := ⟨zipWith (· ^^^ ·)⟩

/-- Rotate the bits of each word to the left. -/
def rotateBits (row : Row) (amount : UInt32) : Row :=
  let rotate (word : UInt32) := (word <<< amount) ||| (word >>> (32 - amount))
  ⟨rotate row.first, rotate row.second, rotate row.third, rotate row.fourth⟩

/-- Turn the row by one place to the left. -/
def turn (row : Row) : Row := ⟨row.second, row.third, row.fourth, row.first⟩

def toList (row : Row) : List UInt32 := [row.first, row.second, row.third, row.fourth]

end Row

/-- Four rows of four words. -/
structure Square where
  top : Row
  upper : Row
  lower : Row
  bottom : Row
  deriving DecidableEq, Repr

namespace Square

instance : Add Square where
  add left right :=
    ⟨left.top + right.top, left.upper + right.upper, left.lower + right.lower,
      left.bottom + right.bottom⟩

/-- Mix each column. -/
def mixColumns (square : Square) : Square :=
  let top := square.top + square.upper
  let bottom := (square.bottom ^^^ top).rotateBits 16
  let lower := square.lower + bottom
  let upper := (square.upper ^^^ lower).rotateBits 12
  let top := top + upper
  let bottom := (bottom ^^^ top).rotateBits 8
  let lower := lower + bottom
  let upper := (upper ^^^ lower).rotateBits 7
  ⟨top, upper, lower, bottom⟩

/-- Mix the columns and then the diagonals. -/
def doubleRound (square : Square) : Square :=
  let square := square.mixColumns
  let square := mixColumns
    ⟨square.top, square.upper.turn, square.lower.turn.turn, square.bottom.turn.turn.turn⟩
  ⟨square.top, square.upper.turn.turn.turn, square.lower.turn.turn, square.bottom.turn⟩

def toList (square : Square) : List UInt32 :=
  square.top.toList ++ square.upper.toList ++ square.lower.toList ++ square.bottom.toList

end Square

/-- A key of eight words. -/
structure Key where
  upper : Row
  lower : Row
  deriving DecidableEq, Repr

/-- The words that every block starts with. -/
def blockConstants : Row := ⟨0x61707865, 0x3320646e, 0x79622d32, 0x6b206574⟩

/-- The start of a block: the constants, the key and the block number as two words. -/
def Key.start (key : Key) (number : UInt64) : Square :=
  ⟨blockConstants, key.upper, key.lower,
    ⟨number.toUInt32, (number >>> 32).toUInt32, 0, 0⟩⟩

/-- The number of rounds, two of which make a double round. -/
def rounds : Nat := 8

/-- The words of a block. -/
def Key.block (key : Key) (number : UInt64) : List UInt32 :=
  let start := key.start number
  (start + (rounds / 2).repeat Square.doubleRound start).toList

end HitMonitor.ChaCha
