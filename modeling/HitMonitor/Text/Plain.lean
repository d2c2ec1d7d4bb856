/-!
# Plain text

A log may be read on a terminal, which takes some bytes as orders: control characters, and sequences
that begin with the escape byte.  `plain` leaves them out of a text.

The bytes are read from left to right.  What is kept comes in runs: a run begins at a byte that is
shown where the reader stands, and goes on as long as the bytes are ones that text outside of any
sequence shows.  A tab or a line break is shown within a sequence too, so it begins a run there, and
the sequence is only taken up again behind the run.
-/

namespace HitMonitor

/-- Where the reader of a text stands among the terminal's sequences. -/
inductive ControlState where
  /-- Outside of any sequence. -/
  | outside
  /-- Behind the escape byte. -/
  | escape
  /-- Behind the escape byte and a byte that calls for a further one. -/
  | escapeMore
  /-- In a control sequence, which a letter or a like sign ends. -/
  | sequence
  /-- At the start of a device string. -/
  | deviceStart
  /-- Among the parameters of a device string. -/
  | deviceParameters
  /-- Behind the parameters of a device string. -/
  | deviceMore
  /-- In a string that only its terminator ends. -/
  | string
  /-- In an order to the system of the terminal, which the bell ends. -/
  | order
  deriving DecidableEq, Repr

/-- Tab, line break, page break and carriage return. -/
def isBreak (byte : UInt8) : Bool :=
  byte == 0x09 || byte == 0x0a || byte == 0x0c || byte == 0x0d

/-- Whether a byte is the first one of a character beyond ASCII. -/
def isLead (byte : UInt8) : Bool := 0xc2 ≤ byte && byte ≤ 0xf4

/-- The number of bytes of a character behind its first one. -/
def bytesBehind (byte : UInt8) : Nat :=
  if ¬ isLead byte then 0
  else if byte < 0xe0 then 1
  else if byte < 0xf0 then 2
  else 3

namespace ControlState

/-- Whether a byte is shown. -/
def shows (state : ControlState) (byte : UInt8) : Bool :=
  match state with
  | .outside => isBreak byte || (0x20 ≤ byte && byte ≤ 0x7e) || isLead byte
  | .escape | .escapeMore | .sequence => isBreak byte
  | .deviceStart | .deviceParameters | .deviceMore | .string | .order => false

/-- The state behind a byte that is not shown. -/
def next (state : ControlState) (byte : UInt8) : ControlState :=
  let isMore := 0x20 ≤ byte && byte ≤ 0x2f
  let isFinal := 0x40 ≤ byte && byte ≤ 0x7e
  if byte = 0x1b then .escape
  else if byte = 0x18 ∨ byte = 0x1a then .outside
  else
    match state with
    | .outside => .outside
    | .escape =>
        if byte = 0x5b then .sequence
        else if byte = 0x5d then .order
        else if byte = 0x50 then .deviceStart
        else if byte = 0x58 ∨ byte = 0x5e ∨ byte = 0x5f then .string
        else if isMore then .escapeMore
        else if 0x30 ≤ byte ∧ byte ≤ 0x7e then .outside
        else .escape
    | .escapeMore => if 0x30 ≤ byte ∧ byte ≤ 0x7e then .outside else .escapeMore
    | .sequence => if isFinal then .outside else .sequence
    | .deviceStart =>
        if isFinal then .string
        else if isMore then .deviceMore
        else if 0x30 ≤ byte ∧ byte ≤ 0x3f then .deviceParameters
        else .deviceStart
    | .deviceParameters =>
        if isFinal ∨ (0x3c ≤ byte ∧ byte ≤ 0x3f) then .string
        else if isMore then .deviceMore
        else .deviceParameters
    | .deviceMore => if 0x30 ≤ byte ∧ byte ≤ 0x7e then .string else .deviceMore
    | .string => if byte = 0x9c then .outside else .string
    | .order => if byte = 0x07 then .outside else .order

end ControlState

/-- The reader of a text. -/
structure PlainReader where
  state : ControlState
  /-- Whether the byte before was kept. -/
  inRun : Bool
  /-- Bytes still to come of the character that is being kept. -/
  behind : Nat
  deriving DecidableEq, Repr

namespace PlainReader

def start : PlainReader := ⟨.outside, false, 0⟩

/-- Whether the next byte is kept, and the reader behind it. -/
def step (reader : PlainReader) (byte : UInt8) : Bool × PlainReader :=
  if 0 < reader.behind then
    (true, { reader with behind := reader.behind - 1 })
  else if (if reader.inRun then ControlState.outside else reader.state).shows byte then
    (true, ⟨if isLead byte then .outside else reader.state, true, bytesBehind byte⟩)
  else
    (false, ⟨reader.state.next byte, false, 0⟩)

/-- The bytes that are kept. -/
def keep : PlainReader → List UInt8 → List UInt8
  | _, [] => []
  | reader, byte :: rest =>
      let (kept, reader) := reader.step byte
      if kept then byte :: reader.keep rest else reader.keep rest

end PlainReader

/-- A text without control characters and terminal sequences. -/
def plain (text : String) : String :=
  let bytes := PlainReader.start.keep text.toUTF8.toList
  (String.fromUTF8? ⟨bytes.toArray⟩).getD ""

end HitMonitor
