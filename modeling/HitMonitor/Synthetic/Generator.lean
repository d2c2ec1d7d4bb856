import HitMonitor.Capture.Frame
import HitMonitor.Synthetic.ChaCha
import HitMonitor.Synthetic.RandomSource
import HitMonitor.Word

/-!
# Random draws

A generator hands out the words of a key stream one after another; its key is spread from a 64-bit
seed.  Equal seeds give equal draws, and every draw says how many words it takes.  It is the source
of random draws that recordings use.
-/

namespace HitMonitor

/-- A key stream from some word on. -/
structure Generator where
  key : ChaCha.Key
  /-- Number of the next block. -/
  block : UInt64
  /-- Words of the current block that are still to be drawn. -/
  left : List UInt32
  deriving DecidableEq, Repr

namespace Generator

/-- One step of a seed. -/
def nextSeed (seed : UInt64) : UInt64 :=
  seed * 6364136223846793005 + 11634580027462260723

/-- The word that a seed stands for: some of its bits, rotated to the right by the highest five. -/
def seedWord (seed : UInt64) : UInt32 :=
  let mixed := (((seed >>> 18) ^^^ seed) >>> 27).toUInt32
  let amount := (seed >>> 59).toUInt32
  (mixed >>> amount) ||| (mixed <<< (32 - amount))

/-- Four words of a key and the seed after them. -/
def keyRow (seed : UInt64) : ChaCha.Row × UInt64 :=
  let first := nextSeed seed
  let second := nextSeed first
  let third := nextSeed second
  let fourth := nextSeed third
  (⟨seedWord first, seedWord second, seedWord third, seedWord fourth⟩, fourth)

/-- The generator of a seed. -/
def ofSeed (seed : Nat) : Generator :=
  let (upper, seed) := keyRow seed.toUInt64
  let (lower, _) := keyRow seed
  { key := ⟨upper, lower⟩, block := 0, left := [] }

/-- Draw one word. -/
def word (generator : Generator) : UInt32 × Generator :=
  match generator.left with
  | word :: left => (word, { generator with left := left })
  | [] =>
      let words := generator.key.block generator.block
      (words.headD 0, ⟨generator.key, generator.block + 1, words.tail⟩)

/-- Draw two words as one of twice the size, the low half first. -/
def longWord (generator : Generator) : UInt64 × Generator :=
  let (low, generator) := generator.word
  let (high, generator) := generator.word
  (low.toUInt64 ||| (high.toUInt64 <<< 32), generator)

/-- The number of bytes of a word. -/
def wordBytes : Nat := 4

/-- Draw bytes.  Words are drawn whole, and what is left of the last one is lost. -/
def bytes (count : Nat) (generator : Generator) : List UInt8 × Generator :=
  let (words, generator) :=
    RandomSource.repeatedly word ((count + wordBytes - 1) / wordBytes) #[] generator
  ((words.toList.flatMap fun word => littleEndian wordBytes word.toNat).take count, generator)

/-- Draw words until one is accepted, at most `redraws` further ones. -/
def wordUntil (accepted : UInt32 → Bool) : (redraws : Nat) → Generator → UInt32 × Generator
  | 0, generator => generator.word
  | redraws + 1, generator =>
      let (word, rest) := generator.word
      if accepted word then (word, rest) else wordUntil accepted redraws rest

/-- How often a word is drawn anew before it is taken as it is.  At least every second word is
accepted, so this many refusals in a row do not occur. -/
def mostRedraws : Nat := 1024

/-- Draw a number from `low` to `high`, each with the same chance.  A word is scaled to the width of
the range; words from the incomplete last part of the scale are refused. -/
def between (low high : Nat) (generator : Generator) : Nat × Generator :=
  let width := high - low + 1
  let zone := word32Max - (word32Max + 1) % width
  let accepted (word : UInt32) : Bool := word.toNat * width % (word32Max + 1) ≤ zone
  let (word, generator) := wordUntil accepted mostRedraws generator
  (low + word.toNat * width / (word32Max + 1), generator)

end Generator

/-- How likely an event is. -/
inductive Chance where
  | never
  | always
  /-- The event happens when a drawn long word lies below the threshold. -/
  | below (threshold : UInt64)
  deriving DecidableEq, Repr

namespace Chance

/-- As likely as not. -/
def even : Chance := .below 0x8000000000000000

/-- The chance of a share between zero and one.  Anything that is not positive never happens. -/
def ofShare (share : Float) : Chance :=
  if share == 1 then .always
  else if 0 < share then .below (share * 18446744073709551616.0).toUInt64
  else .never

/-- Decide whether an event happens.  Only an uncertain one takes words from the generator. -/
def draw (generator : Generator) : Chance → Bool × Generator
  | .never => (false, generator)
  | .always => (true, generator)
  | .below threshold =>
      let (drawn, generator) := generator.longWord
      (drawn < threshold, generator)

end Chance

/-- A generator as a source of random draws. -/
def Generator.source : RandomSource Generator where
  bytes := Generator.bytes
  happens chance generator := (Chance.ofShare chance).draw generator
  between := Generator.between

end HitMonitor
