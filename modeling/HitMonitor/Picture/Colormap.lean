/-!
# Colours

A count is drawn in a colour that depends on its share of the plane's largest count.  Shares, square
roots and channels are binary32 numbers; a channel is rounded to the nearest byte, a half going up.
-/

namespace HitMonitor

structure Colour where
  red : UInt8
  green : UInt8
  blue : UInt8
  alpha : UInt8
  deriving DecidableEq, Repr, Inhabited

namespace Colour

/-- Colour of gaps between panels and of cells without a hit. -/
def background : Colour := ⟨24, 24, 24, 255⟩

end Colour

/-- A number held within two bounds.  NaN is within no bounds and stays as it is. -/
def clampFloat32 (low high value : Float32) : Float32 :=
  if value < low then low else if high < value then high else value

/-- The nearest byte, a half going up.  Numbers outside the range go to its ends, NaN to zero. -/
def nearestByte (value : Float32) : UInt8 :=
  let held := clampFloat32 0 255 value
  let whole := held.toUInt8
  if 0.5 ≤ held - whole.toFloat32 then whole + 1 else whole

/-- The square root of a count's share of the largest count, so that sparse cells stay visible. -/
def normalizedShare (count highest : Nat) : Float32 :=
  if highest = 0 then 0
  else (Float32.ofNat count / Float32.ofNat highest).sqrt

/-- How shares between zero and one are coloured. -/
inductive Colormap where
  /-- From black to white. -/
  | grayscale
  /-- From red over yellow to white. -/
  | hot
  /-- From blue to yellow, an approximation of a perceptual scale. -/
  | viridis
  /-- From black to bright green. -/
  | green
  deriving DecidableEq, Repr

namespace Colormap

def standard : Colormap := .viridis

def all : List Colormap := [.grayscale, .hot, .viridis, .green]

def name : Colormap → String
  | .grayscale => "grayscale"
  | .hot => "hot"
  | .viridis => "viridis"
  | .green => "green"

/-- The colormap of a name, whose ASCII letters may have either case. -/
def ofName? (text : String) : Option Colormap :=
  match text.toLower with
  | "gray" | "grey" => some .grayscale
  | lowered => all.find? (·.name == lowered)

/-- The colour of a share. -/
def apply (colormap : Colormap) (share : Float32) : Colour :=
  let share := clampFloat32 0 1 share
  match colormap with
  | .grayscale =>
      let level := nearestByte (share * 255)
      ⟨level, level, level, 255⟩
  | .hot =>
      if share < 0.5 then ⟨255, nearestByte (share * 2 * 255), 0, 255⟩
      else ⟨255, 255, nearestByte ((share - 0.5) * 2 * 255), 255⟩
  | .viridis =>
      ⟨nearestByte (255 * (share * share)), nearestByte (255 * share),
        nearestByte (255 * (1 - share)), 255⟩
  | .green => ⟨0, nearestByte (share * 255), 0, 255⟩

/-- The colour of a cell in a plane whose largest count is `highest`. -/
def cellColour (colormap : Colormap) (highest count : Nat) : Colour :=
  if count = 0 then .background else colormap.apply (normalizedShare count highest)

end Colormap

end HitMonitor
