import HitMonitor.Picture.Raster

/-!
# PNG files

A raster as a PNG file with eight bits for each of red, green, blue and alpha.  The pixels are
stored without compression, which every reader accepts.
-/

namespace HitMonitor.Png

/-- The high bytes of a 32-bit word first. -/
def bigEndian (number : Nat) : List UInt8 :=
  [number / 0x1000000, number / 0x10000, number / 0x100, number].map Nat.toUInt8

/-- One step of the checksum of a chunk for each bit of a byte. -/
def crcByte (crc : UInt32) (byte : UInt8) : UInt32 :=
  (List.range 8).foldl (fun crc _ =>
    if crc &&& 1 = 1 then (crc >>> 1) ^^^ 0xedb88320 else crc >>> 1) (crc ^^^ byte.toUInt32)

/-- The checksum of a chunk. -/
def crc (bytes : List UInt8) : Nat := (bytes.foldl crcByte 0xffffffff ^^^ 0xffffffff).toNat

/-- The checksum of a zlib stream. -/
def adler (bytes : List UInt8) : Nat :=
  let (low, high) := bytes.foldl (fun (low, high) byte =>
    let low := (low + byte.toNat) % 65521
    (low, (high + low) % 65521)) (1, 0)
  high * 0x10000 + low

/-- A chunk with its length, name and checksum. -/
def chunk (name : String) (data : List UInt8) : List UInt8 :=
  let body := name.toUTF8.toList ++ data
  bigEndian data.length ++ body ++ bigEndian (crc body)

/-- The longest stored block. -/
def longestBlock : Nat := 65535

/-- Data as stored blocks, the last one marked; `fuel` bounds their number. -/
def storedBlocks : (fuel : Nat) → List UInt8 → List UInt8
  | 0, _ => []
  | fuel + 1, data =>
      let block := data.take longestBlock
      let rest := data.drop longestBlock
      let length := block.length
      let header : List UInt8 :=
        [if rest.isEmpty then 1 else 0, length.toUInt8, (length / 256).toUInt8,
          (longestBlock - length).toUInt8, ((longestBlock - length) / 256).toUInt8]
      if rest.isEmpty then header ++ block else header ++ block ++ storedBlocks fuel rest

/-- Data as a zlib stream. -/
def zlib (data : List UInt8) : List UInt8 :=
  [0x78, 0x01] ++ storedBlocks (data.length / longestBlock + 1) data ++ bigEndian (adler data)

/-- The pixels of a run. -/
def runBytes (run : Run) : List UInt8 :=
  (List.replicate run.width
    [run.colour.red, run.colour.green, run.colour.blue, run.colour.alpha]).flatten

/-- The rows of a band, each behind a byte that says it is not filtered. -/
def bandBytes (band : Band) : List UInt8 :=
  (List.replicate band.height (0 :: band.runs.flatMap runBytes)).flatten

/-- A raster as a PNG file. -/
def encode (raster : Raster) : List UInt8 :=
  [0x89, 0x50, 0x4e, 0x47, 0x0d, 0x0a, 0x1a, 0x0a] ++
    chunk "IHDR" (bigEndian raster.width ++ bigEndian raster.height ++ [8, 6, 0, 0, 0]) ++
    chunk "IDAT" (zlib (raster.bands.flatMap bandBytes)) ++
    chunk "IEND" []

end HitMonitor.Png
