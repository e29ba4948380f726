import SessionRecorder.Picture.Checksum
import SessionRecorder.Picture.Scan
/-!
# Headers of PNG files

The chunks in front of the pixels. Each has a length, a name, data and a checksum over the last
two; the chunk `IHDR` announces the picture. Chunks that nothing is known about are passed over.

## Main definitions

* `Picture.Png.scan` — the header of a PNG file, behind its signature.
-/

namespace SessionRecorder.Picture.Png

/-- The kinds of colours that a chunk `IHDR` may name, with the numbers of bits they come in. -/
def colourDepths : List (Nat × List Nat) :=
  [(0, [1, 2, 4, 8, 16]), (2, [8, 16]), (3, [1, 2, 4, 8]), (4, [8, 16]), (6, [8, 16])]

/-- What the chunks so far announce. The kind of colours is none before it is known. -/
structure Announced where
  colour : Option Nat
  width : Nat
  height : Nat

/-- Nothing is announced. -/
def Announced.nothing : Announced :=
  ⟨none, 0, 0⟩

/-- Whether an octet may stand in the name of a chunk. -/
def isNameOctet (o : UInt8) : Bool :=
  let c := Char.ofNat o.toNat
  o < 0x80 && (c.isAlphanum || c == '_')

/-- The kind of colours that a chunk `IHDR` names, if it comes in the number of bits named there. -/
def colourOf (data : List UInt8) : Option Nat :=
  (colourDepths.find? fun entry =>
    entry.1 == octetAt data 9 && entry.2.contains (octetAt data 8)).map (·.1)

/-- The data of a chunk has a least length. -/
def atLeast (name : String) (count : Nat) (data : List UInt8) : Scan Unit :=
  if data.length < count then throw (.malformed (.shortChunk name)) else return ()

/-- How many octets of transparency a kind of colours needs. -/
def transparencyOctets : Option Nat → Nat
  | some 0 => 2
  | some 2 => 6
  | _ => 0

/-- Whether the data behind a name and a zero is compressed in the one known way. -/
def isPlainlyCompressed (data : List UInt8) : Bool :=
  match data.dropWhile (· != 0) with
  | _ :: method :: _ => method == 0
  | _ => true

/-- Whether the data of a colour profile names its compression, and that the one known way. -/
def isProfile (data : List UInt8) : Bool :=
  match data.dropWhile (· != 0) with
  | _ :: method :: _ => method == 0
  | _ => false

/-- What is announced after a chunk. -/
def Announced.after (a : Announced) (name : String) (data : List UInt8) : Scan Announced := do
  match name with
  | "IHDR" =>
    atLeast name 13 data
    Scan.require (octetAt data 11 == 0)
    return ⟨(colourOf data).or a.colour, bigEndian (slice data 0 4), bigEndian (slice data 4 4)⟩
  | "tRNS" => Scan.require (transparencyOctets a.colour ≤ data.length)
  | "gAMA" => Scan.require (4 ≤ data.length)
  | "cHRM" => Scan.require (data.length % 4 == 0)
  | "sRGB" => atLeast name 1 data
  | "pHYs" => atLeast name 9 data
  | "iCCP" => Scan.require (isProfile data)
  | "zTXt" => Scan.require (isPlainlyCompressed data)
  | _ => pure ()
  return a

/-- The header at the end of the chunks that announce it. -/
def Announced.header (a : Announced) : Scan Header := do
  Scan.require a.colour.isSome
  Header.announce a.width a.height .damaged

/-- The header in the chunks that follow; each takes at least eight octets. -/
def chunks : (fuel : Nat) → Announced → Scan Header
  | 0, _ => throw .foreign
  | fuel + 1, a => do
    let length ← Scan.big 4
    let octets ← Scan.needed 4
    Scan.require (octets.all isNameOctet)
    let name := String.ofList (octets.map fun o => Char.ofNat o.toNat)
    if name == "IDAT" || name == "IEND" then a.header
    else
      let data ← Scan.body length
      let a ← a.after name data
      let sum ← Scan.big 4
      Scan.require (sum == (checksum (octets ++ data)).toNat)
      chunks fuel a

/-- The header of a file, behind the signature. -/
def scan : Scan Header := do
  chunks (← Scan.remaining) .nothing

end SessionRecorder.Picture.Png
