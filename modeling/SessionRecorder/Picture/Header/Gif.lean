import SessionRecorder.Picture.Scan
/-!
# Headers of GIF files

The screen, then blocks up to the first picture on it. A picture that is larger than the screen
enlarges it.

## Main definitions

* `Picture.Gif.scan` — the header of a GIF file.
-/

namespace SessionRecorder.Picture.Gif

/-- The signatures of the two versions. -/
def signatures : List (List UInt8) :=
  [ascii "GIF87a", ascii "GIF89a"]

/-- A block of data: its octets, or nothing if there is none. -/
def block : Scan (Option (List UInt8)) := do
  match ← Scan.upTo 1 with
  | [count] => if count == 0 then return none else return some (← Scan.upTo count.toNat)
  | _ => return none

/-- Pass over the blocks up to the one without data. -/
def skipBlocks : (fuel : Nat) → Scan Unit
  | 0 => return ()
  | fuel + 1 => do
    if (← block).isSome then skipBlocks fuel

/-- The list of colours that flags say is there. -/
def colours (flags : Nat) : Scan Unit := do
  if 128 ≤ flags then
    let _ ← Scan.needed (3 * Nat.pow 2 (flags % 8 + 1))

/-- Whether the data of a control block is complete. -/
def isControl : List UInt8 → Bool
  | flags :: rest => 2 ≤ rest.length && (flags % 2 == 0 || 3 ≤ rest.length)
  | [] => false

/-- Pass over an extension. -/
def extension (fuel : Nat) : Scan Unit := do
  let label ← Scan.big 1
  match ← block with
  | none => skipBlocks (if label == 254 then 0 else fuel)
  | some data =>
    if label == 249 then Scan.require (isControl data)
    if label == 255 && (ascii "NETSCAPE2.0").isPrefixOf data then
      let _ ← block
    skipBlocks fuel

/-- The header of a file with a screen, at its first picture. -/
def picture (width height : Nat) : Scan Header := do
  let place ← Scan.needed 9
  let number (start : Nat) : Nat := littleEndian (slice place start 2)
  colours (octetAt place 8)
  let _ ← Scan.needed 1
  Header.announce (max width (number 0 + number 4)) (max height (number 2 + number 6)) .damaged

/-- The header of a file with a screen. Each step takes at least one octet. -/
def blocks (width height : Nat) : (fuel : Nat) → Scan Header
  | 0 => throw .foreign
  | fuel + 1 => do
    let mark ← Scan.big 1
    if mark == 0x2c then picture width height
    else if mark == 0x3b then throw .foreign
    else
      if mark == 0x21 then extension fuel
      blocks width height fuel

/-- The header of a file, behind the signature. -/
def scan : Scan Header := do
  let screen ← Scan.needed 5
  let _ ← Scan.upTo 2
  colours (octetAt screen 4)
  blocks (littleEndian (slice screen 0 2)) (littleEndian (slice screen 2 2)) (← Scan.remaining)

end SessionRecorder.Picture.Gif
