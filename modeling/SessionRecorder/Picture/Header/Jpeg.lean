import SessionRecorder.Picture.Scan
/-!
# Headers of JPEG files

Segments up to the first scan of pixels. Each begins with a marker of two octets; most have a
length and data. A frame announces the picture.

## Main definitions

* `Picture.Jpeg.scan` — the header of a JPEG file, behind the octets it is told by.
-/

namespace SessionRecorder.Picture.Jpeg

/-- The octets that a file begins with. -/
def signature : List UInt8 :=
  [0xff, 0xd8, 0xff]

/-- What a marker is followed by. -/
inductive Segment where
  /-- The octet `00` or another full one: no marker at all. -/
  | none
  | bare
  | data
  | frame
  | tables
  | application
  | scan
  | unknown
  deriving DecidableEq, Repr

/-- What the second octet of a marker tells. -/
def segmentOf (code : Nat) : Segment :=
  if code == 0 || code == 0xff then .none
  else if code < 0xc0 then .unknown
  else if code == 0xda then .scan
  else if code == 0xdb then .tables
  else if [0xc4, 0xcc, 0xdc, 0xdd, 0xdf, 0xfe].contains code then .data
  else if code == 0xc8 || (0xd0 ≤ code && code ≤ 0xd9) || 0xf0 ≤ code then .bare
  else if 0xe0 ≤ code then .application
  else .frame

/-- The data of a segment. -/
def segmentData : Scan (List UInt8) := do
  let length ← Scan.big 2
  Scan.body (length - 2)

/-- The width and the height that a frame announces. Its samples have eight bits, and there are
one, three or four of them in a pixel. -/
def frame (data : List UInt8) : Scan (Nat × Nat) := do
  Scan.require (6 ≤ data.length && data.length % 3 == 0)
  Scan.require (octetAt data 0 == 8 && [1, 3, 4].contains (octetAt data 5))
  return (bigEndian (slice data 3 2), bigEndian (slice data 1 2))

/-- Whether data is a row of complete tables, of 64 numbers of one or two octets each. -/
def areTables : (fuel : Nat) → List UInt8 → Bool
  | 0, data => data.isEmpty
  | _, [] => true
  | fuel + 1, first :: rest =>
    let size := if first < 16 then 64 else 128
    size ≤ rest.length && areTables fuel (rest.drop size)

/-- Whether the data of an application segment is long enough for what it says it is. -/
def isApplication (code : Nat) (data : List UInt8) : Bool :=
  if code == 0xe0 && (ascii "JFIF").isPrefixOf data then 7 ≤ data.length
  else if code == 0xee && (ascii "Adobe").isPrefixOf data then 7 ≤ data.length
  else true

/-- The size of the picture after a segment. -/
def segment (code : Nat) (size : Nat × Nat) : Scan (Nat × Nat) := do
  match segmentOf code with
  | .frame => frame (← segmentData)
  | .tables =>
    let data ← segmentData
    Scan.require (areTables data.length data)
    return size
  | .application =>
    let data ← segmentData
    Scan.require (isApplication code data)
    return size
  | .data | .scan =>
    let _ ← segmentData
    return size
  | .unknown => throw .foreign
  | .none | .bare => return size

/-- The header in the segments that follow. `full` tells whether a full octet has been taken. Each
step takes at least one octet. -/
def segments (size : Nat × Nat) (full : Bool) : (fuel : Nat) → Scan Header
  | 0 => throw .foreign
  | fuel + 1 => do
    let code ← Scan.big 1
    if !full then segments size (code == 0xff) fuel
    else
      let size ← segment code size
      if segmentOf code = .scan then Header.announce size.1 size.2 .damaged
      else segments size (code == 0xff) fuel

/-- The header of a file, behind the octets it is told by. The last of those begins a marker. -/
def scan : Scan Header := do
  segments (0, 0) true (← Scan.remaining)

end SessionRecorder.Picture.Jpeg
