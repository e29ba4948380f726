import SessionRecorder.Picture.Scan
/-!
# Headers of bitmap files

A header that begins with its own size, by which its version is told. It gives the size of the
picture, the bits of a pixel, how the pixels are stored and how many colours there are.

## Main definitions

* `Picture.Bitmap.scan` — the header of a bitmap.
-/

namespace SessionRecorder.Picture.Bitmap

/-- The sizes of headers with numbers of four octets. -/
def longSizes : List Nat :=
  [40, 52, 56, 64, 108, 124]

/-- The size of the oldest header, with numbers of two octets. -/
def shortSize : Nat := 12

/-- The fields of a header. -/
structure Fields where
  width : Nat
  height : Nat
  bits : Nat
  /-- How the pixels are stored. -/
  storage : Nat
  /-- How many colours there are, zero if as many as the bits allow. -/
  colours : Nat

/-- The fields of the oldest header. -/
def shortFields (data : List UInt8) : Fields where
  width := littleEndian (slice data 0 2)
  height := littleEndian (slice data 2 2)
  bits := littleEndian (slice data 6 2)
  storage := 0
  colours := 0

/-- The fields of a later header. A height that ends in a full octet is negative: its rows run from
the top to the bottom. -/
def longFields (data : List UInt8) : Fields :=
  let height := littleEndian (slice data 4 4)
  { width := littleEndian (slice data 0 4)
    height := if octetAt data 7 == 0xff then Nat.pow 2 32 - height else height
    bits := littleEndian (slice data 10 2)
    storage := littleEndian (slice data 12 4)
    colours := littleEndian (slice data 28 4) }

/-! ### Masks -/

/-- Pixels stored by masks: the number that says so. -/
def masked : Nat := 3

/-- The masks of red, green, blue and transparency that pixels of 32 bits may have. -/
def longMasks : List (List Nat) :=
  [[0xff0000, 0xff00, 0xff, 0], [0xff000000, 0xff0000, 0xff00, 0], [0xff000000, 0xff00, 0xff, 0],
    [0xff000000, 0xff0000, 0xff00, 0xff], [0xff, 0xff00, 0xff0000, 0xff000000],
    [0xff0000, 0xff00, 0xff, 0xff000000], [0xff000000, 0xff00, 0xff, 0xff0000], [0, 0, 0, 0]]

/-- The masks of red, green and blue that pixels of fewer bits may have. -/
def shortMasks : List (Nat × List Nat) :=
  [(24, [0xff0000, 0xff00, 0xff]), (16, [0xf800, 0x7e0, 0x1f]), (16, [0x7c00, 0x3e0, 0x1f])]

/-- The masks of red, green, blue and transparency: in a header that is long enough, else behind
it. -/
def masks (data : List UInt8) : Scan (List Nat) := do
  if 48 ≤ data.length then
    let alpha := if 52 ≤ data.length then littleEndian (slice data 48 4) else 0
    return [36, 40, 44].map (fun place => littleEndian (slice data place 4)) ++ [alpha]
  else
    let red ← Scan.little 4
    let green ← Scan.little 4
    let blue ← Scan.little 4
    return [red, green, blue, 0]

/-- Whether masks fit pixels of a number of bits. -/
def fit (bits : Nat) (masks : List Nat) : Bool :=
  if bits == 32 then longMasks.contains masks else shortMasks.contains (bits, masks.take 3)

/-! ### Headers -/

/-- The numbers of bits that a pixel may have. -/
def depths : List Nat :=
  [1, 4, 8, 16, 24, 32]

/-- The greatest number of colours that are listed. -/
def mostColours : Nat := 65536

/-- Whether the number of colours fits pixels that name colours in a list. -/
def Fields.coloursFit (f : Fields) : Bool :=
  8 < f.bits || f.colours ≤ mostColours

/-- Why the pixels behind the fields cannot be had: runs that end early leave too few. -/
def Fields.pixels (f : Fields) : Refusal :=
  if f.storage == 1 || f.storage == 2 then .malformed .missingPixels else .damaged

/-- The fields of a header of a size, with the data behind the size. -/
def fieldsOf (size : Nat) (data : List UInt8) : Scan Fields := do
  if size == shortSize then return shortFields data
  Scan.check (longSizes.contains size)
  let f := longFields data
  if f.storage == masked then
    let found ← masks data
    Scan.check (depths.contains f.bits && fit f.bits found)
  return f

/-- The header of a bitmap. -/
def scan : Scan Header := do
  let size ← Scan.little 4
  let data ← Scan.body (size - 4)
  let f ← fieldsOf size data
  Scan.check (depths.contains f.bits && f.storage ≤ masked && f.coloursFit)
  Header.announce f.width f.height f.pixels

/-- The header of a bitmap file, behind the signature. -/
def scanFile : Scan Header := do
  let _ ← Scan.needed 12
  scan

/-- Whether octets begin with the header of a bitmap that has no signature. -/
def isBare (octets : List UInt8) : Bool :=
  4 ≤ octets.length && (shortSize :: longSizes).contains (littleEndian (octets.take 4))

end SessionRecorder.Picture.Bitmap
