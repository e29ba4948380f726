import SessionRecorder.Picture.Scan
/-!
# Headers of Targa files

Files of this format have no signature: they are told by fields that only take few values.

## Main definitions

* `Picture.Targa.scan` — the header of a Targa file.
-/

namespace SessionRecorder.Picture.Targa

/-- The kinds of pictures: with a list of colours, with colours and grey, plain and in runs. -/
def kinds : List Nat :=
  [1, 2, 3, 9, 10, 11]

/-- The numbers of bits that a pixel may have. -/
def depths : List Nat :=
  [1, 8, 16, 24, 32]

/-- The numbers of bits that a colour in the list may have. -/
def colourDepths : List Nat :=
  [16, 24, 32]

/-- The header of a file. -/
def scan : Scan Header := do
  let fields ← Scan.needed 18
  let listed := octetAt fields 1
  Scan.require (listed ≤ 1 && kinds.contains (octetAt fields 2))
  Scan.require (depths.contains (octetAt fields 16))
  Scan.require (listed == 0 || colourDepths.contains (octetAt fields 7))
  Header.announce (littleEndian (slice fields 12 2)) (littleEndian (slice fields 14 2)) .damaged

end SessionRecorder.Picture.Targa
