import SessionRecorder.Blob
import SessionRecorder.Picture.Header.Bitmap
import SessionRecorder.Picture.Header.Gif
import SessionRecorder.Picture.Header.Jpeg
import SessionRecorder.Picture.Header.Netpbm
import SessionRecorder.Picture.Header.Png
import SessionRecorder.Picture.Header.Targa
/-!
# Headers of picture files

The formats that picture files are told by, each with the octets it begins with and the scan of its
header. Octets that begin like one format and are none of it may still be of another.

## Main definitions

* `Picture.Format` — how files of a format begin and are scanned.
* `Picture.formats` — the formats.
* `Picture.Header.ofOctets` — the header that octets begin with, or why there is none.
-/

namespace SessionRecorder.Picture

/-- A format of picture files. -/
structure Format where
  /-- Whether octets begin like a file of the format. -/
  begins : List UInt8 → Bool
  scan : Scan Header

/-- A format told by a signature, behind which its header stands. -/
def Format.signed (signature : List UInt8) (scan : Scan Header) : Format where
  begins := signature.isPrefixOf
  scan := do
    let _ ← Scan.needed signature.length
    scan

/-- The header of a file that is told by its signature alone and cannot be read. -/
def unreadable : Scan Header :=
  throw .damaged

/-- Whether octets begin like a WebP file: a container of that kind with one of its chunks. -/
def isWebp (octets : List UInt8) : Bool :=
  slice octets 0 4 == ascii "RIFF" && slice octets 8 4 == ascii "WEBP" &&
    [ascii "VP8 ", ascii "VP8X", ascii "VP8L"].contains (slice octets 12 4)

/-- Whether octets begin like a file of weather data of the first edition. -/
def isGrib (octets : List UInt8) : Bool :=
  (ascii "GRIB").isPrefixOf octets && slice octets 7 1 == [1]

/-- Whether octets begin like a file of textures, with the length of its header. -/
def isTexture (octets : List UInt8) : Bool :=
  (ascii "DDS ").isPrefixOf octets && 8 ≤ octets.length

/-- The formats of files that hold pictures. -/
def pictureFormats : List Format :=
  [.signed (Blob.signature .png) Png.scan, .signed (Blob.signature .bmp) Bitmap.scanFile,
    ⟨Bitmap.isBare, Bitmap.scan⟩, .signed Jpeg.signature Jpeg.scan,
    ⟨Netpbm.begins, Netpbm.scan⟩] ++
    Gif.signatures.map fun signature => .signed signature Gif.scan

/-- The formats of files that are known and not read. -/
def sealedFormats : List Format :=
  [⟨isWebp, unreadable⟩, ⟨isGrib, unreadable⟩, ⟨isTexture, unreadable⟩,
    .signed (ascii "BUFR") unreadable, .signed (ascii "ZCZC") unreadable,
    .signed (0x89 :: ascii "HDF\r\n\x1a\n") unreadable]

/-- The formats in the order in which they are tried; the one without a signature is the last. -/
def formats : List Format :=
  pictureFormats ++ sealedFormats ++ [⟨fun _ => true, Targa.scan⟩]

/-- What the first of several formats that octets are of makes of them. -/
def firstOf (octets : List UInt8) : List Format → Except Refusal Header
  | [] => .error .foreign
  | f :: rest =>
    if f.begins octets then
      match f.scan.run octets with
      | .ok (header, _) => .ok header
      | .error .foreign => firstOf octets rest
      | .error refusal => .error refusal
    else firstOf octets rest

/-- The header that octets begin with, or why there is none. -/
def Header.ofOctets (octets : List UInt8) : Except Refusal Header :=
  firstOf octets formats

end SessionRecorder.Picture
