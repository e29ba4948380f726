import SessionRecorder.Picture
import SessionRecorder.Text.Utf8
/-!
# Contents

What a file holds, or a value made of octets: a text, a picture in one of two file formats, or
octets that are neither. A picture stands for its encoded octets, which are never looked at one by
one; two contents are the same octets if and only if they are equal.

## Main definitions

* `Blob` — a text, a picture or plain octets.
* `Blob.ofOctets` — the content with the given octets.
* `Blob.text` — the text of a content, if it is one.
-/

namespace SessionRecorder

/-- A lossless file format for pictures. -/
inductive PictureFormat where
  | png
  | bmp
  deriving DecidableEq, Repr

/-- The content of a file. -/
inductive Blob where
  | text (content : String)
  /-- Octets that spell no text. -/
  | octets (content : List UInt8)
  | picture (format : PictureFormat) (content : Picture)
  deriving DecidableEq, Repr

namespace Blob

/-- The octets with which every picture file of a format begins. -/
def signature : PictureFormat → List UInt8
  | .png => [0x89, 0x50, 0x4e, 0x47, 0x0d, 0x0a, 0x1a, 0x0a]
  | .bmp => [0x42, 0x4d]

/-- The content with the given octets. -/
def ofOctets (content : List UInt8) : Blob :=
  match Utf8.decode content with
  | .ok s => .text s
  | .error _ => .octets content

/-- The octets of a content as far as they are known: of a picture, the signature. -/
def toOctets : Blob → List UInt8
  | .text s => Utf8.encode s
  | .octets content => content
  | .picture format _ => signature format

/-- The text of a content, or the first octets in it that spell no text. -/
def decode : Blob → Except Utf8.Problem String
  | .text s => .ok s
  | b => Utf8.decode b.toOctets

/-- The characters of a content that is decoded block by block, up to the first problem. -/
def decodeBlocks (b : Blob) : List Char × Option Utf8.Problem :=
  match b with
  | .text s => (s.toList, none)
  | b => Utf8.decodeBlocks b.toOctets

/-- Whether a content has no octets. -/
def isEmpty : Blob → Bool
  | .text s => s.isEmpty
  | .octets content => content.isEmpty
  | .picture _ _ => false

/-- Two contents one after the other. -/
def append (a b : Blob) : Blob :=
  if a.isEmpty then b else if b.isEmpty then a else ofOctets (a.toOctets ++ b.toOctets)

end Blob

end SessionRecorder
