import SessionRecorder.Picture.Header
import SessionRecorder.Workspace
/-!
# Picture files

Pictures in the contents of files. A content that is no picture is refused, in one way if its
format is not known, in another if it begins like a picture and is damaged or cut short.

## Main definitions

* `Picture.ofBlob` — the picture that a content holds.
* `Picture.save` — a picture written to a file.
-/

namespace SessionRecorder.Picture

/-- Why octets give no picture, the scan of their header being refused. -/
def refusalFault : Refusal → Fault
  | .foreign => .unknownPicture
  | .damaged => .brokenPicture
  | .malformed p => .pictureHeader p

/-- Why octets give no picture. Whole pictures are contents of their own, so the pixels behind a
header are never there. -/
def undecodable (octets : List UInt8) : Fault :=
  match Header.ofOctets octets with
  | .error refusal => refusalFault refusal
  | .ok header =>
    let count := header.width * header.height
    if mostPixels < count then .pictureTooLarge count else refusalFault header.pixels

/-- The picture that a content holds. -/
def ofBlob : Blob → Except Fault Picture
  | .picture _ p => .ok p
  | b => .error (undecodable b.toOctets)

/-- The content of a file that holds a picture without loss. -/
def toBlob (p : Picture) : Blob :=
  .picture .png p

/-- Whether a picture has no pixels. -/
def isEmpty (p : Picture) : Bool :=
  p.width * p.height == 0

/-- Write a picture to a file. A picture without pixels has no file, but its path is tried. -/
def save (p : Picture) (path : Path) : Procedure Workspace Unit := do
  if p.isEmpty then
    Procedure.ofExcept ((Workspace.written path p.toBlob (← get)).map fun _ => ())
    throw .emptyPicture
  else Workspace.write path p.toBlob

end SessionRecorder.Picture
