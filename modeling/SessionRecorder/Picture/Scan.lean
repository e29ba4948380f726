import SessionRecorder.Text.Quoted
/-!
# Scanning picture files

Octets taken one after the other from the beginning of a file. A scan that meets octets of another
format gives up; one that meets damaged octets of its own format refuses them.

## Main definitions

* `Picture.Refusal` — why a scan ends early.
* `Picture.Scan` — a scan.
* `Picture.Header` — what the header of a picture file announces.
-/

namespace SessionRecorder.Picture

/-- What is wrong with a header whose format is known. -/
inductive HeaderProblem where
  | shortChunk (name : String)
  | endOfHeader
  | longToken (token : List UInt8)
  | notWhole (token : List UInt8)
  | notNumber (token : List UInt8)
  | scale
  | greatest
  /-- The header is in order, and there are not enough numbers behind it. -/
  | missingPixels
  deriving DecidableEq, Repr

/-- The sentence for a problem. -/
def HeaderProblem.message : HeaderProblem → String
  | .shortChunk name => "Truncated " ++ name ++ " chunk"
  | .endOfHeader => "Reached EOF while reading header"
  | .longToken token =>
    Text.quotedOctets ("Token too long in file header: ".toUTF8.toList ++ token)
  | .notWhole token => "invalid literal for int() with base 10: " ++ Text.quotedOctets token
  | .notNumber token => "could not convert string to float: " ++ Text.quotedOctets token
  | .scale => "scale must be finite and non-zero"
  | .greatest => "maxval must be greater than 0 and less than 65536"
  | .missingPixels => "not enough image data"

/-- Why a scan ends early. -/
inductive Refusal where
  /-- The octets are of another format. -/
  | foreign
  /-- The octets are of the format, and damaged or cut short. -/
  | damaged
  /-- The octets are of the format, and something in the header makes no sense. -/
  | malformed (p : HeaderProblem)
  deriving DecidableEq, Repr

/-- A scan of octets. -/
abbrev Scan (α : Type) := StateT (List UInt8) (Except Refusal) α

/-! ### Numbers -/

/-- The number that octets spell, the greatest first. -/
def bigEndian (octets : List UInt8) : Nat :=
  octets.foldl (fun n o => 256 * n + o.toNat) 0

/-- The number that octets spell, the least first. -/
def littleEndian (octets : List UInt8) : Nat :=
  bigEndian octets.reverse

/-- Some octets from among others. -/
def slice (octets : List UInt8) (start count : Nat) : List UInt8 :=
  (octets.drop start).take count

/-- The octet at a place, zero behind the end. -/
def octetAt (octets : List UInt8) (place : Nat) : Nat :=
  (octets.getD place 0).toNat

/-- The octets of a text in ASCII. -/
def ascii (s : String) : List UInt8 :=
  s.toList.map fun c => UInt8.ofNat c.toNat

/-! ### Scans -/

namespace Scan

/-- Take octets, fewer if the end is near. -/
def upTo (count : Nat) : Scan (List UInt8) :=
  modifyGet fun octets => (octets.take count, octets.drop count)

/-- Take octets; with fewer left, the file is refused for a reason. -/
def exactly (count : Nat) (otherwise : Refusal) : Scan (List UInt8) := do
  let taken ← upTo count
  if taken.length < count then throw otherwise else return taken

/-- Take octets that the format is told by. -/
def needed (count : Nat) : Scan (List UInt8) :=
  exactly count .foreign

/-- Take octets whose number the header gives. -/
def body (count : Nat) : Scan (List UInt8) :=
  exactly count .damaged

/-- Take a number, the greatest octet first. -/
def big (count : Nat) : Scan Nat := do
  return bigEndian (← needed count)

/-- Take a number, the least octet first. -/
def little (count : Nat) : Scan Nat := do
  return littleEndian (← needed count)

/-- Go on only if something holds. -/
def require (b : Bool) : Scan Unit :=
  if b then return () else throw .foreign

/-- Refuse the file unless something holds. -/
def check (b : Bool) : Scan Unit :=
  if b then return () else throw .damaged

/-- How many octets are left. -/
def remaining : Scan Nat := do
  return (← get).length

end Scan

/-! ### Headers -/

/-- What the header of a picture file announces. -/
structure Header where
  width : Nat
  height : Nat
  /-- Why the pixels behind the header cannot be had. -/
  pixels : Refusal
  deriving DecidableEq, Repr

/-- The greatest number of pixels of a picture that is read. -/
def mostPixels : Nat := 178956970

/-- A header in order. One that announces no pixels is of another format. -/
def Header.announce (width height : Nat) (pixels : Refusal) : Scan Header := do
  Scan.require (0 < width && 0 < height)
  return ⟨width, height, pixels⟩

end SessionRecorder.Picture
