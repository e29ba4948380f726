/-!
# Checksums

The cyclic redundancy check of 32 bits by which picture files tell damaged chunks.

## Main definitions

* `Picture.checksum` — the check of octets.
-/

namespace SessionRecorder.Picture

/-- A remainder after one bit. -/
def checksumBit (r : UInt32) : UInt32 :=
  if r % 2 = 1 then (r >>> 1) ^^^ 0xedb88320 else r >>> 1

/-- A remainder after one octet. -/
def checksumOctet (r : UInt32) (o : UInt8) : UInt32 :=
  Nat.repeat checksumBit 8 (r ^^^ o.toUInt32)

/-- The check of octets. -/
def checksum (octets : List UInt8) : UInt32 :=
  octets.foldl checksumOctet 0xffffffff ^^^ 0xffffffff

end SessionRecorder.Picture
