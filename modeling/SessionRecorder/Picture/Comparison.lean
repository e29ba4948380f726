import SessionRecorder.Binary64
import SessionRecorder.Picture
/-!
# Comparison of pictures

How many pixels of two pictures of one size differ, as an exact count and as a percentage in
double precision, and a picture of the differences. Octets are compared as words of 16 bits with a
sign. The brightest pixel of the differences is white; the others are scaled in single precision.

## Main definitions

* `Picture.octetDistance` — the distance of two octets.
* `Picture.changedPixels` — the number of pixels that differ in some channel.
* `Picture.differencePercent` — their share in percent.
* `Picture.difference?` — the picture of the differences, if there are any.
-/

namespace SessionRecorder.Picture

/-- An octet as a word with a sign. -/
def word (o : UInt8) : Int16 :=
  Int16.ofNat o.toNat

/-- The distance of two octets: the absolute value of the difference of their words. -/
def octetDistance (a b : UInt8) : Nat :=
  (word a - word b).abs.toNatClampNeg

/-- The greatest distance in a colour channel. -/
def Rgba.colourDistance (p q : Rgba) : Nat :=
  max (max (octetDistance p.red q.red) (octetDistance p.green q.green))
    (octetDistance p.blue q.blue)

/-- Whether two pixels differ in some channel, alpha included. -/
def Rgba.differs (p q : Rgba) : Bool :=
  (p.octets.zip q.octets).any fun pair => 0 < octetDistance pair.1 pair.2

/-- The number of pixels that differ. -/
def changedPixels (p q : Picture) : Nat :=
  ((p.rgba.zip q.rgba).filter fun pair => pair.1.differs pair.2).length

/-- The share of changed pixels in percent: a rounded quotient, then a rounded product. Of no
pixels none differ. -/
def percentOf (changed total : Nat) : Binary64 :=
  if total == 0 then .zero false
  else (Binary64.ofRatio changed total).mul (Binary64.ofRatio 100 1)

/-- The share of pixels that differ, in percent. -/
def differencePercent (p q : Picture) : Binary64 :=
  percentOf (changedPixels p q) p.rgba.length

/-! ### The picture of the differences -/

/-- A number of single precision, as a count of parts of a power of two. -/
structure Single where
  count : Nat
  scale : Nat

/-- The number of single precision nearest to `n / d`, for quotients from `2 ^ -16` to `2 ^ 16`
and zero. -/
def Single.nearest (n d : Nat) : Single :=
  if n == 0 then ⟨0, 0⟩
  else
    let scale := 63 - Nat.log2 (n * Nat.pow 2 40 / d)
    ⟨roundQuotient (n * Nat.pow 2 scale) d, scale⟩

/-- The brightness of a distance when `brightest` is the greatest one: their quotient, times 255,
both rounded to single precision, the result cut to a whole number. -/
def brightness (brightest distance : Nat) : Nat :=
  let share := Single.nearest distance brightest
  let scaled := Single.nearest (share.count * 255) (Nat.pow 2 share.scale)
  scaled.count / Nat.pow 2 scaled.scale

/-- The octets of the picture of the differences. -/
def differenceOctets (p q : Picture) : List UInt8 :=
  let distances := (p.rgba.zip q.rgba).map fun pair => pair.1.colourDistance pair.2
  let brightest := distances.foldl max 0
  if brightest == 0 then distances.map fun _ => 0
  else distances.map fun distance => UInt8.ofNat (brightness brightest distance)

/-- There is one octet for each pixel of two pictures of one size. -/
theorem length_differenceOctets (p q : Picture) (h : p.size = q.size) :
    (differenceOctets p q).length = p.width * p.height := by
  have hq : q.width * q.height = p.width * p.height := by
    have hw : p.width = q.width := congrArg Prod.fst h
    have hh : p.height = q.height := congrArg Prod.snd h
    rw [hw, hh]
  unfold differenceOctets
  simp only
  split <;> simp [length_rgba, hq]

/-- The picture of the differences of two pictures of one size, if some pixel differs. -/
def difference? (p q : Picture) (h : p.size = q.size) : Option Picture :=
  if changedPixels p q == 0 then none
  else some (p.greyLike (differenceOctets p q) (length_differenceOctets p q h))

end SessionRecorder.Picture
