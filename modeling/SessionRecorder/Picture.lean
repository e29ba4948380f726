/-!
# Pictures

Raster pictures as rows of octets, one to four of them for each pixel, and the conversion of every
kind of picture to pixels with red, green, blue and alpha.

## Main definitions

* `Picture` — a picture of one of five modes, with as many octets as its size asks for.
* `Picture.rgba` — the pixels of a picture with all four channels.
* `Picture.toRgba` — a picture of mode `rgba` with the same pixels.
-/

namespace SessionRecorder

/-- What the octets of a pixel stand for. -/
inductive Picture.Mode where
  /-- Black or white. -/
  | bilevel
  | grey
  | greyAlpha
  | rgb
  | rgba
  deriving DecidableEq, Repr

namespace Picture

/-- The number of octets of one pixel. -/
def Mode.channels : Mode → Nat
  | .bilevel => 1
  | .grey => 1
  | .greyAlpha => 2
  | .rgb => 3
  | .rgba => 4

/-- A pixel with all four channels. -/
structure Rgba where
  red : UInt8
  green : UInt8
  blue : UInt8
  alpha : UInt8
  deriving DecidableEq, Repr

/-- The channels of a pixel in order. -/
def Rgba.octets (p : Rgba) : List UInt8 :=
  [p.red, p.green, p.blue, p.alpha]

end Picture

/-- A picture, its rows from top to bottom. -/
structure Picture where
  mode : Picture.Mode
  width : Nat
  height : Nat
  octets : List UInt8
  length_octets : octets.length = width * height * mode.channels
  deriving DecidableEq, Repr

namespace Picture

/-- Width and height. -/
def size (p : Picture) : Nat × Nat :=
  (p.width, p.height)

/-- The octet of a pixel that is either black or white. -/
def bilevelOctet (b : UInt8) : UInt8 :=
  if 128 ≤ b then 255 else 0

/-- The pixels that rows of octets stand for. -/
def rgbaOf : Mode → List UInt8 → List Rgba
  | .bilevel, l :: rest =>
    ⟨bilevelOctet l, bilevelOctet l, bilevelOctet l, 255⟩ :: rgbaOf .bilevel rest
  | .grey, l :: rest => ⟨l, l, l, 255⟩ :: rgbaOf .grey rest
  | .greyAlpha, l :: a :: rest => ⟨l, l, l, a⟩ :: rgbaOf .greyAlpha rest
  | .rgb, r :: g :: b :: rest => ⟨r, g, b, 255⟩ :: rgbaOf .rgb rest
  | .rgba, r :: g :: b :: a :: rest => ⟨r, g, b, a⟩ :: rgbaOf .rgba rest
  | _, _ => []

/-- The pixels of a picture. -/
def rgba (p : Picture) : List Rgba :=
  rgbaOf p.mode p.octets

/-- There are as many pixels as the size asks for. -/
theorem length_rgbaOf (m : Mode) (octets : List UInt8) (n : Nat)
    (h : octets.length = n * m.channels) : (rgbaOf m octets).length = n := by
  fun_induction rgbaOf m octets generalizing n with
  | case1 l rest ih | case2 l rest ih =>
    simp only [Mode.channels, List.length_cons] at h ih ⊢
    rw [ih (n - 1) (by omega)]; omega
  | case3 l a rest ih =>
    simp only [Mode.channels, List.length_cons] at h ih ⊢
    rw [ih (n - 1) (by omega)]; omega
  | case4 r g b rest ih =>
    simp only [Mode.channels, List.length_cons] at h ih ⊢
    rw [ih (n - 1) (by omega)]; omega
  | case5 r g b a rest ih =>
    simp only [Mode.channels, List.length_cons] at h ih ⊢
    rw [ih (n - 1) (by omega)]; omega
  | case6 octets m h1 h2 h3 h4 h5 =>
    rcases octets with _ | ⟨a, _ | ⟨b, _ | ⟨c, _ | ⟨d, rest⟩⟩⟩⟩ <;> cases m <;>
      grind [Mode.channels]

/-- A picture has as many pixels as its size asks for. -/
theorem length_rgba (p : Picture) : p.rgba.length = p.width * p.height :=
  length_rgbaOf _ _ _ p.length_octets

/-- Four octets for each pixel. -/
theorem length_flatMap_octets (ps : List Rgba) :
    (ps.flatMap Rgba.octets).length = ps.length * 4 := by
  induction ps with
  | nil => rfl
  | cons p ps ih => simp only [List.flatMap_cons, List.length_append, ih, List.length_cons,
      Rgba.octets, List.length_nil]; omega

/-- The picture with all four channels and the same pixels. -/
def toRgba (p : Picture) : Picture where
  mode := .rgba
  width := p.width
  height := p.height
  octets := p.rgba.flatMap Rgba.octets
  length_octets := by rw [length_flatMap_octets, length_rgba]; rfl

/-- A picture of one octet for each pixel of another. -/
def greyLike (p : Picture) (octets : List UInt8) (h : octets.length = p.width * p.height) :
    Picture where
  mode := .grey
  width := p.width
  height := p.height
  octets := octets
  length_octets := by rw [h]; simp [Mode.channels]

/-- The picture of a mode and a size whose octets are given, if they are as many as needed. The
octets of black-and-white pixels are made full black or white. -/
def ofOctets? (mode : Mode) (width height : Nat) (octets : List UInt8) : Option Picture :=
  let octets := if mode = .bilevel then octets.map bilevelOctet else octets
  if h : octets.length = width * height * mode.channels then
    some ⟨mode, width, height, octets, h⟩
  else none

end Picture

end SessionRecorder
