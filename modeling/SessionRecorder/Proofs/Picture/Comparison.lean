import SessionRecorder.Proofs.Picture.Difference
import SessionRecorder.Value.Arithmetic
/-!
# Pictures that are compared with themselves

A picture that is converted to all four channels has the pixels that it had before, so another
conversion changes nothing. A picture that is compared with itself has no pixel that differs, and a
share of zero percent, which every tolerance admits that is not negative.

## Main definitions

* `Binary64.IsNonneg` — a double that is zero or more.

## Main results

* `Picture.toRgba_toRgba` — one conversion is enough.
* `Picture.differencePercent_self`, `Picture.difference?_self` — a picture does not differ from
  itself.
* `Value.atMost_zero` — a tolerance that is not negative admits it.
-/

namespace SessionRecorder

namespace Picture

variable (p : Picture)

/-! ## Conversion -/

/-- The octets of pixels with all four channels stand for these pixels. -/
lemma rgbaOf_flatMap_octets (ps : List Rgba) : rgbaOf .rgba (ps.flatMap Rgba.octets) = ps := by
  induction ps with
  | nil => rfl
  | cons q ps ih =>
    rw [List.flatMap_cons, Rgba.octets, List.cons_append, List.cons_append, List.cons_append,
      List.cons_append, List.nil_append, rgbaOf, ih]

/-- A picture keeps its pixels when it is converted. -/
@[simp] lemma rgba_toRgba : p.toRgba.rgba = p.rgba :=
  rgbaOf_flatMap_octets p.rgba

/-- **A picture that has been converted is not changed by another conversion.** -/
theorem toRgba_toRgba : p.toRgba.toRgba = p.toRgba := by
  have hoctets : p.toRgba.rgba.flatMap Rgba.octets = p.rgba.flatMap Rgba.octets := by
    rw [rgba_toRgba]
  show Picture.mk .rgba p.width p.height (p.toRgba.rgba.flatMap Rgba.octets) _ = p.toRgba
  simp only [hoctets]
  rfl

/-- Pixels are compared with all four channels, so a conversion does not change how many differ. -/
lemma changedPixels_toRgba (p q : Picture) :
    changedPixels p.toRgba q.toRgba = changedPixels p q := by
  rw [changedPixels, changedPixels, rgba_toRgba, rgba_toRgba]

/-- Nor does it change what share they are. -/
lemma differencePercent_toRgba (p q : Picture) :
    p.toRgba.differencePercent q.toRgba = p.differencePercent q := by
  rw [differencePercent, differencePercent, changedPixels_toRgba, rgba_toRgba]

/-- Nor does it change the picture of the differences. -/
lemma difference?_toRgba {p q : Picture} (h : p.size = q.size) :
    p.toRgba.difference? q.toRgba h = p.difference? q h := by
  have hoctets : differenceOctets p.toRgba q.toRgba = differenceOctets p q := by
    rw [differenceOctets, differenceOctets, rgba_toRgba, rgba_toRgba]
  unfold difference?
  rw [changedPixels_toRgba]
  simp only [greyLike, hoctets]
  rfl

/-! ## Comparison -/

/-- No pixel of a picture differs from itself. -/
lemma changedPixels_self : changedPixels p p = 0 := by
  rw [changedPixels_eq, differing_eq_zero_iff rfl]

end Picture

namespace Binary64

/-- Nothing divided into parts is zero. -/
lemma nearest_zero (s : Bool) {d : ℕ} (hd : 0 < d) : nearest s 0 d = zero s := by
  have hquotient : roundQuotient 0 (d * Nat.pow 2 0) = 0 := by
    simp [roundQuotient, hd]
  have hshift : Nat.log2 (0 / d) - 52 = 0 := by simp
  rw [nearest, hshift, hquotient]
  rfl

/-- Zero times a hundred is zero. -/
lemma zero_mul_hundred : (zero false).mul (ofRatio 100 1) = zero false := by
  decide +kernel

/-- A double that is zero or more. Not a number is neither. -/
def IsNonneg : Binary64 → Prop
  | .nan => False
  | .infinite negative => negative = false
  | .finite negative significand _ _ => negative = false ∨ significand = 0

/-- Zero is at most what is zero or more. -/
lemma IsNonneg.le {x : Binary64} (h : x.IsNonneg) : (zero false).exact.le x.exact = true := by
  cases x with
  | nan => exact h.elim
  | infinite negative =>
    obtain rfl : negative = false := h
    rfl
  | finite negative m p hv =>
    have hle : (0 : Int) ≤ signed negative (magnitude m p) := by
      rcases h with rfl | rfl
      · exact Int.natCast_nonneg _
      · simp [signed, magnitude]
    exact decide_eq_true hle

end Binary64

/-- Zero percent are admitted by a tolerance that is not negative. -/
lemma Value.atMost_zero {x : Binary64} (h : x.IsNonneg) :
    Value.atMost (.zero false) (.float x) = .ok true :=
  congrArg Except.ok h.le

namespace Picture

variable (p : Picture)

/-- A picture does not differ from itself by any percentage. -/
lemma differencePercent_self : differencePercent p p = .zero false := by
  rw [differencePercent, changedPixels_self, percentOf]
  split
  next => rfl
  next hn =>
    have hpos : 0 < p.rgba.length := Nat.pos_of_ne_zero (by simpa using hn)
    rw [Binary64.ofRatio, Nat.zero_mul, Binary64.nearest_zero false hpos, Binary64.zero_mul_hundred]

/-- There is no picture of the differences between a picture and itself. -/
lemma difference?_self (h : p.size = p.size) : p.difference? p h = none := by
  rw [difference?, changedPixels_self]
  rfl

end Picture

end SessionRecorder
