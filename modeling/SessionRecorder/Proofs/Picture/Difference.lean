import Mathlib.Data.List.Forall2
import Mathlib.Tactic.Common
import SessionRecorder.Picture.Comparison
import SessionRecorder.Proofs.Binary64.Monotone
/-!
# Pixels that differ

Octets are compared as words of 16 bits with a sign. No difference of two octets is out of their
range, so the distances are the exact ones, and pixels differ if and only if they are not the same.
The picture of the differences shows for each pixel how far it is from the other one, next to the
greatest distance of all, which is white.

## Main definitions

* `Picture.differing` — the number of pixels that are not the same.
* `Picture.gaps` — how far the colours of two pictures are apart, pixel by pixel.
* `Picture.Shows` — a picture shows the differences of two others.

## Main results

* `Picture.octetDistance_eq` — no distance is cut.
* `Picture.changedPixels_eq` — the pixels that differ are those that are not the same.
* `Picture.isSome_difference_iff`, `Picture.shows_of_mem` — there is a picture of the differences if
  and only if there are any, and it shows them.
-/

namespace SessionRecorder

namespace Picture

variable {p q d : Picture} {u v : Rgba}

/-! ## Distances -/

/-- The word for an octet has its value. -/
lemma toInt_word (o : UInt8) : (word o).toInt = o.toNat :=
  Int16.toInt_ofNat_of_lt (by have := o.toNat_lt; omega)

/-- **The distance of two octets is the exact one**: neither the difference of their words is out
of range, nor is it the one word that has no absolute value. -/
theorem octetDistance_eq (a b : UInt8) :
    octetDistance a b = ((a.toNat : ℤ) - b.toNat).natAbs := by
  have ha := a.toNat_lt
  have hb := b.toNat_lt
  have hsub : (word a - word b).toInt = a.toNat - b.toNat := by
    rw [Int16.toInt_sub, toInt_word, toInt_word, Int.bmod_eq_of_le (by omega) (by omega)]
  have hmin : (word a - word b).toBitVec ≠ BitVec.intMin 16 := by
    intro h
    have hvalue : (word a - word b).toInt = -32768 := by
      show (word a - word b).toBitVec.toInt = _
      rw [h]
      rfl
    omega
  have habs : (word a - word b).abs.toInt = (word a - word b).toInt.natAbs :=
    BitVec.toInt_abs_eq_natAbs_of_ne_intMin hmin
  rw [octetDistance, ← Int16.toNat_toInt, habs, hsub]
  omega

/-- A distance is an octet again. -/
lemma octetDistance_le (a b : UInt8) : octetDistance a b ≤ 255 := by
  have ha := a.toNat_lt
  have hb := b.toNat_lt
  rw [octetDistance_eq]
  omega

/-- The distance does not depend on the order. -/
lemma octetDistance_comm (a b : UInt8) : octetDistance a b = octetDistance b a := by
  simp only [octetDistance_eq]
  omega

/-- Octets that are not the same have a distance. -/
lemma octetDistance_pos_iff {a b : UInt8} : 0 < octetDistance a b ↔ a ≠ b := by
  rw [octetDistance_eq, ne_eq, ← UInt8.toNat_inj]
  omega

/-- The colours of two pixels are at most as far apart as octets are. -/
lemma colourDistance_le (u v : Rgba) : u.colourDistance v ≤ 255 :=
  max_le (max_le (octetDistance_le _ _) (octetDistance_le _ _)) (octetDistance_le _ _)

/-- It does not depend on the order how far they are apart. -/
lemma colourDistance_comm (u v : Rgba) : u.colourDistance v = v.colourDistance u := by
  simp only [Rgba.colourDistance, octetDistance_comm]

/-! ## Pixels that are not the same -/

/-- **Pixels differ if and only if they are not the same.** -/
lemma differs_iff : u.differs v = true ↔ u ≠ v := by
  obtain ⟨r, g, b, a⟩ := u
  obtain ⟨r', g', b', a'⟩ := v
  simp only [Rgba.differs, Rgba.octets, List.zip_cons_cons, List.zip_nil_right, List.any_cons,
    List.any_nil, Bool.or_false, Bool.or_eq_true, decide_eq_true_eq, octetDistance_pos_iff, ne_eq,
    Rgba.mk.injEq]
  tauto

/-- The number of pixels that are not the same in two pictures. -/
def differing (p q : Picture) : ℕ :=
  (p.rgba.zip q.rgba).countP fun pair => pair.1 ≠ pair.2

/-- The pixels that differ are those that are not the same. -/
lemma changedPixels_eq (p q : Picture) : changedPixels p q = differing p q := by
  rw [changedPixels, differing, ← List.countP_eq_length_filter]
  refine List.countP_congr fun pair _ => ?_
  rw [differs_iff, decide_eq_true_iff]

/-- At most all pixels are not the same. -/
lemma differing_le (p q : Picture) : differing p q ≤ p.rgba.length :=
  List.countP_le_length.trans (by rw [List.length_zip]; exact min_le_left _ _)

/-- What is made of the pairs of two lists, and not of the order in a pair, does not depend on the
order of the lists. -/
lemma map_zip_comm {α β : Type} {f : α × α → β} (hf : ∀ x y, f (y, x) = f (x, y))
    (xs ys : List α) : (xs.zip ys).map f = (ys.zip xs).map f := by
  rw [List.zip_eq_zipWith, List.zip_eq_zipWith, List.map_zipWith, List.map_zipWith,
    List.zipWith_comm]
  exact congrArg₂ (List.zipWith · · xs) (funext₂ hf) rfl

/-- The number does not depend on the order. -/
lemma differing_comm (p q : Picture) : differing p q = differing q p := by
  have hcount (p q : Picture) : differing p q =
      ((p.rgba.zip q.rgba).map fun pair => decide (pair.1 ≠ pair.2)).countP id := by
    rw [List.countP_map]
    rfl
  rw [hcount, hcount, map_zip_comm fun u v => by simp [ne_comm]]

/-- Pictures of one size have as many pixels. -/
lemma length_rgba_of_size (h : p.size = q.size) : p.rgba.length = q.rgba.length := by
  obtain ⟨hwidth, hheight⟩ := Prod.ext_iff.1 h
  rw [length_rgba, length_rgba, show p.width = q.width from hwidth,
    show p.height = q.height from hheight]

/-- No pixels are not the same if and only if all pixels are the same. -/
lemma differing_eq_zero_iff (h : p.size = q.size) : differing p q = 0 ↔ p.rgba = q.rgba := by
  rw [differing, List.countP_eq_zero]
  constructor
  · intro hall
    have hsame : List.Forall₂ (· = ·) p.rgba q.rgba :=
      List.forall₂_iff_zip.2 ⟨length_rgba_of_size h, fun hpair => by simpa using hall _ hpair⟩
    rwa [List.forall₂_eq_eq_eq] at hsame
  · intro heq pair hpair
    rw [heq] at hpair
    obtain ⟨u, -, rfl⟩ : ∃ u ∈ q.rgba, (u, u) = pair := by
      simpa [List.zip_eq_zipWith, List.zipWith_self] using hpair
    simp

/-! ## Brightness -/

/-- In single precision a number is at most `k` if the quotient is. -/
lemma Single.nearest_le {n d : ℕ} (k : ℕ) (hd : 0 < d) (h : n ≤ k * d) :
    (Single.nearest n d).count ≤ k * 2 ^ (Single.nearest n d).scale := by
  unfold Single.nearest
  split
  · exact Nat.zero_le _
  · dsimp only
    generalize 63 - Nat.log2 (n * Nat.pow 2 40 / d) = s
    calc roundQuotient (n * 2 ^ s) d ≤ roundQuotient (k * 2 ^ s * d) d := by
          refine roundQuotient_mono hd hd (Nat.mul_le_mul_right d ?_)
          calc n * 2 ^ s ≤ k * d * 2 ^ s := Nat.mul_le_mul_right _ h
            _ = k * 2 ^ s * d := by ring
      _ = k * 2 ^ s := roundQuotient_mul hd _

/-- **A distance that is at most the greatest one has the brightness of an octet.** -/
lemma brightness_le {brightest distance : ℕ} (hpos : 0 < brightest) (h : distance ≤ brightest) :
    brightness brightest distance ≤ 255 := by
  have hshare := Single.nearest_le 1 hpos (h.trans_eq (one_mul brightest).symm)
  unfold brightness
  dsimp only
  generalize Single.nearest distance brightest = share at hshare ⊢
  have hscaled : share.count * 255 ≤ 255 * 2 ^ share.scale := by omega
  exact Nat.div_le_of_le_mul <| (Single.nearest_le 255 (Nat.two_pow_pos _) hscaled).trans_eq
    (mul_comm _ _)

/-! ## The picture of the differences -/

/-- How far the colours of two pixels are apart: the greatest difference in a channel. -/
def colourGap (u v : Rgba) : ℕ :=
  max (max ((u.red.toNat : ℤ) - v.red.toNat).natAbs ((u.green.toNat : ℤ) - v.green.toNat).natAbs)
    ((u.blue.toNat : ℤ) - v.blue.toNat).natAbs

/-- How far the pixels of two pictures are apart. -/
def gaps (p q : Picture) : List ℕ :=
  (p.rgba.zip q.rgba).map fun pair => colourGap pair.1 pair.2

/-- A picture shows the differences of two others: it is grey and has their size, and each of its
pixels is as bright as the colours there are far apart, next to those that are farthest apart. If no
colours are apart it is black, and nothing is divided. -/
structure Shows (p q d : Picture) : Prop where
  mode : d.mode = .grey
  size : d.size = p.size
  octets : ∃ greatest ≤ 255, IsGreatest {gap | gap ∈ gaps p q} greatest ∧
    d.octets.map UInt8.toNat =
      (gaps p q).map fun gap => if greatest = 0 then 0 else brightness greatest gap

/-- The distances of colours are the exact ones. -/
lemma colourDistance_eq (u v : Rgba) : u.colourDistance v = colourGap u v := by
  simp only [Rgba.colourDistance, octetDistance_eq, colourGap]

/-- It does not depend on the order of the pictures how far the pixels are apart. -/
lemma gaps_comm (p q : Picture) : gaps p q = gaps q p :=
  map_zip_comm (fun u v => by simp only [← colourDistance_eq, colourDistance_comm]) _ _

/-- Pixels that are not the same come from pictures that have some pixels. -/
lemma gaps_ne_nil (h : differing p q ≠ 0) : gaps p q ≠ [] := by
  intro hnil
  rw [gaps, List.map_eq_nil_iff] at hnil
  rw [differing, hnil] at h
  exact h rfl

/-- The greatest of some numbers. -/
lemma isGreatest_foldl_max {xs : List ℕ} (h : xs ≠ []) :
    IsGreatest {y | y ∈ xs} (xs.foldl max 0) := by
  obtain ⟨x, xs, rfl⟩ := List.exists_cons_of_ne_nil h
  have hmax : (x :: xs).max? = some (xs.foldl max x) := List.max?_cons'
  rw [List.foldl_cons, Nat.zero_max]
  exact List.max?_eq_some_iff.1 hmax

/-- The octets of the picture of the differences, by how far the pixels are apart. -/
lemma differenceOctets_eq (p q : Picture) : differenceOctets p q =
    (gaps p q).map fun gap => if (gaps p q).foldl max 0 = 0 then 0 else
      UInt8.ofNat (brightness ((gaps p q).foldl max 0) gap) := by
  have hgaps : (p.rgba.zip q.rgba).map (fun pair => pair.1.colourDistance pair.2) = gaps p q :=
    List.map_congr_left fun pair _ => colourDistance_eq _ _
  unfold differenceOctets
  rw [hgaps]
  dsimp only
  split
  next h => simp [beq_iff_eq.1 h]
  next h => simp [show ¬(gaps p q).foldl max 0 = 0 from fun h' => h (beq_iff_eq.2 h')]

/-- **The picture of the differences shows them**, if there is one. -/
lemma shows_of_mem (h : p.size = q.size) (hd : d ∈ p.difference? q h) : Shows p q d := by
  rw [difference?] at hd
  split at hd
  · cases hd
  next hchanged =>
    obtain rfl := Option.some.inj hd
    rw [changedPixels_eq, beq_iff_eq] at hchanged
    have hgreatest := isGreatest_foldl_max (gaps_ne_nil hchanged)
    refine ⟨rfl, rfl, _, ?_, hgreatest, ?_⟩
    · obtain ⟨pair, -, hpair⟩ := List.mem_map.1 hgreatest.1
      rw [← hpair, ← colourDistance_eq]
      exact colourDistance_le _ _
    · show (differenceOctets p q).map UInt8.toNat = _
      rw [differenceOctets_eq, List.map_map]
      refine List.map_congr_left fun gap hgap => ?_
      rw [Function.comp_apply]
      split
      · rfl
      next hpos =>
        have hle := brightness_le (Nat.pos_of_ne_zero hpos) (hgreatest.2 hgap)
        exact UInt8.toNat_ofNat_of_lt' (Nat.lt_succ_of_le hle)

/-- **There is a picture of the differences if and only if some pixel is not the same.** -/
lemma isSome_difference_iff (h : p.size = q.size) :
    (p.difference? q h).isSome = true ↔ p.rgba ≠ q.rgba := by
  rw [difference?, changedPixels_eq, ne_eq, ← differing_eq_zero_iff h]
  split <;> simp_all

/-- The picture of the differences does not depend on the order. -/
lemma difference?_comm (h : p.size = q.size) : p.difference? q h = q.difference? p h.symm := by
  obtain ⟨hwidth, hheight⟩ := Prod.ext_iff.1 h
  have hoctets : differenceOctets p q = differenceOctets q p := by
    rw [differenceOctets_eq, differenceOctets_eq, gaps_comm]
  have hgrey : p.greyLike (differenceOctets p q) (length_differenceOctets p q h) =
      q.greyLike (differenceOctets q p) (length_differenceOctets q p h.symm) := by
    rw [greyLike, greyLike, Picture.mk.injEq]
    exact ⟨rfl, hwidth, hheight, hoctets⟩
  rw [difference?, difference?, changedPixels_eq, changedPixels_eq, differing_comm, hgrey]

end Picture

end SessionRecorder
