import SessionRecorder.Proofs.Picture.Share
import SessionRecorder.Proofs.Result
import SessionRecorder.Proofs.Snapshot.Baseline
/-!
# Comparisons decide equality

Two pictures, of whatever modes, are compared pixel by pixel with all four channels. Without any
tolerance the comparison passes if and only if the pictures have one size and the same pixels. It
comes to the same in both orders, and it comes to a result for pictures of no pixels, for those that
differ in nothing but what cannot be seen, and for those of different sizes.

## Main definitions

* `Snapshot.verdict` — what a comparison of two pictures that are handed over comes to.
* `Snapshot.Decides` — how the verdicts on two pictures depend on their sizes and pixels.

## Main results

* `Snapshot.verdict_eq` — a verdict by sizes and pixels alone.
* `Snapshot.decides_of_pictures` — the verdicts on two pictures decide whether they are the same.
-/

namespace SessionRecorder

namespace Snapshot

open Binary64 Picture

variable {w : Workspace} {a b : Source} {p q : Picture} {t : Value} {y : Exact}

/-! ## Comparisons -/

/-- Pixels are compared with all four channels, so a conversion makes no difference. -/
lemma compare_toRgba (p q : Picture) (t : Value) :
    compare p.toRgba q.toRgba t = compare p q t := by
  have hsize : p.toRgba.size = q.toRgba.size ↔ p.size = q.size := Iff.rfl
  unfold compare
  split
  next h =>
    dsimp only
    rw [dif_pos (hsize.1 h), differencePercent_toRgba, difference?_toRgba (hsize.1 h)]
  next h => rw [dif_neg (mt hsize.2 h)]

/-- Pictures of different sizes are not compared pixel by pixel. -/
lemma compare_of_ne (h : p.size ≠ q.size) : compare p q t = .ok mismatch := by
  rw [compare, dif_neg h]

/-- Pictures of one size are compared by the share of the pixels that differ. -/
lemma compare_of_eq (h : p.size = q.size) (ht : t.amount? = some y) : compare p q t =
    .ok ⟨(p.differencePercent q).exact.le y, p.differencePercent q, false, p.difference? q h⟩ := by
  rw [compare, dif_pos h]
  dsimp only
  rw [Value.atMost, ht]
  rfl

/-- A comparison that comes to a result has a picture of the differences if and only if there are
any. -/
lemma difference_of_compare {c : Comparison} (h : compare p q t = .ok c) :
    (c.difference.isSome = true ↔ p.size = q.size ∧ p.rgba ≠ q.rgba) ∧
      ∀ d ∈ c.difference, Shows p q d := by
  unfold compare at h
  split at h
  next hsize =>
    obtain ⟨passed, -, rfl⟩ := exists_of_map h
    exact ⟨(isSome_difference_iff hsize).trans (and_iff_right hsize).symm,
      fun d hd => shows_of_mem hsize hd⟩
  next hsize =>
    obtain rfl := Except.ok.inj h
    exact ⟨by simp [mismatch, hsize], by simp [mismatch]⟩

/-- The share of the pixels that differ is a number. -/
lemma exact_differencePercent (p q : Picture) : (p.differencePercent q).exact =
    .units (percentUnits (differing p q) p.rgba.length) := by
  rw [differencePercent, changedPixels_eq, exact_percentOf (differing_le p q)]

/-- The share is zero if there are no pixels. -/
lemma differencePercent_of_empty (h : p.width * p.height = 0) :
    p.differencePercent q = .zero false := by
  rw [differencePercent, percentOf, length_rgba, h]
  rfl

/-- A share is within no tolerance if and only if it is zero. -/
lemma units_le_zero_iff {n : ℕ} : (Exact.units n).le (.units 0) = true ↔ n = 0 := by
  rw [Exact.le, decide_eq_true_iff]
  omega

/-- **The share is zero if and only if no pixel differs**, unless a single pixel is so small a share
that it is rounded to nothing. -/
lemma percentUnits_differing_eq_zero_iff (h : p.size = q.size)
    (hmax : p.width * p.height < 2 ^ 1075) :
    percentUnits (differing p q) p.rgba.length = 0 ↔ p.rgba = q.rgba := by
  rw [← differing_eq_zero_iff h]
  rw [← length_rgba] at hmax
  constructor
  · intro hzero
    by_contra hne
    have hpos : 0 < differing p q := Nat.pos_of_ne_zero hne
    have := percentUnits_pos hpos (hpos.trans_le (differing_le p q)) hmax
    omega
  · intro hzero
    rw [hzero]
    exact percentUnits_zero _

/-- A comparison comes to the same in both orders. -/
lemma compare_comm (p q : Picture) : compare p q t = compare q p t := by
  by_cases h : p.size = q.size
  · have hpercent : p.differencePercent q = q.differencePercent p := by
      rw [differencePercent, differencePercent, changedPixels_eq, changedPixels_eq, differing_comm,
        length_rgba_of_size h]
    rw [compare, compare, dif_pos h, dif_pos h.symm]
    dsimp only
    rw [hpercent, difference?_comm h]
  · rw [compare_of_ne h, compare_of_ne (Ne.symm h)]

/-! ## Verdicts -/

/-- What a comparison of two pictures that are handed over comes to. -/
def verdict (w : Workspace) (a b : Source) (t : Value) : Except Fault Comparison :=
  ((compareSources a b t).run w).1

/-- A picture that can be handed over is handed over with all four channels. -/
lemma load_of_picture? (h : a.picture? w = .ok p) : a.load w = .ok p.toRgba := by
  rw [Source.load, h]
  rfl

/-- A comparison of two pictures that can be handed over notes their sizes if they differ. -/
lemma run_compareSources_of_pictures (ha : a.picture? w = .ok p) (hb : b.picture? w = .ok q) :
    (compareSources a b t).run w =
      (compare p q t, { w with journal := w.journal ++ sizeNotes p q }) := by
  rw [run_compareSources_of_load (load_of_picture? ha) (load_of_picture? hb), compare_toRgba]
  rfl

/-- The verdict on two pictures that can be handed over. -/
lemma verdict_eq (ha : a.picture? w = .ok p) (hb : b.picture? w = .ok q) :
    verdict w a b t = compare p q t := by
  rw [verdict, run_compareSources_of_pictures ha hb]

/-! ## What verdicts depend on -/

/-- What the verdicts on two pictures tell about them. -/
structure Decides (w : Workspace) (a b : Source) (p q : Picture) : Prop where
  /-- Without any tolerance a comparison passes if and only if the pictures have one size and the
  same pixels. -/
  passes_iff : ∀ t : Value, t.amount? = some (.units 0) → ∃ c, verdict w a b t = .ok c ∧
    (c.passed = true ↔ p.size = q.size ∧ p.rgba = q.rgba)
  /-- A comparison comes to the same in both orders, whatever the tolerance is. -/
  comm : ∀ t, verdict w a b t = verdict w b a t
  /-- No tolerance makes up for different sizes. -/
  resized : p.size ≠ q.size → ∀ t, ∃ c, verdict w a b t = .ok c ∧ c.passed = false ∧
    c.resized = true ∧ c.difference = none
  /-- Every tolerance that is a number leads to a result for pictures of one size: a percentage that
  is a number from zero to a hundred, and zero for pictures of no pixels. There is a picture of the
  differences if and only if some pixel is not the same, and it shows them. -/
  compared : p.size = q.size → ∀ t : Value, t.amount?.isSome = true → ∃ c, verdict w a b t = .ok c ∧
    c.resized = false ∧ (∃ n ≤ 100 * unit, c.percent.exact = .units n) ∧
    (p.width * p.height = 0 → c.percent = .zero false) ∧
    (c.difference.isSome = true ↔ p.rgba ≠ q.rgba) ∧ ∀ d ∈ c.difference, Shows p q d
  /-- The words that octets are compared as are never out of range. -/
  exact : ∀ o o' : UInt8, octetDistance o o' = ((o.toNat : ℤ) - o'.toNat).natAbs

/-- **Comparisons decide equality.** Let two pictures be handed over, as such, as octets or by their
files, whatever their modes and sizes are. Without any tolerance their comparison passes if and only
if they have one size and the same pixels with all four channels. It comes to the same in both
orders; different sizes pass with no tolerance; and there is a picture of the differences if and
only if there are any, in whatever channel.

The pictures may have no pixels at all, but not so many that a single one is a share of half a unit
or less, which is rounded to nothing. No picture has that many: its sides would be counted in more
than 500 bits. -/
theorem decides_of_pictures (ha : a.picture? w = .ok p) (hb : b.picture? w = .ok q)
    (hmax : p.width * p.height < 2 ^ 1075) : Decides w a b p q where
  passes_iff t ht := by
    rw [verdict_eq ha hb]
    by_cases h : p.size = q.size
    · refine ⟨_, compare_of_eq h ht, ?_⟩
      rw [exact_differencePercent, units_le_zero_iff, percentUnits_differing_eq_zero_iff h hmax]
      exact (and_iff_right h).symm
    · exact ⟨_, compare_of_ne h, by simp [mismatch, h]⟩
  comm t := by
    rw [verdict_eq ha hb, verdict_eq hb ha, compare_comm]
  resized h t := by
    rw [verdict_eq ha hb]
    exact ⟨_, compare_of_ne h, rfl, rfl, rfl⟩
  compared h t ht := by
    obtain ⟨y, ht⟩ := Option.isSome_iff_exists.1 ht
    rw [verdict_eq ha hb]
    exact ⟨_, compare_of_eq h ht, rfl,
      ⟨_, percentUnits_le (differing_le p q), exact_differencePercent p q⟩,
      differencePercent_of_empty, isSome_difference_iff h, fun d hd => shows_of_mem h hd⟩
  exact := octetDistance_eq

/-- Two grey pixels, both of which can be seen. -/
def solid : Picture :=
  ⟨.grey, 1, 2, [7, 7], rfl⟩

/-- A picture of no pixels. -/
def void : Picture :=
  ⟨.rgb, 3, 0, [], rfl⟩

/-- The verdicts decide between pixels that differ only in whether they can be seen, and between
pictures of no pixels. -/
theorem decides_translucent :
    Decides emptyDirectory (.value (.bytes (.picture .png translucent))) (.picture solid)
      translucent solid ∧
    Decides emptyDirectory (.picture void) (.picture void) void void :=
  ⟨decides_of_pictures rfl rfl (by decide +kernel), decides_of_pictures rfl rfl (by decide +kernel)⟩

example : translucent.difference? solid rfl = some ⟨.grey, 1, 2, [0, 0], rfl⟩ := by
  decide +kernel

end Snapshot

end SessionRecorder
