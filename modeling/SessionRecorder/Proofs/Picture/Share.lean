import SessionRecorder.Picture.Comparison
import SessionRecorder.Proofs.Binary64.Monotone
/-!
# The share of pixels that differ

The share is rounded twice: the quotient of two numbers of pixels, and a hundred times that. Both
keep the order, so the percentage is a number from zero to a hundred that grows with the share.

## Main definitions

* `Picture.percentUnits` — the percentage in units, by rounded magnitudes.

## Main results

* `Picture.exact_percentOf` — the percentage is a number, and which one.
* `Picture.percentUnits_mono` — it grows with the share.
* `Picture.percentUnits_pos` — it is not zero if some pixel differs.
-/

namespace SessionRecorder

namespace Binary64

variable {n d : ℕ}

/-- A double with given parts is infinite, or it has other parts, with the same sign. -/
lemma ofParts_cases (s : Bool) (m p : ℕ) :
    ofParts s m p = .infinite s ∨ ∃ m' p' hv, ofParts s m p = .finite s m' p' hv := by
  unfold ofParts
  split_ifs with h h'
  · exact .inr ⟨m, p, h, rfl⟩
  · exact .inr ⟨m / 2, p + 1, h', rfl⟩
  · exact .inl rfl

/-- A rounded magnitude that is in range is the magnitude of the double. -/
lemma exists_finite_nearest (hd : 0 < d) (h : roundedMagnitude n d < 2 ^ 2098) :
    ∃ m p hv, nearest false n d = .finite false m p hv ∧ magnitude m p = roundedMagnitude n d := by
  have hexact := exact_nearest (n := n) hd
  rw [if_pos h] at hexact
  rcases ofParts_cases false (roundQuotient n (d * 2 ^ shiftOf n d)) (shiftOf n d) with
    hcase | ⟨m, p, hv, hcase⟩
  · have hinfinite : nearest false n d = .infinite false := hcase
    rw [hinfinite] at hexact
    cases hexact
  · have hfinite : nearest false n d = .finite false m p hv := hcase
    rw [hfinite] at hexact
    exact ⟨m, p, hv, hfinite, Int.ofNat.inj (Exact.units.inj hexact)⟩

/-- A hundred as a double. -/
lemma hundred_eq : ofRatio 100 1 = .finite false 7036874417766400 1028 (by decide) := by
  decide +kernel

/-- A hundred times a double is rounded once. -/
lemma mul_hundred {m p : ℕ} (hv : Valid m p) :
    (Binary64.finite false m p hv).mul (ofRatio 100 1) =
      nearest false (magnitude m p * (100 * unit)) unit := by
  have hmagnitude : magnitude 7036874417766400 1028 = 100 * unit := by decide +kernel
  rw [hundred_eq, ← hmagnitude]
  rfl

end Binary64

namespace Picture

open Binary64

variable {k n k' n' : ℕ}

/-- The share of `k` pixels of `n` in percent, in units: a hundred times the rounded share, rounded
again. -/
def percentUnits (k n : ℕ) : ℕ :=
  roundedMagnitude (100 * roundedMagnitude (k * unit) n) 1

/-- **The percentage grows with the share.** -/
theorem percentUnits_mono (hn : 0 < n) (hn' : 0 < n') (h : k * n' ≤ k' * n) :
    percentUnits k n ≤ percentUnits k' n' := by
  refine roundedMagnitude_mono one_pos one_pos (Nat.mul_le_mul_right 1 (Nat.mul_le_mul_left 100 ?_))
  refine roundedMagnitude_mono hn hn' ?_
  calc k * unit * n' = k * n' * unit := by ring
    _ ≤ k' * n * unit := Nat.mul_le_mul_right unit h
    _ = k' * unit * n := by ring

/-- Equal shares are equal percentages. -/
lemma percentUnits_congr (hn : 0 < n) (hn' : 0 < n') (h : k * n' = k' * n) :
    percentUnits k n = percentUnits k' n' :=
  le_antisymm (percentUnits_mono hn hn' h.le) (percentUnits_mono hn' hn h.ge)

/-- No pixels are no percentage. -/
lemma percentUnits_zero (n : ℕ) : percentUnits 0 n = 0 := by
  simp [percentUnits]

/-- All pixels are a hundred percent. -/
lemma percentUnits_one : percentUnits 1 1 = 100 * unit := by
  decide +kernel

/-- No share is more than a hundred percent. -/
lemma percentUnits_le (hk : k ≤ n) : percentUnits k n ≤ 100 * unit := by
  rcases Nat.eq_zero_or_pos n with rfl | hn
  · rw [Nat.le_zero.1 hk, percentUnits_zero]
    exact Nat.zero_le _
  · rw [← percentUnits_one]
    exact percentUnits_mono hn one_pos (by omega)

/-- **Some pixels are not zero percent**, unless there are so many pixels that a single one is half
a unit. -/
theorem percentUnits_pos (hk : 0 < k) (hn : 0 < n) (hmax : n < 2 ^ 1075) :
    0 < percentUnits k n := by
  have htwo : 2 ^ 1075 = 2 * unit := by decide +kernel
  have hunit : n < 2 * (k * unit) := by
    calc n < 2 * unit := htwo ▸ hmax
      _ ≤ 2 * (k * unit) := Nat.mul_le_mul_left 2 (Nat.le_mul_of_pos_left unit hk)
  have hshare := roundedMagnitude_pos hn hunit
  exact roundedMagnitude_pos one_pos (by omega)

/-- **The percentage is a number**, whatever the share: nothing runs over. -/
theorem exact_percentOf (hk : k ≤ n) : (percentOf k n).exact = .units (percentUnits k n) := by
  rcases Nat.eq_zero_or_pos n with rfl | hn
  · rw [Nat.le_zero.1 hk, percentUnits_zero]
    rfl
  have hrange : 100 * unit < 2 ^ 2098 := by decide +kernel
  have hshare : roundedMagnitude (k * unit) n ≤ unit := by
    have hone : roundedMagnitude unit 1 = unit := by decide +kernel
    rw [← hone]
    refine roundedMagnitude_mono hn one_pos ?_
    rw [hone, mul_one, mul_comm]
    exact Nat.mul_le_mul_left unit hk
  obtain ⟨m, p, hv, hfinite, hmagnitude⟩ := exists_finite_nearest hn (n := k * unit)
    (by have := unit_pos; omega)
  have hproduct : roundedMagnitude (magnitude m p * (100 * unit)) unit = percentUnits k n := by
    rw [hmagnitude]
    exact roundedMagnitude_congr unit_pos one_pos (by ring)
  rw [percentOf, if_neg (by simpa using hn.ne'), ofRatio, hfinite, mul_hundred,
    exact_nearest unit_pos, hproduct, if_pos ((percentUnits_le hk).trans_lt hrange)]

end Picture

end SessionRecorder
