import Mathlib.Data.Nat.Log
import SessionRecorder.Proofs.Binary64.Rounding
/-!
# Rounding keeps the order

A greater quotient is never rounded to a smaller number, neither to a whole number nor to a double.
So whether what was rounded is above a limit can be told from quotients next to the limit.

## Main definitions

* `Binary64.roundedMagnitude` — the magnitude of the double nearest to a quotient, were there no
  greatest double.

## Main results

* `roundQuotient_mono` — rounding to whole numbers keeps the order.
* `Binary64.exact_nearest` — the double nearest to a quotient, by its rounded magnitude.
* `Binary64.nearest_mono` — rounding to doubles keeps the order.
-/

namespace SessionRecorder

variable {n d n' d' : ℕ}

/-! ## Whole numbers -/

/-- A quotient is rounded to a whole number that is at most one half away, and to an even one if it
is just as far from another one. -/
lemma roundQuotient_spec (hd : 0 < d) :
    2 * roundQuotient n d * d ≤ 2 * n + d ∧ 2 * n ≤ 2 * roundQuotient n d * d + d ∧
      (roundQuotient n d % 2 = 0 ∨
        2 * roundQuotient n d * d < 2 * n + d ∧ 2 * n < 2 * roundQuotient n d * d + d) := by
  have hn : d * (n / d) + n % d = n := Nat.div_add_mod n d
  have hr : n % d < d := Nat.mod_lt n hd
  unfold roundQuotient
  dsimp only
  generalize n / d = q at hn ⊢
  generalize n % d = r at hn hr ⊢
  have hq : 2 * q * d = 2 * (d * q) := by ring
  have hq' : 2 * (q + 1) * d = 2 * (d * q) + 2 * d := by ring
  split_ifs with hbelow habove heven
  · rw [hq]
    omega
  · rw [hq']
    omega
  · rw [hq]
    have : q % 2 = 0 := by simpa using heven
    omega
  · rw [hq']
    have : ¬q % 2 = 0 := by simpa using heven
    omega

/-- **Rounding to whole numbers keeps the order.** If it did not, both quotients would lie halfway
between the two results, which are neighbours then, and would have been rounded to the even one. -/
lemma roundQuotient_mono (hd : 0 < d) (hd' : 0 < d') (h : n * d' ≤ n' * d) :
    roundQuotient n d ≤ roundQuotient n' d' := by
  obtain ⟨hlow, -, htie⟩ := roundQuotient_spec (n := n) hd
  obtain ⟨-, hhigh', htie'⟩ := roundQuotient_spec (n := n') hd'
  generalize roundQuotient n d = k at *
  generalize roundQuotient n' d' = k' at *
  by_contra hlt
  have hk : (k' + 1) * d ≤ k * d := Nat.mul_le_mul_right d (by omega)
  have hhalf : (2 * k' + 1) * d ≤ 2 * n := by linarith
  have hhalf' : 2 * n' ≤ (2 * k' + 1) * d' := by linarith
  -- both quotients lie at the same point, halfway between `k'` and `k' + 1`
  have heq : 2 * n = (2 * k' + 1) * d := by
    have : 2 * n * d' ≤ (2 * k' + 1) * d * d' := by nlinarith
    exact le_antisymm (Nat.le_of_mul_le_mul_right this hd') hhalf
  have heq' : 2 * n' = (2 * k' + 1) * d' := by
    have : (2 * k' + 1) * d' * d ≤ 2 * n' * d := by nlinarith
    exact le_antisymm hhalf' (Nat.le_of_mul_le_mul_right this hd)
  have hnext : k = k' + 1 := by
    have : k * d ≤ (k' + 1) * d := by linarith
    have := Nat.le_of_mul_le_mul_right this hd
    omega
  subst hnext
  have heven : (k' + 1) % 2 = 0 := htie.resolve_right fun h => by linarith [h.1]
  have heven' : k' % 2 = 0 := htie'.resolve_right fun h => by linarith [h.2]
  omega

/-- A whole number is rounded to itself. -/
@[simp] lemma roundQuotient_mul (hd : 0 < d) (k : ℕ) : roundQuotient (k * d) d = k := by
  simp [roundQuotient, Nat.mul_div_cancel k hd, hd]

namespace Binary64

/-! ## Doubles -/

/-- The shift of the double nearest to a quotient. -/
def shiftOf (n d : ℕ) : ℕ :=
  Nat.log2 (n / d) - 52

/-- The magnitude of the double nearest to a quotient, were there no greatest double. -/
def roundedMagnitude (n d : ℕ) : ℕ :=
  roundQuotient n (d * 2 ^ shiftOf n d) * 2 ^ shiftOf n d

/-- A greater quotient has no smaller shift. -/
lemma shiftOf_mono (hd : 0 < d) (hd' : 0 < d') (h : n * d' ≤ n' * d) :
    shiftOf n d ≤ shiftOf n' d' := by
  have hquotient : n / d ≤ n' / d' := by
    refine (Nat.le_div_iff_mul_le hd').2 (Nat.le_of_mul_le_mul_right ?_ hd)
    calc n / d * d' * d = n / d * d * d' := by ring
      _ ≤ n * d' := Nat.mul_le_mul_right d' (Nat.div_mul_le_self n d)
      _ ≤ n' * d := h
  have hlog : Nat.log2 (n / d) ≤ Nat.log2 (n' / d') := by
    rw [Nat.log2_eq_log_two, Nat.log2_eq_log_two]
    exact Nat.log_mono_right hquotient
  exact Nat.sub_le_sub_right hlog 52

/-- The significand that a quotient is rounded to: it has 53 bits, or it has run over, unless the
shift is zero. -/
lemma significand_bounds (hd : 0 < d) : roundQuotient n (d * 2 ^ shiftOf n d) ≤ 2 ^ 53 ∧
    (2 ^ 52 ≤ roundQuotient n (d * 2 ^ shiftOf n d) ∨ shiftOf n d = 0) := by
  have hunit : 0 < d * 2 ^ shiftOf n d := Nat.mul_pos hd (Nat.two_pow_pos _)
  have hlt : n < 2 ^ 53 * (d * 2 ^ shiftOf n d) := by
    have hlog : n / d < 2 ^ (Nat.log2 (n / d) + 1) := Nat.lt_log2_self
    have hshift : n / d < 2 ^ (53 + shiftOf n d) :=
      hlog.trans_le (Nat.pow_le_pow_right (by decide) (by unfold shiftOf; omega))
    calc n < 2 ^ (53 + shiftOf n d) * d := (Nat.div_lt_iff_lt_mul hd).1 hshift
      _ = 2 ^ 53 * (d * 2 ^ shiftOf n d) := by ring
  constructor
  · calc roundQuotient n (d * 2 ^ shiftOf n d)
        ≤ roundQuotient (2 ^ 53 * (d * 2 ^ shiftOf n d)) (d * 2 ^ shiftOf n d) :=
          roundQuotient_mono hunit hunit (Nat.mul_le_mul_right _ hlt.le)
      _ = 2 ^ 53 := roundQuotient_mul hunit _
  · refine or_iff_not_imp_right.2 fun hshift => ?_
    have hne : n / d ≠ 0 := fun h => hshift (by simp [shiftOf, h])
    have hlog : 52 + shiftOf n d = Nat.log2 (n / d) := by
      unfold shiftOf at hshift ⊢
      omega
    have hle : 2 ^ 52 * (d * 2 ^ shiftOf n d) ≤ n := by
      calc 2 ^ 52 * (d * 2 ^ shiftOf n d) = 2 ^ (52 + shiftOf n d) * d := by ring
        _ = 2 ^ Nat.log2 (n / d) * d := by rw [hlog]
        _ ≤ n / d * d := Nat.mul_le_mul_right d (Nat.log2_self_le hne)
        _ ≤ n := Nat.div_mul_le_self n d
    calc 2 ^ 52 = roundQuotient (2 ^ 52 * (d * 2 ^ shiftOf n d)) (d * 2 ^ shiftOf n d) :=
          (roundQuotient_mul hunit _).symm
      _ ≤ roundQuotient n (d * 2 ^ shiftOf n d) :=
          roundQuotient_mono hunit hunit (Nat.mul_le_mul_right _ hle)

/-- The value of the double with given parts, a significand that has run over included. -/
lemma exact_ofParts {m p : ℕ} (hm : m ≤ 2 ^ 53) (hnormal : 2 ^ 52 ≤ m ∨ p = 0) :
    (ofParts false m p).exact =
      if m * 2 ^ p < 2 ^ 2098 then .units (m * 2 ^ p : ℕ) else .positiveInfinity := by
  have htop : 2 ^ 2098 = 2 ^ 53 * 2 ^ 2045 := by rw [← pow_add]
  have htop' : 2 ^ 2098 = 2 ^ 52 * 2 ^ 2046 := by rw [← pow_add]
  rcases Nat.lt_or_ge 2045 p with hp | hp
  · have hlarge : ¬m * 2 ^ p < 2 ^ 2098 := by
      have hm' : 2 ^ 52 ≤ m := hnormal.resolve_right (Nat.ne_zero_of_lt hp)
      have hp' : 2046 ≤ p := hp
      rw [not_lt, htop']
      exact Nat.mul_le_mul hm' (pow_le_pow_right₀ one_le_two hp')
    rw [if_neg hlarge, ofParts, dif_neg fun h : Valid m p => absurd h.2.1 (by omega),
      dif_neg fun h : Valid (m / 2) (p + 1) => absurd h.2.1 (by omega)]
    rfl
  · rcases Nat.lt_or_ge m (2 ^ 53) with hm' | hm'
    · have hsmall : m * 2 ^ p < 2 ^ 2098 := by
        rw [htop]
        exact Nat.mul_lt_mul_of_lt_of_le hm' (pow_le_pow_right₀ one_le_two hp)
          (pow_pos two_pos _)
      rw [if_pos hsmall, ofParts_of_valid ⟨hm', hp, hnormal⟩]
      rfl
    · obtain rfl : m = 2 ^ 53 := le_antisymm hm hm'
      rcases Nat.lt_or_ge p 2045 with hp' | hp'
      · have hsmall : 2 ^ 53 * 2 ^ p < 2 ^ 2098 := by
          rw [htop]
          exact Nat.mul_lt_mul_of_le_of_lt le_rfl (pow_lt_pow_right₀ one_lt_two hp')
            (pow_pos two_pos _)
        have hcarry : 2 ^ 52 * 2 ^ (p + 1) = 2 ^ 53 * 2 ^ p := by ring
        have hvalid : Valid (Nat.pow 2 52) (p + 1) :=
          ⟨Nat.pow_lt_pow_right (by decide) (by decide), hp', .inl le_rfl⟩
        rw [if_pos hsmall, ← hcarry]
        exact congrArg exact (ofParts_carry hvalid)
      · obtain rfl : p = 2045 := le_antisymm hp hp'
        rw [if_neg (by rw [htop]; exact lt_irrefl _), ofParts,
          dif_neg fun h : Valid (2 ^ 53) 2045 => lt_irrefl _ h.1,
          dif_neg fun h : Valid (2 ^ 53 / 2) (2045 + 1) => absurd h.2.1 (by decide)]
        rfl

/-- **The double nearest to a quotient**, by its rounded magnitude: an infinity if that is out of
range. -/
lemma exact_nearest (hd : 0 < d) : (nearest false n d).exact =
    if roundedMagnitude n d < 2 ^ 2098 then .units (roundedMagnitude n d) else
      .positiveInfinity := by
  obtain ⟨hm, hnormal⟩ := significand_bounds (n := n) hd
  exact exact_ofParts hm hnormal

/-- Rounded magnitudes keep the order.

**Proof sketch.** With one shift this is the order of whole numbers. With two, a power of two lies
between the magnitudes. -/
lemma roundedMagnitude_mono (hd : 0 < d) (hd' : 0 < d') (h : n * d' ≤ n' * d) :
    roundedMagnitude n d ≤ roundedMagnitude n' d' := by
  unfold roundedMagnitude
  obtain ⟨hm, -⟩ := significand_bounds (n := n) hd
  obtain ⟨-, hnormal⟩ := significand_bounds (n := n') hd'
  rcases (shiftOf_mono hd hd' h).eq_or_lt with hshift | hshift
  · rw [← hshift] at hnormal ⊢
    refine Nat.mul_le_mul_right _ (roundQuotient_mono (Nat.mul_pos hd (Nat.two_pow_pos _))
      (Nat.mul_pos hd' (Nat.two_pow_pos _)) ?_)
    calc n * (d' * 2 ^ shiftOf n d) = n * d' * 2 ^ shiftOf n d := by ring
      _ ≤ n' * d * 2 ^ shiftOf n d := Nat.mul_le_mul_right _ h
      _ = n' * (d * 2 ^ shiftOf n d) := by ring
  · calc roundQuotient n (d * 2 ^ shiftOf n d) * 2 ^ shiftOf n d
        ≤ 2 ^ 53 * 2 ^ shiftOf n d := Nat.mul_le_mul_right _ hm
      _ = 2 ^ 52 * 2 ^ (shiftOf n d + 1) := by ring
      _ ≤ 2 ^ 52 * 2 ^ shiftOf n' d' :=
          Nat.mul_le_mul_left _ (Nat.pow_le_pow_right (by decide) hshift)
      _ ≤ _ := Nat.mul_le_mul_right _ (hnormal.resolve_right (by omega))

/-- Quotients that are equal have one rounded magnitude. -/
lemma roundedMagnitude_congr (hd : 0 < d) (hd' : 0 < d') (h : n * d' = n' * d) :
    roundedMagnitude n d = roundedMagnitude n' d' :=
  le_antisymm (roundedMagnitude_mono hd hd' h.le) (roundedMagnitude_mono hd' hd h.ge)

/-- Nothing has no magnitude. -/
@[simp] lemma roundedMagnitude_zero (d : ℕ) : roundedMagnitude 0 d = 0 := by
  simp [roundedMagnitude, roundQuotient]

/-- More than half a unit has a magnitude. -/
lemma roundedMagnitude_pos (hd : 0 < d) (h : d < 2 * n) : 0 < roundedMagnitude n d := by
  refine Nat.mul_pos (Nat.pos_of_ne_zero fun hzero => ?_) (Nat.two_pow_pos _)
  obtain ⟨-, hnormal⟩ := significand_bounds (n := n) hd
  rw [hzero] at hnormal
  have hshift : shiftOf n d = 0 := hnormal.resolve_left (by decide)
  rw [hshift, pow_zero, mul_one] at hzero
  obtain ⟨-, hhigh, -⟩ := roundQuotient_spec (n := n) hd
  rw [hzero] at hhigh
  omega

/-! ## The order of values -/

/-- **Rounding to doubles keeps the order.** -/
theorem nearest_mono (hd : 0 < d) (hd' : 0 < d') (h : n * d' ≤ n' * d) :
    (nearest false n d).exact.le (nearest false n' d').exact = true := by
  have hmagnitude := roundedMagnitude_mono hd hd' h
  rw [exact_nearest hd, exact_nearest hd']
  split_ifs with hfinite hfinite' hfinite'
  · simpa [Exact.le] using hmagnitude
  · rfl
  · exact absurd (hmagnitude.trans_lt hfinite') hfinite
  · rfl

end Binary64

end SessionRecorder
