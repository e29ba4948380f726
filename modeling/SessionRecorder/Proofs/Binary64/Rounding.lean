import Mathlib.Tactic.Common
import Mathlib.Tactic.Linarith
import Mathlib.Tactic.NormNum
import Mathlib.Tactic.Ring
import SessionRecorder.Binary64.Decimal
/-!
# Rounding into a neighbourhood

The neighbourhood of a double is the interval of magnitudes that round to it. This module proves
that it is one: whatever lies in it is rounded to the double.

## Main results

* `roundQuotient_eq` — a quotient that is next to a whole number is rounded to it.
* `Binary64.nearest_eq_of_contains` — what lies in the neighbourhood of a double rounds to it.
-/

namespace SessionRecorder

/-! ## Quotients -/

/-- A quotient at most one half away from a whole number is rounded to it, if it is less than one
half away or the number is even. -/
lemma roundQuotient_eq {n d k : ℕ} (hd : 0 < d) (hlow : 2 * k * d ≤ 2 * n + d)
    (hhigh : 2 * n ≤ 2 * k * d + d)
    (htie : k % 2 = 0 ∨ (2 * k * d < 2 * n + d ∧ 2 * n < 2 * k * d + d)) :
    roundQuotient n d = k := by
  have hn : d * (n / d) + n % d = n := Nat.div_add_mod n d
  have hr : n % d < d := Nat.mod_lt n hd
  set q := n / d with hq
  set r := n % d with hrdef
  -- The number is one of the two neighbours of the quotient.
  have hk : q ≤ k := by
    by_contra hlt
    have : (k + 1) * d ≤ q * d := Nat.mul_le_mul_right d (by omega)
    nlinarith
  have hk' : k ≤ q + 1 := by
    by_contra hlt
    have : (q + 2) * d ≤ k * d := Nat.mul_le_mul_right d (by omega)
    nlinarith
  unfold roundQuotient
  rw [← hq, ← hrdef]
  dsimp only
  rcases (show k = q ∨ k = q + 1 by omega) with rfl | rfl
  · have hhalf : 2 * r ≤ d := by nlinarith
    split_ifs with h₁ h₂ h₃
    · rfl
    · omega
    · rfl
    · have heven : q % 2 ≠ 0 := by simpa using h₃
      rcases htie with h | ⟨-, h⟩
      · exact absurd h heven
      · nlinarith
  · have hhalf : d ≤ 2 * r := by nlinarith
    split_ifs with h₁ h₂ h₃
    · omega
    · rfl
    · have heven : q % 2 = 0 := by simpa using h₃
      rcases htie with h | ⟨h, -⟩
      · omega
      · nlinarith
    · rfl

namespace Binary64

/-! ## Parts -/

/-- The number of units in one is a power of two. The exponent is a variable, so that the power is
never evaluated. -/
lemma unit_eq {k : ℕ} (hk : k = 1074) : unit = 2 ^ k := by
  unfold unit
  rw [← hk]
  rfl

/-- There are units in one. -/
lemma unit_pos : 0 < unit := by
  obtain ⟨k, hk⟩ : ∃ k : ℕ, k = 1074 := ⟨_, rfl⟩
  rw [unit_eq hk]
  exact Nat.two_pow_pos k

/-- Parts that are in range are those of a double. -/
lemma ofParts_of_valid {s : Bool} {m p : ℕ} (h : Valid m p) : ofParts s m p = .finite s m p h := by
  rw [ofParts, dif_pos h]

/-- A significand that has run over is carried into the shift. -/
lemma ofParts_carry {s : Bool} {p : ℕ} (h : Valid (Nat.pow 2 52) (p + 1)) :
    ofParts s (Nat.pow 2 53) p = .finite s (Nat.pow 2 52) (p + 1) h := by
  have hover : ¬Valid (Nat.pow 2 53) p := fun hv => lt_irrefl _ hv.1
  have hhalf : Nat.pow 2 53 / 2 = Nat.pow 2 52 := by decide
  rw [ofParts, dif_neg hover]
  simp only [hhalf, dif_pos h]

/-- The parts that a quotient is rounded to, given its shift. -/
lemma nearest_eq_ofParts {s : Bool} {n d k : ℕ} (hk : Nat.log2 (n / d) - 52 = k) :
    nearest s n d = ofParts s (roundQuotient n (d * Nat.pow 2 k)) k := by
  rw [nearest, hk]

/-- The shift of a quotient whose magnitude is known. -/
lemma log2_quotient {n d k : ℕ} (hd : 0 < d) (hlow : 2 ^ (52 + k) * d ≤ n)
    (hhigh : n < 2 ^ (53 + k) * d) : Nat.log2 (n / d) - 52 = k := by
  have hle : 2 ^ (52 + k) ≤ n / d := (Nat.le_div_iff_mul_le hd).2 hlow
  have hlt : n / d < 2 ^ (52 + k + 1) := by
    rw [Nat.div_lt_iff_lt_mul hd]
    rwa [show 52 + k + 1 = 53 + k by omega]
  have hne : n / d ≠ 0 := by
    have := Nat.two_pow_pos (52 + k)
    omega
  rw [(Nat.log2_eq_iff hne).2 ⟨hle, hlt⟩]
  omega

/-- The shift of a small quotient. -/
lemma log2_quotient_small {n d : ℕ} (hd : 0 < d) (hhigh : n < 2 ^ 53 * d) :
    Nat.log2 (n / d) - 52 = 0 := by
  have hlt : n / d < 2 ^ 53 := (Nat.div_lt_iff_lt_mul hd).2 hhigh
  rcases Nat.eq_zero_or_pos (n / d) with h | h
  · simp [h]
  · have := (Nat.log2_lt h.ne').2 hlt
    omega

/-! ## Neighbourhoods -/

/-- What lies in a neighbourhood: the ends do if it is closed. -/
lemma Neighbourhood.contains_iff {b : Neighbourhood} {n d : ℕ} :
    b.contains n d = true ↔ b.low * d ≤ n ∧ n ≤ b.high * d ∧
      (b.closed = true ∨ b.low * d < n ∧ n < b.high * d) := by
  unfold Neighbourhood.contains
  split
  next h => simp [h]
  next h =>
    simp only [h, Bool.and_eq_true, decide_eq_true_eq, Bool.false_eq_true, false_or]
    omega

/-- How far below a double its neighbourhood reaches, in quarters of a unit. -/
def gapBelow (m p : ℕ) : ℕ :=
  if m = Nat.pow 2 52 ∧ p ≠ 0 then 2 ^ p else 2 * 2 ^ p

/-- The neighbourhood reaches down half as far from a power of two as it reaches up. -/
lemma gapBelow_le (m p : ℕ) : 2 ^ p ≤ gapBelow m p ∧ gapBelow m p ≤ 2 * 2 ^ p := by
  unfold gapBelow
  split <;> omega

/-- The neighbourhood of a double in quarters of a unit, its lower end without subtraction. -/
lemma neighbourhood_spec {m : ℕ} (hm : 0 < m) (p : ℕ) :
    (neighbourhood m p).value = 4 * (m * 2 ^ p) ∧
    (neighbourhood m p).low + gapBelow m p = 4 * (m * 2 ^ p) ∧
    (neighbourhood m p).high = 4 * (m * 2 ^ p) + 2 * 2 ^ p ∧
    ((neighbourhood m p).closed = true ↔ m % 2 = 0) := by
  have hpow : 2 ^ p ≤ m * 2 ^ p := Nat.le_mul_of_pos_left _ hm
  have hgap := (gapBelow_le m p).2
  have hbelow : (if m == Nat.pow 2 52 && p != 0 then Nat.pow 2 p else 2 * Nat.pow 2 p) =
      gapBelow m p := by
    simp only [gapBelow, Bool.and_eq_true, beq_iff_eq, bne_iff_ne]
    rfl
  refine ⟨rfl, ?_, rfl, beq_iff_eq⟩
  unfold neighbourhood
  dsimp only
  rw [hbelow]
  show 4 * (m * 2 ^ p) - gapBelow m p + gapBelow m p = _
  omega

/-- What lies in the neighbourhood of a double and has its shift rounds to it. -/
lemma nearest_eq_of_log2 {s : Bool} {m p n d : ℕ} (hv : Valid m p) (hm : 0 < m) (hd : 0 < d)
    (h : (neighbourhood m p).contains (4 * n) d = true) (hshift : Nat.log2 (n / d) - 52 = p) :
    nearest s n d = .finite s m p hv := by
  obtain ⟨-, hlow, hhigh, hclosed⟩ := neighbourhood_spec hm p
  obtain ⟨hl, hh, htie⟩ := Neighbourhood.contains_iff.1 h
  have hgap := (gapBelow_le m p).2
  have hgapd : gapBelow m p * d ≤ 2 * 2 ^ p * d := Nat.mul_le_mul_right d hgap
  have hsum : (neighbourhood m p).low * d + gapBelow m p * d = 4 * (m * 2 ^ p) * d := by
    rw [← add_mul, hlow]
  rw [hhigh] at hh htie
  rw [nearest_eq_ofParts hshift]
  have hround : roundQuotient n (d * Nat.pow 2 p) = m := by
    show roundQuotient n (d * 2 ^ p) = m
    refine roundQuotient_eq (Nat.mul_pos hd (Nat.two_pow_pos p)) (by nlinarith) (by nlinarith) ?_
    rcases htie with hc | ⟨hl', hh'⟩
    · exact .inl (hclosed.1 hc)
    · exact .inr ⟨by nlinarith, by nlinarith⟩
  rw [hround, ofParts_of_valid hv]

/-- Only the neighbourhood of a power of two reaches below the magnitudes with its shift, and that
by a quarter of its last place. -/
lemma power_of_two_of_below {m p n d : ℕ} (hm : 0 < m) (hd : 0 < d) (hmin : 2 ^ 52 ≤ m)
    (hl : (neighbourhood m (p + 1)).low * d ≤ 4 * n) (hn : n < 2 ^ (53 + p) * d) :
    m = Nat.pow 2 52 ∧ 2 ^ 54 * (2 ^ p * d) ≤ 2 * n + 2 ^ p * d := by
  obtain ⟨-, hlow, -, -⟩ := neighbourhood_spec hm (p + 1)
  have hu : 0 < 2 ^ p * d := Nat.mul_pos (Nat.two_pow_pos p) hd
  have hgap := (gapBelow_le m (p + 1)).2
  have hsum : (neighbourhood m (p + 1)).low * d + gapBelow m (p + 1) * d =
      8 * m * (2 ^ p * d) := by
    rw [← add_mul, hlow, pow_succ]
    ring
  have hgapd : gapBelow m (p + 1) * d ≤ 4 * (2 ^ p * d) := by
    calc gapBelow m (p + 1) * d ≤ 2 * 2 ^ (p + 1) * d := Nat.mul_le_mul_right d hgap
      _ = 4 * (2 ^ p * d) := by rw [pow_succ]; ring
  have hn' : n < 2 ^ 53 * (2 ^ p * d) := by rwa [pow_add, mul_assoc] at hn
  have heq : m = 2 ^ 52 := by
    by_contra hne
    have hlarge : (2 ^ 52 + 1) * (2 ^ p * d) ≤ m * (2 ^ p * d) :=
      Nat.mul_le_mul_right _ (by omega)
    nlinarith
  refine ⟨heq, ?_⟩
  have hgapEq : gapBelow m (p + 1) = 2 * 2 ^ p := by
    rw [gapBelow, if_pos ⟨heq, Nat.succ_ne_zero p⟩, pow_succ, mul_comm]
  rw [hgapEq] at hsum
  subst heq
  nlinarith

/-- **What lies in the neighbourhood of a double rounds to it.**

**Proof sketch.** A quotient in the neighbourhood has the shift of the double, and is then at most
half a last place away from its significand; but below a power of two it has the shift before, and
there it rounds to a significand of 54 bits, which is carried. -/
theorem nearest_eq_of_contains {s : Bool} {m p n d : ℕ} (hv : Valid m p) (hm : 0 < m) (hd : 0 < d)
    (h : (neighbourhood m p).contains (4 * n) d = true) : nearest s n d = .finite s m p hv := by
  obtain ⟨-, hlow, hhigh, -⟩ := neighbourhood_spec hm p
  obtain ⟨hl, hh, -⟩ := Neighbourhood.contains_iff.1 h
  have hgap := gapBelow_le m p
  have hmax : m < 2 ^ 53 := hv.1
  have htop : n < 2 ^ (53 + p) * d := by
    rw [hhigh] at hh
    have hu : 0 < 2 ^ p * d := Nat.mul_pos (Nat.two_pow_pos p) hd
    have hmu : (m + 1) * (2 ^ p * d) ≤ 2 ^ 53 * (2 ^ p * d) := Nat.mul_le_mul_right _ hmax
    rw [pow_add]
    nlinarith
  cases p with
  | zero => exact nearest_eq_of_log2 hv hm hd h (log2_quotient_small hd (by simpa using htop))
  | succ p =>
    have hmin : 2 ^ 52 ≤ m := hv.2.2.resolve_right (by omega)
    by_cases hn : 2 ^ (52 + (p + 1)) * d ≤ n
    · exact nearest_eq_of_log2 hv hm hd h (log2_quotient hd hn htop)
    · have hn' : n < 2 ^ (53 + p) * d := by
        rw [show 53 + p = 52 + (p + 1) by omega]
        exact not_le.1 hn
      obtain ⟨rfl, hl'⟩ := power_of_two_of_below hm hd hmin hl hn'
      have hlow' : 2 ^ (52 + p) * d ≤ n := by
        rw [pow_add]
        nlinarith [Nat.mul_pos (Nat.two_pow_pos p) hd]
      rw [nearest_eq_ofParts (log2_quotient hd hlow' hn')]
      have hround : roundQuotient n (d * Nat.pow 2 p) = Nat.pow 2 53 := by
        show roundQuotient n (d * 2 ^ p) = 2 ^ 53
        rw [pow_add] at hn'
        exact roundQuotient_eq (Nat.mul_pos hd (Nat.two_pow_pos p)) (by nlinarith) (by nlinarith)
          (.inl (by norm_num))
      rw [hround]
      exact ofParts_carry hv

end Binary64

end SessionRecorder
