import Mathlib.Algebra.Order.Field.Power
import Mathlib.Algebra.Order.Field.Rat
import Mathlib.Data.Rat.Cast.Order
import Mathlib.Tactic.FieldSimp
import Mathlib.Tactic.Positivity
import SessionRecorder.Proofs.Binary64.Rounding
/-!
# The shortest decimal form

The decimal digits by which a double is spelled lie in its neighbourhood, so they read back as the
double. Grids of decimal numbers are tried with more and more digits; seventeen are always enough,
since the points of that grid lie closer together than the ends of the neighbourhood.

## Main definitions

* `Binary64.Neighbourhood.Holds` — the rational numbers in a neighbourhood.
* `Binary64.step` — the distance between the points of a grid.

## Main results

* `Binary64.pointOf_spec` — the place of the point in a decimal number.
* `Binary64.gridPoint_seventeen` — some decimal number of seventeen digits is near enough.
* `Binary64.shortest_spec` — the shortest decimal form lies in the neighbourhood of the double.
-/

namespace SessionRecorder.Binary64

/-! ## Powers of ten -/

/-- The numerator of a power of ten is not zero. -/
lemma powerOfTen_num_pos (e : ℤ) : 0 < (powerOfTen e).1 := by
  unfold powerOfTen
  split
  · exact Nat.pow_pos (by decide)
  · exact Nat.one_pos

/-- The denominator of a power of ten is not zero. -/
lemma powerOfTen_den_pos (e : ℤ) : 0 < (powerOfTen e).2 := by
  unfold powerOfTen
  split
  · exact Nat.one_pos
  · exact Nat.pow_pos (by decide)

/-- A power of ten as a quotient of natural numbers. -/
lemma powerOfTen_num (e : ℤ) : ((powerOfTen e).1 : ℚ) = 10 ^ e * (powerOfTen e).2 := by
  unfold powerOfTen
  split
  next h =>
    obtain ⟨n, rfl⟩ := Int.eq_ofNat_of_zero_le h
    simp
  next h =>
    obtain ⟨n, rfl⟩ : ∃ n : ℕ, e = -(n : ℤ) := ⟨(-e).toNat, by omega⟩
    simp

/-- The distance between the points of the grid of decimal numbers with step `10 ^ e`, in quarters
of a unit. -/
def step (e : ℤ) : ℚ :=
  10 ^ e * (4 * unit)

/-- Grids have distances. -/
lemma step_pos (e : ℤ) : 0 < step e := by
  have := unit_pos
  unfold step
  positivity

/-- The distance between the points of a coarser grid. -/
lemma step_add (e : ℤ) (k : ℕ) : step (e + k) = 10 ^ k * step e := by
  unfold step
  rw [zpow_add₀ (by norm_num), zpow_natCast]
  ring

/-! ## Neighbourhoods of rational numbers -/

/-- The numbers in a neighbourhood; its ends are if it is closed. -/
def Neighbourhood.Holds (b : Neighbourhood) (y : ℚ) : Prop :=
  b.low ≤ y ∧ y ≤ b.high ∧ (b.closed = true ∨ b.low < y ∧ y < b.high)

/-- A quotient lies in a neighbourhood as the rational number that it is. -/
lemma Neighbourhood.contains_iff_holds {b : Neighbourhood} {n d : ℕ} (hd : 0 < d) {y : ℚ}
    (hy : (n : ℚ) = y * d) : b.contains n d = true ↔ b.Holds y := by
  have hdq : (0 : ℚ) < d := by exact_mod_cast hd
  have hle (k : ℕ) : k * d ≤ n ↔ (k : ℚ) ≤ y := by
    rw [← Nat.cast_le (α := ℚ), Nat.cast_mul, hy, mul_le_mul_iff_left₀ hdq]
  have hge (k : ℕ) : n ≤ k * d ↔ y ≤ (k : ℚ) := by
    rw [← Nat.cast_le (α := ℚ), Nat.cast_mul, hy, mul_le_mul_iff_left₀ hdq]
  have hlt (k : ℕ) : k * d < n ↔ (k : ℚ) < y := by rw [← not_le, hge, not_le]
  have hgt (k : ℕ) : n < k * d ↔ y < (k : ℚ) := by rw [← not_le, hle, not_le]
  rw [contains_iff, Holds, hle, hge, hlt, hgt]

/-- The neighbourhood of a double that is not zero, as an interval of rational numbers. -/
lemma neighbourhood_cast {m : ℕ} (hm : 0 < m) (p : ℕ) :
    ((neighbourhood m p).value : ℚ) = 4 * (m * 2 ^ p) ∧
    ((neighbourhood m p).low : ℚ) = 4 * (m * 2 ^ p) - gapBelow m p ∧
    ((neighbourhood m p).high : ℚ) = 4 * (m * 2 ^ p) + 2 * 2 ^ p := by
  obtain ⟨hvalue, hlow, hhigh, -⟩ := neighbourhood_spec hm p
  refine ⟨by rw [hvalue]; push_cast; ring, ?_, by rw [hhigh]; push_cast; ring⟩
  have : ((neighbourhood m p).low : ℚ) + gapBelow m p = 4 * (m * 2 ^ p) := by exact_mod_cast hlow
  linarith

/-- The distance to the lower end of the neighbourhood: only that of a power of two is shorter. -/
lemma gapBelow_cast (m p : ℕ) :
    (gapBelow m p : ℚ) = 2 * 2 ^ p ∨ ((gapBelow m p : ℚ) = 2 ^ p ∧ m = 2 ^ 52) := by
  unfold gapBelow
  split
  next h => exact .inr ⟨by push_cast; rfl, h.1⟩
  next => exact .inl (by push_cast; rfl)

/-! ## Grids -/

/-- A point of a grid lies in a neighbourhood as the number that it is. -/
lemma contains_point (b : Neighbourhood) (e : ℤ) (k : ℕ) :
    b.contains (k * ((powerOfTen e).1 * (4 * unit))) (powerOfTen e).2 = true ↔
      b.Holds (k * step e) := by
  refine Neighbourhood.contains_iff_holds (powerOfTen_den_pos e) ?_
  push_cast
  rw [powerOfTen_num, step]
  ring

/-- A value stands between two neighbours of a grid. -/
lemma below_spec (v : ℕ) (e : ℤ) {k : ℕ}
    (hk : v * (powerOfTen e).2 / ((powerOfTen e).1 * (4 * unit)) = k) :
    k * step e ≤ v ∧ (v : ℚ) < (k + 1) * step e := by
  have hden : (0 : ℚ) < (powerOfTen e).2 := by exact_mod_cast powerOfTen_den_pos e
  have hscale : 0 < (powerOfTen e).1 * (4 * unit) :=
    Nat.mul_pos (powerOfTen_num_pos e) (Nat.mul_pos (by decide) unit_pos)
  have hcast : (((powerOfTen e).1 * (4 * unit) : ℕ) : ℚ) = step e * (powerOfTen e).2 := by
    push_cast
    rw [powerOfTen_num, step]
    ring
  generalize (powerOfTen e).1 * (4 * unit) = scale at hk hscale hcast
  have hle : k * scale ≤ v * (powerOfTen e).2 := hk ▸ Nat.div_mul_le_self _ _
  have hlt : v * (powerOfTen e).2 < scale * (k + 1) := hk ▸ Nat.lt_mul_div_succ _ hscale
  have hle' : (k : ℚ) * (step e * (powerOfTen e).2) ≤ v * (powerOfTen e).2 := by
    rw [← hcast]
    exact_mod_cast hle
  have hlt' : (v : ℚ) * (powerOfTen e).2 < step e * (powerOfTen e).2 * (k + 1) := by
    rw [← hcast]
    exact_mod_cast hlt
  exact ⟨le_of_mul_le_mul_right (by linarith) hden, lt_of_mul_lt_mul_right (by linarith) hden.le⟩

/-- What is found on a grid is one of the two neighbours of the value that lie in the neighbourhood;
nothing is found if neither does. -/
lemma gridPoint_cases (b : Neighbourhood) (e : ℤ) :
    ∃ below : ℕ, (below * step e ≤ b.value ∧ (b.value : ℚ) < (below + 1) * step e) ∧
      ((gridPoint? b e = none ∧ ¬b.Holds (below * step e) ∧
          ¬b.Holds ((below + 1 : ℕ) * step e)) ∨
        (gridPoint? b e = some below ∧ b.Holds (below * step e)) ∨
        (gridPoint? b e = some (below + 1) ∧ b.Holds ((below + 1 : ℕ) * step e))) := by
  have hpoint := contains_point b e
  have hspec := @below_spec b.value e
  unfold gridPoint?
  generalize 4 * unit = quarters at hpoint hspec ⊢
  generalize powerOfTen e = ten at hpoint hspec ⊢
  obtain ⟨num, den⟩ := ten
  dsimp only at hpoint hspec ⊢
  generalize hk : b.value * den / (num * quarters) = k at hspec ⊢
  refine ⟨k, hspec rfl, ?_⟩
  rw [← hpoint, ← hpoint]
  cases hbelow : b.contains (k * (num * quarters)) den <;>
    cases habove : b.contains ((k + 1) * (num * quarters)) den
  · exact .inl ⟨rfl, by simp, by simp⟩
  · exact .inr (.inr ⟨rfl, rfl⟩)
  · exact .inr (.inl ⟨rfl, rfl⟩)
  · dsimp only
    split_ifs
    · exact .inr (.inl ⟨rfl, rfl⟩)
    · exact .inr (.inr ⟨rfl, rfl⟩)
    · exact .inr (.inl ⟨rfl, rfl⟩)
    · exact .inr (.inr ⟨rfl, rfl⟩)

/-- What is found on a grid lies in the neighbourhood, and is one of the two neighbours of the
value. -/
lemma gridPoint_of_eq_some {b : Neighbourhood} {e : ℤ} {k : ℕ} (h : gridPoint? b e = some k) :
    b.Holds (k * step e) ∧ ∃ below : ℕ, below * step e ≤ b.value ∧
      (b.value : ℚ) < (below + 1) * step e ∧ (k = below ∨ k = below + 1) := by
  obtain ⟨below, ⟨hbelow, habove⟩, ⟨hnone, -⟩ | ⟨hk, hin⟩ | ⟨hk, hin⟩⟩ := gridPoint_cases b e
  · exact absurd (h.symm.trans hnone) (by simp)
  · obtain rfl := Option.some.inj (h.symm.trans hk)
    exact ⟨hin, k, hbelow, habove, .inl rfl⟩
  · obtain rfl := Option.some.inj (h.symm.trans hk)
    exact ⟨hin, below, hbelow, habove, .inr rfl⟩

/-- **Some decimal number of seventeen digits lies in the neighbourhood.**

**Proof sketch.** The points of the grid are less than two distances between doubles apart; so of
the two that enclose the value one is nearer than the end of the neighbourhood on its side. Below a
power of two the doubles are closer, but above it the points are near enough. -/
lemma gridPoint_seventeen {m p : ℕ} {e : ℤ} (hv : Valid m p) (hm : 0 < m)
    (he : 10 ^ 16 * step e ≤ (neighbourhood m p).value) :
    ∃ k, gridPoint? (neighbourhood m p) e = some k := by
  obtain ⟨below, ⟨hbelow, habove⟩, hnone | ⟨h, -⟩ | ⟨h, -⟩⟩ := gridPoint_cases (neighbourhood m p) e
  · exfalso
    obtain ⟨-, hout, hout'⟩ := hnone
    obtain ⟨hvalue, hlow, hhigh⟩ := neighbourhood_cast hm p
    have hstep := step_pos e
    have hmax : (m : ℚ) ≤ 2 ^ 53 := by exact_mod_cast hv.1.le
    have hu : (0 : ℚ) < 2 ^ p := by positivity
    have hmu : (m : ℚ) * 2 ^ p ≤ 2 ^ 53 * 2 ^ p := mul_le_mul_of_nonneg_right hmax hu.le
    unfold Neighbourhood.Holds at hout hout'
    rw [hlow, hhigh] at hout hout'
    rw [hvalue] at he hbelow habove
    push_cast at hout'
    rcases gapBelow_cast m p with hgap | ⟨hgap, rfl⟩
    · rw [hgap] at hout hout'
      generalize (m : ℚ) * 2 ^ p = v at *
      rcases lt_or_ge (4 * v - below * step e) (2 * 2 ^ p) with hnear | hfar
      · exact hout ⟨by linarith, by linarith, .inr ⟨by linarith, by linarith⟩⟩
      · exact hout' ⟨by linarith, by linarith, .inr ⟨by linarith, by linarith⟩⟩
    · rw [hgap] at hout hout'
      push_cast at *
      exact hout' ⟨by linarith, by linarith, .inr ⟨by linarith, by linarith⟩⟩
  · exact ⟨_, h⟩
  · exact ⟨_, h⟩

/-! ## The place of the point -/

/-- A number has at most as many digits as a power of ten above it has zeros. -/
lemma digitCount_le_iff {n k : ℕ} (hk : 0 < k) : digitCount n ≤ k ↔ n < 10 ^ k :=
  Nat.length_toDigits_le_iff (by decide) hk

/-- There is a digit. -/
lemma digitCount_pos (n : ℕ) : 0 < digitCount n :=
  Nat.length_toDigits_pos

/-- The number of digits of a number between two powers of ten. -/
lemma digitCount_eq {n c : ℕ} (hc : 0 < c) (hlow : 10 ^ (c - 1) ≤ n) (hhigh : n < 10 ^ c) :
    digitCount n = c := by
  refine le_antisymm ((digitCount_le_iff hc).2 hhigh) ?_
  by_contra hlt
  have hpos := digitCount_pos n
  have := (digitCount_le_iff (n := n) (k := c - 1) (by omega)).1 (by omega)
  omega

/-- A number stands between two powers of ten. -/
lemma digitCount_spec {n : ℕ} (hn : 0 < n) :
    10 ^ (digitCount n - 1) ≤ n ∧ n < 10 ^ digitCount n := by
  refine ⟨?_, (digitCount_le_iff (digitCount_pos n)).1 le_rfl⟩
  by_contra hlt
  rcases Nat.eq_zero_or_pos (digitCount n - 1) with h | h
  · rw [h, pow_zero] at hlt
    omega
  · have := (digitCount_le_iff h).2 (not_le.1 hlt)
    omega

/-- Without its last digit a number has one digit less. -/
lemma digitCount_div_ten {n c : ℕ} (h : digitCount n = c + 2) :
    digitCount (n / 10) = c + 1 ∧ 0 < n / 10 := by
  have hn : 0 < n := by
    rcases Nat.eq_zero_or_pos n with rfl | hn
    · exact absurd h (by simp [digitCount, Nat.toDigits_zero])
    · exact hn
  obtain ⟨hlow, hhigh⟩ := digitCount_spec hn
  rw [h] at hlow hhigh
  rw [show c + 2 - 1 = c + 1 by omega, pow_succ] at hlow
  rw [pow_succ] at hhigh
  have hpow : 0 < 10 ^ c := Nat.pow_pos (by decide)
  exact ⟨digitCount_eq (by omega) (by rw [Nat.add_sub_cancel]; omega) (by omega), by omega⟩

/-- **The place of the point**: a value is below the power of ten with that exponent, and not below
the one before it. -/
lemma pointOf_spec {n d : ℕ} (hn : 0 < n) (hd : 0 < d) :
    (10 : ℚ) ^ (pointOf n d - 1) * d ≤ n ∧ (n : ℚ) < 10 ^ pointOf n d * d := by
  unfold pointOf
  split
  next hle =>
    have hq : 0 < n / d := Nat.div_pos hle hd
    obtain ⟨hlow, hhigh⟩ := digitCount_spec hq
    have hpos := digitCount_pos (n / d)
    generalize digitCount (n / d) = c at hlow hhigh hpos ⊢
    have hexp : (c : ℤ) - 1 = (c - 1 : ℕ) := by omega
    rw [hexp, zpow_natCast, zpow_natCast]
    have h₁ : 10 ^ (c - 1) * d ≤ n := (Nat.le_div_iff_mul_le hd).1 hlow
    have h₂ : n < 10 ^ c * d := (Nat.div_lt_iff_lt_mul hd).1 hhigh
    exact ⟨by exact_mod_cast h₁, by exact_mod_cast h₂⟩
  next hlt =>
    have hq : 0 < (d - 1) / n := Nat.div_pos (by omega) hn
    obtain ⟨hlow, hhigh⟩ := digitCount_spec hq
    have hpos := digitCount_pos ((d - 1) / n)
    generalize digitCount ((d - 1) / n) = c at hlow hhigh hpos ⊢
    have h₁ : 10 ^ (c - 1) * n ≤ d - 1 := (Nat.le_div_iff_mul_le hn).1 hlow
    have h₂ : d - 1 < 10 ^ c * n := (Nat.div_lt_iff_lt_mul hn).1 hhigh
    have h₁' : (10 : ℚ) ^ (c - 1) * n < d := by exact_mod_cast (show 10 ^ (c - 1) * n < d by omega)
    have h₂' : (d : ℚ) ≤ 10 ^ c * n := by exact_mod_cast (show d ≤ 10 ^ c * n by omega)
    have hexp : (1 : ℤ) - c = -(c - 1 : ℕ) := by omega
    have hexp' : (1 : ℤ) - c - 1 = -(c : ℕ) := by omega
    rw [hexp', hexp, zpow_neg, zpow_neg, zpow_natCast, zpow_natCast]
    refine ⟨?_, ?_⟩
    · rw [inv_mul_le_iff₀ (by positivity)]
      exact h₂'
    · rw [lt_inv_mul_iff₀ (by positivity)]
      exact h₁'

/-! ## The first grid -/

/-- The first grid with a point is found before the digits run out. -/
lemma firstGrid_spec {b : Neighbourhood} {point : ℤ} {fuel count : ℕ} (hcount : 0 < count)
    (h : ∃ k, gridPoint? b (point - 17) = some k) (hle : count ≤ 17) (hfuel : 18 ≤ fuel + count) :
    ∃ k c : ℕ, 0 < c ∧ firstGrid b point fuel count = ⟨k, c, point⟩ ∧
      gridPoint? b (point - c) = some k := by
  induction fuel generalizing count with
  | zero => omega
  | succ fuel ih =>
    unfold firstGrid
    split
    next k hk => exact ⟨k, count, hcount, rfl, hk⟩
    next hnone =>
      have hne : count ≠ 17 := by
        rintro rfl
        obtain ⟨k, hk⟩ := h
        exact absurd (hk.symm.trans hnone) (by simp)
      exact ih (by omega) (by omega) (by omega)

/-- What is found on a grid has the digits of the grid, or is the power of ten above them. -/
lemma gridPoint_digits {b : Neighbourhood} {point : ℤ} {k c : ℕ} (hc : 0 < c)
    (hlow : step (point - 1) ≤ b.value) (hhigh : (b.value : ℚ) < step point)
    (h : gridPoint? b (point - c) = some k) : 10 ^ (c - 1) ≤ k ∧ k ≤ 10 ^ c := by
  have hst := step_pos (point - c)
  have htop : step point = 10 ^ c * step (point - c) := by
    rw [← step_add]
    congr 1
    omega
  have hbottom : step (point - 1) = 10 ^ (c - 1) * step (point - c) := by
    rw [← step_add]
    congr 1
    omega
  obtain ⟨-, below, hbelow, habove, hk⟩ := gridPoint_of_eq_some h
  rw [htop] at hhigh
  rw [hbottom] at hlow
  have h₁ : (below : ℚ) < 10 ^ c := lt_of_mul_lt_mul_right (hbelow.trans_lt hhigh) hst.le
  have h₂ : (10 : ℚ) ^ (c - 1) < below + 1 := lt_of_mul_lt_mul_right (hlow.trans_lt habove) hst.le
  have h₁' : below < 10 ^ c := by exact_mod_cast h₁
  have h₂' : 10 ^ (c - 1) < below + 1 := by exact_mod_cast h₂
  omega

/-! ## Decimal numbers -/

/-- The number that a decimal form stands for, in quarters of a unit. -/
def Decimal.quarters (x : Decimal) : ℚ :=
  x.digits * step (x.point - x.count)

/-- A decimal form whose digits are counted right. -/
structure Decimal.Proper (x : Decimal) : Prop where
  positive : 0 < x.digits
  count_eq : digitCount x.digits = x.count

/-- Taking zeros off the end keeps the number and the place of the point. -/
lemma Decimal.trimmed_spec (fuel : ℕ) {x : Decimal} (hx : x.Proper) :
    (x.trimmed fuel).Proper ∧ (x.trimmed fuel).quarters = x.quarters ∧
      (x.trimmed fuel).point = x.point := by
  induction fuel generalizing x with
  | zero => exact ⟨hx, rfl, rfl⟩
  | succ fuel ih =>
    unfold trimmed
    split
    next h =>
      simp only [Bool.and_eq_true, beq_iff_eq, decide_eq_true_eq] at h
      obtain ⟨hzero, hcount⟩ := h
      have hdigits : x.digits = 10 * (x.digits / 10) := by omega
      obtain ⟨c, hc⟩ : ∃ c, x.count = c + 2 := ⟨x.count - 2, by omega⟩
      obtain ⟨hless, hpositive⟩ := digitCount_div_ten (hx.count_eq.trans hc)
      have hproper : Proper ⟨x.digits / 10, x.count - 1, x.point⟩ :=
        ⟨hpositive, by rw [hless, hc]; rfl⟩
      obtain ⟨hp, hq, hpoint⟩ := ih hproper
      refine ⟨hp, hq.trans ?_, hpoint⟩
      have hstep : step (x.point - (x.count - 1 : ℕ)) = 10 * step (x.point - x.count) := by
        rw [show x.point - ((x.count - 1 : ℕ) : ℤ) = x.point - x.count + (1 : ℕ) by omega, step_add,
          pow_one]
      have hcast : (x.digits : ℚ) = 10 * (x.digits / 10 : ℕ) := by exact_mod_cast hdigits
      rw [quarters, quarters, hstep, hcast]
      ring
    next => exact ⟨hx, rfl, rfl⟩

/-- With one more digit, and the point one place further, the number is the same. -/
lemma Decimal.quarters_succ (k c : ℕ) (point : ℤ) :
    quarters ⟨k, c + 1, point + 1⟩ = quarters ⟨k, c, point⟩ := by
  unfold quarters
  dsimp only
  congr 2
  push_cast
  ring

/-- A power of ten has one digit more than it has zeros. -/
lemma Decimal.proper_power (c : ℕ) (point : ℤ) : Proper ⟨10 ^ c, c + 1, point⟩ where
  positive := Nat.pow_pos (by decide)
  count_eq := digitCount_eq c.succ_pos le_rfl (Nat.pow_lt_pow_right (by decide) c.lt_succ_self)

/-! ## The shortest form -/

/-- A power of two is at most a power of ten with a third of the exponent. -/
lemma two_pow_le_ten_pow {k j : ℕ} (h : k ≤ 3 * j) : (2 : ℚ) ^ k ≤ 10 ^ j :=
  calc (2 : ℚ) ^ k ≤ 2 ^ (3 * j) := pow_le_pow_right₀ (by norm_num) h
    _ = 8 ^ j := by rw [pow_mul]; norm_num
    _ ≤ 10 ^ j := pow_le_pow_left₀ (by norm_num) (by norm_num) j

/-- The place of the point of a double is less than four hundred places away. -/
lemma point_bounds {m p : ℕ} {point : ℤ} (hv : Valid m p) (hm : 0 < m)
    (hlow : step (point - 1) ≤ 4 * (m * 2 ^ p)) (hhigh : (4 * (m * 2 ^ p) : ℚ) < step point) :
    -399 ≤ point ∧ point ≤ 399 := by
  -- The exponents are variables, so that no power is evaluated.
  obtain ⟨k, hk⟩ : ∃ k : ℕ, k = 1074 := ⟨_, rfl⟩
  obtain ⟨j, hj⟩ : ∃ j : ℕ, j = 358 := ⟨_, rfl⟩
  obtain ⟨l, hl⟩ : ∃ l : ℕ, l = 971 := ⟨_, rfl⟩
  have hunit : (unit : ℚ) = 2 ^ k := by exact_mod_cast unit_eq hk
  have htwo : (2 : ℚ) ^ k ≤ 10 ^ j := two_pow_le_ten_pow (by omega)
  have hpos : (0 : ℚ) < 2 ^ k := by positivity
  have hmu : (1 : ℚ) ≤ m * 2 ^ p := by exact_mod_cast Nat.mul_pos hm (Nat.two_pow_pos p)
  unfold step at hlow hhigh
  rw [hunit] at hlow hhigh
  constructor
  · by_contra hlt
    have hten : (10 : ℚ) ^ point * 10 ^ j ≤ 1 := by
      rw [← zpow_natCast, ← zpow_add₀ (by norm_num)]
      exact zpow_le_one_of_nonpos₀ (by norm_num) (by omega)
    have hprod : (10 : ℚ) ^ point * 2 ^ k ≤ 10 ^ point * 10 ^ j :=
      mul_le_mul_of_nonneg_left htwo (by positivity)
    linarith
  · by_contra hlt
    have hmax : (m * 2 ^ p : ℚ) ≤ 10 ^ j * 2 ^ k := by
      have hm' : (m : ℚ) ≤ 2 ^ 53 := by exact_mod_cast hv.1.le
      have hp : (2 : ℚ) ^ p ≤ 2 ^ (k + l) :=
        pow_le_pow_right₀ (by norm_num) (by have := hv.2.1; omega)
      calc (m * 2 ^ p : ℚ) ≤ 2 ^ 53 * 2 ^ (k + l) := by gcongr
        _ = 2 ^ (l + 53) * 2 ^ k := by rw [pow_add, pow_add]; ring
        _ ≤ 10 ^ j * 2 ^ k := by
          gcongr
          exact two_pow_le_ten_pow (by omega)
    have hten : (10 : ℚ) ^ (j + 1) ≤ 10 ^ (point - 1) := by
      rw [← zpow_natCast]
      exact zpow_le_zpow_right₀ (by norm_num) (by omega)
    have hprod : (10 : ℚ) ^ (j + 1) * 2 ^ k ≤ 10 ^ (point - 1) * 2 ^ k :=
      mul_le_mul_of_nonneg_right hten hpos.le
    have hten' : (0 : ℚ) < 10 ^ j * 2 ^ k := by positivity
    rw [pow_succ] at hprod
    linarith

/-- A value stands between the grids on either side of the place of its point. -/
lemma step_pointOf {v : ℕ} (hv : 0 < v) :
    step (pointOf v (4 * unit) - 1) ≤ v ∧ (v : ℚ) < step (pointOf v (4 * unit)) := by
  have h := pointOf_spec hv (Nat.mul_pos (by decide : 0 < 4) unit_pos)
  unfold step
  push_cast at h
  exact h

/-- **The shortest decimal form of a double lies in its neighbourhood**, and its digits are counted
right.

**Proof sketch.** The digits that are found are a point of a grid, and a point of a grid has the
number of digits of the grid, unless it is the power of ten above; then it is written with one digit
more, and loses its zeros. -/
theorem shortest_spec {m p : ℕ} (hv : Valid m p) (hm : 0 < m) :
    (shortest m p).Proper ∧ (neighbourhood m p).Holds (shortest m p).quarters ∧
      -400 ≤ (shortest m p).point ∧ (shortest m p).point ≤ 400 := by
  have hvalue := (neighbourhood_cast hm p).1
  have hpos : 0 < (neighbourhood m p).value := by
    rw [(neighbourhood_spec hm p).1]
    exact Nat.mul_pos (by decide) (Nat.mul_pos hm (Nat.two_pow_pos p))
  obtain ⟨hlow, hhigh⟩ := step_pointOf hpos
  unfold shortest
  rw [if_neg (by simpa using hm.ne')]
  dsimp only
  generalize pointOf (neighbourhood m p).value (4 * unit) = point at hlow hhigh ⊢
  have hbounds := point_bounds hv hm (hvalue ▸ hlow) (hvalue ▸ hhigh)
  have hseventeen := gridPoint_seventeen (e := point - 17) hv hm (by
    have hstep : step (point - 1) = 10 ^ 16 * step (point - 17) := by
      rw [← step_add]
      congr 1
      omega
    rwa [← hstep])
  obtain ⟨k, c, hc, hfound, hk⟩ :=
    @firstGrid_spec (neighbourhood m p) point 17 1 Nat.one_pos hseventeen (by omega) (by omega)
  obtain ⟨hdigits, hdigits'⟩ := gridPoint_digits hc hlow hhigh hk
  have hholds : (neighbourhood m p).Holds (Decimal.quarters ⟨k, c, point⟩) :=
    (gridPoint_of_eq_some hk).1
  rw [hfound]
  dsimp only
  split
  next hcount =>
    have hten : 0 < 10 ^ (c - 1) := Nat.pow_pos (by decide)
    exact ⟨⟨by dsimp only; omega, beq_iff_eq.1 hcount⟩, hholds, by dsimp only; omega,
      by dsimp only; omega⟩
  next hcount =>
    obtain rfl : k = 10 ^ c := by
      rcases Nat.lt_or_ge k (10 ^ c) with h | h
      · exact absurd (beq_iff_eq.2 (digitCount_eq hc hdigits h)) hcount
      · omega
    obtain ⟨hproper, hsame, hpoint⟩ :=
      Decimal.trimmed_spec 17 (Decimal.proper_power c (point + 1))
    rw [hsame, hpoint, Decimal.quarters_succ]
    exact ⟨hproper, hholds, by dsimp only; omega, by dsimp only; omega⟩

end SessionRecorder.Binary64
