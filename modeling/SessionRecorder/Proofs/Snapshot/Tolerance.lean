import SessionRecorder.Proofs.Snapshot.Decision
/-!
# Whole percentages as tolerances

A share of pixels is rounded twice before it is compared with the tolerance. What is not exactly at
a whole percentage stays on its side of it, for pictures of up to `2 ^ 46` pixels. What is exactly
there should pass, and does, except at five percentages: a hundred times the double next to seven
hundredths is more than seven.

## Main definitions

* `Snapshot.overshoots` — the percentages whose own share is rounded to more.

## Main results

* `Picture.percentUnits_le_iff` — the shares that are rounded to at most a whole percentage.
* `Snapshot.passes_iff_of_percent` — which comparisons pass with a whole percentage.
* `Snapshot.not_passes_elevenOfTwenty` — a share exactly at the tolerance that does not pass.
-/

namespace SessionRecorder

open Binary64

namespace Picture

variable {k n t : ℕ}

/-! ## Shares next to a percentage -/

/-- The whole percentages whose own share is rounded to more. -/
def overshoots : List ℕ :=
  [7, 14, 28, 55, 56]

/-- A share exactly at a whole percentage is rounded to more at five of them. -/
lemma percentUnits_hundred_le_iff (ht : t ≤ 100) :
    percentUnits t 100 ≤ t * unit ↔ t ∉ overshoots := by
  have hall : ∀ t ≤ 100, percentUnits t 100 ≤ t * unit ↔ t ∉ overshoots := by decide +kernel
  exact hall t ht

/-- A share below a whole percentage by a hundredth of `2 ^ -46` is not rounded to more, not even
where the percentage is. -/
lemma percentUnits_below (ht : t ≤ 100) :
    percentUnits (t * 2 ^ 46 - 1) (100 * 2 ^ 46) ≤ t * unit := by
  by_cases h : t ∈ overshoots
  · have hall : ∀ t ∈ overshoots, percentUnits (t * 2 ^ 46 - 1) (100 * 2 ^ 46) ≤ t * unit := by
      decide +kernel
    exact hall t h
  · have hself : percentUnits t 100 ≤ t * unit := (percentUnits_hundred_le_iff ht).2 h
    refine (percentUnits_mono (by decide) (by decide) ?_).trans hself
    calc (t * 2 ^ 46 - 1) * 100 ≤ t * 2 ^ 46 * 100 := Nat.mul_le_mul_right 100 (Nat.sub_le _ 1)
      _ = t * (100 * 2 ^ 46) := by ring

/-- A share above a whole percentage by a hundredth of `2 ^ -46` is rounded to more. -/
lemma lt_percentUnits_above (ht : t < 100) :
    t * unit < percentUnits (t * 2 ^ 46 + 1) (100 * 2 ^ 46) := by
  have hall : ∀ t < 100, t * unit < percentUnits (t * 2 ^ 46 + 1) (100 * 2 ^ 46) := by
    decide +kernel
  exact hall t ht

/-- **The shares that are rounded to at most a whole percentage** are those that are at most that,
except for the ones exactly there whose percentage is rounded to more.

**Proof sketch.** Rounding keeps the order. A share of at most `2 ^ 46` pixels that is not at the
percentage is beyond one of the two shares next to it. -/
theorem percentUnits_le_iff (hn : 0 < n) (hmax : n ≤ 2 ^ 46) (hk : k ≤ n) (ht : t ≤ 100) :
    percentUnits k n ≤ t * unit ↔
      100 * k ≤ t * n ∧ ¬(100 * k = t * n ∧ t ∈ overshoots) := by
  have hlarge : 0 < 100 * 2 ^ 46 := by decide
  rcases lt_trichotomy (100 * k) (t * n) with hlt | heq | hgt
  · have hbelow : k * (100 * 2 ^ 46) ≤ (t * 2 ^ 46 - 1) * n := by
      rw [Nat.sub_mul, one_mul]
      refine Nat.le_sub_of_add_le ?_
      calc k * (100 * 2 ^ 46) + n ≤ k * (100 * 2 ^ 46) + 2 ^ 46 := Nat.add_le_add_left hmax _
        _ = (100 * k + 1) * 2 ^ 46 := by ring
        _ ≤ t * n * 2 ^ 46 := Nat.mul_le_mul_right _ hlt
        _ = t * 2 ^ 46 * n := by ring
    have hle := (percentUnits_mono hn hlarge hbelow).trans (percentUnits_below ht)
    exact iff_of_true hle ⟨hlt.le, fun h => hlt.ne h.1⟩
  · have hsame : percentUnits k n = percentUnits t 100 :=
      percentUnits_congr hn (by decide) (by omega)
    rw [hsame, percentUnits_hundred_le_iff ht]
    simp [heq]
  · have ht' : t < 100 := by
      have : t * n < 100 * n := hgt.trans_le (Nat.mul_le_mul_left 100 hk)
      exact Nat.lt_of_mul_lt_mul_right this
    have habove : (t * 2 ^ 46 + 1) * n ≤ k * (100 * 2 ^ 46) := by
      calc (t * 2 ^ 46 + 1) * n = t * n * 2 ^ 46 + n := by ring
        _ ≤ t * n * 2 ^ 46 + 2 ^ 46 := Nat.add_le_add_left hmax _
        _ = (t * n + 1) * 2 ^ 46 := by ring
        _ ≤ 100 * k * 2 ^ 46 := Nat.mul_le_mul_right _ hgt
        _ = k * (100 * 2 ^ 46) := by ring
    have hlt := (lt_percentUnits_above ht').trans_le (percentUnits_mono hlarge hn habove)
    exact iff_of_false (not_le.2 hlt) fun h => absurd h.1 (not_le.2 hgt)

end Picture

namespace Snapshot

open Picture

variable {w : Workspace} {a b : Source} {p q : Picture} {v : Value} {t : ℕ}

/-! ## Verdicts -/

/-- **Which comparisons pass with a whole percentage as their tolerance.** Let two pictures of one
size, with up to `2 ^ 46` pixels, be handed over. Their comparison passes if and only if at most so
many pixels differ, except for a share that is exactly at the tolerance where the percentage is
rounded to more than itself: at 7, 14, 28, 55 and 56 percent. -/
theorem passes_iff_of_percent (ha : a.picture? w = .ok p) (hb : b.picture? w = .ok q)
    (hsize : p.size = q.size) (hn : 0 < p.width * p.height) (hmax : p.width * p.height ≤ 2 ^ 46)
    (hv : v.amount? = some (.ofInt t)) (ht : t ≤ 100) :
    ∃ c, verdict w a b v = .ok c ∧ (c.passed = true ↔
      100 * differing p q ≤ t * (p.width * p.height) ∧
        ¬(100 * differing p q = t * (p.width * p.height) ∧ t ∈ overshoots)) := by
  refine ⟨_, by rw [verdict_eq ha hb, compare_of_eq hsize hv], ?_⟩
  rw [← length_rgba] at hn hmax ⊢
  rw [← percentUnits_le_iff hn hmax (differing_le p q) ht, exact_differencePercent, Exact.ofInt,
    Exact.le, decide_eq_true_iff]
  norm_cast

/-- A row of twenty black pixels. -/
def black : Picture :=
  ⟨.grey, 20, 1, List.replicate 20 0, rfl⟩

/-- A row of twenty pixels, the first eleven of which are white. -/
def elevenWhite : Picture :=
  ⟨.grey, 20, 1, List.replicate 11 255 ++ List.replicate 9 0, rfl⟩

/-- Eleven pixels of twenty are compared with a percentage that no number of them comes to. -/
theorem passes_iff_elevenOfTwenty :
    ∃ c, verdict emptyDirectory (.picture black) (.picture elevenWhite) (.int 56) = .ok c ∧
      (c.passed = true ↔ 100 * differing black elevenWhite ≤ 56 * (20 * 1) ∧
        ¬(100 * differing black elevenWhite = 56 * (20 * 1) ∧ 56 ∈ overshoots)) :=
  passes_iff_of_percent (p := black) (q := elevenWhite) (t := 56) rfl rfl rfl (by decide)
    (by decide) rfl (by decide)

/-- **Eleven pixels of twenty are 55 percent, and do not pass with these**: the percentage that the
comparison comes to is the next double. -/
theorem not_passes_elevenOfTwenty :
    black.size = elevenWhite.size ∧ differing black elevenWhite = 11 ∧ 100 * 11 = 55 * (20 * 1) ∧
      ∃ c, verdict emptyDirectory (.picture black) (.picture elevenWhite) (.int 55) = .ok c ∧
        c.passed = false ∧ c.percent.fixed 14 [] [] = "55.00000000000001".toList := by
  have hpassed : (black.differencePercent elevenWhite).exact.le (.ofInt 55) = false := by
    decide +kernel
  have hpercent : (black.differencePercent elevenWhite).fixed 14 [] [] =
      "55.00000000000001".toList := by
    decide +kernel
  have hsize : black.size = elevenWhite.size := rfl
  have hverdict : verdict emptyDirectory (.picture black) (.picture elevenWhite) (.int 55) =
      compare black elevenWhite (.int 55) := verdict_eq rfl rfl
  rw [compare_of_eq hsize (y := .ofInt 55) rfl] at hverdict
  rw [hpassed] at hverdict
  refine ⟨hsize, by decide +kernel, rfl, _, hverdict, rfl, ?_⟩
  dsimp only
  exact hpercent

end Snapshot

end SessionRecorder
