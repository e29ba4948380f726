/-!
# Ranges of characters

Classes of characters given by the ranges of their code points, in ascending order.

## Main definitions

* `Text.inRanges` — whether a character lies in one of several ranges.
-/

namespace SessionRecorder.Text

/-- Whether the code point of a character lies in one of several ranges, ends included. -/
def inRanges (ranges : List (Nat × Nat)) (c : Char) : Bool :=
  ranges.any fun r => r.1 ≤ c.toNat && c.toNat ≤ r.2

/-- A character in one of the ranges lies in them. -/
theorem inRanges_of_mem {ranges : List (Nat × Nat)} {first last : Nat} {c : Char}
    (h : (first, last) ∈ ranges) (hf : first ≤ c.toNat) (hl : c.toNat ≤ last) :
    inRanges ranges c := by
  simp only [inRanges, List.any_eq_true]
  exact ⟨_, h, by simp [hf, hl]⟩

end SessionRecorder.Text
