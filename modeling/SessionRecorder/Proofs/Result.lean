import Mathlib.Tactic.Common
/-!
# Results that may be missing

What a result says about the parts that it came from. What is asked of a result, or of what is
missing instead of it, can be decided.

## Main results

* `exists_of_bind`, `exists_of_map` — a result came from a result of the first part.
* `exists_bind_iff`, `exists_map_iff` — there is a result exactly if all parts come to one.
-/

namespace SessionRecorder

variable {ε α β : Type} {r : Except ε α} {b : β}

/-- A step after one that came to a result. -/
lemma exists_of_bind {f : α → Except ε β} (h : (r >>= f) = .ok b) :
    ∃ a, r = .ok a ∧ f a = .ok b := by
  cases r with
  | error _ => cases h
  | ok a => exact ⟨a, rfl, h⟩

/-- Two steps come to a result exactly if the first one does and the second one does after it. -/
lemma exists_bind_iff {f : α → Except ε β} :
    (∃ b, (r >>= f) = .ok b) ↔ ∃ a, r = .ok a ∧ ∃ b, f a = .ok b := by
  constructor
  · rintro ⟨b, h⟩
    obtain ⟨a, ha, hb⟩ := exists_of_bind h
    exact ⟨a, ha, b, hb⟩
  · rintro ⟨a, rfl, h⟩
    exact h

/-- Two steps come to a result exactly if each of them does, if it does not matter for the second
one what the first one comes to. -/
lemma exists_bind_iff_and {f : α → Except ε β} {p q : Prop} (hr : (∃ a, r = .ok a) ↔ p)
    (hf : ∀ a, (∃ b, f a = .ok b) ↔ q) : (∃ b, (r >>= f) = .ok b) ↔ p ∧ q := by
  rw [exists_bind_iff, ← hr]
  constructor
  · rintro ⟨a, ha, hb⟩
    exact ⟨⟨a, ha⟩, (hf a).1 hb⟩
  · rintro ⟨⟨a, ha⟩, hq⟩
    exact ⟨a, ha, (hf a).2 hq⟩

/-- A result that was changed. -/
lemma exists_of_map {f : α → β} (h : r.map f = .ok b) : ∃ a, r = .ok a ∧ f a = b := by
  cases r with
  | error _ => cases h
  | ok a => exact ⟨a, rfl, Except.ok.inj h⟩

/-- There is a result that was changed exactly if there was one before. -/
lemma exists_map_iff {f : α → β} : (∃ b, r.map f = .ok b) ↔ ∃ a, r = .ok a := by
  cases r <;> simp [Except.map]

/-- A result that is looked at as one that may be missing. -/
lemma eq_ok_of_toOption {a : α} (h : r.toOption = some a) : r = .ok a := by
  cases r with
  | error _ => cases h
  | ok a' => exact congrArg Except.ok (Option.some.inj h)

/-- What is there instead of a result, if none is there. -/
def error? : Except ε α → Option ε
  | .ok _ => none
  | .error e => some e

/-- What is known to be there instead of a result. -/
lemma eq_error_of_error? {e : ε} (h : error? r = some e) : r = .error e := by
  cases r with
  | error e' => exact congrArg Except.error (Option.some.inj h)
  | ok _ => cases h

/-- A result that is there. -/
lemma exists_of_isOk (h : r.isOk = true) : ∃ a, r = .ok a := by
  cases r with
  | error _ => cases h
  | ok a => exact ⟨a, rfl⟩

instance decidableForallOk {p : α → Prop} [DecidablePred p] (r : Except ε α) :
    Decidable (∀ a, r = .ok a → p a) :=
  match r with
  | .error _ => .isTrue nofun
  | .ok a => decidable_of_iff (p a)
    ⟨fun h _ hb => Except.ok.inj hb ▸ h, fun h => h a rfl⟩

instance decidableForallError {p : ε → Prop} [DecidablePred p] (r : Except ε α) :
    Decidable (∀ e, r = .error e → p e) :=
  match r with
  | .ok _ => .isTrue nofun
  | .error e => decidable_of_iff (p e)
    ⟨fun h _ hd => Except.error.inj hd ▸ h, fun h => h e rfl⟩

end SessionRecorder
