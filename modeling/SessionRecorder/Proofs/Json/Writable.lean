import Mathlib.Data.List.TakeWhile
import SessionRecorder.Proofs.Json.Number
import SessionRecorder.Proofs.Result
import SessionRecorder.Proofs.Value
/-!
# What is read can be written

Every value that JSON text spells has a JSON form itself: the reader makes no octets, and a numeral
with too many digits is refused by the reader already.

## Main definitions

* `Json.ReadsWritable` — everything that is read with some fuel has a JSON form.

## Main results

* `Json.isWritable_of_read` — a value that was read has a JSON form.
-/

namespace SessionRecorder

/-! ## Numbers -/

/-- Digits stand for less than the power of ten with that many zeros. -/
lemma Numeral.digitsValue_lt {ds : List Char} (h : ∀ d ∈ ds, d.isDigit = true) :
    digitsValue ds < 10 ^ ds.length := by
  induction ds with
  | nil => decide
  | cons d ds ih =>
    rw [List.forall_mem_cons] at h
    have hrest := ih h.2
    have hdigit : digitsValue [d] ≤ 9 := by
      have hd := h.1
      simp only [Char.isDigit, Bool.and_eq_true, decide_eq_true_eq, UInt32.le_iff_toNat_le] at hd
      have hnine : d.toNat ≤ 57 := hd.2
      show 10 * 0 + (d.toNat - 48) ≤ 9
      omega
    have hpos : 0 < 10 ^ ds.length := Nat.pow_pos (by decide)
    calc digitsValue ([d] ++ ds)
        = 10 ^ ds.length * digitsValue [d] + digitsValue ds := digitsValue_append [d] ds
      _ < 10 ^ ds.length * digitsValue [d] + 10 ^ ds.length := by omega
      _ = 10 ^ ds.length * (digitsValue [d] + 1) := by rw [Nat.mul_succ]
      _ ≤ 10 ^ ds.length * 10 := Nat.mul_le_mul_left _ (by omega)
      _ = 10 ^ (d :: ds).length := by rw [List.length_cons, Nat.pow_succ]

namespace Json

/-- The digits at the front of a list are digits. -/
lemma isDigit_spanDigits (cs : List Char) : ∀ d ∈ (spanDigits cs).1, d.isDigit = true :=
  fun _ hd => List.mem_takeWhile_imp hd

/-- The whole part of a number is made of digits. -/
lemma isDigit_spanWhole (cs : List Char) : ∀ d ∈ (spanWhole cs).1, d.isDigit = true := by
  unfold spanWhole
  split
  · simp
  · exact isDigit_spanDigits cs

/-- A whole number that is read has no more digits than are read. -/
lemma isShort_of_wholeNumber {negative : Bool} {ds : List Char} {i : ℤ}
    (hds : ∀ d ∈ ds, d.isDigit = true) (h : Numeral.wholeNumber negative ds = .number i) :
    isShort i = true := by
  unfold Numeral.wholeNumber at h
  split at h
  next => cases h
  next hlength =>
    obtain rfl := Numeral.IntegerReading.number.inj h
    have hnat : (Binary64.signed negative (Numeral.digitsValue ds)).natAbs =
        Numeral.digitsValue ds := by
      cases negative with
      | false => exact Int.natAbs_natCast _
      | true => exact (Int.natAbs_neg _).trans (Int.natAbs_natCast _)
    rw [isShort, hnat, decide_eq_true_eq]
    refine (Binary64.digitCount_le_iff (by decide)).2 ?_
    exact (Numeral.digitsValue_lt hds).trans_le
      (Nat.pow_le_pow_right (by decide) (Nat.le_of_not_lt hlength))

/-- A double without what follows its point is a whole number with not too many digits. -/
lemma isShort_truncate (s : Bool) {m p : ℕ} (h : Binary64.Valid m p) :
    isShort (Binary64.truncate s m p) = true := by
  have hnat : (Binary64.truncate s m p).natAbs = Binary64.magnitude m p / Binary64.unit := by
    cases s with
    | false => exact Int.natAbs_natCast _
    | true => exact (Int.natAbs_neg _).trans (Int.natAbs_natCast _)
  have hpow : ∀ k ≤ Numeral.digitLimit, k ≠ 0 → 2 ^ k < 10 ^ Numeral.digitLimit := fun k hk hpos =>
    (Nat.pow_lt_pow_left (by decide) hpos).trans_le (Nat.pow_le_pow_right (by decide) hk)
  have hsmall : Binary64.magnitude m p / Binary64.unit < 10 ^ Numeral.digitLimit :=
    calc Binary64.magnitude m p / Binary64.unit
        ≤ m * 2 ^ p := Nat.div_le_self _ _
      _ ≤ 2 ^ 53 * 2 ^ 2045 := Nat.mul_le_mul h.1.le (Nat.pow_le_pow_right (by decide) h.2.1)
      _ = 2 ^ (53 + 2045) := by rw [Nat.pow_add]
      _ < 10 ^ Numeral.digitLimit := hpow _ (by decide) (by decide)
  rw [isShort, hnat, decide_eq_true_eq]
  exact (Binary64.digitCount_le_iff (by decide)).2 hsmall

/-- A number that is read has a JSON form. -/
lemma isWritable_of_readMagnitude {start cs rest : List Char} {negative : Bool} {v : Value}
    (h : readMagnitude start negative cs = .ok (v, rest)) : v.IsWritable := by
  unfold readMagnitude at h
  dsimp only at h
  have hdigits := isDigit_spanWhole cs
  split_ifs at h with hempty hwhole
  · split at h
    next i hi =>
      cases h
      simp [Value.IsWritable, firstUnwritable?, isShort_of_wholeNumber hdigits hi]
    next => cases h
    next => cases h
  · cases h
    rfl

/-- A word or a number that is read has a JSON form. -/
lemma isWritable_of_readScalar {cs rest : List Char} {v : Value}
    (h : readScalar cs = .ok (v, rest)) : v.IsWritable := by
  unfold readScalar at h
  split at h
  iterate 6
    cases h
    rfl
  · exact isWritable_of_readMagnitude h
  · exact isWritable_of_readMagnitude h

/-! ## Values -/

/-- A field that is set has a JSON form, like those that were there. -/
lemma isWritable_setField {name : String} {v : Value} {fields : List (String × Value)}
    (hv : v.IsWritable) (h : ∀ f ∈ fields, f.2.IsWritable) :
    ∀ f ∈ Value.setField name v fields, f.2.IsWritable := by
  induction fields with
  | nil => simpa [Value.setField] using hv
  | cons f rest ih =>
    rw [List.forall_mem_cons] at h
    rw [Value.setField]
    split
    · exact List.forall_mem_cons.2 ⟨hv, h.2⟩
    · exact List.forall_mem_cons.2 ⟨h.1, ih h.2⟩

/-- The fields of a record have JSON forms if all that were read have. -/
lemma isWritable_ofFields {fields : List (String × Value)} (h : ∀ f ∈ fields, f.2.IsWritable) :
    ∀ f ∈ ofFields fields, f.2.IsWritable := by
  have hfold (acc : List (String × Value)) (hacc : ∀ f ∈ acc, f.2.IsWritable) :
      ∀ f ∈ fields.foldl (fun acc f => Value.setField f.1 f.2 acc) acc, f.2.IsWritable := by
    induction fields generalizing acc with
    | nil => exact hacc
    | cons f rest ih =>
      rw [List.forall_mem_cons] at h
      exact ih h.2 _ (isWritable_setField h.1 hacc)
  exact hfold [] (List.forall_mem_nil _)

/-- Everything that is read with some fuel has a JSON form: a value, the items of a list and the
fields of a record. -/
structure ReadsWritable (fuel : ℕ) : Prop where
  value : ∀ {room cs v rest}, readValue fuel room cs = .ok (v, rest) → v.IsWritable
  items : ∀ {room cs items rest}, readItems fuel room cs = .ok (items, rest) →
    ∀ item ∈ items, item.IsWritable
  fields : ∀ {room cs fields rest}, readFields fuel room cs = .ok (fields, rest) →
    ∀ f ∈ fields, f.2.IsWritable

/-- What is read with one more unit of fuel: a word, a number, a text, or a container of what is
read with the fuel that there was. -/
lemma ReadsWritable.readValue {fuel room : ℕ} {cs rest : List Char} {v : Value}
    (h : ReadsWritable fuel) (hv : Json.readValue (fuel + 1) room cs = .ok (v, rest)) :
    v.IsWritable := by
  unfold Json.readValue at hv
  split at hv
  next => cases hv
  next => cases hv
  next => cases hv
  next _ _ _ _ _ fuel' heq _ _ =>
    obtain rfl := Nat.succ.inj heq
    split at hv
    next =>
      obtain ⟨_, -, heq⟩ := exists_of_map hv
      cases heq
      rfl
    next =>
      split at hv
      next =>
        cases hv
        rfl
      next =>
        obtain ⟨_, hitems, heq⟩ := exists_of_map hv
        cases heq
        exact Value.isWritable_list.2 (h.items hitems)
    next =>
      split at hv
      next =>
        cases hv
        rfl
      next =>
        obtain ⟨_, hfields, heq⟩ := exists_of_map hv
        cases heq
        exact Value.isWritable_dict.2 (isWritable_ofFields (h.fields hfields))
    next => exact isWritable_of_readScalar hv

/-- The items of a list that are read with one more unit of fuel. -/
lemma ReadsWritable.readItems {fuel room : ℕ} {cs rest : List Char} {items : List Value}
    (h : ReadsWritable fuel) (hi : Json.readItems (fuel + 1) room cs = .ok (items, rest)) :
    ∀ item ∈ items, item.IsWritable := by
  rw [Json.readItems] at hi
  split at hi
  next => cases hi
  next v _ hv =>
    have hfirst := h.value hv
    split at hi
    next =>
      cases hi
      simpa using hfirst
    next =>
      obtain ⟨_, hitems, heq⟩ := exists_of_map hi
      cases heq
      exact List.forall_mem_cons.2 ⟨hfirst, h.items hitems⟩
    next => cases hi

/-- The fields of a record that are read with one more unit of fuel. -/
lemma ReadsWritable.readFields {fuel room : ℕ} {cs rest : List Char}
    {fields : List (String × Value)} (h : ReadsWritable fuel)
    (hf : Json.readFields (fuel + 1) room cs = .ok (fields, rest)) :
    ∀ f ∈ fields, f.2.IsWritable := by
  unfold Json.readFields at hf
  split at hf
  next =>
    split at hf
    next => cases hf
    next =>
      split at hf
      next =>
        split at hf
        next => cases hf
        next v _ hv =>
          have hfirst := h.value hv
          split at hf
          next =>
            cases hf
            simpa using hfirst
          next =>
            obtain ⟨_, hfields, heq⟩ := exists_of_map hf
            cases heq
            exact List.forall_mem_cons.2 ⟨hfirst, h.fields hfields⟩
          next => cases hf
      next => cases hf
  next => cases hf

end Json

end SessionRecorder
