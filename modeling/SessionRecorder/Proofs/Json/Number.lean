import SessionRecorder.Json.Printer
import SessionRecorder.Json.Reader
import SessionRecorder.Proofs.Binary64.Shortest
/-!
# Numbers read back

A number that is written as JSON is read back as the same number: a whole one digit by digit, a
double since its digits lie in its neighbourhood.

## Main definitions

* `Json.EndsNumber` — what may come after a number without being taken for a part of it.

## Main results

* `Numeral.ofDecimal_eq` — a decimal number in the neighbourhood of a double is read as the double.
* `Json.readScalar_int`, `Json.readScalar_float` — whole numbers and doubles read back.
-/

namespace SessionRecorder

open Binary64

/-! ## Digits -/

namespace Numeral

/-- The value of digits that are followed by others. -/
lemma digitsValue_append (cs ds : List Char) :
    digitsValue (cs ++ ds) = 10 ^ ds.length * digitsValue cs + digitsValue ds := by
  show Nat.ofDigitChars 10 (cs ++ ds) 0 = _
  rw [Nat.ofDigitChars_append, Nat.ofDigitChars_eq_ofDigitChars_zero]
  rfl

/-- Zeros after digits are powers of ten. -/
lemma digitsValue_append_zeros (cs : List Char) (n : ℕ) :
    digitsValue (cs ++ List.replicate n '0') = digitsValue cs * 10 ^ n := by
  have hzeros : digitsValue (List.replicate n '0') = 0 := by
    show Nat.ofDigitChars 10 _ 0 = 0
    rw [Nat.ofDigitChars_replicate_zero, Nat.mul_zero]
  rw [digitsValue_append, hzeros, List.length_replicate, Nat.add_zero, Nat.mul_comm]

/-- The digits of a number have its value. -/
lemma digitsValue_digitChars (n : ℕ) : digitsValue (digitChars n) = n :=
  Nat.ofDigitChars_ten_toDigits

/-- Zeros in front change nothing. -/
lemma digitsValue_dropWhile (ds : List Char) :
    digitsValue (ds.dropWhile (· == '0')) = digitsValue ds := by
  induction ds with
  | nil => rfl
  | cons d ds ih =>
    by_cases h : d = '0'
    · subst h
      exact ih
    · rw [List.dropWhile_cons_of_neg (by simpa using h)]

/-- **A decimal number in the neighbourhood of a double is read as the double.** -/
lemma ofDecimal_eq {s : Bool} {ds : List Char} {e : ℤ} {m p : ℕ} (hv : Valid m p) (hm : 0 < m)
    (hpos : 0 < digitsValue ds) (h : (neighbourhood m p).Holds (digitsValue ds * step e))
    (hlow : -400 ≤ e + (ds.dropWhile (· == '0')).length)
    (hhigh : e + (ds.dropWhile (· == '0')).length ≤ 400) :
    ofDecimal s ds e = .finite s m p hv := by
  rw [← digitsValue_dropWhile] at hpos h
  unfold ofDecimal
  dsimp only
  generalize ds.dropWhile (· == '0') = ds at *
  have hne : ds.isEmpty = false := by
    cases ds with
    | nil => exact absurd hpos (by decide)
    | cons d ds => rfl
  rw [hne, if_neg (by simp), if_neg (by omega), if_neg (by omega)]
  generalize digitsValue ds = n at *
  split
  next he =>
    obtain ⟨k, rfl⟩ := Int.eq_ofNat_of_zero_le he
    refine nearest_eq_of_contains hv hm Nat.one_pos ?_
    refine (Neighbourhood.contains_iff_holds Nat.one_pos ?_).2 h
    rw [step, zpow_natCast, Int.toNat_natCast]
    push_cast
    rw [show ((Nat.pow 10 k : ℕ) : ℚ) = 10 ^ k from by exact_mod_cast rfl]
    ring
  next he =>
    obtain ⟨k, rfl⟩ : ∃ k : ℕ, e = -(k : ℤ) := ⟨(-e).toNat, by omega⟩
    have hten : 0 < Nat.pow 10 k := Nat.pow_pos (by decide)
    rw [show (- -(k : ℤ)).toNat = k by omega]
    refine nearest_eq_of_contains hv hm hten ?_
    refine (Neighbourhood.contains_iff_holds hten ?_).2 h
    rw [step, zpow_neg, zpow_natCast]
    push_cast
    rw [show ((Nat.pow 10 k : ℕ) : ℚ) = 10 ^ k from by exact_mod_cast rfl]
    -- the unit is a huge power of two, which is not to be multiplied out
    generalize (unit : ℚ) = u
    field_simp

end Numeral

namespace Json

/-! ## Spans -/

/-- What may come after digits: no digit. -/
def EndsDigits (rest : List Char) : Prop :=
  ∀ c, rest.head? = some c → c.isDigit = false

/-- What may come after a number: neither a digit nor what introduces a fraction or an exponent. -/
structure EndsNumber (rest : List Char) : Prop where
  digits : EndsDigits rest
  point : rest.head? ≠ some '.'
  lower : rest.head? ≠ some 'e'
  upper : rest.head? ≠ some 'E'

/-- Digits are read up to what is none. -/
lemma spanDigits_append {ds rest : List Char} (hd : ∀ d ∈ ds, d.isDigit = true)
    (hr : EndsDigits rest) : spanDigits (ds ++ rest) = (ds, rest) := by
  unfold spanDigits
  rw [List.takeWhile_append_of_pos hd, List.dropWhile_append_of_pos hd]
  cases rest with
  | nil => simp
  | cons c rest => simp [hr c rfl]

/-- The whole part of a number is a zero, or digits that do not begin with one. -/
lemma spanWhole_append {ds rest : List Char} (hd : ∀ d ∈ ds, d.isDigit = true)
    (hz : ds = ['0'] ∨ (ds ≠ [] ∧ ds.head? ≠ some '0')) (hr : EndsDigits rest) :
    spanWhole (ds ++ rest) = (ds, rest) := by
  rcases hz with rfl | ⟨hne, hz⟩
  · rfl
  · cases ds with
    | nil => exact absurd rfl hne
    | cons d ds =>
      have hd0 : d ≠ '0' := fun h => hz (by rw [h]; rfl)
      have hspan := spanDigits_append hd hr
      rw [List.cons_append] at hspan ⊢
      unfold spanWhole
      split
      next heq => exact absurd (List.cons.inj heq).1 hd0
      next => exact hspan

/-- A fraction is read up to what is no digit. -/
lemma spanFraction_append {ds rest : List Char} (hne : ds ≠ []) (hd : ∀ d ∈ ds, d.isDigit = true)
    (hr : EndsDigits rest) : spanFraction ('.' :: (ds ++ rest)) = (ds, rest) := by
  rw [spanFraction, spanDigits_append hd hr]
  cases ds with
  | nil => exact absurd rfl hne
  | cons d ds => rfl

/-- Without a point there is no fraction. -/
lemma spanFraction_none {rest : List Char} (h : rest.head? ≠ some '.') :
    spanFraction rest = ([], rest) := by
  unfold spanFraction
  split
  next => exact absurd rfl h
  next => rfl

/-- An exponent is read up to what is no digit. -/
lemma spanExponent_append {sign : Char} {ds rest : List Char} (hs : sign = '-' ∨ sign = '+')
    (hne : ds ≠ []) (hd : ∀ d ∈ ds, d.isDigit = true) (hr : EndsDigits rest) :
    spanExponent ('e' :: sign :: (ds ++ rest)) =
      (some (signed (sign == '-') (Numeral.digitsValue ds)), rest) := by
  have hsplit : Numeral.splitSign (sign :: (ds ++ rest)) = (sign == '-', ds ++ rest) := by
    rcases hs with rfl | rfl <;> rfl
  unfold spanExponent
  simp only [beq_self_eq_true, Bool.true_or, if_true, hsplit]
  rw [spanDigits_append hd hr]
  cases ds with
  | nil => exact absurd rfl hne
  | cons d ds => rfl

/-- Without its mark there is no exponent. -/
lemma spanExponent_none {rest : List Char} (hl : rest.head? ≠ some 'e')
    (hu : rest.head? ≠ some 'E') : spanExponent rest = (none, rest) := by
  unfold spanExponent
  split
  next e rest =>
    have he : e ≠ 'e' := fun h => hl (by rw [h]; rfl)
    have hE : e ≠ 'E' := fun h => hu (by rw [h]; rfl)
    simp [he, hE]
  next => rfl

/-! ## Whole numbers -/

/-- What begins with a digit is read as a number. -/
lemma readScalar_digit {c : Char} (hc : c.isDigit = true) (cs : List Char) :
    readScalar (c :: cs) = readMagnitude (c :: cs) false (c :: cs) := by
  unfold readScalar
  split <;> first | rfl | (rename_i heq; cases heq; exact absurd hc (by decide))

/-- What begins with a minus sign and a digit is read as a negative number. -/
lemma readScalar_minus {c : Char} (hc : c.isDigit = true) (cs : List Char) :
    readScalar ('-' :: c :: cs) = readMagnitude ('-' :: c :: cs) true (c :: cs) := by
  unfold readScalar
  split
  case h_6 heq =>
    obtain rfl : c = 'I' := by cases heq; rfl
    exact absurd hc (by decide)
  case h_7 heq =>
    cases heq
    rfl
  case h_8 hno => exact absurd rfl (hno _)
  all_goals
    rename_i heq
    cases heq

/-- Decimal digits are digits. -/
lemma isDigit_digitChars (n : ℕ) : ∀ d ∈ digitChars n, d.isDigit = true :=
  fun _ h => Nat.isDigit_of_mem_toDigits (by decide) (by decide) h

/-- There is a digit. -/
lemma digitChars_ne_nil (n : ℕ) : digitChars n ≠ [] :=
  Nat.toDigits_ne_nil

/-- A number that is not zero begins with another digit. -/
lemma digitChars_head {n : ℕ} (hn : 0 < n) : (digitChars n).head? ≠ some '0' := by
  induction n using Nat.strong_induction_on with
  | _ n ih =>
    unfold digitChars
    rcases Nat.lt_or_ge n 10 with h | h
    · have hdigit : ∀ n < 10, 0 < n → [n.digitChar].head? ≠ some '0' := by decide
      rw [Nat.toDigits_of_lt_base h]
      exact hdigit n h hn
    · rw [Nat.toDigits_of_base_le (by decide) h,
        List.head?_append_of_ne_nil _ Nat.toDigits_ne_nil]
      exact ih (n / 10) (by omega) (by omega)

/-- The digits of a number are its whole part. -/
lemma spanWhole_digitChars (n : ℕ) {rest : List Char} (hr : EndsDigits rest) :
    spanWhole (digitChars n ++ rest) = (digitChars n, rest) := by
  refine spanWhole_append (isDigit_digitChars n) ?_ hr
  rcases Nat.eq_zero_or_pos n with rfl | hn
  · exact .inl (Nat.toDigits_zero 10)
  · exact .inr ⟨Nat.toDigits_ne_nil, digitChars_head hn⟩

/-- A sign in front of digits is read with them. -/
lemma readScalar_withSign {s : Bool} {c : Char} {cs : List Char} (hc : c.isDigit = true) :
    readScalar (withSign s (c :: cs)) = readMagnitude (withSign s (c :: cs)) s (c :: cs) := by
  cases s with
  | true => exact readScalar_minus hc cs
  | false => exact readScalar_digit hc cs

/-- **Whole numbers read back**, if they have no more digits than are read. -/
theorem readScalar_int {i : ℤ} {rest : List Char} (hr : EndsNumber rest)
    (hi : (digitChars i.natAbs).length ≤ Numeral.digitLimit) :
    readScalar (intChars i ++ rest) = .ok (.int i, rest) := by
  obtain ⟨c, cs, hcs⟩ := List.exists_cons_of_ne_nil (Nat.toDigits_ne_nil (n := i.natAbs) (b := 10))
  have hdigits : digitChars i.natAbs = c :: cs := hcs
  have hc : c.isDigit = true := isDigit_digitChars _ c (by rw [hdigits]; simp)
  have hchars : intChars i ++ rest = withSign (decide (i < 0)) (c :: (cs ++ rest)) := by
    unfold intChars
    rw [hdigits]
    cases decide (i < 0) <;> rfl
  have hwhole := spanWhole_digitChars i.natAbs hr.digits
  rw [hdigits, List.cons_append] at hwhole
  rw [hchars, readScalar_withSign hc]
  unfold readMagnitude
  rw [hwhole]
  dsimp only
  rw [spanFraction_none hr.point]
  dsimp only
  rw [spanExponent_none hr.lower hr.upper]
  simp only [List.isEmpty_cons, Bool.false_eq_true, if_false, List.isEmpty_nil, Option.isNone_none,
    Bool.and_self, if_true]
  rw [← hdigits, Numeral.wholeNumber, if_neg (by omega), Numeral.digitsValue_digitChars]
  have hsigned : signed (decide (i < 0)) i.natAbs = i := by
    unfold signed
    split
    next h =>
      have := of_decide_eq_true h
      omega
    next h =>
      have : ¬i < 0 := by simpa using h
      omega
  rw [hsigned]

/-! ## Doubles -/

/-- A number with a fraction or an exponent is read as a double. -/
lemma readMagnitude_double (start : List Char) (s : Bool) {cs whole fraction t t' rest : List Char}
    {exponent : Option ℤ} (hw : spanWhole cs = (whole, t)) (hne : whole ≠ [])
    (hf : spanFraction t = (fraction, t')) (he : spanExponent t' = (exponent, rest))
    (hdouble : (fraction.isEmpty && exponent.isNone) = false) :
    readMagnitude start s cs = .ok (.float (Numeral.ofDecimal s (whole ++ fraction)
      (exponent.getD 0 - fraction.length)), rest) := by
  have hwhole : whole.isEmpty = false := by
    cases whole with
    | nil => exact absurd rfl hne
    | cons c cs => rfl
  unfold readMagnitude
  rw [hw]
  dsimp only
  rw [hf]
  dsimp only
  rw [he]
  simp only [hwhole, Bool.false_eq_true, if_false, hdouble]

/-- The characters of a decimal form are read as the number that it stands for: as a double, from
digits with the value of the form and the same place of the point. -/
def ReadsAs (x : Decimal) (cs : List Char) : Prop :=
  (∃ c ds, cs = c :: ds ∧ c.isDigit = true) ∧
  ∀ (start : List Char) (s : Bool) (rest : List Char), EndsNumber rest →
    ∃ ds e, readMagnitude start s (cs ++ rest) = .ok (.float (Numeral.ofDecimal s ds e), rest) ∧
      Numeral.digitsValue ds * step e = x.quarters ∧ 0 < Numeral.digitsValue ds ∧
      e + (ds.dropWhile (· == '0')).length = x.point

/-- Zeros in front of characters are dropped. -/
lemma dropWhile_zeros (n : ℕ) (cs : List Char) :
    (List.replicate n '0' ++ cs).dropWhile (· == '0') = cs.dropWhile (· == '0') := by
  refine List.dropWhile_append_of_pos fun d hd => ?_
  rw [List.eq_of_mem_replicate hd]
  rfl

/-- The digits of a number that is not zero, with others behind them, begin with no zero. -/
lemma dropWhile_digitChars {n : ℕ} (hn : 0 < n) (cs : List Char) :
    (digitChars n ++ cs).dropWhile (· == '0') = digitChars n ++ cs := by
  have hhead := digitChars_head hn
  cases hds : digitChars n with
  | nil => exact absurd hds Nat.toDigits_ne_nil
  | cons d ds =>
    rw [List.cons_append, List.dropWhile_cons_of_neg]
    rw [hds] at hhead
    simpa using hhead

/-- A point may follow digits. -/
lemma endsDigits_point (cs : List Char) : EndsDigits ('.' :: cs) := by
  intro c hc
  obtain rfl := Option.some.inj hc
  decide

/-- The mark of an exponent may follow digits. -/
lemma endsDigits_mark (cs : List Char) : EndsDigits ('e' :: cs) := by
  intro c hc
  obtain rfl := Option.some.inj hc
  decide

/-- Zeros are digits. -/
lemma isDigit_zeros (n : ℕ) : ∀ d ∈ List.replicate n '0', d.isDigit = true := by
  intro d hd
  rw [List.eq_of_mem_replicate hd]
  decide

/-- A number that is not zero has digits, the first of which is one. -/
lemma exists_digitChars (n : ℕ) : ∃ c ds, digitChars n = c :: ds ∧ c.isDigit = true := by
  cases hds : digitChars n with
  | nil => exact absurd hds Nat.toDigits_ne_nil
  | cons c ds => exact ⟨c, ds, rfl, isDigit_digitChars n c (by rw [hds]; simp)⟩

/-- The digits of a decimal form, with zeros in front of them and behind them, have the value of the
form and its place of the point, if the exponent is less by the zeros behind. -/
lemma paddedDigits_spec {x : Decimal} (hx : x.Proper) (front back : ℕ) {ds : List Char} {e : ℤ}
    (hds : ds = List.replicate front '0' ++ (digitChars x.digits ++ List.replicate back '0'))
    (he : e + back = x.point - x.count) :
    Numeral.digitsValue ds * step e = x.quarters ∧ 0 < Numeral.digitsValue ds ∧
      e + (ds.dropWhile (· == '0')).length = x.point := by
  have hlength : (digitChars x.digits).length = x.count := hx.count_eq
  have hdrop : ds.dropWhile (· == '0') = digitChars x.digits ++ List.replicate back '0' := by
    rw [hds, dropWhile_zeros]
    exact dropWhile_digitChars hx.positive _
  have hvalue : Numeral.digitsValue ds = x.digits * 10 ^ back := by
    rw [← Numeral.digitsValue_dropWhile, hdrop, Numeral.digitsValue_append_zeros,
      Numeral.digitsValue_digitChars]
  refine ⟨?_, ?_, ?_⟩
  · rw [hvalue, Decimal.quarters, ← he, step_add]
    push_cast
    ring
  · rw [hvalue]
    exact Nat.mul_pos hx.positive (Nat.pow_pos (by decide))
  · rw [hdrop, List.length_append, List.length_replicate, hlength]
    omega

/-- A small number in positional notation: zeros stand between the point and the digits. -/
lemma readsAs_small {x : Decimal} (hx : x.Proper) (hp : x.point ≤ 0) :
    ReadsAs x (positional x) := by
  obtain ⟨n, hn⟩ : ∃ n : ℕ, x.point = -n := ⟨(-x.point).toNat, by omega⟩
  have hlength : (digitChars x.digits).length = x.count := hx.count_eq
  have hchars : positional x = '0' :: '.' :: (List.replicate n '0' ++ digitChars x.digits) := by
    unfold positional
    rw [if_pos hp, show (-x.point).toNat = n by omega]
    rfl
  rw [hchars]
  refine ⟨⟨'0', _, rfl, by decide⟩, fun start s rest hr => ?_⟩
  have hdigits := List.forall_mem_append.2 ⟨isDigit_zeros n, isDigit_digitChars x.digits⟩
  have hread := readMagnitude_double start s
    (@spanWhole_append ['0'] _ (List.forall_mem_singleton.2 rfl) (.inl rfl)
      (endsDigits_point (List.replicate n '0' ++ digitChars x.digits ++ rest)))
    (by simp) (spanFraction_append (by simp [digitChars]) hdigits hr.digits)
    (spanExponent_none hr.lower hr.upper) (by simp [digitChars])
  refine ⟨_, _, hread, paddedDigits_spec hx (n + 1) 0 ?_ ?_⟩
  · simp [List.replicate_succ]
  · simp only [Option.getD_none, List.length_append, List.length_replicate, hlength]
    omega

/-- A large number in positional notation: zeros stand between the digits and the point. -/
lemma readsAs_large {x : Decimal} (hx : x.Proper) {n : ℕ} (hp : x.point = x.count + n) :
    ReadsAs x (digitChars x.digits ++ List.replicate n '0' ++ ['.', '0']) := by
  obtain ⟨c, ds, hds, hc⟩ := exists_digitChars x.digits
  refine ⟨⟨c, _, by rw [hds]; rfl, hc⟩, fun start s rest hr => ?_⟩
  have hdigits := List.forall_mem_append.2 ⟨isDigit_digitChars x.digits, isDigit_zeros n⟩
  have hhead : (digitChars x.digits ++ List.replicate n '0').head? ≠ some '0' := by
    rw [List.head?_append_of_ne_nil _ (digitChars_ne_nil _)]
    exact digitChars_head hx.positive
  have hread := readMagnitude_double start s
    (spanWhole_append hdigits (.inr ⟨by simp [digitChars], hhead⟩)
      (endsDigits_point (['0'] ++ rest)))
    (by simp [digitChars])
    (spanFraction_append (by simp) (List.forall_mem_singleton.2 rfl) hr.digits)
    (spanExponent_none hr.lower hr.upper) (by simp)
  refine ⟨_, _, by rw [List.append_assoc]; exact hread, paddedDigits_spec hx 0 (n + 1) ?_ ?_⟩
  · rw [List.append_assoc, ← List.replicate_succ']
    rfl
  · simp only [Option.getD_none, List.length_singleton]
    omega

/-- A number in positional notation with the point among its digits. -/
lemma readsAs_between {x : Decimal} (hx : x.Proper) {n : ℕ} (hn : x.point = n) (hpos : 0 < n)
    (hlt : n < x.count) :
    ReadsAs x ((digitChars x.digits).take n ++ ['.'] ++ (digitChars x.digits).drop n) := by
  have hlength : (digitChars x.digits).length = x.count := hx.count_eq
  have hdigits := isDigit_digitChars x.digits
  have hhead := digitChars_head hx.positive
  obtain ⟨c, ds, hds, hc⟩ := exists_digitChars x.digits
  have htake : (digitChars x.digits).take n = c :: ds.take (n - 1) := by
    rw [hds, List.take_cons hpos]
  refine ⟨⟨c, _, by rw [htake]; rfl, hc⟩, fun start s rest hr => ?_⟩
  have hwhole : ((digitChars x.digits).take n).head? ≠ some '0' := by
    rw [htake]
    rwa [hds] at hhead
  have hdropNe : (digitChars x.digits).drop n ≠ [] := by
    intro h
    have := List.drop_eq_nil_iff.1 h
    omega
  have hread := readMagnitude_double start s
    (spanWhole_append (fun d hd => hdigits d (List.mem_of_mem_take hd))
      (.inr ⟨by rw [htake]; simp, hwhole⟩)
      (endsDigits_point ((digitChars x.digits).drop n ++ rest)))
    (by rw [htake]; simp)
    (spanFraction_append hdropNe (fun d hd => hdigits d (List.mem_of_mem_drop hd)) hr.digits)
    (spanExponent_none hr.lower hr.upper)
    (by cases h : (digitChars x.digits).drop n with
      | nil => exact absurd h hdropNe
      | cons d ds => rfl)
  refine ⟨_, _, by rw [List.append_assoc, List.append_assoc]; exact hread,
    paddedDigits_spec hx 0 0 ?_ ?_⟩
  · rw [List.take_append_drop]
    exact (List.append_nil _).symm
  · simp only [Option.getD_none, List.length_drop, hlength]
    omega

/-- Positional notation is read as the number that it stands for. -/
lemma readsAs_positional {x : Decimal} (hx : x.Proper) : ReadsAs x (positional x) := by
  have hlength : (digitChars x.digits).length = x.count := hx.count_eq
  rcases lt_or_ge 0 x.point with hp | hp
  · obtain ⟨n, hn⟩ := Int.eq_ofNat_of_zero_le hp.le
    have hchars : positional x = if x.count ≤ n then
        digitChars x.digits ++ List.replicate (n - x.count) '0' ++ ['.', '0']
      else (digitChars x.digits).take n ++ ['.'] ++ (digitChars x.digits).drop n := by
      unfold positional
      rw [if_neg (by omega), hlength, show x.point.toNat = n by omega]
    rw [hchars]
    split
    next h => exact readsAs_large hx (by omega)
    next h => exact readsAs_between hx hn (by omega) (by omega)
  · exact readsAs_small hx hp

/-- The exponent that scientific notation is written with. -/
lemma signed_exponent (e : ℤ) : signed ((if e < 0 then '-' else '+') == '-') e.natAbs = e := by
  rcases lt_or_ge e 0 with h | h
  · rw [if_pos h]
    show -(e.natAbs : ℤ) = e
    omega
  · rw [if_neg (not_lt.2 h)]
    show (e.natAbs : ℤ) = e
    omega

/-- The exponent of scientific notation is read. -/
lemma spanExponent_padded (e : ℤ) {rest : List Char} (hr : EndsNumber rest) :
    spanExponent ('e' :: (if e < 0 then '-' else '+') :: (padded 2 e.natAbs ++ rest)) =
      (some e, rest) := by
  have hpadded : ∀ d ∈ padded 2 e.natAbs, d.isDigit = true :=
    List.forall_mem_append.2 ⟨isDigit_zeros _, isDigit_digitChars _⟩
  have hvalue : Numeral.digitsValue (padded 2 e.natAbs) = e.natAbs := by
    unfold padded
    rw [← Numeral.digitsValue_dropWhile, dropWhile_zeros, Numeral.digitsValue_dropWhile,
      Numeral.digitsValue_digitChars]
  rw [spanExponent_append (by split <;> simp) (by simp [padded, digitChars]) hpadded hr.digits,
    hvalue, signed_exponent]

/-- Scientific notation is read as the number that it stands for. -/
lemma readsAs_scientific {x : Decimal} (hx : x.Proper) :
    ReadsAs x (scientific numberStyle x) := by
  have hlength : (digitChars x.digits).length = x.count := hx.count_eq
  have hdigits := isDigit_digitChars x.digits
  have hhead := digitChars_head hx.positive
  obtain ⟨c, ds, hds, hc⟩ := exists_digitChars x.digits
  rw [hds] at hlength hdigits hhead
  have hwhole {t : List Char} (ht : EndsDigits t) : spanWhole ([c] ++ t) = ([c], t) :=
    spanWhole_append (List.forall_mem_singleton.2 hc) (.inr ⟨by simp, hhead⟩) ht
  have hspec := @paddedDigits_spec x hx 0 0 (c :: ds) (x.point - 1 - ds.length)
    (by rw [← hds]; exact (List.append_nil _).symm)
    (by rw [← hlength, List.length_cons]; omega)
  unfold scientific
  rw [hds]
  cases ds with
  | nil =>
    refine ⟨⟨c, _, rfl, hc⟩, fun start s rest hr => ?_⟩
    have hread := readMagnitude_double start s (hwhole (endsDigits_mark _)) (by simp)
      (spanFraction_none (by simp)) (spanExponent_padded (x.point - 1) hr) (by simp)
    exact ⟨_, _, hread, hspec⟩
  | cons d ds =>
    refine ⟨⟨c, _, rfl, hc⟩, fun start s rest hr => ?_⟩
    have hread := readMagnitude_double start s (hwhole (endsDigits_point _)) (by simp)
      (spanFraction_append (by simp) (fun a ha => hdigits a (List.mem_cons_of_mem _ ha))
        (endsDigits_mark _))
      (spanExponent_padded (x.point - 1) hr) (by simp)
    refine ⟨_, _, ?_, hspec⟩
    rw [List.append_assoc]
    exact hread

/-- A decimal form is read as the number that it stands for. -/
lemma readsAs_formatDecimal {x : Decimal} (hx : x.Proper) :
    ReadsAs x (formatDecimal numberStyle x) := by
  unfold formatDecimal
  split
  · exact readsAs_scientific hx
  · exact readsAs_positional hx

/-- Zero reads back, with its sign. -/
lemma readScalar_zero (s : Bool) {rest : List Char} (hr : EndsNumber rest) :
    readScalar (withSign s ('0' :: '.' :: '0' :: rest)) = .ok (.float (.zero s), rest) := by
  have hread := readMagnitude_double (withSign s ('0' :: '.' :: '0' :: rest)) s
    (@spanWhole_append ['0'] _ (List.forall_mem_singleton.2 rfl) (.inl rfl)
      (endsDigits_point ('0' :: rest)))
    (by simp) (@spanFraction_append ['0'] _ (by simp) (List.forall_mem_singleton.2 rfl) hr.digits)
    (spanExponent_none hr.lower hr.upper) (by simp)
  rw [readScalar_withSign (by decide)]
  exact hread

/-- A sign stands in front of what follows. -/
lemma withSign_append (s : Bool) (cs ds : List Char) :
    withSign s cs ++ ds = withSign s (cs ++ ds) := by
  cases s <;> rfl

/-- **Doubles read back**, those that are no numbers by their names. -/
theorem readScalar_float (x : Binary64) {rest : List Char} (hr : EndsNumber rest) :
    readScalar (x.format numberStyle ++ rest) = .ok (.float x, rest) := by
  cases x with
  | nan => rfl
  | infinite s => cases s <;> rfl
  | finite s m p hv =>
    have hformat : (Binary64.finite s m p hv).format numberStyle ++ rest =
        withSign s (formatDecimal numberStyle (shortest m p) ++ rest) := withSign_append s _ _
    rw [hformat]
    rcases Nat.eq_zero_or_pos m with rfl | hm
    · obtain rfl : p = 0 := hv.2.2.resolve_left (by decide)
      exact readScalar_zero s hr
    · obtain ⟨hproper, hholds, hlow, hhigh⟩ := shortest_spec hv hm
      obtain ⟨⟨c, cs, hcs, hc⟩, hread⟩ := readsAs_formatDecimal hproper
      generalize formatDecimal numberStyle (shortest m p) = chars at hcs hread ⊢
      subst hcs
      obtain ⟨ds, e, hds, hvalue, hpos, hpoint⟩ := hread (withSign s (c :: (cs ++ rest))) s rest hr
      rw [List.cons_append] at hds ⊢
      rw [readScalar_withSign hc, hds,
        Numeral.ofDecimal_eq hv hm hpos (hvalue ▸ hholds) (by omega) (by omega)]

end Json

end SessionRecorder
