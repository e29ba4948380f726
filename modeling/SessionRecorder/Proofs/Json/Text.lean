import SessionRecorder.Json.Reader
import SessionRecorder.Proofs.Text.Plain
/-!
# Texts read back

A text that is written between quotes is read back as the same text, whatever its characters are:
each is written as itself or as an escape, and those beyond the first plane as a pair of escapes.

## Main results

* `Json.readText_escapeChar` — one character reads back.
* `Json.readText_quoteChars` — a whole text reads back.
-/

namespace SessionRecorder.Json

variable {opening rest : List Char}

/-! ## Escapes -/

/-- A hexadecimal digit has its value. -/
lemma hexValue_hexDigit : ∀ n < 16, hexValue? (Text.hexDigit n) = some n := by decide

/-- The four digits of a unit of UTF-16 have its value. -/
lemma exists_unitEscape {n : ℕ} (hn : n < 0x10000) :
    ∃ a b c d, unitEscape n = ['\\', 'u', a, b, c, d] ∧ unit? a b c d = some n := by
  refine ⟨_, _, _, _, rfl, ?_⟩
  have hdigit (k : ℕ) : hexValue? (Text.hexDigit (k % 16)) = some (k % 16) :=
    hexValue_hexDigit _ (Nat.mod_lt _ (by decide))
  simp only [unit?, hdigit, Option.some.injEq]
  omega

/-- The escape of a unit that is no half of a pair is read as the character. -/
lemma readText_unitEscape {n : ℕ} (hn : n < 0x10000) (hlead : isLeading n = false)
    (hne : rest ≠ []) :
    readText opening (unitEscape n ++ rest) = readAfter (loneUnit n) (readText opening rest) := by
  obtain ⟨a, b, c, d, hescape, hunit⟩ := exists_unitEscape hn
  have hempty : rest.isEmpty = false := by simpa using hne
  rw [hescape]
  simp only [List.cons_append, List.nil_append]
  rw [readText.eq_def]
  split
  case h_3 heq =>
    cases heq
    simp [hunit, hlead]
  case h_4 heq =>
    cases heq
    simp [hunit, hempty]
  case h_5 hno heq =>
    cases heq
    exact absurd rfl (hno a b c d rest)
  case h_7 hno heq =>
    cases heq
    exact absurd rfl hno
  case h_8 hno heq =>
    cases heq
    exact absurd rfl (hno 'u' _ rfl)
  all_goals
    rename_i heq
    cases heq

/-- The escapes of two units that are the halves of a pair are read as one character. -/
lemma readText_unitEscapes {n m : ℕ} (hn : n < 0x10000) (hm : m < 0x10000)
    (hlead : isLeading n = true) (htrail : isTrailing m = true) (hne : rest ≠ []) :
    readText opening (unitEscape n ++ (unitEscape m ++ rest)) =
      readAfter (pairedUnits n m) (readText opening rest) := by
  obtain ⟨a, b, c, d, hescape, hunit⟩ := exists_unitEscape hn
  obtain ⟨e, f, g, h, hescape', hunit'⟩ := exists_unitEscape hm
  have hempty : rest.isEmpty = false := by simpa using hne
  rw [hescape, hescape']
  simp only [List.cons_append, List.nil_append]
  rw [readText.eq_def]
  split
  case h_3 heq =>
    cases heq
    simp [hunit, hunit', hlead, htrail, hempty]
  case h_4 hno heq =>
    cases heq
    exact absurd rfl (hno e f g h rest)
  case h_5 hno heq =>
    cases heq
    exact absurd rfl (hno a b c d _)
  case h_7 hno heq =>
    cases heq
    exact absurd rfl hno
  case h_8 hno heq =>
    cases heq
    exact absurd rfl (hno 'u' _ rfl)
  all_goals
    rename_i heq
    cases heq

/-- An escape of one letter is read as the character that it stands for. -/
lemma readText_escaped {c e : Char} (hc : c ≠ 'u') (he : escaped? c = some e) :
    readText opening ('\\' :: c :: rest) = readAfter e (readText opening rest) := by
  rw [readText.eq_def]
  split
  case h_7 heq =>
    cases heq
    simp [he]
  case h_8 hno heq =>
    cases heq
    exact absurd rfl (hno c _ rfl)
  all_goals
    rename_i heq
    cases heq <;> exact absurd rfl hc

/-- A character that is neither a quote nor a backslash nor a control is read as itself. -/
lemma readText_plain {c : Char} (hq : c ≠ '"') (hb : c ≠ '\\') (hc : 0x20 ≤ c.toNat) :
    readText opening (c :: rest) = readAfter c (readText opening rest) := by
  rw [readText.eq_def]
  split
  case h_8 heq =>
    cases heq
    rw [if_neg (by omega)]
  all_goals
    rename_i heq
    cases heq <;> first | exact absurd rfl hq | exact absurd rfl hb

/-! ## Characters -/

/-- No character is half of a pair. -/
lemma not_surrogate (c : Char) : ¬(0xd800 ≤ c.toNat ∧ c.toNat ≤ 0xdfff) := by
  have hvalid := c.valid
  rintro ⟨hlow, hhigh⟩
  rcases hvalid with h | ⟨h, -⟩
  · exact absurd h (by show ¬c.toNat < 0xd800; omega)
  · exact absurd h (by show ¬0xdfff < c.toNat; omega)

/-- A unit that stands alone is the character with its code point. -/
lemma loneUnit_toNat (c : Char) : loneUnit c.toNat = c := by
  have hno := not_surrogate c
  unfold loneUnit
  rw [if_neg (by simpa using hno), Char.ofNat_toNat]

/-- The units of a character beyond the first plane are the halves of a pair, and stand for it. -/
lemma pairedUnits_toNat {c : Char} (hc : 0x10000 ≤ c.toNat) :
    ∃ n m, n = 0xd800 + (c.toNat - 0x10000) / 0x400 ∧ m = 0xdc00 + (c.toNat - 0x10000) % 0x400 ∧
      n < 0x10000 ∧ m < 0x10000 ∧ isLeading n = true ∧ isTrailing m = true ∧
      pairedUnits n m = c := by
  have hmax : c.toNat < 0x110000 := by
    rcases c.valid with h | ⟨-, h⟩
    · exact Nat.lt_trans h (by decide)
    · exact h
  refine ⟨_, _, rfl, rfl, by omega, by omega, ?_, ?_, ?_⟩
  · simp only [isLeading, Bool.and_eq_true, decide_eq_true_eq]
    omega
  · simp only [isTrailing, Bool.and_eq_true, decide_eq_true_eq]
    omega
  · unfold pairedUnits
    rw [show 0x10000 + (0xd800 + (c.toNat - 0x10000) / 0x400 - 0xd800) * 0x400 +
      (0xdc00 + (c.toNat - 0x10000) % 0x400 - 0xdc00) = c.toNat by omega, Char.ofNat_toNat]

/-- **A character reads back**, whichever way it is written. -/
lemma readText_escapeChar (c : Char) (hne : rest ≠ []) :
    readText opening (escapeChar c ++ rest) = readAfter c (readText opening rest) := by
  have hshort : ∀ p ∈ shortEscapes, p.2 ≠ 'u' ∧ escaped? p.2 = some p.1 := by decide
  have h := escapes_escapeChar c
  generalize escapeChar c = cs at h ⊢
  cases h with
  | short hletter => exact readText_escaped (hshort _ hletter).1 (hshort _ hletter).2
  | itself hq hb hplain =>
    simp only [Text.isPlain, Bool.and_eq_true, decide_eq_true_eq] at hplain
    exact readText_plain hq hb hplain.1
  | unit hplane =>
    have hlead : isLeading c.toNat = false := by
      have := not_surrogate c
      simp only [isLeading, Bool.and_eq_false_iff, decide_eq_false_iff_not]
      omega
    rw [readText_unitEscape hplane hlead hne, loneUnit_toNat]
  | pair hplane =>
    obtain ⟨n, m, hn', hm', hn, hm, hlead, htrail, hpair⟩ := pairedUnits_toNat hplane
    rw [← hn', ← hm', List.append_assoc, readText_unitEscapes hn hm hlead htrail hne, hpair]

/-- **A text reads back**: what is written between quotes, up to the closing quote. -/
theorem readText_quoteChars (opening cs rest : List Char) :
    readText opening (cs.flatMap escapeChar ++ '"' :: rest) = .ok (cs, rest) := by
  induction cs with
  | nil =>
    rw [List.flatMap_nil, List.nil_append, readText.eq_def]
    rfl
  | cons c cs ih =>
    rw [List.flatMap_cons, List.append_assoc, readText_escapeChar c (by simp), ih]
    rfl

end SessionRecorder.Json
