import SessionRecorder.Proofs.Json.RoundTrip
import SessionRecorder.Proofs.Json.Writable
import SessionRecorder.Proofs.Script.Operand
/-!
# What literals of a script stand for

The literals of a script read back as the language of scripts reads them. A text literal stands
for code points, one for each character and for each escape: two escapes in a row are never taken
together, so a character beyond the first plane, which is written as two escapes, is read as two
code points. A numeral stands for the number that it was made from, a whole one without a point
included.

## Main definitions

* `Script.readBody`, `Script.readLiteral` — the code points of a text literal.
* `Script.codePoints` — the code points that a character is read back as.
* `Script.Spells` — a numeral that stands for a number.

## Main results

* `Script.readLiteral_quote` — what a text literal stands for.
* `Script.readsBack_iff` — the texts that read back are those without characters beyond the first
  plane.
* `Script.spells_number` — a finite number reads back.
-/

namespace SessionRecorder

namespace Script

open Json Text

/-! ## Texts -/

/-- The code point that an escape of one letter stands for. -/
def escaped? : Char → Option ℕ
  | '"' => some 0x22
  | '\\' => some 0x5c
  | 'n' => some 0x0a
  | 'r' => some 0x0d
  | 't' => some 0x09
  | 'b' => some 0x08
  | 'f' => some 0x0c
  | _ => none

/-- A code point in front of those that are read next. -/
def readAfter (n : ℕ) (read : Option (List ℕ × List Char)) : Option (List ℕ × List Char) :=
  read.map fun r => (n :: r.1, r.2)

/-- The code points up to the quote at the end of a text literal, and what follows it. A literal
stands on one line. Escapes that no script holds are not read. -/
def readBody : List Char → Option (List ℕ × List Char)
  | [] => none
  | '"' :: rest => some ([], rest)
  | '\\' :: 'u' :: a :: b :: c :: d :: rest => do readAfter (← unit? a b c d) (readBody rest)
  | '\\' :: c :: rest => do readAfter (← escaped? c) (readBody rest)
  | c :: rest => if c = '\n' ∨ c = '\r' then none else readAfter c.toNat (readBody rest)

/-- The code points that a text literal stands for. -/
def readLiteral (literal : String) : Option (List ℕ) :=
  match literal.toList with
  | '"' :: rest =>
    match readBody rest with
    | some (codes, []) => some codes
    | _ => none
  | _ => none

/-- The code points that a character is read back as: its own in the first plane, and those of the
two halves of a pair beyond it. -/
def codePoints (c : Char) : List ℕ :=
  if c.toNat < 0x10000 then [c.toNat]
  else [0xd800 + (c.toNat - 0x10000) / 0x400, 0xdc00 + (c.toNat - 0x10000) % 0x400]

variable {rest : List Char}

/-- An escape with four digits stands for its unit. -/
lemma readBody_unitEscape {n : ℕ} (hn : n < 0x10000) :
    readBody (unitEscape n ++ rest) = readAfter n (readBody rest) := by
  obtain ⟨a, b, c, d, hescape, hunit⟩ := exists_unitEscape hn
  rw [hescape]
  simp only [List.cons_append, List.nil_append]
  rw [readBody, hunit]
  rfl

/-- An escape of one letter stands for its character. -/
lemma readBody_escaped {c : Char} {n : ℕ} (hc : c ≠ 'u') (hn : escaped? c = some n) :
    readBody ('\\' :: c :: rest) = readAfter n (readBody rest) := by
  rw [readBody, hn]
  · rfl
  · intro a b c' d rest' h
    exact absurd h hc

/-- A character that needs no escape stands for itself. -/
lemma readBody_plain {c : Char} (hq : c ≠ '"') (hb : c ≠ '\\') (hc : 0x20 ≤ c.toNat) :
    readBody (c :: rest) = readAfter c.toNat (readBody rest) := by
  have hline : ¬(c = '\n' ∨ c = '\r') := by
    rintro (rfl | rfl)
    · exact absurd hc (by decide)
    · exact absurd hc (by decide)
  rw [readBody, if_neg hline]
  · exact hq
  · intro a b c' d rest' h
    exact absurd h hb
  · intro c' rest' h
    exact absurd h hb

/-- Code points in front of those that are read next. -/
def readCodes (codes : List ℕ) (read : Option (List ℕ × List Char)) :
    Option (List ℕ × List Char) :=
  read.map fun r => (codes ++ r.1, r.2)

/-- A character of the first plane is read back as its code point. -/
lemma readCodes_codePoints {c : Char} (hc : c.toNat < 0x10000)
    (read : Option (List ℕ × List Char)) :
    readCodes (codePoints c) read = readAfter c.toNat read := by
  rw [codePoints, if_pos hc]
  rfl

/-- **A character between the quotes is read back as its code points.** -/
lemma readBody_escapeChar (c : Char) :
    readBody (escapeChar c ++ rest) = readCodes (codePoints c) (readBody rest) := by
  have hshort : ∀ p ∈ shortEscapes, p.2 ≠ 'u' ∧ escaped? p.2 = some p.1.toNat ∧
      p.1.toNat < 0x10000 := by decide
  have h := escapes_escapeChar c
  generalize escapeChar c = cs at h ⊢
  cases h with
  | short hletter =>
    obtain ⟨hu, hescaped, hplane⟩ := hshort _ hletter
    rw [readCodes_codePoints hplane]
    exact readBody_escaped hu hescaped
  | itself hq hb hplain =>
    simp only [isPlain, Bool.and_eq_true, decide_eq_true_eq] at hplain
    rw [readCodes_codePoints (by omega)]
    exact readBody_plain hq hb hplain.1
  | unit hplane => rw [readCodes_codePoints hplane, readBody_unitEscape hplane]
  | pair hplane =>
    obtain ⟨n, m, hn', hm', hn, hm, -⟩ := pairedUnits_toNat hplane
    rw [codePoints, if_neg (Nat.not_lt.2 hplane), ← hn', ← hm', List.append_assoc,
      readBody_unitEscape hn, readBody_unitEscape hm]
    cases readBody rest <;> rfl

/-- The characters up to the closing quote are read back as their code points. -/
lemma readBody_flatMap (cs rest : List Char) :
    readBody (cs.flatMap escapeChar ++ '"' :: rest) = some (cs.flatMap codePoints, rest) := by
  induction cs with
  | nil =>
    rw [List.flatMap_nil, List.nil_append, readBody]
    rfl
  | cons c cs ih =>
    rw [List.flatMap_cons, List.append_assoc, readBody_escapeChar c, ih]
    rfl

/-- **What a text literal stands for**: the code points that its characters are read back as, one
after the other. -/
theorem readLiteral_quote (s : String) :
    readLiteral (quote s) = some (s.toList.flatMap codePoints) := by
  have hquote : (quote s).toList = '"' :: (s.toList.flatMap escapeChar ++ ['"']) := by
    simp [quote, quoteChars]
  simp only [readLiteral, hquote, readBody_flatMap]

/-- A character beyond the first plane is read back as something else: the first half of a pair lies
in the first plane. -/
lemma flatMap_codePoints_eq_map_iff {cs : List Char} :
    cs.flatMap codePoints = cs.map Char.toNat ↔ ∀ c ∈ cs, c.toNat < 0x10000 := by
  induction cs with
  | nil => simp
  | cons c cs ih =>
    rw [List.flatMap_cons, List.map_cons, List.forall_mem_cons, ← ih]
    by_cases hc : c.toNat < 0x10000
    · rw [codePoints, if_pos hc, List.singleton_append, List.cons_inj_right]
      exact ⟨fun h => ⟨hc, h⟩, And.right⟩
    · have hhalf : 0xd800 + (c.toNat - 0x10000) / 0x400 ≠ c.toNat := by
        have hlast := toNat_lt c
        omega
      rw [codePoints, if_neg hc, List.cons_append]
      exact ⟨fun h => absurd (List.head_eq_of_cons_eq h) hhalf, fun h => absurd h.1 hc⟩

/-- A text literal reads back if no character lies beyond the first plane, and only then. -/
lemma readLiteral_quote_eq_iff {s : String} :
    readLiteral (quote s) = some (s.toList.map Char.toNat) ↔
      ∀ c ∈ s.toList, c.toNat < 0x10000 := by
  rw [readLiteral_quote, Option.some_inj, flatMap_codePoints_eq_map_iff]

/-- A text is written as its literal. -/
lemma literal_str (s : String) : literal (.str s) = .ok (quote s) := by
  simp [literal, firstUnwritable?, compact, compactChars, quote]

/-- **The texts that read back.** Every text has a literal, on one line, and so has every key, by
its label as it is typed. The literal stands for the code points that the characters of the text are
read back as. These are the characters themselves exactly if none of them lies beyond the first
plane. -/
theorem readsBack_iff (s : String) : ∃ l, literal (.str s) = .ok l ∧
    (∀ label, KeyLabel.typed label = s → keyLiteral (.str label) = .ok l) ∧ InLine l.toList ∧
    readLiteral l = some (s.toList.flatMap codePoints) ∧
    (readLiteral l = some (s.toList.map Char.toNat) ↔ ∀ c ∈ s.toList, c.toNat < 0x10000) := by
  refine ⟨quote s, literal_str s, ?_, (isTextLiteral_quote s).inLine, readLiteral_quote s,
    readLiteral_quote_eq_iff⟩
  rintro label rfl
  rfl

/-- A face in an address is not read back: the page that is opened again has the two halves of a
pair in its place. -/
theorem not_readsBack_face :
    statements (.navigation (.str "😀")) = .ok ["page.goto(\"\\ud83d\\ude00\")"] ∧
    readLiteral "\"\\ud83d\\ude00\"" = some [0xd83d, 0xde00] ∧
    readLiteral "\"\\ud83d\\ude00\"" ≠ some ("😀".toList.map Char.toNat) := by
  have hquote : quote "😀" = "\"\\ud83d\\ude00\"" := by decide
  have hread : readLiteral "\"\\ud83d\\ude00\"" = some [0xd83d, 0xde00] := by
    rw [← hquote, readLiteral_quote]
    decide
  refine ⟨?_, hread, ?_⟩
  · rw [statements, literal_str, hquote]
    rfl
  · rw [hread]
    decide

/-! ## Numbers -/

/-- A numeral stands for a number. -/
def Spells (numeral : String) (v : Value) : Prop :=
  ∃ u, Json.read numeral = .ok u ∧ u.same v = true

end Script

/-- A whole number that is not too long, or a double that is no infinity and no missing number. -/
def Value.IsFinite : Value → Prop
  | .int i => Json.isShort i = true
  | .float (.finite ..) => True
  | _ => False

namespace Script

open Json

/-- A whole number is equal to itself. -/
lemma same_int (i : ℤ) : (Value.int i).same (.int i) = true := by
  show Binary64.Exact.eq (.units (i * Binary64.unit)) (.units (i * Binary64.unit)) = true
  exact beq_self_eq_true _

/-- A finite double is equal to itself. -/
lemma same_float (s : Bool) (m p : ℕ) (h : Binary64.Valid m p) :
    (Value.float (.finite s m p h)).same (.float (.finite s m p h)) = true := by
  simp [Value.same, Value.amount?, Binary64.Exact.eq, Binary64.exact]

/-- A double that is a whole number is equal to it. -/
lemma same_truncate {s : Bool} {m p : ℕ} {h : Binary64.Valid m p}
    (hwhole : (Binary64.finite s m p h).isIntegral = true) :
    (Value.int (Binary64.truncate s m p)).same (.float (.finite s m p h)) = true := by
  have hdvd : Binary64.unit ∣ Binary64.magnitude m p :=
    Nat.dvd_of_mod_eq_zero (beq_iff_eq.1 hwhole)
  have hunits : Binary64.truncate s m p * Binary64.unit =
      Binary64.signed s (Binary64.magnitude m p) := by
    have hcast : ((Binary64.magnitude m p / Binary64.unit : ℕ) : ℤ) * Binary64.unit =
        Binary64.magnitude m p := by
      exact_mod_cast Nat.div_mul_cancel hdvd
    cases s with
    | false => exact hcast
    | true =>
      show -((Binary64.magnitude m p / Binary64.unit : ℕ) : ℤ) * Binary64.unit =
        -(Binary64.magnitude m p : ℤ)
      rw [neg_mul, hcast]
  show Binary64.Exact.eq (.units (Binary64.truncate s m p * Binary64.unit))
    (.units (Binary64.signed s (Binary64.magnitude m p))) = true
  rw [hunits]
  exact beq_self_eq_true _

/-- **A finite number is spelled by its numeral**, a double that is a whole number by one without
a point. -/
theorem spells_number {v : Value} (h : v.IsFinite) : Spells (number v) v := by
  cases v with
  | int i =>
    have hshort : (Binary64.digitChars i.natAbs).length ≤ Numeral.digitLimit :=
      of_decide_eq_true h
    exact ⟨.int i, read_indented (v := .int i) hshort, same_int i⟩
  | float x =>
    cases x with
    | finite s m p hv =>
      cases hwhole : (Binary64.finite s m p hv).isIntegral with
      | true =>
        rw [number, if_pos hwhole]
        have hshort : (Binary64.digitChars (Binary64.truncate s m p).natAbs).length ≤
            Numeral.digitLimit :=
          of_decide_eq_true (isShort_truncate s hv)
        exact ⟨_, read_indented (v := .int (Binary64.truncate s m p)) hshort, same_truncate hwhole⟩
      | false =>
        rw [number, if_neg (by simp [hwhole])]
        exact ⟨_, read_indented (v := .float (.finite s m p hv)) True.intro, same_float s m p hv⟩
    | _ => exact h.elim
  | _ => exact h.elim

end Script

end SessionRecorder
