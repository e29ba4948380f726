import Mathlib.Tactic.Common
import SessionRecorder.Json.Printer
import SessionRecorder.Proofs.WellTyped
/-!
# Plain text

Text in printable ASCII. Numbers and JSON texts are written in it whatever they stand for, so they
can end no line and close no quote but their own.

## Main definitions

* `Text.isPlain`, `Text.Plain` — a printable ASCII character, a list of such characters.
* `Text.breaksLine`, `Text.InLine` — a character that ends a line of a script, a list without such
  characters.
* `Json.Escapes` — the ways in which a character is written between the quotes of a JSON text.

## Main results

* `Binary64.plain_format` — a double is spelled in plain text.
* `Json.plain_quoteChars` — a JSON text is plain, whatever text it stands for.
-/

namespace SessionRecorder

namespace Text

/-- Whether a character is printable ASCII. -/
def isPlain (c : Char) : Bool :=
  0x20 ≤ c.toNat && c.toNat < 0x7f

/-- A list of printable ASCII characters. -/
def Plain (cs : List Char) : Prop :=
  ∀ c ∈ cs, isPlain c = true

-- the instance is named since another one would try all characters that there are
instance (cs : List Char) : Decidable (Plain cs) :=
  List.decidableBAll (isPlain · = true) cs

/-- No characters are plain. -/
@[simp] lemma plain_nil : Plain [] := by simp [Plain]

/-- A character in front of others. -/
@[simp] lemma plain_cons {c : Char} {cs : List Char} :
    Plain (c :: cs) ↔ isPlain c = true ∧ Plain cs := by simp [Plain]

/-- Two lists one after the other. -/
@[simp] lemma plain_append {cs ds : List Char} : Plain (cs ++ ds) ↔ Plain cs ∧ Plain ds := by
  simp [Plain, or_imp, forall_and]

/-- A part of a plain list is plain. -/
lemma Plain.subset {cs ds : List Char} (h : Plain ds) (hs : cs ⊆ ds) : Plain cs :=
  fun c hc => h c (hs hc)

/-- A decimal digit is printable. -/
lemma isPlain_of_isDigit {c : Char} (h : c.isDigit = true) : isPlain c = true := by
  simp only [Char.isDigit, Bool.and_eq_true, decide_eq_true_eq, UInt32.le_iff_toNat_le] at h
  have h1 : 48 ≤ c.toNat := h.1
  have h2 : c.toNat ≤ 57 := h.2
  simp only [isPlain, Bool.and_eq_true, decide_eq_true_eq]
  omega

/-- A hexadecimal digit is printable. -/
lemma isPlain_hexDigit : ∀ n < 16, isPlain (hexDigit n) = true := by decide

/-- Hexadecimal digits are plain. -/
lemma plain_hexDigits (count n : ℕ) : Plain (hexDigits count n) := by
  induction count generalizing n with
  | zero => simp [hexDigits]
  | succ count ih => simp [hexDigits, ih, isPlain_hexDigit _ (Nat.mod_lt n (by decide : 16 > 0))]

/-! ## Text on one line -/

/-- Whether a character ends a line of a script, or the script. -/
def breaksLine (c : Char) : Bool :=
  c == '\n' || c == '\r' || c == '\x00'

/-- A list of characters that end no line. -/
def InLine (cs : List Char) : Prop :=
  ∀ c ∈ cs, breaksLine c = false

instance (cs : List Char) : Decidable (InLine cs) :=
  List.decidableBAll (breaksLine · = false) cs

/-- No characters end no line. -/
@[simp] lemma inLine_nil : InLine [] := by simp [InLine]

/-- A character in front of others. -/
@[simp] lemma inLine_cons {c : Char} {cs : List Char} :
    InLine (c :: cs) ↔ breaksLine c = false ∧ InLine cs := by simp [InLine]

/-- Two lists one after the other. -/
@[simp] lemma inLine_append {cs ds : List Char} : InLine (cs ++ ds) ↔ InLine cs ∧ InLine ds := by
  simp [InLine, or_imp, forall_and]

/-- A printable character ends no line. -/
lemma breaksLine_of_isPlain {c : Char} (h : isPlain c = true) : breaksLine c = false := by
  have hne (d : Char) (hd : isPlain d = false) : c ≠ d := fun hc => by simp [hc, hd] at h
  simp [breaksLine, hne '\n' (by decide), hne '\r' (by decide), hne '\x00' (by decide)]

/-- Plain text ends no line. -/
lemma inLine_of_plain {cs : List Char} (h : Plain cs) : InLine cs :=
  fun c hc => breaksLine_of_isPlain (h c hc)

end Text

open Text

/-! ## Numbers -/

namespace Binary64

/-- Decimal digits are plain. -/
lemma plain_digitChars (n : ℕ) : Plain (digitChars n) := fun _ hc =>
  isPlain_of_isDigit (Nat.isDigit_of_mem_toDigits (by decide) (by decide) hc)

/-- Zeros are plain. -/
lemma plain_zeros (n : ℕ) : Plain (List.replicate n '0') := fun c hc => by
  rw [List.eq_of_mem_replicate hc]
  decide

/-- A sign keeps a text plain. -/
lemma plain_withSign {negative : Bool} {cs : List Char} (h : Plain cs) :
    Plain (withSign negative cs) := by
  unfold withSign
  split
  · exact plain_cons.2 ⟨by decide, h⟩
  · exact h

/-- Positional notation is plain. -/
lemma plain_positional (x : Decimal) : Plain (positional x) := by
  have hds := plain_digitChars x.digits
  have hdot : isPlain '.' = true := by decide
  have hzero : isPlain '0' = true := by decide
  unfold positional
  dsimp only
  split
  · simp [hds, plain_zeros, hdot, hzero]
  · split
    · simp [hds, plain_zeros, hdot, hzero]
    · simp [hds.subset (List.take_subset _ _), hds.subset (List.drop_subset _ _), hdot]

/-- Scientific notation is plain if its mark is. -/
lemma plain_scientific {style : NumberStyle} (hm : Plain style.mark) (x : Decimal) :
    Plain (scientific style x) := by
  have hds := plain_digitChars x.digits
  have hdot : isPlain '.' = true := by decide
  have hsign (e : Int) : isPlain (if e < 0 then '-' else '+') = true := by split <;> decide
  have hpad (e : Int) : Plain (padded style.exponentWidth e.natAbs) :=
    plain_append.2 ⟨plain_zeros _, plain_digitChars _⟩
  unfold scientific
  dsimp only
  generalize x.point - 1 = e
  split
  next => simp [hm, hsign, hpad]
  next d hd =>
    rw [hd, plain_cons] at hds
    simp [hm, hsign, hpad, hds]
  next d ds hne hd =>
    rw [hd, plain_cons] at hds
    simp [hm, hsign, hpad, hdot, hds]

/-- A double is spelled in plain text if the words of its style are plain. -/
lemma plain_format (style : NumberStyle) (hm : Plain style.mark) (hn : Plain style.nanWord)
    (hi : Plain style.infinityWord) (x : Binary64) : Plain (x.format style) := by
  cases x with
  | nan => exact hn
  | infinite s => exact plain_withSign hi
  | finite s m p h =>
    refine plain_withSign ?_
    unfold formatDecimal
    split
    · exact plain_scientific hm _
    · exact plain_positional _

end Binary64

/-- A number is displayed in plain text. -/
lemma Value.plain_display {v : Value} (h : v.IsNumber) : Plain v.display.toList := by
  cases v with
  | int i =>
    simpa [display, showInt] using Binary64.plain_withSign (Binary64.plain_digitChars _)
  | float x =>
    simpa [display, showDouble] using
      Binary64.plain_format numberStyle (by decide) (by decide) (by decide) x
  | _ => exact h.elim

/-! ## JSON texts -/

namespace Json

/-- The escape of a unit of UTF-16 is plain. -/
lemma plain_unitEscape (n : ℕ) : Plain (unitEscape n) := by
  have hslash : isPlain '\\' = true := by decide
  have hu : isPlain 'u' = true := by decide
  simp [unitEscape, hslash, hu, plain_hexDigits]

/-- A character is one of its code point. -/
lemma eq_of_toNat_eq {c d : Char} (h : c.toNat = d.toNat) : c = d :=
  Char.ext (UInt32.toNat_inj.1 h)

/-- The characters that are written as a backslash and a letter, each with its letter. -/
def shortEscapes : List (Char × Char) :=
  [('"', '"'), ('\\', '\\'), ('\n', 'n'), ('\r', 'r'), ('\t', 't'), (Char.ofNat 8, 'b'),
    (Char.ofNat 12, 'f')]

/-- **The ways in which a character is written between quotes**: with a letter, as itself, or by one
or two units of UTF-16. -/
inductive Escapes (c : Char) : List Char → Prop
  | short {letter : Char} : (c, letter) ∈ shortEscapes → Escapes c ['\\', letter]
  | itself : c ≠ '"' → c ≠ '\\' → isPlain c = true → Escapes c [c]
  | unit : c.toNat < 0x10000 → Escapes c (unitEscape c.toNat)
  | pair : 0x10000 ≤ c.toNat → Escapes c
      (unitEscape (0xd800 + (c.toNat - 0x10000) / 0x400) ++
        unitEscape (0xdc00 + (c.toNat - 0x10000) % 0x400))

/-- Every character is written in one of these ways. -/
lemma escapes_escapeChar (c : Char) : Escapes c (escapeChar c) := by
  unfold escapeChar
  split_ifs with hq hb hn hr ht hbs hff hplain hplane
  · obtain rfl := beq_iff_eq.1 hq
    exact .short (by decide)
  · obtain rfl := beq_iff_eq.1 hb
    exact .short (by decide)
  · obtain rfl := beq_iff_eq.1 hn
    exact .short (by decide)
  · obtain rfl := beq_iff_eq.1 hr
    exact .short (by decide)
  · obtain rfl := beq_iff_eq.1 ht
    exact .short (by decide)
  · obtain rfl : c = Char.ofNat 8 := eq_of_toNat_eq (beq_iff_eq.1 hbs)
    exact .short (by decide)
  · obtain rfl : c = Char.ofNat 12 := eq_of_toNat_eq (beq_iff_eq.1 hff)
    exact .short (by decide)
  · exact .itself (by simpa using hq) (by simpa using hb) hplain
  · exact .unit hplane
  · exact .pair (Nat.le_of_not_lt hplane)

/-- Every character is written in plain text between quotes. -/
lemma plain_escapeChar (c : Char) : Plain (escapeChar c) := by
  have hshort : ∀ p ∈ shortEscapes, Plain ['\\', p.2] := by decide
  have h := escapes_escapeChar c
  generalize escapeChar c = cs at h ⊢
  cases h with
  | short hletter => exact hshort _ hletter
  | itself _ _ hplain => simpa using hplain
  | unit => exact plain_unitEscape _
  | pair => exact plain_append.2 ⟨plain_unitEscape _, plain_unitEscape _⟩

/-- A text between quotes is plain, whatever text it stands for. -/
lemma plain_quoteChars (cs : List Char) : Plain (quoteChars cs) := by
  have hquote : isPlain '"' = true := by decide
  have hbody : Plain (cs.flatMap escapeChar) := fun c hc => by
    obtain ⟨a, -, ha⟩ := List.mem_flatMap.1 hc
    exact plain_escapeChar a c ha
  simp [quoteChars, hquote, hbody]

end Json

end SessionRecorder
