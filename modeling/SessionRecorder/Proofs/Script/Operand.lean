import SessionRecorder.Proofs.Text.Plain
import SessionRecorder.Proofs.Value
import SessionRecorder.Script
/-!
# Operands

What the values of an entry are written as in a statement. Whatever a value is, its characters stay
inside numerals, a few words, brackets, and texts between quotes that are closed: between the
quotes every quote and every backslash is escaped, and nothing ends the line.

## Main definitions

* `Script.Enclosed` — what may stand between the quotes of a text.
* `Script.Operand` — what a value may be written as.

## Main results

* `Script.operand_display`, `Script.operand_number` — every value is displayed as an operand.
* `Script.operand_compact`, `Script.exists_literal` — so is the JSON form of a value that has one.
* `Script.Operand.inLine` — an operand stands on one line.
-/

namespace SessionRecorder.Script

open Text

/-! ## Texts -/

/-- What may stand between quotes: characters other than the quote and the backslash that end no
line, escapes of one character, and escapes of a code point in hexadecimal digits. -/
inductive Enclosed (quote : Char) : List Char → Prop
  | nil : Enclosed quote []
  | char {c : Char} {cs : List Char} (hquote : c ≠ quote) (hescape : c ≠ '\\')
      (hline : breaksLine c = false) (h : Enclosed quote cs) : Enclosed quote (c :: cs)
  | escape {c : Char} {cs : List Char} (hc : c ∈ ['"', '\'', '\\', 'n', 'r', 't', 'b', 'f'])
      (h : Enclosed quote cs) : Enclosed quote ('\\' :: c :: cs)
  | code {mark : Char} {count n : ℕ} {cs : List Char}
      (hmark : (mark, count) ∈ [('x', 2), ('u', 4), ('U', 8)]) (hn : n < 0x110000)
      (h : Enclosed quote cs) : Enclosed quote ('\\' :: mark :: (hexDigits count n ++ cs))

/-- A text between two quotes of one kind. -/
def IsTextLiteral (cs : List Char) : Prop :=
  ∃ quote body, (quote = '"' ∨ quote = '\'') ∧ Enclosed quote body ∧ cs = quote :: (body ++ [quote])

/-- What stands between quotes ends no line. -/
lemma Enclosed.inLine {quote : Char} {cs : List Char} (h : Enclosed quote cs) : InLine cs := by
  induction h with
  | nil => exact inLine_nil
  | char _ _ hline _ ih => exact inLine_cons.2 ⟨hline, ih⟩
  | @escape c cs hc _ ih =>
    have hall : InLine ['"', '\'', '\\', 'n', 'r', 't', 'b', 'f'] := by decide
    exact inLine_cons.2 ⟨by decide, inLine_cons.2 ⟨hall c hc, ih⟩⟩
  | @code mark count n cs hmark hn _ ih =>
    have hall : ∀ m ∈ [('x', 2), ('u', 4), ('U', 8)], breaksLine m.1 = false := by decide
    exact inLine_cons.2 ⟨by decide, inLine_cons.2 ⟨hall (mark, count) hmark,
      inLine_append.2 ⟨inLine_of_plain (plain_hexDigits _ _), ih⟩⟩⟩

/-- A text between quotes ends no line. -/
lemma IsTextLiteral.inLine {cs : List Char} (h : IsTextLiteral cs) : InLine cs := by
  obtain ⟨quote, body, hquote, hbody, rfl⟩ := h
  have hq : breaksLine quote = false := by rcases hquote with rfl | rfl <;> decide
  exact inLine_cons.2 ⟨hq, inLine_append.2 ⟨hbody.inLine, by simp [hq]⟩⟩

variable {quote : Char} {cs : List Char}

/-- A code point has no more than six hexadecimal digits. -/
lemma toNat_lt (c : Char) : c.toNat < 0x110000 := by
  rcases c.valid with h | h
  · exact Nat.lt_trans h (by decide)
  · exact h.2

/-- A quote or a backslash stands between quotes if it is escaped. -/
lemma enclosed_escaped {c : Char} (hquote : quote = '"' ∨ quote = '\'') (hc : c = quote ∨ c = '\\')
    (h : Enclosed quote cs) : Enclosed quote ('\\' :: c :: cs) := by
  refine .escape ?_ h
  rcases hc with rfl | rfl
  · rcases hquote with rfl | rfl <;> decide
  · decide

/-- A character of a displayed text stands between its quotes. -/
lemma enclosed_quotedChar (hquote : quote = '"' ∨ quote = '\'') (c : Char)
    (h : Enclosed quote cs) : Enclosed quote (quotedChar quote c ++ cs) := by
  unfold quotedChar
  split_ifs with hc hn hr ht hp hx hu
  · exact enclosed_escaped hquote (by simpa using hc) h
  · exact .escape (by decide) h
  · exact .escape (by decide) h
  · exact .escape (by decide) h
  · obtain ⟨hq, hb⟩ : c ≠ quote ∧ c ≠ '\\' := by simpa using hc
    have hnul : c ≠ '\x00' := by
      rintro rfl
      exact absurd hp (by decide)
    exact .char hq hb (by simpa [breaksLine, hnul] using ⟨by simpa using hn, by simpa using hr⟩) h
  · exact .code (by decide) (toNat_lt c) h
  · exact .code (by decide) (toNat_lt c) h
  · exact .code (by decide) (toNat_lt c) h

/-- A character of a JSON text stands between its quotes. -/
lemma enclosed_escapeChar (c : Char) (h : Enclosed '"' cs) :
    Enclosed '"' (Json.escapeChar c ++ cs) := by
  have hcode (n : ℕ) (hn : n < 0x110000) {ds : List Char} (hds : Enclosed '"' ds) :
      Enclosed '"' (Json.unitEscape n ++ ds) := .code (by decide) hn hds
  have hshort : ∀ p ∈ Json.shortEscapes, p.2 ∈ ['"', '\'', '\\', 'n', 'r', 't', 'b', 'f'] := by
    decide
  have hescapes := Json.escapes_escapeChar c
  have hc := toNat_lt c
  generalize Json.escapeChar c = ds at hescapes ⊢
  cases hescapes with
  | short hletter => exact .escape (hshort _ hletter) h
  | itself hq hb hplain => exact .char hq hb (breaksLine_of_isPlain hplain) h
  | unit => exact hcode _ hc h
  | pair =>
    rw [List.append_assoc]
    exact hcode _ (by omega) (hcode _ (by omega) h)

/-- An octet of a displayed row stands between its quotes. -/
lemma enclosed_quotedOctet (hquote : quote = '"' ∨ quote = '\'') (b : UInt8)
    (h : Enclosed quote cs) : Enclosed quote (quotedOctet quote b ++ cs) := by
  have hascii : ∀ n < 0x7f, 0x20 ≤ n → isPlain (Char.ofNat n) = true := by decide
  unfold quotedOctet
  dsimp only
  split_ifs with hc hn hr ht hp
  · exact enclosed_escaped hquote (by simpa using hc) h
  · exact .escape (by decide) h
  · exact .escape (by decide) h
  · exact .escape (by decide) h
  · obtain ⟨hq, hb⟩ : Char.ofNat b.toNat ≠ quote ∧ Char.ofNat b.toNat ≠ '\\' := by simpa using hc
    simp only [Bool.and_eq_true, decide_eq_true_eq, UInt8.le_iff_toNat_le,
      UInt8.lt_iff_toNat_lt] at hp
    exact .char hq hb (breaksLine_of_isPlain (hascii _ hp.2 hp.1)) h
  · exact .code (by decide) (Nat.lt_trans b.toNat_lt (by decide)) h

/-- What stands between quotes piece by piece stands between them as a whole. -/
lemma enclosed_flatMap {α : Type} {f : α → List Char}
    (hf : ∀ a cs, Enclosed quote cs → Enclosed quote (f a ++ cs)) (as : List α) :
    Enclosed quote (as.flatMap f) := by
  induction as with
  | nil => exact .nil
  | cons a as ih =>
    rw [List.flatMap_cons]
    exact hf a _ ih

/-- The quote of a displayed text is one of the two. -/
lemma quoteFor_eq (cs : List Char) : quoteFor cs = '"' ∨ quoteFor cs = '\'' := by
  unfold quoteFor
  split
  · exact .inl rfl
  · exact .inr rfl

/-- A text is displayed between quotes. -/
lemma isTextLiteral_quoted (s : String) : IsTextLiteral (quoted s).toList :=
  ⟨quoteFor s.toList, s.toList.flatMap (quotedChar (quoteFor s.toList)), quoteFor_eq _,
    enclosed_flatMap (fun c _ => enclosed_quotedChar (quoteFor_eq _) c) _, by simp [quoted]⟩

/-- A JSON text stands between quotes. -/
lemma isTextLiteral_quoteChars (cs : List Char) : IsTextLiteral (Json.quoteChars cs) :=
  ⟨'"', cs.flatMap Json.escapeChar, .inl rfl, enclosed_flatMap (fun c _ => enclosed_escapeChar c) _,
    by simp [Json.quoteChars]⟩

/-- A JSON text stands between quotes. -/
lemma isTextLiteral_quote (s : String) : IsTextLiteral (Json.quote s).toList := by
  simpa [Json.quote] using isTextLiteral_quoteChars s.toList

/-! ## Values -/

/-- The words that stand for values. -/
def words : List String :=
  ["None", "True", "False", "null", "true", "false"]

/-- Pieces with commas between them. -/
def commaSeparated (pieces : List (List Char)) : List Char :=
  Json.separated [',', ' '] pieces

/-- A name in front of what is named. -/
def named (field : List Char × List Char) : List Char :=
  field.1 ++ ([':', ' '] ++ field.2)

/-- What a value may be written as: a numeral, a word, a text or a row of octets between quotes, or
operands between brackets. -/
inductive Operand : List Char → Prop
  | int (i : Int) : Operand (Value.showInt i).toList
  | float {style : Binary64.NumberStyle}
      (hstyle : style = Value.numberStyle ∨ style = Json.numberStyle) (x : Binary64) :
      Operand (x.format style)
  | word {w : String} (hw : w ∈ words) : Operand w.toList
  | text {cs : List Char} (h : IsTextLiteral cs) : Operand cs
  | octets {cs : List Char} (h : IsTextLiteral cs) : Operand ('b' :: cs)
  | list {items : List (List Char)} (h : ∀ item ∈ items, Operand item) :
      Operand ('[' :: (commaSeparated items ++ [']']))
  | record {fields : List (List Char × List Char)}
      (hname : ∀ field ∈ fields, IsTextLiteral field.1) (h : ∀ field ∈ fields, Operand field.2) :
      Operand ('\x7b' :: (commaSeparated (fields.map named) ++ ['\x7d']))

/-- Pieces on one line are so with commas between them. -/
lemma inLine_commaSeparated {pieces : List (List Char)} (h : ∀ piece ∈ pieces, InLine piece) :
    InLine (commaSeparated pieces) := by
  have hcomma : InLine [',', ' '] := by decide
  unfold commaSeparated
  fun_induction Json.separated [',', ' '] pieces with
  | case1 => exact inLine_nil
  | case2 piece => exact h piece (by simp)
  | case3 piece rest _ ih =>
    rw [List.forall_mem_cons] at h
    exact inLine_append.2 ⟨inLine_append.2 ⟨h.1, hcomma⟩, ih h.2⟩

/-- **An operand stands on one line.** -/
theorem Operand.inLine {cs : List Char} (h : Operand cs) : InLine cs := by
  induction h with
  | int i => exact inLine_of_plain (Value.plain_display (v := .int i) True.intro)
  | float hstyle x =>
    rcases hstyle with rfl | rfl
    · exact inLine_of_plain (Binary64.plain_format _ (by decide) (by decide) (by decide) x)
    · exact inLine_of_plain (Binary64.plain_format _ (by decide) (by decide) (by decide) x)
  | word hw =>
    have hall : ∀ w ∈ words, InLine w.toList := by decide
    exact hall _ hw
  | text h => exact h.inLine
  | octets h => exact inLine_cons.2 ⟨by decide, h.inLine⟩
  | list _ ih =>
    exact inLine_cons.2 ⟨by decide, inLine_append.2 ⟨inLine_commaSeparated ih, by decide⟩⟩
  | record hname _ ih =>
    refine inLine_cons.2 ⟨by decide, inLine_append.2 ⟨inLine_commaSeparated ?_, by decide⟩⟩
    intro piece hpiece
    obtain ⟨field, hfield, rfl⟩ := List.mem_map.1 hpiece
    exact inLine_append.2 ⟨(hname field hfield).inLine,
      inLine_append.2 ⟨by decide, ih field hfield⟩⟩

/-- Fields with texts between quotes for names are an operand between brackets. -/
lemma operand_fields {fields : List (String × Value)} (name : String → List Char)
    (value : Value → List Char) (hname : ∀ n, IsTextLiteral (name n))
    (hvalue : ∀ f ∈ fields, Operand (value f.2)) :
    Operand ('\x7b' :: (commaSeparated (fields.map fun f => named (name f.1, value f.2)) ++
      ['\x7d'])) := by
  have hfields : ∀ part ∈ fields.map fun f => (name f.1, value f.2),
      IsTextLiteral part.1 ∧ Operand part.2 := by
    intro part hpart
    obtain ⟨f, hf, rfl⟩ := List.mem_map.1 hpart
    exact ⟨hname f.1, hvalue f hf⟩
  have h := Operand.record (fun part hpart => (hfields part hpart).1)
    fun part hpart => (hfields part hpart).2
  rwa [List.map_map] at h

/-! ## Displayed values -/

/-- Pieces that are separated by commas are joined by them. -/
lemma separated_eq (separator : List Char) (pieces : List (List Char)) :
    Json.separated separator pieces = separator.intercalate pieces := by
  fun_induction Json.separated separator pieces with
  | case1 => simp
  | case2 piece => simp
  | case3 piece rest hrest ih =>
    cases rest with
    | nil => exact absurd rfl hrest
    | cons next rest => simp [ih, List.intercalate]

/-- The characters of pieces between brackets. -/
lemma toList_brackets (pieces : List String) : ("[" ++ ", ".intercalate pieces ++ "]").toList =
    '[' :: (commaSeparated (pieces.map String.toList) ++ [']']) := by
  simp [commaSeparated, separated_eq]

/-- The characters of pieces between braces. -/
lemma toList_braces (pieces : List String) :
    ("\x7b" ++ ", ".intercalate pieces ++ "\x7d").toList =
      '\x7b' :: (commaSeparated (pieces.map String.toList) ++ ['\x7d']) := by
  simp [commaSeparated, separated_eq]

/-- A row of octets is displayed between quotes, with its mark in front. -/
lemma operand_quotedOctets (bytes : List UInt8) : Operand (quotedOctets bytes).toList := by
  have hliteral (quote : Char) (hquote : quote = '"' ∨ quote = '\'') :
      IsTextLiteral (quote :: (bytes.flatMap (quotedOctet quote) ++ [quote])) :=
    ⟨quote, _, hquote, enclosed_flatMap (fun b _ => enclosed_quotedOctet hquote b) _, rfl⟩
  simpa [quotedOctets] using Operand.octets (hliteral _ (quoteFor_eq _))

/-- **Every value is displayed as an operand.**

**Proof sketch.** Induction on the value: a value without parts is a numeral, a word or a text
between quotes, and a container is its parts between brackets, joined by commas. -/
theorem operand_display (v : Value) : Operand v.display.toList := by
  induction v using Value.induct with
  | leaf v hlist hdict =>
    cases v with
    | none => exact .word (by decide)
    | bool b => cases b <;> exact .word (by decide)
    | int i => exact .int i
    | float x => simpa [Value.display, Value.showDouble] using Operand.float (.inl rfl) x
    | str s => exact .text (isTextLiteral_quoted s)
    | bytes b => exact operand_quotedOctets b.toOctets
    | list items => exact absurd rfl (hlist items)
    | dict fields => exact absurd rfl (hdict fields)
  | list items ih =>
    have hitems : ∀ item ∈ (items.map Value.display).map String.toList, Operand item := by
      simpa using ih
    rw [Value.display, toList_brackets, Value.displayItems_eq]
    exact .list hitems
  | dict fields ih =>
    have hpieces : (Value.displayFields fields).map String.toList =
        fields.map fun f => named ((quoted f.1).toList, f.2.display.toList) := by
      simp [Value.displayFields_eq, named, Function.comp_def]
    rw [Value.display, toList_braces, hpieces]
    exact operand_fields (fun n => (quoted n).toList) (fun v => v.display.toList)
      isTextLiteral_quoted ih

/-- A number, or any other value in its place, is an operand. -/
lemma operand_number (v : Value) : Operand (number v).toList := by
  unfold number
  split
  next =>
    split
    · exact .int _
    · exact operand_display (.float _)
  next => exact operand_display v

/-- A rectangle is an operand. -/
lemma operand_clip (r : Rect) : Operand (clip r).toList := by
  have hpieces : (r.toFields.map fun f => Json.quote f.1 ++ ": " ++ number f.2).map String.toList =
      r.toFields.map fun f => named ((Json.quote f.1).toList, (number f.2).toList) := by
    simp [named, Function.comp_def]
  rw [clip, toList_braces, hpieces]
  exact operand_fields (fun n => (Json.quote n).toList) (fun v => (number v).toList)
    isTextLiteral_quote fun f _ => operand_number f.2

/-! ## JSON forms -/

/-- **The JSON form of a value that has one is an operand.** -/
theorem operand_compact {v : Value} (h : v.IsWritable) :
    Operand (Json.compactChars v) := by
  induction v using Value.induct with
  | leaf v hlist hdict =>
    cases v with
    | none => exact .word (by decide)
    | bool b => cases b <;> exact .word (by decide)
    | int i => simpa [Value.showInt, Json.compactChars, Json.intChars] using Operand.int i
    | float x => exact .float (.inr rfl) x
    | str s => exact .text (isTextLiteral_quoteChars s.toList)
    | bytes b => cases h
    | list items => exact absurd rfl (hlist items)
    | dict fields => exact absurd rfl (hdict fields)
  | list items ih =>
    have hall := Value.isWritable_list.1 h
    have hitems : ∀ item ∈ items.map Json.compactChars, Operand item :=
      List.forall_mem_map.2 fun item hitem => ih item hitem (hall item hitem)
    rw [Json.compactChars, Value.compactItems_eq]
    exact .list hitems
  | dict fields ih =>
    have hall := Value.isWritable_dict.1 h
    have hpieces : Json.compactFields fields =
        fields.map fun f => named (Json.quoteChars f.1.toList, Json.compactChars f.2) := by
      simp [Value.compactFields_eq, named]
    rw [Json.compactChars, hpieces]
    exact operand_fields (fun n => Json.quoteChars n.toList) Json.compactChars
      (fun n => isTextLiteral_quoteChars n.toList) fun f hf => ih f hf (hall f hf)

/-- A value that has a JSON form has a literal, an operand. -/
lemma exists_literal {v : Value} (h : v.IsWritable) :
    ∃ l, literal v = .ok l ∧ Operand l.toList := by
  have hv : (v.orElse (.str "")).IsWritable := by
    unfold Value.orElse
    split
    · exact h
    · rfl
  have hform : Json.firstUnwritable? (v.orElse (.str "")) = none := hv
  refine ⟨Json.compact (v.orElse (.str "")), ?_, ?_⟩
  · simp only [literal, hform]
  · simpa [Json.compact] using operand_compact hv

end SessionRecorder.Script
