import SessionRecorder.Proofs.Json.Number
import SessionRecorder.Proofs.Json.Text
import SessionRecorder.Proofs.Text.Plain
/-!
# JSON read back

A value that is written as JSON over several lines is read back as the same value. Octets have no
JSON form, a record must not have two fields of one name, and neither the digits of a whole number
nor the containers that stand in one another may be more than are read.

## Main definitions

* `Json.Readable` — the values that read back.

## Main results

* `Json.readValue_indented` — a value reads back in front of what ends a number.
* `Json.read_indented` — a whole text reads back.
-/

namespace SessionRecorder.Json

open Binary64

/-! ## Values that read back -/

mutual

/-- The values that read back with `room` containers that may stand in one another. -/
def Readable : Value → ℕ → Prop
  | .int i, _ => (digitChars i.natAbs).length ≤ Numeral.digitLimit
  | .bytes _, _ => False
  | .list items, room + 1 => ReadableItems items room
  | .dict fields, room + 1 => (fields.map (·.1)).Nodup ∧ ReadableFields fields room
  | .list _, 0 | .dict _, 0 => False
  | .none, _ | .bool _, _ | .float _, _ | .str _, _ => True

/-- The lists whose items read back. -/
def ReadableItems : List Value → ℕ → Prop
  | [], _ => True
  | v :: rest, room => Readable v room ∧ ReadableItems rest room

/-- The fields whose values read back. -/
def ReadableFields : List (String × Value) → ℕ → Prop
  | [], _ => True
  | (_, v) :: rest, room => Readable v room ∧ ReadableFields rest room

end

/-! ## Blanks -/

/-- What stands before a part of a JSON text is passed over. -/
lemma skipBlanks_append {gap : List Char} (hgap : ∀ c ∈ gap, isBlank c = true) {c : Char}
    (hc : isBlank c = false) (cs : List Char) : skipBlanks (gap ++ c :: cs) = c :: cs := by
  unfold skipBlanks
  rw [List.dropWhile_append_of_pos hgap, List.dropWhile_cons_of_neg (by simp [hc])]

/-- A new line is blank. -/
lemma isBlank_freshLine (level : ℕ) : ∀ c ∈ freshLine level, isBlank c = true := by
  intro c hc
  rcases List.mem_cons.1 hc with rfl | hc
  · rfl
  · rw [List.eq_of_mem_replicate hc]
    rfl

/-- The first characters of words and numbers. -/
structure BeginsScalar (c : Char) : Prop where
  quote : c ≠ '"'
  bracket : c ≠ '['
  brace : c ≠ '\x7b'
  closing : c ≠ ']'
  blank : isBlank c = false

/-- A digit begins a number. -/
lemma beginsScalar_digit {c : Char} (hc : c.isDigit = true) : BeginsScalar c where
  quote := by rintro rfl; exact absurd hc (by decide)
  bracket := by rintro rfl; exact absurd hc (by decide)
  brace := by rintro rfl; exact absurd hc (by decide)
  closing := by rintro rfl; exact absurd hc (by decide)
  blank := by
    rw [Bool.eq_false_iff]
    intro h
    simp only [isBlank, Bool.or_eq_true, beq_iff_eq] at h
    rcases h with ((rfl | rfl) | rfl) | rfl <;> exact absurd hc (by decide)

/-- What begins with a digit begins with the first character of a number, whatever its sign. -/
lemma exists_withSign {c : Char} (hc : c.isDigit = true) (s : Bool) (cs : List Char) :
    ∃ d ds, withSign s (c :: cs) = d :: ds ∧ BeginsScalar d := by
  cases s with
  | true => exact ⟨'-', c :: cs, rfl, by constructor <;> decide⟩
  | false => exact ⟨c, cs, rfl, beginsScalar_digit hc⟩

/-- The first character of a whole number. -/
lemma exists_intChars (i : ℤ) : ∃ c cs, intChars i = c :: cs ∧ BeginsScalar c := by
  obtain ⟨c, cs, hcs, hc⟩ := exists_digitChars i.natAbs
  rw [intChars, hcs]
  exact exists_withSign hc _ cs

/-- The first character of a double. -/
lemma exists_format (x : Binary64) : ∃ c cs, x.format numberStyle = c :: cs ∧ BeginsScalar c := by
  cases x with
  | nan => exact ⟨'N', _, rfl, by constructor <;> decide⟩
  | infinite s =>
    cases s with
    | true => exact ⟨'-', _, rfl, by constructor <;> decide⟩
    | false => exact ⟨'I', _, rfl, by constructor <;> decide⟩
  | finite s m p hv =>
    rcases Nat.eq_zero_or_pos m with rfl | hm
    · obtain rfl : p = 0 := hv.2.2.resolve_left (by decide)
      exact exists_withSign (c := '0') (by decide) s ['.', '0']
    · obtain ⟨⟨c, cs, hcs, hc⟩, -⟩ := readsAs_formatDecimal (shortest_spec hv hm).1
      show ∃ d ds, withSign s (formatDecimal numberStyle (shortest m p)) = d :: ds ∧ _
      rw [hcs]
      exact exists_withSign hc s cs

/-- A word or a number is read as that. -/
lemma readValue_scalar {c : Char} (hc : BeginsScalar c) (fuel room : ℕ) (cs : List Char) :
    readValue (fuel + 1) room (c :: cs) = readScalar (c :: cs) := by
  unfold readValue
  split
  case h_1 heq => cases heq
  case h_2 heq => exact absurd (List.cons.inj heq).1 hc.bracket
  case h_3 heq => exact absurd (List.cons.inj heq).1 hc.brace
  case h_4 =>
    split
    next heq => exact absurd (List.cons.inj heq).1 hc.quote
    next heq => exact absurd (List.cons.inj heq).1 hc.bracket
    next heq => exact absurd (List.cons.inj heq).1 hc.brace
    next => rfl

/-- What stands between quotes is read as a text. -/
lemma readValue_text (fuel room : ℕ) (s : String) (rest : List Char) :
    readValue (fuel + 1) room (quoteChars s.toList ++ rest) = .ok (.str s, rest) := by
  have htext := readText_quoteChars (quoteChars s.toList ++ rest) s.toList rest
  have hchars : quoteChars s.toList ++ rest =
      '"' :: (s.toList.flatMap escapeChar ++ '"' :: rest) := by simp [quoteChars]
  have hread : readValue (fuel + 1) room ('"' :: (s.toList.flatMap escapeChar ++ '"' :: rest)) =
      (readText ('"' :: (s.toList.flatMap escapeChar ++ '"' :: rest))
        (s.toList.flatMap escapeChar ++ '"' :: rest)).map
          fun found => (.str (String.ofList found.1), found.2) := by
    cases room <;> rfl
  rw [hchars] at htext ⊢
  rw [hread, htext]
  simp [Except.map]

/-- Brackets with nothing between them are an empty list. -/
lemma readValue_noItems (fuel room : ℕ) (rest : List Char) :
    readValue (fuel + 1) (room + 1) ('[' :: ']' :: rest) = .ok (.list [], rest) :=
  rfl

/-- Braces with nothing between them are an empty record. -/
lemma readValue_noFields (fuel room : ℕ) (rest : List Char) :
    readValue (fuel + 1) (room + 1) ('\x7b' :: '\x7d' :: rest) = .ok (.dict [], rest) :=
  rfl

/-- After a bracket comes its partner or the first item. -/
lemma readValue_bracket (fuel room : ℕ) (cs : List Char) :
    readValue (fuel + 1) (room + 1) ('[' :: cs) =
      match skipBlanks cs with
      | ']' :: rest => .ok (.list [], rest)
      | rest => (readItems fuel room rest).map fun (items, rest) => (.list items, rest) :=
  rfl

/-- After a brace comes its partner or the first field. -/
lemma readValue_brace (fuel room : ℕ) (cs : List Char) :
    readValue (fuel + 1) (room + 1) ('\x7b' :: cs) =
      match skipBlanks cs with
      | '\x7d' :: rest => .ok (.dict [], rest)
      | rest => (readFields fuel room rest).map
        fun (fields, rest) => (.dict (ofFields fields), rest) :=
  rfl

/-- A bracket is followed by items. -/
lemma readValue_items {fuel room : ℕ} {gap cs : List Char} {c : Char}
    (hgap : ∀ c ∈ gap, isBlank c = true) (hblank : isBlank c = false) (hc : c ≠ ']') :
    readValue (fuel + 1) (room + 1) ('[' :: (gap ++ c :: cs)) =
      (readItems fuel room (c :: cs)).map fun (items, rest) => (.list items, rest) := by
  rw [readValue_bracket, skipBlanks_append hgap hblank]
  split
  next heq => exact absurd (List.cons.inj heq).1 hc
  next => rfl

/-- A brace is followed by fields. -/
lemma readValue_fields {fuel room : ℕ} {gap cs : List Char} {c : Char}
    (hgap : ∀ c ∈ gap, isBlank c = true) (hblank : isBlank c = false) (hc : c ≠ '\x7d') :
    readValue (fuel + 1) (room + 1) ('\x7b' :: (gap ++ c :: cs)) =
      (readFields fuel room (c :: cs)).map
        fun (fields, rest) => (.dict (ofFields fields), rest) := by
  rw [readValue_brace, skipBlanks_append hgap hblank]
  split
  next heq => exact absurd (List.cons.inj heq).1 hc
  next => rfl

/-! ## Items and fields -/

/-- The last item is followed by the closing bracket. -/
lemma readItems_last {fuel room : ℕ} {cs gap rest : List Char} {v : Value}
    (hv : readValue fuel room cs = .ok (v, gap ++ ']' :: rest))
    (hgap : ∀ c ∈ gap, isBlank c = true) :
    readItems (fuel + 1) room cs = .ok ([v], rest) := by
  rw [readItems, hv]
  dsimp only
  rw [skipBlanks_append hgap (by decide)]
  rfl

/-- Any other item is followed by a comma and the rest. -/
lemma readItems_cons {fuel room : ℕ} {cs gap cs' rest : List Char} {c : Char} {v : Value}
    {items : List Value} (hv : readValue fuel room cs = .ok (v, ',' :: (gap ++ c :: cs')))
    (hgap : ∀ c ∈ gap, isBlank c = true) (hc : isBlank c = false)
    (hrest : readItems fuel room (c :: cs') = .ok (items, rest)) :
    readItems (fuel + 1) room cs = .ok (v :: items, rest) := by
  have hcomma : skipBlanks (',' :: (gap ++ c :: cs')) = ',' :: (gap ++ c :: cs') := rfl
  rw [readItems, hv]
  dsimp only
  rw [hcomma]
  show (readItems fuel room (skipBlanks (gap ++ c :: cs'))).map _ = _
  rw [skipBlanks_append hgap hc, hrest]
  rfl

/-- What is read of a field and of the text after its value. -/
def readAfterField (fuel room : ℕ) (k : String) (v : Value) (cs : List Char) :
    Reading (List (String × Value)) :=
  match skipBlanks cs with
  | '\x7d' :: rest => .ok ([(k, v)], rest)
  | ',' :: rest =>
    (readFields fuel room (skipBlanks rest)).map fun (fields, rest) => ((k, v) :: fields, rest)
  | rest => .error (.at .commaExpected rest)

/-- A field is read up to what comes after its value. -/
lemma readFields_field {fuel room : ℕ} {k : String} {cs rest : List Char} {c : Char} {v : Value}
    (hv : readValue fuel room (c :: cs) = .ok (v, rest)) (hc : isBlank c = false) :
    readFields (fuel + 1) room (quoteChars k.toList ++ ':' :: ' ' :: c :: cs) =
      readAfterField fuel room k v rest := by
  have hchars : quoteChars k.toList ++ ':' :: ' ' :: c :: cs =
      '"' :: (k.toList.flatMap escapeChar ++ '"' :: ':' :: ' ' :: c :: cs) := by simp [quoteChars]
  have hcolon : skipBlanks (':' :: ' ' :: c :: cs) = ':' :: ' ' :: c :: cs := rfl
  have hspace : skipBlanks (' ' :: c :: cs) = c :: cs :=
    @skipBlanks_append [' '] (List.forall_mem_singleton.2 rfl) c hc cs
  rw [hchars, readFields]
  dsimp only
  rw [readText_quoteChars]
  dsimp only
  rw [hcolon]
  split
  next heq =>
    rw [← (List.cons.inj heq).2, hspace, hv, String.ofList_toList]
    rfl
  next hne => exact absurd rfl (hne _)

/-- The last field is followed by the closing brace. -/
lemma readFields_last {fuel room : ℕ} {k : String} {cs gap rest : List Char} {c : Char} {v : Value}
    (hv : readValue fuel room (c :: cs) = .ok (v, gap ++ '\x7d' :: rest))
    (hc : isBlank c = false) (hgap : ∀ c ∈ gap, isBlank c = true) :
    readFields (fuel + 1) room (quoteChars k.toList ++ ':' :: ' ' :: c :: cs) =
      .ok ([(k, v)], rest) := by
  rw [readFields_field hv hc, readAfterField, skipBlanks_append hgap (by decide)]
  rfl

/-- Any other field is followed by a comma and the rest. -/
lemma readFields_cons {fuel room : ℕ} {k : String} {cs gap cs' rest : List Char} {c c' : Char}
    {v : Value} {fields : List (String × Value)}
    (hv : readValue fuel room (c :: cs) = .ok (v, ',' :: (gap ++ c' :: cs')))
    (hc : isBlank c = false) (hgap : ∀ c ∈ gap, isBlank c = true) (hc' : isBlank c' = false)
    (hrest : readFields fuel room (c' :: cs') = .ok (fields, rest)) :
    readFields (fuel + 1) room (quoteChars k.toList ++ ':' :: ' ' :: c :: cs) =
      .ok ((k, v) :: fields, rest) := by
  have hcomma : skipBlanks (',' :: (gap ++ c' :: cs')) = ',' :: (gap ++ c' :: cs') := rfl
  rw [readFields_field hv hc, readAfterField, hcomma]
  show (readFields fuel room (skipBlanks (gap ++ c' :: cs'))).map _ = _
  rw [skipBlanks_append hgap hc', hrest]
  rfl

/-! ## Records -/

/-- A field with a new name is set at the end. -/
lemma setField_new {name : String} {v : Value} {fields : List (String × Value)}
    (h : name ∉ fields.map (·.1)) : Value.setField name v fields = fields ++ [(name, v)] := by
  induction fields with
  | nil => rfl
  | cons field rest ih =>
    obtain ⟨k, w⟩ := field
    rw [List.map_cons, List.mem_cons, not_or] at h
    rw [Value.setField, if_neg (by simpa using fun hk => h.1 hk.symm), ih h.2]
    rfl

/-- Fields with new names are set at the end, in their order. -/
lemma foldl_setField {fields : List (String × Value)} : ∀ acc : List (String × Value),
    ((acc ++ fields).map (·.1)).Nodup →
    fields.foldl (fun acc field => Value.setField field.1 field.2 acc) acc = acc ++ fields := by
  induction fields with
  | nil => simp
  | cons field rest ih =>
    intro acc hacc
    have hnew : field.1 ∉ acc.map (·.1) := by
      rw [List.map_append, List.nodup_append] at hacc
      exact fun hk => hacc.2.2 _ hk _ (by simp) rfl
    rw [List.foldl_cons, setField_new hnew, ih _ (by simpa using hacc)]
    simp

/-- Fields with different names are kept as they are. -/
lemma ofFields_eq {fields : List (String × Value)} (h : (fields.map (·.1)).Nodup) :
    ofFields fields = fields :=
  foldl_setField [] (by simpa using h)

/-! ## Values -/

/-- The first character of a value that reads back. -/
lemma exists_indentedChars {v : Value} {room : ℕ} (h : Readable v room) (level : ℕ) :
    ∃ c cs, indentedChars level v = c :: cs ∧ isBlank c = false ∧ c ≠ ']' := by
  cases v with
  | none => exact ⟨'n', _, rfl, rfl, by decide⟩
  | bool b =>
    cases b with
    | true => exact ⟨'t', _, rfl, rfl, by decide⟩
    | false => exact ⟨'f', _, rfl, rfl, by decide⟩
  | int i =>
    obtain ⟨c, cs, hcs, hc⟩ := exists_intChars i
    exact ⟨c, cs, hcs, hc.blank, hc.closing⟩
  | float x =>
    obtain ⟨c, cs, hcs, hc⟩ := exists_format x
    exact ⟨c, cs, hcs, hc.blank, hc.closing⟩
  | str s => exact ⟨'"', _, rfl, rfl, by decide⟩
  | bytes b => exact h.elim
  | list items =>
    rw [indentedChars, block]
    split
    · exact ⟨'[', _, rfl, rfl, by decide⟩
    · exact ⟨'[', _, rfl, rfl, by decide⟩
  | dict fields =>
    rw [indentedChars, block]
    split
    · exact ⟨'\x7b', _, rfl, rfl, by decide⟩
    · exact ⟨'\x7b', _, rfl, rfl, by decide⟩

/-- What is not a number may come after one. -/
lemma endsNumber_of_head {c : Char} (hd : c.isDigit = false) (hp : c ≠ '.') (hl : c ≠ 'e')
    (hu : c ≠ 'E') (cs : List Char) : EndsNumber (c :: cs) where
  digits _ h := Option.some.inj h ▸ hd
  point h := hp (Option.some.inj h)
  lower h := hl (Option.some.inj h)
  upper h := hu (Option.some.inj h)

/-- Pieces begin with the first of them. -/
lemma exists_separated (separator : List Char) (c : Char) (cs : List Char)
    (pieces : List (List Char)) : ∃ ds, separated separator ((c :: cs) :: pieces) = c :: ds := by
  cases pieces <;> exact ⟨_, rfl⟩

/-- Pieces between brackets, if there are any. -/
lemma block_cons (level : ℕ) (opening closing : Char) (piece : List Char)
    (pieces : List (List Char)) (rest : List Char) :
    block level opening closing (piece :: pieces) ++ rest =
      opening :: (freshLine (level + 1) ++ (separated (',' :: freshLine (level + 1))
        (piece :: pieces) ++ (freshLine level ++ closing :: rest))) := by
  simp [block]

/-- Brackets with pieces between them are longer than the pieces by two at least. -/
lemma length_block_cons (level : ℕ) (opening closing : Char) (piece : List Char)
    (pieces : List (List Char)) :
    (separated (',' :: freshLine (level + 1)) (piece :: pieces)).length + 2 ≤
      (block level opening closing (piece :: pieces)).length := by
  have h := congrArg List.length (block_cons level opening closing piece pieces [])
  simp only [List.append_nil, List.length_cons, List.length_append, List.length_nil] at h
  omega

/-- A value that is neither a text nor holds others reads back. -/
lemma readValue_of_readScalar {fuel room level : ℕ} {v : Value} {rest cs : List Char} {c : Char}
    (hchars : indentedChars level v = c :: cs) (hc : BeginsScalar c)
    (hread : readScalar (indentedChars level v ++ rest) = .ok (v, rest)) (hfuel : 0 < fuel) :
    readValue fuel room (indentedChars level v ++ rest) = .ok (v, rest) := by
  obtain ⟨fuel, rfl⟩ : ∃ n, fuel = n + 1 := ⟨fuel - 1, by omega⟩
  rw [hchars, List.cons_append] at hread ⊢
  rw [readValue_scalar hc, hread]

mutual

/-- **A value reads back** in front of what ends a number, given fuel for twice its length. -/
theorem readValue_indented : ∀ (v : Value) (fuel room level : ℕ) (rest : List Char),
    Readable v room → EndsNumber rest → 2 * (indentedChars level v).length ≤ fuel →
    readValue fuel room (indentedChars level v ++ rest) = .ok (v, rest)
  | .none, fuel, room, level, rest, _, _, hfuel =>
    readValue_of_readScalar (c := 'n') rfl (by constructor <;> decide) rfl
      (by have : (indentedChars level .none).length = 4 := rfl; omega)
  | .bool true, fuel, room, level, rest, _, _, hfuel =>
    readValue_of_readScalar (c := 't') rfl (by constructor <;> decide) rfl
      (by have : (indentedChars level (.bool true)).length = 4 := rfl; omega)
  | .bool false, fuel, room, level, rest, _, _, hfuel =>
    readValue_of_readScalar (c := 'f') rfl (by constructor <;> decide) rfl
      (by have : (indentedChars level (.bool false)).length = 5 := rfl; omega)
  | .int i, fuel, room, level, rest, h, hr, hfuel => by
    obtain ⟨c, cs, hcs, hc⟩ := exists_intChars i
    refine readValue_of_readScalar hcs hc (readScalar_int hr h) ?_
    have : (indentedChars level (.int i)).length = cs.length + 1 := congrArg List.length hcs
    omega
  | .float x, fuel, room, level, rest, _, hr, hfuel => by
    obtain ⟨c, cs, hcs, hc⟩ := exists_format x
    refine readValue_of_readScalar hcs hc (readScalar_float x hr) ?_
    have : (indentedChars level (.float x)).length = cs.length + 1 := congrArg List.length hcs
    omega
  | .str s, fuel, room, level, rest, _, _, hfuel => by
    have hlength : (indentedChars level (.str s)).length = (quoteChars s.toList).length := rfl
    obtain ⟨fuel, rfl⟩ : ∃ n, fuel = n + 1 := ⟨fuel - 1, by
      simp only [quoteChars, List.length_append, List.length_cons] at hlength
      omega⟩
    exact readValue_text fuel room s rest
  | .bytes b, _, _, _, _, h, _, _ => h.elim
  | .list items, fuel, 0, level, rest, h, _, _ => h.elim
  | .dict fields, fuel, 0, level, rest, h, _, _ => h.elim
  | .list [], fuel, room + 1, level, rest, _, _, hfuel => by
    have hlength : (indentedChars level (.list [])).length = 2 := rfl
    obtain ⟨fuel, rfl⟩ : ∃ n, fuel = n + 1 := ⟨fuel - 1, by omega⟩
    exact readValue_noItems fuel room rest
  | .dict [], fuel, room + 1, level, rest, _, _, hfuel => by
    have hlength : (indentedChars level (.dict [])).length = 2 := rfl
    obtain ⟨fuel, rfl⟩ : ∃ n, fuel = n + 1 := ⟨fuel - 1, by omega⟩
    exact readValue_noFields fuel room rest
  | .list (v :: more), fuel, room + 1, level, rest, h, _, hfuel => by
    obtain ⟨c, cs, hcs, hblank, hclose⟩ := exists_indentedChars h.1 (level + 1)
    obtain ⟨ds, hds⟩ := exists_separated (',' :: freshLine (level + 1)) c cs
      (indentedItems (level + 1) more)
    have hlength := length_block_cons level '[' ']' (indentedChars (level + 1) v)
      (indentedItems (level + 1) more)
    have hitems := readItems_indented (v :: more) (fuel - 1) room (level + 1) rest (by simp) h (by
      simp only [indentedChars, indentedItems] at hfuel hlength ⊢
      omega)
    obtain ⟨fuel, rfl⟩ : ∃ n, fuel = n + 1 := ⟨fuel - 1, by
      simp only [indentedChars, indentedItems] at hfuel
      omega⟩
    simp only [indentedChars, indentedItems, block_cons, Nat.add_sub_cancel, hcs, hds,
      List.cons_append] at hitems ⊢
    rw [readValue_items (isBlank_freshLine _) hblank hclose, hitems]
    rfl
  | .dict ((k, v) :: more), fuel, room + 1, level, rest, h, _, hfuel => by
    obtain ⟨ds, hds⟩ := exists_separated (',' :: freshLine (level + 1)) '"'
      (k.toList.flatMap escapeChar ++ ['"'] ++ [':', ' '] ++ indentedChars (level + 1) v)
      (indentedFields (level + 1) more)
    have hlength := length_block_cons level '\x7b' '\x7d'
      (quoteChars k.toList ++ [':', ' '] ++ indentedChars (level + 1) v)
      (indentedFields (level + 1) more)
    have hfields := readFields_indented ((k, v) :: more) (fuel - 1) room (level + 1) rest (by simp)
      h.2 (by
        simp only [indentedChars, indentedFields] at hfuel hlength ⊢
        omega)
    obtain ⟨fuel, rfl⟩ : ∃ n, fuel = n + 1 := ⟨fuel - 1, by
      simp only [indentedChars, indentedFields] at hfuel
      omega⟩
    simp only [indentedChars, indentedFields, block_cons, Nat.add_sub_cancel, quoteChars,
      List.cons_append, hds] at hfields ⊢
    rw [readValue_fields (isBlank_freshLine _) (by decide) (by decide), hfields]
    simp only [Except.map, ofFields_eq h.1]

/-- Items read back in front of the line with their closing bracket. -/
theorem readItems_indented : ∀ (items : List Value) (fuel room level : ℕ) (rest : List Char),
    items ≠ [] → ReadableItems items room →
    2 * (separated (',' :: freshLine level) (indentedItems level items)).length < fuel →
    readItems fuel room (separated (',' :: freshLine level) (indentedItems level items) ++
      (freshLine (level - 1) ++ ']' :: rest)) = .ok (items, rest)
  | [], _, _, _, _, hne, _, _ => absurd rfl hne
  | [v], fuel, room, level, rest, _, h, hfuel => by
    obtain ⟨fuel, rfl⟩ : ∃ n, fuel = n + 1 := ⟨fuel - 1, by omega⟩
    simp only [indentedItems, separated] at hfuel ⊢
    refine readItems_last (readValue_indented v fuel room level _ h.1 ?_ (by omega))
      (isBlank_freshLine _)
    exact endsNumber_of_head (by decide) (by decide) (by decide) (by decide) _
  | v :: w :: more, fuel, room, level, rest, _, h, hfuel => by
    obtain ⟨fuel, rfl⟩ : ∃ n, fuel = n + 1 := ⟨fuel - 1, by omega⟩
    obtain ⟨c, cs, hcs, hblank, -⟩ := exists_indentedChars h.2.1 level
    obtain ⟨ds, hds⟩ := exists_separated (',' :: freshLine level) c cs (indentedItems level more)
    have hlength : (separated (',' :: freshLine level)
        (indentedItems level (v :: w :: more))).length =
        (indentedChars level v).length + ((freshLine level).length + 1) +
          (separated (',' :: freshLine level) (indentedItems level (w :: more))).length := by
      simp only [indentedItems, separated, List.length_append, List.length_cons]
    have hitems := readItems_indented (w :: more) fuel room level rest (by simp) h.2 (by omega)
    simp only [indentedItems, separated, hcs, hds, List.append_assoc, List.cons_append] at hitems ⊢
    refine readItems_cons (readValue_indented v fuel room level _ h.1 ?_ (by omega))
      (isBlank_freshLine _) hblank hitems
    exact endsNumber_of_head (by decide) (by decide) (by decide) (by decide) _

/-- Fields read back in front of the line with their closing brace. -/
theorem readFields_indented : ∀ (fields : List (String × Value)) (fuel room level : ℕ)
    (rest : List Char), fields ≠ [] → ReadableFields fields room →
    2 * (separated (',' :: freshLine level) (indentedFields level fields)).length < fuel →
    readFields fuel room (separated (',' :: freshLine level) (indentedFields level fields) ++
      (freshLine (level - 1) ++ '\x7d' :: rest)) = .ok (fields, rest)
  | [], _, _, _, _, hne, _, _ => absurd rfl hne
  | [(k, v)], fuel, room, level, rest, _, h, hfuel => by
    obtain ⟨fuel, rfl⟩ : ∃ n, fuel = n + 1 := ⟨fuel - 1, by omega⟩
    obtain ⟨c, cs, hcs, hblank, -⟩ := exists_indentedChars h.1 level
    simp only [indentedFields, separated, List.length_append] at hfuel
    have hvalue := readValue_indented v fuel room level (freshLine (level - 1) ++ '\x7d' :: rest)
      h.1 (endsNumber_of_head (by decide) (by decide) (by decide) (by decide) _) (by omega)
    simp only [indentedFields, separated, hcs, List.append_assoc, List.cons_append,
      List.nil_append] at hvalue ⊢
    exact readFields_last hvalue hblank (isBlank_freshLine _)
  | (k, v) :: (l, w) :: more, fuel, room, level, rest, _, h, hfuel => by
    obtain ⟨fuel, rfl⟩ : ∃ n, fuel = n + 1 := ⟨fuel - 1, by omega⟩
    obtain ⟨c, cs, hcs, hblank, -⟩ := exists_indentedChars h.1 level
    obtain ⟨ds, hds⟩ := exists_separated (',' :: freshLine level) '"'
      (l.toList.flatMap escapeChar ++ ['"'] ++ [':', ' '] ++ indentedChars level w)
      (indentedFields level more)
    have hlength : (separated (',' :: freshLine level)
        (indentedFields level ((k, v) :: (l, w) :: more))).length =
        (quoteChars k.toList).length + 2 + (indentedChars level v).length +
          ((freshLine level).length + 1) +
          (separated (',' :: freshLine level) (indentedFields level ((l, w) :: more))).length := by
      simp only [indentedFields, separated, List.length_append, List.length_cons, List.length_nil]
    have hfields := readFields_indented ((l, w) :: more) fuel room level rest (by simp) h.2
      (by omega)
    have hvalue := readValue_indented v fuel room level
      (',' :: (freshLine level ++ (separated (',' :: freshLine level)
        (indentedFields level ((l, w) :: more)) ++ (freshLine (level - 1) ++ '\x7d' :: rest)))) h.1
      (endsNumber_of_head (by decide) (by decide) (by decide) (by decide) _) (by omega)
    have hpiece : quoteChars l.toList ++ [':', ' '] ++ indentedChars level w =
        '"' :: (l.toList.flatMap escapeChar ++ ['"'] ++ [':', ' '] ++ indentedChars level w) := rfl
    simp only [indentedFields, separated] at hfields hvalue ⊢
    rw [hpiece, hds] at hfields hvalue ⊢
    simp only [hcs, List.append_assoc, List.cons_append, List.nil_append] at hfields hvalue ⊢
    exact readFields_cons hvalue hblank (isBlank_freshLine _) (by decide) hfields

end

/-! ## Whole texts -/

/-- Plain text over several lines. -/
def PlainLines (cs : List Char) : Prop :=
  ∀ c ∈ cs, c = '\n' ∨ Text.isPlain c = true

/-- Plain text is plain on one line. -/
lemma plainLines_of_plain {cs : List Char} (h : Text.Plain cs) : PlainLines cs :=
  fun c hc => .inr (h c hc)

/-- Plain texts one after the other. -/
lemma PlainLines.append {cs ds : List Char} (hc : PlainLines cs) (hd : PlainLines ds) :
    PlainLines (cs ++ ds) :=
  List.forall_mem_append.2 ⟨hc, hd⟩

/-- New lines are plain text over several lines. -/
lemma plainLines_freshLine (level : ℕ) : PlainLines (freshLine level) := by
  intro c hc
  rcases List.mem_cons.1 hc with rfl | hc
  · exact .inl rfl
  · rw [List.eq_of_mem_replicate hc]
    exact .inr (by decide)

/-- Plain pieces with new lines between them. -/
lemma plainLines_separated (level : ℕ) {pieces : List (List Char)}
    (h : ∀ piece ∈ pieces, PlainLines piece) :
    PlainLines (separated (',' :: freshLine level) pieces) := by
  induction pieces with
  | nil => simp [separated, PlainLines]
  | cons piece rest ih =>
    rw [List.forall_mem_cons] at h
    cases rest with
    | nil => exact h.1
    | cons next more =>
      have hcomma : PlainLines (',' :: freshLine level) :=
        (@plainLines_of_plain [','] (by decide)).append (plainLines_freshLine level)
      exact (h.1.append hcomma).append (ih h.2)

/-- Plain pieces between plain brackets. -/
lemma plainLines_block (level : ℕ) {opening closing : Char} {pieces : List (List Char)}
    (ho : Text.isPlain opening = true) (hc : Text.isPlain closing = true)
    (h : ∀ piece ∈ pieces, PlainLines piece) :
    PlainLines (block level opening closing pieces) := by
  have hopening : PlainLines [opening] := plainLines_of_plain (by simpa using ho)
  have hclosing : PlainLines [closing] := plainLines_of_plain (by simpa using hc)
  unfold block
  split
  · exact hopening.append hclosing
  · exact ((((hopening.append (plainLines_freshLine _)).append
      (plainLines_separated _ h)).append (plainLines_freshLine _))).append hclosing

mutual

/-- A JSON text is plain, whatever value it stands for. -/
theorem plainLines_indentedChars : ∀ (v : Value) (level : ℕ), PlainLines (indentedChars level v)
  | .none, _ => plainLines_of_plain (show Text.Plain "null".toList by decide)
  | .bool true, _ => plainLines_of_plain (show Text.Plain "true".toList by decide)
  | .bool false, _ => plainLines_of_plain (show Text.Plain "false".toList by decide)
  | .int i, _ => plainLines_of_plain (plain_withSign (plain_digitChars _))
  | .float x, _ =>
    plainLines_of_plain (plain_format numberStyle (by decide) (by decide) (by decide) x)
  | .str s, _ => plainLines_of_plain (plain_quoteChars _)
  | .bytes b, _ => plainLines_of_plain Text.plain_nil
  | .list items, level =>
    plainLines_block level (by decide) (by decide) (plainLines_indentedItems items (level + 1))
  | .dict fields, level =>
    plainLines_block level (by decide) (by decide) (plainLines_indentedFields fields (level + 1))

/-- The texts of items are plain. -/
theorem plainLines_indentedItems : ∀ (items : List Value) (level : ℕ),
    ∀ piece ∈ indentedItems level items, PlainLines piece
  | [], _ => by simp [indentedItems]
  | v :: rest, level =>
    List.forall_mem_cons.2 ⟨plainLines_indentedChars v level, plainLines_indentedItems rest level⟩

/-- The texts of fields are plain. -/
theorem plainLines_indentedFields : ∀ (fields : List (String × Value)) (level : ℕ),
    ∀ piece ∈ indentedFields level fields, PlainLines piece
  | [], _ => by simp [indentedFields]
  | (k, v) :: rest, level =>
    List.forall_mem_cons.2 ⟨((plainLines_of_plain (plain_quoteChars _)).append
      (plainLines_of_plain (by decide))).append (plainLines_indentedChars v level),
      plainLines_indentedFields rest level⟩

end

/-- **A JSON text over several lines reads back**, if its containers are not too deep. -/
theorem read_indented {v : Value} (h : Readable v deepest) : read (indented v) = .ok v := by
  obtain ⟨c, cs, hcs, hblank, -⟩ := exists_indentedChars h 0
  have hnil : EndsNumber [] := ⟨by simp [EndsDigits], by simp, by simp, by simp⟩
  have hvalue := readValue_indented v (fuelFor (indentedChars 0 v).length) deepest 0 [] h hnil
    (by unfold fuelFor; omega)
  rw [List.append_nil] at hvalue
  have hmark : (indentedChars 0 v).head? ≠ some (Char.ofNat 0xfeff) := by
    intro h
    rcases plainLines_indentedChars v 0 _ (List.mem_of_mem_head? h) with h | h
    · exact absurd h (by decide)
    · exact absurd h (by decide)
  have hskip : skipBlanks (indentedChars 0 v) = indentedChars 0 v := by
    rw [hcs]
    exact @skipBlanks_append [] (by simp) c hblank cs
  have hall : readAll (indentedChars 0 v) = .ok v := by
    unfold readAll
    rw [if_neg (by simpa using hmark), hskip, hvalue]
    rfl
  rw [read, indented, String.toList_ofList, hall]

end SessionRecorder.Json
