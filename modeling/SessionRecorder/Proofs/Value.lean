import Mathlib.Tactic.Common
import SessionRecorder.Json.Printer
/-!
# Induction on values

A value is a list or a record of values, or it holds no other value. What is displayed or written
for it is made of what is displayed or written for the values in it.

## Main definitions

* `Value.IsWritable` — a value has a JSON form.

## Main results

* `Value.induct` — what holds of a list and of a record if it holds of what they hold, and of all
  other values, holds of every value.
* `Value.mem_of_lookup?`, `Value.lookup?_of_mem` — what is found in a record is one of its fields.
-/

namespace SessionRecorder.Value

variable {P : Value → Prop}

mutual

/-- **Induction on values**: a case for the values that hold no other ones, one for lists and one
for records. -/
theorem induct (leaf : ∀ v, (∀ items, v ≠ .list items) → (∀ fields, v ≠ .dict fields) → P v)
    (list : ∀ items, (∀ item ∈ items, P item) → P (.list items))
    (dict : ∀ fields, (∀ field ∈ fields, P field.2) → P (.dict fields)) : ∀ v, P v
  | .list items => list items (induct_items leaf list dict items)
  | .dict fields => dict fields (induct_fields leaf list dict fields)
  | .none | .bool _ | .int _ | .float _ | .str _ | .bytes _ => leaf _ nofun nofun

/-- Induction on the items of a list. -/
theorem induct_items (leaf : ∀ v, (∀ items, v ≠ .list items) → (∀ fields, v ≠ .dict fields) → P v)
    (list : ∀ items, (∀ item ∈ items, P item) → P (.list items))
    (dict : ∀ fields, (∀ field ∈ fields, P field.2) → P (.dict fields)) :
    ∀ items : List Value, ∀ item ∈ items, P item
  | [] => nofun
  | v :: rest => List.forall_mem_cons.2
    ⟨induct leaf list dict v, induct_items leaf list dict rest⟩

/-- Induction on the fields of a record. -/
theorem induct_fields (leaf : ∀ v, (∀ items, v ≠ .list items) → (∀ fields, v ≠ .dict fields) → P v)
    (list : ∀ items, (∀ item ∈ items, P item) → P (.list items))
    (dict : ∀ fields, (∀ field ∈ fields, P field.2) → P (.dict fields)) :
    ∀ fields : List (String × Value), ∀ field ∈ fields, P field.2
  | [] => nofun
  | (_, v) :: rest => List.forall_mem_cons.2
    ⟨induct leaf list dict v, induct_fields leaf list dict rest⟩

end

/-! ## Fields of records -/

section

variable {fields : List (String × Value)} {name : String} {v : Value}

/-- A value that is looked up is one of those that are there. -/
lemma mem_of_lookup? (h : lookup? name fields = some v) : (name, v) ∈ fields := by
  induction fields with
  | nil => cases h
  | cons f rest ih =>
    rw [lookup?] at h
    split at h
    next hname =>
      obtain rfl := Option.some.inj h
      obtain rfl := eq_of_beq hname
      exact List.mem_cons_self
    next => exact List.mem_cons_of_mem _ (ih h)

/-- A field is found under its name if no other field has that name. -/
lemma lookup?_of_mem (hnames : (fields.map (·.1)).Nodup) (h : (name, v) ∈ fields) :
    lookup? name fields = some v := by
  induction fields with
  | nil => cases h
  | cons f rest ih =>
    rw [List.map_cons, List.nodup_cons] at hnames
    rw [lookup?]
    rcases List.mem_cons.1 h with rfl | h
    · simp
    · have hne : f.1 ≠ name := by
        rintro rfl
        exact hnames.1 (List.mem_map.2 ⟨_, h, rfl⟩)
      rw [if_neg (by simpa using hne), ih hnames.2 h]

/-- A value is looked up among values that are made of their names. -/
lemma lookup?_map {names : List String} (value : String → Value) (h : name ∈ names) :
    lookup? name (names.map fun n => (n, value n)) = some (value name) := by
  induction names with
  | nil => cases h
  | cons n rest ih =>
    rw [List.map_cons, lookup?]
    by_cases hn : n = name
    · simp [hn]
    · rw [if_neg (by simpa using hn), ih ((List.mem_cons.1 h).resolve_left (Ne.symm hn))]

/-- Fields that are left out do not matter if they have other names. -/
lemma lookup?_filter {p : String × Value → Bool} (h : ∀ v, p (name, v) = true) :
    lookup? name (fields.filter p) = lookup? name fields := by
  induction fields with
  | nil => rfl
  | cons f rest ih =>
    by_cases hf : f.1 = name
    · have hp : p f = true := by
        rw [← h f.2, ← hf]
      rw [List.filter_cons_of_pos hp, lookup?, lookup?, ih]
    · have hskip : lookup? name (f :: rest) = lookup? name rest := by
        rw [lookup?, if_neg (by simpa using hf)]
      rw [List.filter_cons, hskip]
      split
      next => rw [lookup?, if_neg (by simpa using hf), ih]
      next => exact ih

end

/-! ## Texts of values -/

/-- The texts of the items of a list are the texts of its items. -/
lemma displayItems_eq (items : List Value) : displayItems items = items.map display := by
  induction items with
  | nil => rfl
  | cons v rest ih => rw [displayItems, ih, List.map_cons]

/-- The texts of the fields of a record, one after the other. -/
lemma displayFields_eq (fields : List (String × Value)) :
    displayFields fields = fields.map fun f => Text.quoted f.1 ++ ": " ++ display f.2 := by
  induction fields with
  | nil => rfl
  | cons f rest ih => rw [displayFields, ih, List.map_cons]

/-! ## JSON forms of values -/

/-- A value has a JSON form: no octets and no overlong whole number is a part of it. -/
def IsWritable (v : Value) : Prop :=
  Json.firstUnwritable? v = .none

/-- A whole number has a JSON form if it is short. -/
lemma isWritable_int {i : Int} : (Value.int i).IsWritable ↔ Json.isShort i = true := by
  rw [IsWritable, Json.firstUnwritable?]
  cases Json.isShort i <;> simp

/-- A list has a JSON form if its items have. -/
lemma isWritable_list {items : List Value} :
    (Value.list items).IsWritable ↔ ∀ item ∈ items, item.IsWritable := by
  show Json.firstUnwritableItem? items = .none ↔ _
  induction items with
  | nil => simp [Json.firstUnwritableItem?]
  | cons v rest ih => simp [Json.firstUnwritableItem?, ih, IsWritable]

/-- A record has a JSON form if its fields have. -/
lemma isWritable_dict {fields : List (String × Value)} :
    (Value.dict fields).IsWritable ↔ ∀ f ∈ fields, f.2.IsWritable := by
  show Json.firstUnwritableField? fields = .none ↔ _
  induction fields with
  | nil => simp [Json.firstUnwritableField?]
  | cons f rest ih => simp [Json.firstUnwritableField?, ih, IsWritable]

/-- A field of a record that can be written can be written, or what stands in its place. -/
lemma isWritable_fieldOr {fields : List (String × Value)} {d : Value}
    (hf : ∀ f ∈ fields, f.2.IsWritable) (hd : d.IsWritable) (name : String) :
    (fieldOr fields name d).IsWritable := by
  unfold fieldOr
  cases h : lookup? name fields with
  | none => exact hd
  | some v => exact hf _ (mem_of_lookup? h)

/-- The items of a list on one line. -/
lemma compactItems_eq (items : List Value) :
    Json.compactItems items = items.map Json.compactChars := by
  induction items with
  | nil => rfl
  | cons v rest ih => rw [Json.compactItems, ih, List.map_cons]

/-- The fields of a record on one line. -/
lemma compactFields_eq (fields : List (String × Value)) : Json.compactFields fields =
    fields.map fun f => Json.quoteChars f.1.toList ++ [':', ' '] ++ Json.compactChars f.2 := by
  induction fields with
  | nil => rfl
  | cons f rest ih => rw [Json.compactFields, ih, List.map_cons]

end SessionRecorder.Value
