import Mathlib.Data.List.Sublists
import Mathlib.Tactic.Common
import SessionRecorder.KeyLabel
/-!
# Reading key labels

A label joins modifiers and a key with plus signs and escapes nothing, although a plus sign is a key
itself and modifiers are keys as well. It can still be read in one way only: the names of modifiers
hold no plus sign, and a key holds none unless it is one. So a label tells the key and the modifiers
that count, however these were spelled.

## Main definitions

* `Modifier.Names` — the names that stand for a modifier.
* `Modifier.IsCollection`, `Modifier.Held` — values that list modifiers, and what they list.
* `KeyLabel.IsKey` — the texts that keys are called by.
* `KeyLabel.Effective` — the modifiers that count for a key.

## Main results

* `Modifier.ofName?_eq_some_iff` — a name is read for what it stands for.
* `KeyLabel.make_eq` — a label lists the modifiers that count in their order, and the key.
* `KeyLabel.joined_inj` — a label can be read in one way only.
* `KeyLabel.make_eq_ok_iff` — a label tells the key and the modifiers that count.
-/

namespace SessionRecorder

namespace Modifier

variable {m : Modifier} {s : String} {v : Value}

/-! ## Names -/

/-- The plain words for a modifier. -/
def words : Modifier → List String
  | .ctrl => ["ctrl", "control"]
  | m => [m.name]

/-- A name stands for a modifier: it is a word for it in any case, perhaps with blanks around it,
and with or without `key` at the end. -/
def Names (s : String) (m : Modifier) : Prop :=
  ∃ word ∈ m.words, Text.lower (Text.trim s) = word ∨ Text.lower (Text.trim s) = word ++ "key"

/-- What is left without `key` at the end, if it does not end so itself. -/
lemma withoutKeyWord_eq_iff {cs ds : List Char} (hds : ¬['k', 'e', 'y'] <:+ ds) :
    withoutKeyWord cs = ds ↔ cs = ds ∨ cs = ds ++ ['k', 'e', 'y'] := by
  unfold withoutKeyWord
  split
  next rest hrev =>
    obtain rfl : cs = rest.reverse ++ ['k', 'e', 'y'] := by
      rw [← List.reverse_reverse cs, hrev]
      simp
    have hne : rest.reverse ++ ['k', 'e', 'y'] ≠ ds := by
      rintro rfl
      exact hds (List.suffix_append _ _)
    simp [hne]
  next hrev =>
    have hne : cs ≠ ds ++ ['k', 'e', 'y'] := by
      rintro rfl
      exact hrev ds.reverse (by simp)
    simp [hne]

/-- A word for a modifier does not end in `key`. -/
lemma not_key_suffix {word : String} (h : word ∈ m.words) : ¬['k', 'e', 'y'] <:+ word.toList := by
  have hall : ∀ m ∈ all, ∀ word ∈ m.words, ¬['k', 'e', 'y'] <:+ word.toList := by decide
  exact hall m (by cases m <;> decide) word h

/-- A name that is cut and made small is read for the word that it is. -/
lemma find?_name_iff (name : String) :
    (if name == "control" then some .ctrl else all.find? fun m => m.name == name) = some m ↔
      name ∈ m.words := by
  by_cases hctrl : name = "control"
  · subst hctrl
    cases m <;> decide
  · rw [if_neg (by simpa using hctrl)]
    have hmem : name ∈ m.words ↔ m.name = name := by
      cases m <;> simp [words, Modifier.name, hctrl, eq_comm]
    rw [hmem]
    constructor
    · intro h
      simpa using List.find?_some h
    · rintro rfl
      cases m <;> decide

/-- **A name is read for the modifier that it stands for.** -/
lemma ofName?_eq_some_iff : ofName? s = some m ↔ Names s m := by
  have hcut (word : String) (h : word ∈ m.words) :
      String.ofList (withoutKeyWord (Text.lower (Text.trim s)).toList) = word ↔
        Text.lower (Text.trim s) = word ∨ Text.lower (Text.trim s) = word ++ "key" := by
    rw [← String.toList_inj, String.toList_ofList, withoutKeyWord_eq_iff (not_key_suffix h),
      ← String.toList_inj, ← String.toList_inj, String.toList_append]
    rfl
  unfold ofName? Names
  dsimp only
  rw [find?_name_iff]
  constructor
  · exact fun h => ⟨_, h, (hcut _ h).1 rfl⟩
  · rintro ⟨word, hword, h⟩
    rwa [(hcut word hword).2 h]

/-! ## Collections -/

/-- A value that lists names: a list, a text for its characters, a record for the names of its
fields, octets; or nothing, which lists none. -/
def IsCollection (v : Value) : Prop :=
  v = .none ∨ v.items?.isSome = true

/-- A modifier that a value lists under some name. -/
def Held (v : Value) (m : Modifier) : Prop :=
  ∃ item ∈ v.items?.getD [], Names item.shown m

/-- What counts as nothing lists nothing. -/
lemma items?_of_not_truthy (h : v.truthy = false) : v.items?.getD [] = [] := by
  cases v with
  | str s =>
    obtain rfl : s = "" := by simpa [Value.truthy] using h
    rfl
  | bytes b =>
    cases b with
    | text s =>
      obtain rfl : s = "" := by simpa [Value.truthy, Blob.isEmpty] using h
      simp [Value.items?, Blob.toOctets, Utf8.encode]
    | octets content =>
      obtain rfl : content = [] := by simpa [Value.truthy, Blob.isEmpty] using h
      rfl
    | picture => cases h
  | list items =>
    obtain rfl : items = [] := by simpa [Value.truthy] using h
    rfl
  | dict fields =>
    obtain rfl : fields = [] := by simpa [Value.truthy] using h
    rfl
  | _ => rfl

/-- In the order of labels there is each modifier of a list. -/
@[simp] lemma mem_ordered {ms : List Modifier} : m ∈ ordered ms ↔ m ∈ ms := by
  have hall : m ∈ all := by cases m <;> decide
  simp [ordered, hall]

/-- **A collection is read for the modifiers that it lists.** -/
lemma exists_ofValue_of_isCollection (h : IsCollection v) :
    ∃ ms, ofValue v = .ok ms ∧ ∀ m, m ∈ ms ↔ Held v m := by
  unfold ofValue Held
  split
  next htruthy =>
    obtain ⟨items, hitems⟩ : ∃ items, v.items? = some items := by
      rcases h with rfl | h
      · cases htruthy
      · exact Option.isSome_iff_exists.1 h
    refine ⟨ordered (items.filterMap fun item => ofName? item.shown), ?_, fun m => ?_⟩
    · rw [Value.items, hitems]
      rfl
    · simp [hitems, ofName?_eq_some_iff]
  next htruthy => exact ⟨[], rfl, by simp [items?_of_not_truthy (by simpa using htruthy)]⟩

end Modifier

namespace KeyLabel

variable {key key' : String} {v v' : Value} {ms ms' : List Modifier}

/-! ## Labels -/

/-- The texts that keys are called by: a plus sign, or one character or more without any. -/
def IsKey (key : String) : Prop :=
  key = "+" ∨ key ≠ "" ∧ '+' ∉ key.toList

/-- A modifier that counts for a key: it is held down, and is not the key itself. -/
def Effective (key : String) (v : Value) (m : Modifier) : Prop :=
  Modifier.Held v m ∧ key ∉ m.keys

/-- A label as it is put together. -/
def joined (ms : List Modifier) (key : String) : String :=
  "+".intercalate (ms.map Modifier.label ++ [key])

/-- The modifiers that a label lists are some of all, in their order. -/
lemma listed_sublist (key : Value) (ms : List Modifier) :
    (listed key ms).Sublist Modifier.all :=
  (List.filter_sublist).trans List.filter_sublist

/-- The modifiers that a label lists are those that are held down and are not the key. -/
lemma mem_listed {m : Modifier} : m ∈ listed (.str key) ms ↔ m ∈ ms ∧ key ∉ m.keys := by
  have hself : isSelf (.str key) m = true ↔ key ∈ m.keys := by
    simp [isSelf, Value.same]
  rw [listed, List.mem_filter, Modifier.mem_ordered]
  simp [← hself]

/-- **A label lists the modifiers that count in their order, and then the key.** -/
lemma make_eq (key : String) (h : Modifier.IsCollection v) :
    ∃ ms : List Modifier, ms.Sublist Modifier.all ∧ (∀ m, m ∈ ms ↔ Effective key v m) ∧
      make (.str key) v = .ok (joined ms key) := by
  obtain ⟨held, hheld, hmem⟩ := Modifier.exists_ofValue_of_isCollection h
  refine ⟨listed (.str key) held, listed_sublist _ _, fun m => ?_, ?_⟩
  · rw [mem_listed, hmem, Effective]
  · rw [make, hheld]
    rfl

/-! ## Reading -/

/-- A label of the key alone. -/
lemma joined_nil (key : String) : joined [] key = key := by
  simp [joined]

/-- A modifier in front of a label. -/
lemma toList_joined_cons (m : Modifier) (ms : List Modifier) (key : String) :
    (joined (m :: ms) key).toList = m.label.toList ++ '+' :: (joined ms key).toList := by
  rw [joined, joined, List.map_cons, List.cons_append,
    String.intercalate_cons_of_ne_nil (by simp), String.toList_append, String.toList_append]
  simp

/-- What stands before the first separator. -/
lemma takeWhile_append_cons {c : Char} {as : List Char} (h : c ∉ as) (bs : List Char) :
    (as ++ c :: bs).takeWhile (· != c) = as := by
  rw [List.takeWhile_append_of_pos fun a ha => by simpa using fun h' : a = c => h (h' ▸ ha)]
  simp

/-- What stands before the first separator, and what after it. -/
lemma append_cons_inj {c : Char} {as as' bs bs' : List Char} (h : c ∉ as) (h' : c ∉ as')
    (heq : as ++ c :: bs = as' ++ c :: bs') : as = as' ∧ bs = bs' := by
  obtain rfl : as = as' := by
    rw [← takeWhile_append_cons h bs, heq, takeWhile_append_cons h' bs']
  exact ⟨rfl, by simpa using heq⟩

/-- The name of a modifier in a label holds no plus sign. -/
lemma plus_notMem_label (m : Modifier) : '+' ∉ m.label.toList := by
  cases m <;> decide

/-- Modifiers are told apart by their names in labels. -/
lemma label_inj {m m' : Modifier} (h : m.label.toList = m'.label.toList) : m = m' := by
  cases m <;> cases m' <;> first | rfl | exact absurd h (by decide)

/-- The label of a key is no label with a modifier in front. -/
lemma IsKey.ne_joined_cons (h : IsKey key) (m : Modifier) (ms : List Modifier) (key' : String) :
    key ≠ joined (m :: ms) key' := by
  intro heq
  have htext : key.toList = m.label.toList ++ '+' :: (joined ms key').toList := by
    rw [heq, toList_joined_cons]
  rcases h with rfl | ⟨-, h⟩
  · cases m <;> simp [Modifier.label] at htext
  · exact h (by simp [htext])

/-- **A label can be read in one way only.** -/
lemma joined_inj (hkey : IsKey key) (hkey' : IsKey key') :
    joined ms key = joined ms' key' ↔ key = key' ∧ ms = ms' := by
  refine ⟨fun h => ?_, by rintro ⟨rfl, rfl⟩; rfl⟩
  induction ms generalizing ms' with
  | nil =>
    cases ms' with
    | nil => exact ⟨by simpa [joined_nil] using h, rfl⟩
    | cons m' ms' =>
      rw [joined_nil] at h
      exact absurd h (hkey.ne_joined_cons m' ms' key')
  | cons m ms ih =>
    cases ms' with
    | nil =>
      rw [joined_nil] at h
      exact absurd h.symm (hkey'.ne_joined_cons m ms key)
    | cons m' ms' =>
      have htext := congrArg String.toList h
      rw [toList_joined_cons, toList_joined_cons] at htext
      obtain ⟨hlabel, hrest⟩ :=
        append_cons_inj (plus_notMem_label m) (plus_notMem_label m') htext
      obtain ⟨hk, hms⟩ := ih (String.toList_inj.1 hrest)
      exact ⟨hk, by rw [label_inj hlabel, hms]⟩

/-- Some of all modifiers in their order are known by which they are. -/
lemma eq_of_sublist_all (h : ms.Sublist Modifier.all) (h' : ms'.Sublist Modifier.all)
    (hmem : ∀ m, m ∈ ms ↔ m ∈ ms') : ms = ms' := by
  have hall : ∀ ms ∈ Modifier.all.sublists, ∀ ms' ∈ Modifier.all.sublists,
      (∀ m ∈ Modifier.all, m ∈ ms ↔ m ∈ ms') → ms = ms' := by decide
  exact hall ms (List.mem_sublists.2 h) ms' (List.mem_sublists.2 h') fun m _ => hmem m

/-- **A label tells the key and the modifiers that count**, and nothing else. -/
lemma make_eq_ok_iff {label : String} (hkey : IsKey key) (hkey' : IsKey key')
    (hv : Modifier.IsCollection v) (hv' : Modifier.IsCollection v')
    (hmade : make (.str key) v = .ok label) :
    make (.str key') v' = .ok label ↔
      key' = key ∧ ∀ m, Effective key' v' m ↔ Effective key v m := by
  obtain ⟨ms, hms, hmem, hmake⟩ := make_eq key hv
  obtain ⟨ms', hms', hmem', hmake'⟩ := make_eq key' hv'
  obtain rfl : joined ms key = label := Except.ok.inj (hmake.symm.trans hmade)
  rw [hmake', Except.ok.injEq, joined_inj hkey' hkey]
  refine and_congr_right fun _ => ⟨fun h m => ?_, fun h => ?_⟩
  · rw [← hmem, ← hmem', h]
  · exact eq_of_sublist_all hms' hms fun m => by rw [hmem, hmem', h]

end KeyLabel

end SessionRecorder
