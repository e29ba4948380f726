import Mathlib.Logic.Relation
import SessionRecorder.Proofs.KeyLabel
/-!
# Typed labels

A label is typed as it is written, but one of the modifiers has another name where keys are typed.
Only modifiers in front of the key are spelled in this way: each of them ends at the first plus sign
of what is left, and something has to follow that sign, so that a key which is a plus sign, ends with
one or is called like a modifier stays as it is. The other name is not that of a modifier in a label,
so a label that has been spelled is not changed again.

## Main definitions

* `KeyLabel.Spelling` — a label while it is spelled; `KeyLabel.Spelling.turn?` spells the modifier in
  front of what is left of it.

## Main results

* `KeyLabel.Spelling.exists_ended` — the spelling of every label comes to an end, with the label as
  it is typed.
* `KeyLabel.typed_joined` — the modifiers of a label are spelled, and the key as it is alone.
* `KeyLabel.typedChars_typedChars` — a label that has been spelled stays as it is.
* `KeyLabel.spells_labels` — these facts for all keys, collections of modifiers and labels.
-/

namespace SessionRecorder.KeyLabel

variable {m : Modifier} {ms : List Modifier} {cs rest : List Char} {key : String}

/-! ## The modifier in front -/

/-- A modifier stands in front of a label if its name, a plus sign and something more do. -/
lemma inFront?_eq_some_iff :
    inFront? cs = some (m, rest) ↔ rest ≠ [] ∧ cs = m.label.toList ++ '+' :: rest := by
  have hcut := List.takeWhile_append_dropWhile (p := (· != '+')) (l := cs)
  unfold inFront?
  constructor
  · intro h
    split at h
    next d c rest' hdrop =>
      have hplus : d = '+' := by
        have hnot := List.head?_dropWhile_not (· != '+') cs
        rw [hdrop] at hnot
        simpa using hnot
      obtain ⟨m', hm, hpair⟩ := Option.map_eq_some_iff.1 h
      obtain ⟨rfl, rfl⟩ := Prod.mk.inj hpair
      have hlabel : m'.label.toList = cs.takeWhile (· != '+') := by simpa using List.find?_some hm
      exact ⟨by simp, by rw [← hcut, hdrop, hplus, hlabel]⟩
    next => cases h
  · rintro ⟨hrest, rfl⟩
    have hfind : (Modifier.all.find? fun m' => m'.label.toList == m.label.toList) = some m := by
      cases m <;> decide
    have htake := takeWhile_append_cons (plus_notMem_label m) rest
    rw [htake] at hcut
    obtain ⟨c, rest, rfl⟩ := List.exists_cons_of_ne_nil hrest
    rw [List.append_cancel_left hcut]
    simp only [htake, hfind, Option.map_some]

/-- A modifier in front of a label is spelled. -/
lemma typedChars_label (m : Modifier) (h : rest ≠ []) :
    typedChars (m.label.toList ++ '+' :: rest) = m.typedName.toList ++ '+' :: typedChars rest := by
  have hfront := inFront?_eq_some_iff.2 ⟨h, Eq.refl (m.label.toList ++ '+' :: rest)⟩
  rw [typedChars]
  split
  next hnone => rw [hfront] at hnone; cases hnone
  next m' rest' hsome =>
    rw [hfront] at hsome
    obtain ⟨rfl, rfl⟩ := Prod.mk.inj (Option.some.inj hsome)
    rfl

/-- A label without a modifier in front is typed as it is. -/
lemma typedChars_of_inFront?_eq_none (h : inFront? cs = none) : typedChars cs = cs := by
  rw [typedChars]
  split
  next => rfl
  next hsome => rw [h] at hsome; cases hsome

/-! ## One modifier after the other -/

/-- A label while it is spelled: the names of the modifiers that have been spelled, and what is left
of it. -/
structure Spelling where
  names : List String
  rest : List Char

namespace Spelling

/-- The spelling after one turn, in which the modifier in front is spelled. It is at its end if there
is none. -/
def turn? (s : Spelling) : Option Spelling :=
  (inFront? s.rest).map fun (m, rest) => ⟨s.names ++ [m.typedName], rest⟩

/-- The names that have been spelled and what is left, with plus signs between them. -/
def text (s : Spelling) : String :=
  "+".intercalate (s.names ++ [String.ofList s.rest])

/-- Two pieces behind others are joined like one piece. -/
lemma intercalate_concat (names : List String) (a b : String) :
    "+".intercalate (names ++ [a] ++ [b]) = "+".intercalate (names ++ [a ++ "+" ++ b]) := by
  induction names with
  | nil => simp [String.append_assoc]
  | cons name names ih =>
    simp only [List.append_assoc, List.cons_append] at ih ⊢
    rw [String.intercalate_cons_of_ne_nil (by simp), ih,
      String.intercalate_cons_of_ne_nil (by simp)]

/-- **The spelling of every label comes to an end**, and leaves the label as it is typed.

**Proof sketch.** Induction on what is left. A turn takes a modifier from its front and adds the name
to the others; joined with what is left, they are what was joined before, as it is typed. Where no
modifier is in front, what is left is typed as it is. -/
lemma exists_ended (names : List String) (cs : List Char) :
    ∃ s, Relation.ReflTransGen (fun s s' : Spelling => s.turn? = some s') ⟨names, cs⟩ s ∧
      s.turn? = none ∧ s.text = "+".intercalate (names ++ [String.ofList (typedChars cs)]) := by
  fun_induction typedChars cs generalizing names with
  | case1 cs hnone => exact ⟨⟨names, cs⟩, .refl, by simp [turn?, hnone], rfl⟩
  | case2 cs m rest hsome ih =>
    obtain ⟨s, hrun, hend, htext⟩ := ih (names ++ [m.typedName])
    have hturn : turn? ⟨names, cs⟩ = some ⟨names ++ [m.typedName], rest⟩ := by simp [turn?, hsome]
    refine ⟨s, .head hturn hrun, hend, ?_⟩
    have hjoined : String.ofList (m.typedName.toList ++ '+' :: typedChars rest) =
        m.typedName ++ "+" ++ String.ofList (typedChars rest) := by
      rw [← String.toList_inj]
      simp
    rw [htext, hjoined, intercalate_concat]

end Spelling

/-! ## Labels of keys -/

/-- **The modifiers of a label are spelled, and its key as it is alone.** -/
lemma typed_joined (hkey : key ≠ "") (ms : List Modifier) :
    typed (joined ms key) = String.join (ms.map fun m => m.typedName ++ "+") ++ typed key := by
  have hne (ms : List Modifier) : (joined ms key).toList ≠ [] := by
    cases ms with
    | nil => simpa [joined_nil] using hkey
    | cons m ms => simp [toList_joined_cons]
  rw [← String.toList_inj]
  induction ms with
  | nil => simp [joined_nil]
  | cons m ms ih =>
    rw [typed, String.toList_ofList] at ih ⊢
    rw [toList_joined_cons, typedChars_label m (hne ms), ih]
    simp [String.toList_join]

/-- A key that is a plus sign or holds none is typed as it is. -/
lemma typed_of_key (h : key = "+" ∨ '+' ∉ key.toList) : typed key = key := by
  have hnone : inFront? key.toList = none := by
    refine Option.eq_none_iff_forall_ne_some.2 fun ⟨m, rest⟩ hsome => ?_
    obtain ⟨-, hkey⟩ := inFront?_eq_some_iff.1 hsome
    rcases h with rfl | h
    · cases m <;> simp [Modifier.label] at hkey
    · exact h (by simp [hkey])
  rw [typed, typedChars_of_inFront?_eq_none hnone, String.ofList_toList]

/-- Something is left of every label. -/
lemma typedChars_ne_nil (h : cs ≠ []) : typedChars cs ≠ [] := by
  rw [typedChars]
  split
  next => exact h
  next => simp

/-- A name that is not that of the modifier in a label is the name of none. -/
lemma inFront?_typedName (h : m.typedName ≠ m.label) (cs : List Char) :
    inFront? (m.typedName.toList ++ '+' :: cs) = none := by
  refine Option.eq_none_iff_forall_ne_some.2 fun ⟨m', rest⟩ hsome => ?_
  obtain ⟨-, hcs⟩ := inFront?_eq_some_iff.1 hsome
  have hplus : '+' ∉ m.typedName.toList := by cases m <;> decide
  obtain ⟨hname, -⟩ := append_cons_inj hplus (plus_notMem_label m') hcs
  have hall : ∀ m ∈ Modifier.all, ∀ m' ∈ Modifier.all,
      m.typedName.toList = m'.label.toList → m.typedName = m.label := by decide
  exact h (hall m (by cases m <;> decide) m' (by cases m' <;> decide) hname)

/-- **A label that has been spelled stays as it is.** -/
lemma typedChars_typedChars (cs : List Char) : typedChars (typedChars cs) = typedChars cs := by
  fun_induction typedChars cs with
  | case1 cs hnone => exact typedChars_of_inFront?_eq_none hnone
  | case2 cs m rest hsome ih =>
    by_cases hname : m.typedName = m.label
    · -- the name is read again, and the spelling goes on behind it
      have hrest := typedChars_ne_nil (inFront?_eq_some_iff.1 hsome).1
      rw [hname, typedChars_label m hrest, hname, ih]
    · -- the spelling ends at a name that no modifier has in a label
      exact typedChars_of_inFront?_eq_none (inFront?_typedName hname _)

/-- **Exactly the modifiers in front of a label are spelled.** For every key that is not empty and
every collection of modifiers, what is typed are the names of the modifiers that count, in their
order and each with a plus sign, and then what is typed for the key alone; and that is the key itself
if it is a plus sign or holds none. For every label at all, the spelling comes to an end, modifier by
modifier, with what is typed; and what is typed stays as it is when it is spelled again.

**Proof sketch.** A modifier in front of a label ends at its first plus sign, since its name holds
none. So spelling goes through the modifiers of a label one by one, until the key is left. A second
spelling goes through the same names until it comes to one that is spelled in another way. -/
theorem spells_labels :
    (∀ (key : String) (v : Value), key ≠ "" → Modifier.IsCollection v →
      ∃ ms : List Modifier, ms.Sublist Modifier.all ∧ (∀ m, m ∈ ms ↔ Effective key v m) ∧
        make (.str key) v = .ok (joined ms key) ∧
        typed (joined ms key) = String.join (ms.map fun m => m.typedName ++ "+") ++ typed key) ∧
    (∀ key : String, key = "+" ∨ '+' ∉ key.toList → typed key = key) ∧
    (∀ label : String, ∃ s : Spelling,
      Relation.ReflTransGen (fun s s' : Spelling => s.turn? = some s') ⟨[], label.toList⟩ s ∧
        s.turn? = none ∧ s.text = typed label) ∧
    ∀ label : String, typed (typed label) = typed label := by
  refine ⟨fun key v hkey hv => ?_, fun _ => typed_of_key, fun label => ?_, fun label => ?_⟩
  · obtain ⟨ms, hms, hmem, hmade⟩ := make_eq key hv
    exact ⟨ms, hms, hmem, hmade, typed_joined hkey ms⟩
  · obtain ⟨s, hrun, hend, htext⟩ := Spelling.exists_ended [] label.toList
    exact ⟨s, hrun, hend, by simpa [typed] using htext⟩
  · rw [typed, typed, String.toList_ofList, typedChars_typedChars]

/-- Modifiers that are spelled in various ways, with a name that stands for none. -/
def heldOddly : Value :=
  .list [.str "Shift", .str "+", .str " CONTROLKEY"]

/-- A key that reads like a label, pressed with them, and the plus sign. -/
theorem spells_labelLikeKey :
    "Ctrl++" ≠ "" ∧ Modifier.IsCollection heldOddly ∧
      make (.str "Ctrl++") heldOddly = .ok "Ctrl+Shift+Ctrl++" ∧
      typed "Ctrl+Shift+Ctrl++" = "Control+Shift+" ++ typed "Ctrl++" ∧ typed "+" = "+" := by
  have hkey : "Ctrl++" ≠ "" := by decide
  have hheld : Modifier.IsCollection heldOddly := .inr rfl
  have hmade : make (.str "Ctrl++") heldOddly = .ok "Ctrl+Shift+Ctrl++" := rfl
  obtain ⟨ms, hms, -, hmake, htyped⟩ := spells_labels.1 "Ctrl++" heldOddly hkey hheld
  have hlabel : joined ms "Ctrl++" = "Ctrl+Shift+Ctrl++" := Except.ok.inj (hmake.symm.trans hmade)
  have hall : ∀ ms ∈ Modifier.all.sublists,
      joined ms "Ctrl++" = "Ctrl+Shift+Ctrl++" → ms = [.ctrl, .shift] := by decide
  obtain rfl := hall ms (List.mem_sublists.2 hms) hlabel
  exact ⟨hkey, hheld, hmade, hlabel ▸ htyped, spells_labels.2.1 "+" (.inl rfl)⟩

example : typed "Alt+Ctrl+Ctrl++" = "Alt+Control+Control++" := by cbv

end SessionRecorder.KeyLabel
