import SessionRecorder.Proofs.Value
import SessionRecorder.Proofs.WellTyped
import SessionRecorder.Writer
/-!
# Texts of logs

A session has a JSON text of its log if the fields of the entries have JSON forms. In a well-typed
session only a whole number with more digits than are read has none.

## Main definitions

* `Entry.IsWritable` — an entry whose fields have JSON forms.

## Main results

* `Desk.exists_logText_iff_isWritable` — the sessions whose logs have a text.
* `Desk.logText_eq` — the text of the log of a well-typed session.
-/

namespace SessionRecorder

/-! ## JSON forms -/

/-- What has no JSON form because of a long number: one of two parts, if one of them has none. -/
@[simp] lemma Json.cond_or_cond (a b : Bool) :
    (bif a then none else some Value.Kind.int).or (bif b then none else some .int) =
      bif a && b then none else some .int := by
  cases a <;> cases b <;> rfl

/-- A number has a JSON form if it is short. -/
lemma Value.IsNumber.firstUnwritable {v : Value} (h : v.IsNumber) :
    Json.firstUnwritable? v = bif v.isShort then Option.none else some .int := by
  cases v with
  | int i =>
    rw [Json.firstUnwritable?, isShort]
    cases Json.isShort i <;> rfl
  | float x => rfl
  | _ => exact h.elim

/-- A region has a JSON form if its numbers are short. -/
lemma Region.WellTyped.firstUnwritable {r : Region} (h : r.WellTyped) :
    Json.firstUnwritable? r.toValue = bif r.isShort then none else some .int := by
  cases r with
  | rect r =>
    simp [toValue, isShort, Rect.toFields, Json.firstUnwritable?, Json.firstUnwritableField?,
      h.x.firstUnwritable, h.y.firstUnwritable, h.width.firstUnwritable, h.height.firstUnwritable]
  | other v => cases v <;> first | rfl | exact h.elim

/-- The record of an entry has a JSON form if its numbers are short. -/
lemma Entry.WellTyped.firstUnwritable {e : Entry} (h : e.WellTyped) :
    Json.firstUnwritable? e.toRecord = bif e.isShort then none else some .int := by
  cases e <;>
    simp_all [WellTyped, toRecord, fields, isShort, Json.firstUnwritable?,
      Json.firstUnwritableField?, Value.IsNumber.firstUnwritable, Value.IsText.firstUnwritable,
      Value.IsOptionalText.firstUnwritable, Region.WellTyped.firstUnwritable,
      Value.IsInteger.isNumber]

/-- An entry whose fields have JSON forms. -/
def Entry.IsWritable (e : Entry) : Prop :=
  ∀ f ∈ e.fields, f.2.IsWritable

/-- The record of an entry has a JSON form if its fields have. -/
lemma Entry.isWritable_toRecord {e : Entry} : e.toRecord.IsWritable ↔ e.IsWritable := by
  have hkind : (Value.str e.kind.name).IsWritable := rfl
  rw [toRecord, Value.isWritable_dict, List.forall_mem_cons]
  exact and_iff_right hkind

/-- What has a JSON form is no long number. -/
lemma Value.IsWritable.isShort {v : Value} (h : v.IsWritable) : v.isShort = true := by
  cases v with
  | int i => exact isWritable_int.1 h
  | _ => rfl

/-- An entry whose fields have JSON forms has no long numbers. -/
lemma Entry.IsWritable.isShort {e : Entry} (h : e.IsWritable) : e.isShort = true := by
  cases e with
  | screenshot name locator region =>
    cases region with
    | rect r =>
      have hregion : (Value.dict r.toFields).IsWritable :=
        h ("region", .dict r.toFields) (by simp [fields, Region.toValue])
      rw [Value.isWritable_dict] at hregion
      simp [Rect.toFields] at hregion
      simp [Entry.isShort, Region.isShort, hregion.1.isShort, hregion.2.1.isShort,
        hregion.2.2.1.isShort, hregion.2.2.2.isShort]
    | other v => rfl
  | _ => simp_all [IsWritable, fields, Entry.isShort, Value.IsWritable.isShort]

namespace Desk

/-- **The log of a session has a text** if the names of the open steps and the fields of the entries
have JSON forms. -/
lemma exists_logText_iff_isWritable {s : Session} : (∃ t, logText s = .ok t) ↔
    (∀ name ∈ s.openSteps, name.IsWritable) ∧ ∀ e ∈ s.log, e.IsWritable := by
  have hrecord : (logRecord s).IsWritable ↔
      (∀ name ∈ s.openSteps, name.IsWritable) ∧ ∀ e ∈ s.log, e.IsWritable := by
    simp [logRecord, Value.isWritable_dict, Value.isWritable_list, Entry.isWritable_toRecord]
  rw [← hrecord, Value.IsWritable, logText]
  cases Json.firstUnwritable? (logRecord s) with
  | none => simp
  | some kind => simp

/-- Texts have a JSON form, one after the other. -/
lemma firstUnwritableItem_texts {names : List Value} (h : ∀ name ∈ names, name.IsText) :
    Json.firstUnwritableItem? names = none := by
  induction names with
  | nil => rfl
  | cons name rest ih =>
    rw [List.forall_mem_cons] at h
    rw [Json.firstUnwritableItem?, h.1.firstUnwritable, ih h.2, Option.none_or]

/-- The records of entries have a JSON form if all their numbers are short. -/
lemma firstUnwritableItem_records {log : List Entry} (h : ∀ e ∈ log, e.WellTyped) :
    Json.firstUnwritableItem? (log.map Entry.toRecord) =
      bif log.all Entry.isShort then none else some .int := by
  induction log with
  | nil => rfl
  | cons e rest ih =>
    rw [List.forall_mem_cons] at h
    rw [List.map_cons, Json.firstUnwritableItem?, h.1.firstUnwritable, ih h.2, Json.cond_or_cond,
      List.all_cons]

/-- **The text of the log of a well-typed session.** There is none if a number is too long. -/
lemma logText_eq {s : Session} (hs : s.WellTyped) :
    logText s = bif s.log.all Entry.isShort then .ok (Json.indented (logRecord s))
      else .error (.notJson .int) := by
  have hrecord : Json.firstUnwritable? (logRecord s) =
      bif s.log.all Entry.isShort then none else some .int := by
    simp only [logRecord, Json.firstUnwritable?, Json.firstUnwritableField?,
      firstUnwritableItem_texts hs.openSteps, firstUnwritableItem_records hs.log, Option.none_or,
      Option.or_none]
  rw [logText, hrecord]
  cases s.log.all Entry.isShort <;> rfl

end Desk

end SessionRecorder
