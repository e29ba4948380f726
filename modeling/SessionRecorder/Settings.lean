import SessionRecorder.Json.Printer
import SessionRecorder.Signature
import SessionRecorder.Value.Arithmetic
import SessionRecorder.Workspace
/-!
# Settings

What a user has set for recordings, kept in a JSON file. A file that is not there or holds no
record stands for the defaults, and a setting that cannot be kept is lost without notice.

## Main definitions

* `Settings` — the settings.
* `Settings.toRecord`, `Settings.ofRecord` — settings as a record and back.
* `Settings.load`, `Settings.save` — settings from and to a file.
-/

namespace SessionRecorder

/-- What a user has set for recordings. -/
structure Settings where
  outputDir : Value
  scriptName : Value
  snapshotDir : Value
  debounce : Value
  defaultStep : Value
  formatter : Value
  editor : Value
  saveLog : Value

namespace Settings

/-- The settings with what they are if nothing is set, by name. -/
def defaults : List (String × Value) :=
  [("output_dir", .str "codegen-output"), ("script_name", .str "codegen.py"),
    ("snapshot_dir", .none), ("debounce_ms", .int 250), ("default_step_name", .str "step"),
    ("formatter", .none), ("editor", .none), ("save_log_json", .bool true)]

/-- The settings that complete fields give. -/
def ofFields (fields : List (String × Value)) : Settings :=
  let get (name : String) := Value.fieldOr fields name .none
  { outputDir := get "output_dir", scriptName := get "script_name",
    snapshotDir := get "snapshot_dir", debounce := get "debounce_ms",
    defaultStep := get "default_step_name", formatter := get "formatter",
    editor := get "editor", saveLog := get "save_log_json" }

/-- Nothing is set. -/
def default : Settings :=
  ofFields defaults

/-- The fields that settings may be made from. -/
def signature : Signature :=
  ⟨"RecorderSettings.__init__", 1, [], defaults⟩

/-- The settings with the given fields. -/
def make (fields : List (String × Value)) : Except Fault Settings :=
  (signature.bind fields).map ofFields

/-- The fields of settings. -/
def fields (s : Settings) : List (String × Value) :=
  [("output_dir", s.outputDir), ("script_name", s.scriptName), ("snapshot_dir", s.snapshotDir),
    ("debounce_ms", s.debounce), ("default_step_name", s.defaultStep),
    ("formatter", s.formatter), ("editor", s.editor), ("save_log_json", s.saveLog)]

/-- Settings as a record. -/
def toRecord (s : Settings) : Value :=
  .dict s.fields

/-- The settings in the fields of a record: names are made texts, the delay a whole number and the
switch a truth value. -/
def ofRecord (record : List (String × Value)) : Except Fault Settings := do
  let get (name : String) :=
    Value.fieldOr record name (Value.fieldOr defaults name .none)
  let debounce ← (get "debounce_ms").toInteger
  return {
    outputDir := .str (get "output_dir").shown
    scriptName := .str (get "script_name").shown
    snapshotDir := get "snapshot_dir"
    debounce := .int debounce
    defaultStep := .str (get "default_step_name").shown
    formatter := get "formatter"
    editor := get "editor"
    saveLog := .bool (get "save_log_json").truthy }

/-- The record that a file holds, if it holds one. -/
def record? (w : Workspace) (p : Path) : Option (List (String × Value)) :=
  match w.readText p with
  | .error _ => none
  | .ok s =>
    match Json.read s with
    | .ok (.dict fields) => some fields
    | _ => none

/-- The settings that a file holds. -/
def load (w : Workspace) (p : Path) : Except Fault Settings :=
  match w.pathExists p with
  | .error f => .error f
  | .ok false => .ok default
  | .ok true =>
    match record? w p with
    | none => .ok default
    | some fields => ofRecord fields

/-- Write settings to a file, if they can be written. -/
def save (s : Settings) (p : Path) : Procedure Workspace Unit := do
  match Json.firstUnwritable? s.toRecord with
  | some _ => return
  | none =>
    let _ ← (Workspace.write p (.text (Json.indented s.toRecord))).attempt

end Settings

end SessionRecorder
