import SessionRecorder.Settings
import SessionRecorder.Value.Items
/-!
# Overrides

Settings that are given for one run, in environment variables or in the section `runtime` of a
configuration file. A variable goes before the file, and the file before what was set. A number or
a truth value that cannot be read counts as not given. Values of any kind may stand in for
variables: what should be a text is taken as it is, nothing included, and everything else is read
from the text of the value.

## Main definitions

* `Overrides` — the settings that are given.
* `Overrides.load` — what the environment and the configuration file give.
* `Overrides.apply` — settings with what is given in their place.
-/

namespace SessionRecorder

/-- Settings given for one run, and the configuration file that was looked at. -/
structure Overrides where
  source : Option Path
  outputDir : Value
  scriptName : Value
  snapshotDir : Value
  debounce : Option Int
  defaultStep : Value
  formatter : Value
  editor : Value
  saveLog : Option Bool

namespace Overrides

/-- Nothing is given. -/
def nothing (source : Option Path) : Overrides :=
  ⟨source, .none, .none, .none, none, .none, .none, .none, none⟩

/-- A value that is given, or else another. -/
def given (v other : Value) : Value :=
  match v with
  | .none => other
  | v => v

/-- Settings with what is given in their place. -/
def apply (o : Overrides) (s : Settings) : Settings where
  outputDir := given o.outputDir s.outputDir
  scriptName := given o.scriptName s.scriptName
  snapshotDir := given o.snapshotDir s.snapshotDir
  debounce := (o.debounce.map Value.int).getD s.debounce
  defaultStep := given o.defaultStep s.defaultStep
  formatter := given o.formatter s.formatter
  editor := given o.editor s.editor
  saveLog := (o.saveLog.map Value.bool).getD s.saveLog

/-! ### Reading values -/

/-- The whole number in a text, cut toward zero; nothing if the text spells no finite number, and a
fault if it spells an infinite one. -/
def readInt (s : String) : Except Fault (Option Int) :=
  match Numeral.readDouble? (Text.trim s) with
  | none => .ok none
  | some .nan => .ok none
  | some (.infinite _) => .error .infiniteInteger
  | some (.finite s m p _) => .ok (some (Binary64.truncate s m p))

/-- The truth value in a text. -/
def readBool (s : String) : Option Bool :=
  let word := Text.lower (Text.trim s)
  if ["1", "true", "yes", "on"].contains word then some true
  else if ["0", "false", "no", "off"].contains word then some false
  else none

/-- Where single settings come from: the value of a setting, if it is there. -/
abbrev Source := String → Except Fault (Option Value)

/-- A value from a source, or else what was given before. -/
def valueFrom (source : Source) (name : String) (before : Value) : Except Fault Value :=
  (source name).map fun found => found.getD before

/-- A whole number from a source, or else what was given before. -/
def intFrom (source : Source) (name : String) (before : Option Int) :
    Except Fault (Option Int) := do
  match ← source name with
  | none | some .none => return before
  | some v => return (← readInt v.shown).or before

/-- A truth value from a source, or else what was given before. -/
def boolFrom (source : Source) (name : String) (before : Option Bool) :
    Except Fault (Option Bool) := do
  match ← source name with
  | none | some .none => return before
  | some v => return (readBool v.shown).or before

/-- What a source gives, `name` turning the names of settings into those of the source. -/
def withSource (source : Source) (name : String → String) (o : Overrides) :
    Except Fault Overrides := do
  let outputDir ← valueFrom source (name "output_dir") o.outputDir
  let scriptName ← valueFrom source (name "script_name") o.scriptName
  let snapshotDir ← valueFrom source (name "snapshot_dir") o.snapshotDir
  let debounce ← intFrom source (name "debounce_ms") o.debounce
  let defaultStep ← valueFrom source (name "default_step_name") o.defaultStep
  let formatter ← valueFrom source (name "formatter") o.formatter
  let editor ← valueFrom source (name "editor") o.editor
  let saveLog ← boolFrom source (name "save_log_json") o.saveLog
  return { o with outputDir, scriptName, snapshotDir, debounce, defaultStep, formatter, editor,
                  saveLog }

/-! ### Environment -/

/-- The variable for a setting. -/
def variableName (setting : String) : String :=
  "UI_CODEGEN_" ++ setting.toUpper

/-- What variables give. -/
def withVariables (env : Variables) (o : Overrides) : Except Fault Overrides :=
  withSource (fun name => .ok (Value.lookup? name env)) variableName o

/-! ### Configuration files -/

/-- The section that gives settings. -/
def sectionName : String := "runtime"

/-- The configuration in a content; nothing if it is none. Octets that are no text are a fault
unless the lines before them are no configuration. -/
def document (content : Blob) : Except Fault (Option Ini.Document) :=
  let (cs, problem) := content.decodeBlocks
  let lines := Text.newlineLinesFrom [] (Text.unifyNewlineChars cs)
  match problem with
  | none => .ok (Ini.readLines lines)
  | some p =>
    let complete := lines.filter fun line => line.getLast? == some '\n'
    match Ini.readPartial .start complete with
    | none => .ok none
    | some _ => .error (.encoding p)

/-- An option of the section that gives settings. -/
def optionOf (d : Ini.Document) (name : String) : Except Fault (Option Value) :=
  match d.value? sectionName name with
  | .ok s => .ok (s.map .str)
  | .error p => .error (.interpolation p)

/-- What a configuration gives. -/
def withDocument (d : Ini.Document) (o : Overrides) : Except Fault Overrides :=
  if d.has sectionName then withSource (optionOf d) id o else .ok o

/-- What a configuration file gives, if it is there. -/
def withFile (w : Workspace) (p : Path) (o : Overrides) : Except Fault Overrides := do
  if ← w.isFile p then
    let content ← w.read p
    match ← document content with
    | some d => withDocument d o
    | none => return o
  else return o

/-- The path that a variable spells, if it is set to something. -/
def pathIn (env : Variables) (name : String) : Except Fault (Option Path) :=
  let v := Value.fieldOr env name .none
  if v.truthy then v.path.map some else .ok none

/-- The places where a configuration file is looked for. -/
def candidates (w : Workspace) (env : Variables) : Except Fault (List Path) :=
  (pathIn env (variableName "root")).map fun root =>
    (root.map fun root => root.child "ui_codegen.ini").toList ++
      [w.herePath.child "ui_codegen.ini", w.herePath.child "ui-codegen.ini"]

/-- The first of several paths that names a file. -/
def firstFile (w : Workspace) : List Path → Except Fault (Option Path)
  | [] => .ok none
  | p :: rest => do
    if ← w.isFile p then return some p else firstFile w rest

/-- The configuration file: the given one, or the one that a variable names, or the first that is
there. -/
def configFile (w : Workspace) (env : Variables) (given : Option Path) :
    Except Fault (Option Path) := do
  match given with
  | some p => return some p
  | none =>
    match ← pathIn env (variableName "config_file") with
    | some p => return some (← w.expandHome p)
    | none => firstFile w (← candidates w env)

/-- What a configuration file and then variables give. -/
def load (w : Workspace) (env : Variables) (given : Option Path) : Except Fault Overrides := do
  let source ← configFile w env given
  let fromFile ←
    match source with
    | some p => withFile w p (nothing source)
    | none => .ok (nothing none)
  withVariables env fromFile

/-! ### Display -/

/-- Overrides as they are displayed. -/
def display (o : Overrides) : String :=
  let source := (o.source.map Path.display).getD "None"
  let debounce := ((o.debounce.map Value.int).getD .none).display
  let saveLog := ((o.saveLog.map Value.bool).getD .none).display
  "RuntimeConfig(config_source=" ++ source ++ ", output_dir=" ++ o.outputDir.display ++
    ", script_name=" ++ o.scriptName.display ++ ", snapshot_dir=" ++
    o.snapshotDir.display ++ ", debounce_ms=" ++ debounce ++ ", default_step_name=" ++
    o.defaultStep.display ++ ", formatter=" ++ o.formatter.display ++ ", editor=" ++
    o.editor.display ++ ", save_log_json=" ++ saveLog ++ ")"

end Overrides

end SessionRecorder
