import SessionRecorder.Report
import SessionRecorder.Session.Handler
import SessionRecorder.Signature
import SessionRecorder.Snapshot.Store
import SessionRecorder.Value.Items
import SessionRecorder.Writer
/-!
# Recorders

One recording session after another: events come in while the recorder is running, the log grows,
and the script is written again whenever the events pause.

## Main definitions

* `Recorder.Config` — where a recorder writes and how; `Recorder.Config.make` takes it from fields.
* `Recorder` — a desk with the screenshots taken so far.
* `Recorder.start`, `Recorder.stop` — the beginning and the end of a recording.
* `Recorder.feed`, `Recorder.feedPayload` — an event applied.
* `Recorder.recordStep`, `Recorder.endStep`, `Recorder.recordComment`,
  `Recorder.recordNavigation`, `Recorder.requestScreenshot` — what the user asks for.
-/

namespace SessionRecorder

/-- Where a recorder writes and how. -/
structure Recorder.Config where
  outputDir : Path
  scriptName : Value
  /-- Where screenshots are stored, below the output directory if nothing else is said. -/
  snapshotDir : Option Path
  debounce : Value
  defaultStep : Value
  formatter : Value
  editor : Value
  saveLog : Bool
  attach : Bool

namespace Recorder.Config

/-- The fields that a configuration may be made from. -/
def signature : Signature :=
  ⟨"RecorderConfig.__init__", 1, ["output_dir"],
    [("script_name", .str "codegen.py"), ("snapshot_dir", .none), ("debounce_ms", .int 250),
      ("default_step_name", .str "step"), ("formatter", .none), ("editor", .none),
      ("save_log_json", .bool true), ("attach_to_report", .bool true)]⟩

/-- The path that a value spells, if it is not left open. -/
def pathIn? : Value → Except Fault (Option Path)
  | .none => .ok none
  | v => v.path.map some

/-- The configuration with the given fields. -/
def make (fields : List (String × Value)) : Except Fault Config := do
  let fields ← signature.bind fields
  let get (name : String) := Value.fieldOr fields name .none
  let outputDir ← (get "output_dir").path
  let snapshotDir ← pathIn? (get "snapshot_dir")
  return {
    outputDir, snapshotDir
    scriptName := get "script_name"
    debounce := get "debounce_ms"
    defaultStep := get "default_step_name"
    formatter := get "formatter"
    editor := get "editor"
    saveLog := (get "save_log_json").truthy
    attach := (get "attach_to_report").truthy }

/-- The path of the script. -/
def scriptPath (c : Config) : Except Fault Path :=
  Snapshot.pathOf c.outputDir c.scriptName

/-- The path of the log next to a script. -/
def logPathFor (script : Path) : Except Fault Path :=
  match script.withSuffix? ".json" with
  | some p => .ok p
  | none => .error (.emptyName script)

/-- The directory of the screenshots. -/
def snapshots (c : Config) : Path :=
  c.snapshotDir.getD (c.outputDir.child "snapshots")

end Recorder.Config

/-- A recorder with its desk. -/
structure Recorder extends Desk where
  config : Recorder.Config
  /-- How many screenshots were taken without a name. -/
  shots : Nat
  snapshots : List Path

namespace Recorder

/-- The path of the log, if one is to be written. -/
def logPath (c : Config) (script : Path) : Except Fault (Option Path) :=
  if c.saveLog then (Config.logPathFor script).map some else .ok none

/-- A recorder that has not started. -/
def create (c : Config) (workspace : Workspace) : Except Fault Recorder := do
  let script ← c.scriptPath
  let log ← logPath c script
  let writer ← Writer.create script log c.debounce c.formatter c.editor
  return { session := .fresh, writer, workspace, config := c, shots := 0, snapshots := [] }

/-- Whether the recorder is recording. -/
def running (r : Recorder) : Bool :=
  r.session.recording

/-- A step on the desk of a recorder. -/
def onDesk {α : Type} (p : Procedure Desk α) : Procedure Recorder α :=
  p.within (·.toDesk) fun d r => { r with toDesk := d }

/-- A step on the workspace of a recorder. -/
def onWorkspace {α : Type} (p : Procedure Workspace α) : Procedure Recorder α :=
  onDesk (Desk.onWorkspace p)

/-- A change of the session of a recorder. -/
def changeSession (f : Session → Session) : Procedure Recorder Unit :=
  modify fun r => { r with session := f r.session }

/-- Note something about the recorder's work. -/
def noteRecorder (sentence : String) : Procedure Recorder Unit :=
  onWorkspace (Workspace.note (.plain .info .recorder sentence))

/-! ### Beginning and end -/

/-- Begin to record. A recorder that is running goes on as it is. -/
def start : Procedure Recorder Unit := do
  let r ← get
  if r.running then return
  changeSession fun s => { s with recording := true }
  onDesk Desk.start
  noteRecorder ("Recorder started. Writing script to " ++ r.writer.scriptPath.text)

/-- The sentence at the end of a recording. -/
def farewell (s : Session) : String :=
  "Recorder stopped: " ++ toString s.log.length ++ " action(s), " ++
    toString s.openSteps.length ++ " step(s) closed automatically"

/-- Attach the files of the session to the report, if they are to be attached. -/
def attachFiles : Procedure Recorder Unit := do
  let r ← get
  if r.config.attach then
    onWorkspace (Report.attachSession r.writer.scriptPath r.snapshots)

/-- End the recording. A recorder that is not running stays as it is. -/
def stop : Procedure Recorder Unit := do
  let r ← get
  if r.running then
    changeSession fun s => { s with recording := false, buttonDown := false }
    onDesk Desk.close
    noteRecorder (farewell (← get).session)
    attachFiles

/-! ### Events -/

/-- The session of a recorder with the journal. -/
def stage (r : Recorder) : Handler.Stage :=
  ⟨r.session, r.workspace.journal⟩

/-- A recorder with another session and another journal. -/
def withStage (t : Handler.Stage) (r : Recorder) : Recorder :=
  { r with session := t.session, workspace := { r.workspace with journal := t.journal } }

/-- Apply an event to the session. Whether it was accepted. -/
def apply (e : Event) : Procedure Recorder Bool := do
  let r ← get
  (Handler.apply r.config.defaultStep e).within stage withStage

/-- Store the screenshot of an event that has one. -/
def keepScreenshot : Event → Procedure Recorder Unit
  | .screenshot name image _ _ => do
    let r ← get
    match ← onWorkspace (Snapshot.store r.config.snapshots name image) with
    | some path => modify fun r => { r with snapshots := r.snapshots ++ [path] }
    | none => return
  | _ => return

/-- Apply an event, and have the script written once the events pause. -/
def feed (e : Event) : Procedure Recorder Bool := do
  if ← apply e then
    keepScreenshot e
    onDesk Desk.schedule
    return true
  else return false

/-- Apply the event that a record from the page describes. A record that describes none is
noted. -/
def feedPayload (payload : Value) : Procedure Recorder Bool := do
  match Event.ofPayload payload with
  | .ok e => feed e
  | .error f =>
    if f.family = .session then
      onWorkspace (Workspace.note (.quoting .debug .recorder "Ignored: " f ""))
      return false
    else throw f

/-! ### Requests -/

/-- Refuse an operation while nothing is recorded. -/
def requireRunning (operation : String) : Procedure Recorder Unit := do
  if !(← get).running then throw (.notRecording operation)

/-- Feed an event whether or not it is accepted. -/
def feedAny (e : Event) : Procedure Recorder Unit := do
  let _ ← feed e

/-- Begin a step. -/
def recordStep (name : Value) : Procedure Recorder Unit := do
  requireRunning "record_step"
  feedAny (.stepStart name)

/-- End the innermost step. -/
def endStep : Procedure Recorder Unit := do
  requireRunning "end_step"
  feedAny .stepEnd

/-- Add a comment. -/
def recordComment (text : Value) : Procedure Recorder Unit := do
  requireRunning "record_comment"
  feedAny (.comment (.str text.shown))

/-- Note that another page is shown. -/
def recordNavigation (url : Value) : Procedure Recorder Unit := do
  requireRunning "record_navigation"
  feedAny (.navigation (.str url.shown))

/-- The name of a screenshot: the given one made safe, or the next automatic one. -/
def screenshotName (name : Value) : Procedure Recorder String := do
  if name.truthy then return Snapshot.safeNameOf name
  modify fun r => { r with shots := r.shots + 1 }
  return Snapshot.automaticName (← get).shots

/-- The region of a screenshot, if one is given. -/
def screenshotRegion (region : Value) : Except Fault Region :=
  match region with
  | .none => .ok .whole
  | v => (Rect.ofValue v).map .rect

/-- Record a screenshot that was taken already. The name under which it is stored. -/
def requestScreenshot (image name locator region : Value) : Procedure Recorder String := do
  requireRunning "request_screenshot"
  let name ← screenshotName name
  let region ← Procedure.ofExcept (screenshotRegion region)
  feedAny (.screenshot (.str name) image (locator.orElse (.str "")) region)
  return name

end Recorder

end SessionRecorder
