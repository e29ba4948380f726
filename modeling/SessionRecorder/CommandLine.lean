import SessionRecorder.CommandLine.Arguments
import SessionRecorder.Settings.Locations
import SessionRecorder.Settings.Overrides
import SessionRecorder.Visit
/-!
# The command line

Two commands: one records a session in a browser, the other renders the script of a saved log
again. A command ends with a status: zero if it went well, two if the command line or the log is
wrong, four if a recording failed.

## Main definitions

* `CommandLine.Result` — what comes of a command line.
* `CommandLine.renderLog` — the script of a saved log.
* `CommandLine.recordSession` — a session recorded in a browser.
* `CommandLine.run` — a command line carried out.
-/

namespace SessionRecorder.CommandLine

/-- What comes of a command line: its status, or the fault it ends with; what it leaves behind;
what it prints; and the visit of the browser, if there was one. -/
structure Result where
  status : Except Fault Nat
  workspace : Workspace
  printed : String
  /-- What is printed about a command line that is refused. -/
  refusal : String
  /-- Whether all notes are shown. -/
  verbose : Bool
  visit : Option Visit

/-- The least level of the notes that are shown. -/
def shows (verbose : Bool) (l : Level) : Bool :=
  verbose || l != .debug

/-- The line of the journal for a note, given how faults and traces are spelled. -/
def noteLines (spell trace : Fault → String) (n : Note) : List String :=
  [n.level.name ++ " " ++ n.component.name ++ " - " ++ n.text spell] ++
    (n.trace.map trace).toList

/-- What is printed besides the output: a refusal, and the notes that are shown. -/
def Result.diagnostics (spell trace : Fault → String) (r : Result) : String :=
  let shown := r.workspace.journal.filter fun n => shows r.verbose n.level
  r.refusal ++ String.join ((shown.flatMap (noteLines spell trace)).map (· ++ "\n"))

/-- A note of the command line. -/
def remark (level : Level) (sentence : String) : Procedure Workspace Unit :=
  Workspace.note (.plain level .commandLine sentence)

/-! ### Rendering -/

/-- The value that a log file holds. -/
def readLog (w : Workspace) (log : Path) : Except Fault Value :=
  match w.readText log with
  | .error f => .error f
  | .ok text =>
    match Json.read text with
    | .ok v => .ok v
    | .error p => .error (.json p)

/-- The fields of a log; a list is a log without open steps. -/
def logFields? : Value → Option (List (String × Value))
  | .list items => some [("actions", .list items), ("open_steps", .list [])]
  | .dict fields => some fields
  | _ => none

/-- The entries among the fields of a log. -/
def logEntries (fields : List (String × Value)) : Except Fault (List Entry) := do
  Entry.ofRecords (← (Value.fieldOr fields "actions" (.list [])).items)

/-- The names of the open steps among the fields of a log. -/
def logSteps (fields : List (String × Value)) : Except Fault (List Value) :=
  (Value.fieldOr fields "open_steps" (.list [])).items.map fun names =>
    names.map fun name => .str name.shown

/-- Whether a fault means that a file cannot be read as JSON. -/
def isUnreadable (f : Fault) : Bool :=
  f.family = .storage || f.family = .form

/-- Whether a fault means that a log holds something else than entries. -/
def isInvalid (f : Fault) : Bool :=
  f.family = .operation || f.family = .kind || f.family = .form || f.family = .key

/-- A log is refused with a note. -/
def refuseLog (before : String) (log : Path) (f : Fault) : Procedure Workspace Nat := do
  Workspace.note (.quoting .error .commandLine (before ++ " '" ++ log.text ++ "': ") f "")
  return 2

/-- Write a script where it is wanted, or print it. The status and what is printed. -/
def deliver (script : String) (count : Nat) (output : Destination) :
    Procedure Workspace (Nat × String) := do
  match output with
  | .printed => return (0, script)
  | .unnamed => throw (.noOperation .list "parent")
  | .file name =>
    let path := Path.parse name
    Workspace.makeDirectories path.parent
    Workspace.write path (.text script)
    remark .info ("Rendered " ++ toString count ++ " action(s) to " ++ path.text)
    return (0, "")

/-- Render the log in fields. The status and what is printed. -/
def renderFields (fields : List (String × Value)) (log : Path) (output : Destination) :
    Procedure Workspace (Nat × String) := do
  match logEntries fields with
  | .error f =>
    if isInvalid f then return (← refuseLog "Invalid action log" log f, "") else throw f
  | .ok entries =>
    let steps ← Procedure.ofExcept (logSteps fields)
    let script ← Procedure.ofExcept (Script.text entries steps)
    deliver script entries.length output

/-- Render a saved log. The status and what is printed. -/
def renderLog (log : Path) (output : Destination) : Procedure Workspace (Nat × String) := do
  match readLog (← get) log with
  | .error f =>
    if isUnreadable f then return (← refuseLog "Cannot read action log" log f, "") else throw f
  | .ok v =>
    match logFields? v with
    | some fields => renderFields fields log output
    | none =>
      remark .error ("Invalid action log '" ++ log.text ++ "': expected an object or a list")
      return (2, "")

/-! ### Recording -/

/-- The settings of a recording: those of a file, overridden for this run, and overridden once more
on the command line. -/
def recordSettings (w : Workspace) (settings : Option String) (overrides : Overrides)
    (outputDir scriptName : Option String) : Except Fault Settings := do
  let saved ←
    match settings with
    | some s => Settings.load w (Path.parse s)
    | none => .ok Settings.default
  let given := overrides.apply saved
  let named (s : Option String) := Value.str (s.getD "")
  return { given with
    outputDir := (named outputDir).orElse given.outputDir
    scriptName := (named scriptName).orElse given.scriptName }

/-- The configuration of a recorder for settings and locations. -/
def recorderConfig (s : Settings) (l : Locations) : Recorder.Config where
  outputDir := l.outputDir
  scriptName := s.scriptName
  snapshotDir := some l.snapshotDir
  debounce := s.debounce
  defaultStep := s.defaultStep
  formatter := s.formatter
  editor := s.editor
  saveLog := s.saveLog.truthy
  attach := false

/-- A recorder for settings, its directories made. -/
def prepare (s : Settings) : Procedure Workspace Recorder := do
  let locations ← Locations.make s none
  Procedure.ofExcept (Recorder.create (recorderConfig s locations) (← get))

/-- A visit that has not begun. -/
def newVisit (r : Recorder) (b : Browser) : Visit :=
  { toRecorder := r, page := b.page, steps := [], opened := false, results := [] }

/-- What comes of a recording in a browser with a recorder. -/
def visitResult (r : Recorder) (b : Browser) (url : String) (headless verbose : Bool) : Result :=
  let (recorded, v) := (Visit.record b url headless).run (newVisit r b)
  { status := recorded.map fun well => if well then 0 else 4
    workspace := v.workspace, printed := "", refusal := "", verbose, visit := some v }

/-- A session recorded in a browser. -/
def recordSession (w : Workspace) (settings : Except Fault Settings) (b : Browser)
    (url : String) (headless verbose : Bool) : Result :=
  let failed (f : Fault) (w : Workspace) : Result :=
    { status := .error f, workspace := w, printed := "", refusal := "", verbose, visit := none }
  match settings with
  | .error f => failed f w
  | .ok s =>
    match (prepare s).run w with
    | (.error f, w) => failed f w
    | (.ok r, w) => visitResult { r with workspace := w } b url headless verbose

/-! ### Commands -/

/-- What comes of rendering a log. -/
def renderResult (w : Workspace) (log : String) (output : Destination) (verbose : Bool) :
    Result :=
  let (outcome, w) := (renderLog (Path.parse log) output).run w
  { status := outcome.map (·.1), workspace := w
    printed := (outcome.toOption.map (·.2)).getD "", refusal := "", verbose, visit := none }

/-- What comes of a command, given the overrides for this run. -/
def perform (w : Workspace) (overrides : Overrides) (b : Browser) (r : Request) : Result :=
  match r.command with
  | .render log output => renderResult w log output r.verbose
  | .record url outputDir scriptName headless =>
    recordSession w (recordSettings w r.settings overrides outputDir scriptName) b url headless
      r.verbose

/-- A command line that is not carried out. -/
def stopped (w : Workspace) : Stop → Result
  | .help text =>
    { status := .ok 0, workspace := w, printed := text, refusal := "", verbose := false,
      visit := none }
  | .refused text =>
    { status := .ok 2, workspace := w, printed := "", refusal := text, verbose := false,
      visit := none }

/-- A command line carried out. -/
def run (line : List String) (b : Browser) (w : Workspace) : Result :=
  match request line with
  | .error s => stopped w s
  | .ok r =>
    match Overrides.load w w.environment.variables none with
    | .error f =>
      { status := .error f, workspace := w, printed := "", refusal := "", verbose := r.verbose,
        visit := none }
    | .ok overrides =>
      let loaded : Note := .plain .debug .commandLine
        ("Loaded runtime config overrides: " ++ overrides.display)
      perform { w with journal := w.journal ++ [loaded] } overrides b r

end SessionRecorder.CommandLine
