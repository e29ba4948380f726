import SessionRecorder.Json.Printer
import SessionRecorder.Script
import SessionRecorder.Session
import SessionRecorder.Workspace
/-!
# The writer

The script of a session is written again after every burst of events: each accepted event starts a
timer anew, and the script is written when one runs out. Timers are data here. Each carries the
generation in which it was started, and one that runs out in a later generation does nothing.
Beside the script the log itself may be written as JSON.

## Main definitions

* `Writer` — the files that are written, the timers, and whether the writer is closed.
* `Desk` — a session, the writer that writes it down, and the workspace the files lie in.
* `Desk.start`, `Desk.schedule`, `Desk.flush`, `Desk.close` — what the writer is asked to do.
* `Desk.fire` — a timer runs out.
-/

namespace SessionRecorder

/-- A timer that was made for the writer. -/
structure Timer where
  interval : Binary64
  generation : Nat
  started : Bool
  cancelled : Bool

/-- The state of the writer of a session. -/
structure Writer where
  scriptPath : Path
  logPath : Option Path
  /-- How long a timer runs, in milliseconds. -/
  debounce : Nat
  formatter : Value
  editor : Value
  timers : List Timer
  /-- The timer that is running, as far as the writer knows. -/
  current : Option Nat
  generation : Nat
  closed : Bool
  writes : Nat

namespace Writer

/-- A writer that has done nothing yet. -/
def create (scriptPath : Path) (logPath : Option Path) (debounce formatter editor : Value) :
    Except Fault Writer :=
  debounce.toInteger.map fun ms =>
    { scriptPath, logPath, debounce := ms.toNat, formatter, editor, timers := [],
      current := none, generation := 0, closed := false, writes := 0 }

/-- Whether a timer is running, as far as the writer knows. -/
def pending (w : Writer) : Bool :=
  w.current.isSome

/-- A list of timers with one of them cancelled. -/
def cancelAt (i : Nat) (timers : List Timer) : List Timer :=
  timers.modify i fun t => { t with cancelled := true }

/-- The timers after the running one is cancelled. -/
def timersCancelled (w : Writer) : List Timer :=
  match w.current with
  | some i => cancelAt i w.timers
  | none => w.timers

/-- The running timer cancelled and a new generation begun. -/
def cancel (w : Writer) : Writer :=
  { w with timers := w.timersCancelled, current := none, generation := w.generation + 1 }

/-- How long a timer runs, in seconds. -/
def interval (w : Writer) : Except Fault Binary64 :=
  (Value.doubleOf w.debounce).map (·.divNat 1000)

/-- The running timer replaced by a new one. The old one is cancelled even if the new one cannot
be made. -/
def restart (w : Writer) : Except Fault Unit × Writer :=
  let w := { w with timers := w.timersCancelled, generation := w.generation + 1 }
  match w.interval with
  | .error f => (.error f, w)
  | .ok seconds =>
    (.ok (), { w with
      timers := w.timers ++ [⟨seconds, w.generation, true, false⟩]
      current := some w.timers.length })

/-- The command line of a tool followed by the script. -/
def command (w : Writer) (tool : Value) : Except Fault (List String) :=
  match tool with
  | .str line =>
    match Command.words line with
    | .ok words => .ok (words ++ [w.scriptPath.text])
    | .error p => .error (.words p)
  | v => .error (.noOperation v.kind "read")

end Writer

/-- A session, its writer, and the workspace. -/
structure Desk where
  session : Session
  writer : Writer
  workspace : Workspace

namespace Desk

/-- A step on the workspace of a desk. -/
def onWorkspace {α : Type} (p : Procedure Workspace α) : Procedure Desk α :=
  p.within (·.workspace) fun w d => { d with workspace := w }

/-- A change of the writer of a desk. -/
def changeWriter (f : Writer → Writer) : Procedure Desk Unit :=
  modify fun d => { d with writer := f d.writer }

/-- Note something about the writer's work. -/
def noteWriter (level : Level) (sentence : String) : Procedure Desk Unit :=
  onWorkspace (Workspace.note (.plain level .writer sentence))

/-! ### Files -/

/-- Make the directory of a file and write the file. -/
def writeOnce (path : Path) (text : String) : Procedure Workspace Unit := do
  Workspace.makeDirectories path.parent
  Workspace.write path (.text text)

/-- Write a file, once more if the storage refuses, `attempt` counting the attempts. Whether the
file was written. -/
def writeText (path : Path) (text : String) :
    (more attempt : Nat) → Procedure Workspace Bool
  | more, attempt => do
    match ← (writeOnce path text).attempt with
    | .ok () => return true
    | .error f =>
      if f.family = .storage then
        Workspace.note (.quoting .warning .writer
          ("Write to " ++ path.text ++ " failed (attempt " ++ toString attempt ++ "): ") f "")
        match more with
        | 0 => return false
        | more + 1 => writeText path text more (attempt + 1)
      else throw f

/-- The text of the script of a session. A number that has more digits than are read is not
spelled out. -/
def scriptText (s : Session) : Except Fault String :=
  if s.log.all Entry.isShort then Script.text s.log s.openSteps else .error (.notJson .int)

/-- The log of a session as a record. -/
def logRecord (s : Session) : Value :=
  .dict [("open_steps", .list s.openSteps), ("actions", .list (s.log.map Entry.toRecord))]

/-- The text of the log of a session. -/
def logText (s : Session) : Except Fault String :=
  let record := logRecord s
  match Json.firstUnwritable? record with
  | some kind => .error (.notJson kind)
  | none => .ok (Json.indented record)

/-- Write the script, and note it if that was done. -/
def writeScript : Procedure Desk Unit := do
  let d ← get
  let text ← Procedure.ofExcept (scriptText d.session)
  let path := d.writer.scriptPath
  if ← onWorkspace (writeText path text 1 1) then
    changeWriter fun w => { w with writes := w.writes + 1 }
    noteWriter .debug
      ("Wrote " ++ toString d.session.log.length ++ " action(s) to " ++ path.text)

/-- Write the log, if it is to be written. -/
def writeLog : Procedure Desk Unit := do
  let d ← get
  match d.writer.logPath with
  | none => return
  | some path =>
    let text ← Procedure.ofExcept (logText d.session)
    let _ ← onWorkspace (writeText path text 1 1)

/-- Write the script and then the log. -/
def writeAll : Procedure Desk Unit := do
  writeScript
  writeLog

/-! ### Tools -/

/-- Hand the script to the editor, if there is one. -/
def launchEditor : Procedure Desk Unit := do
  let w := (← get).writer
  if w.editor.truthy then
    let launch : Procedure Workspace Unit := do
      let argv ← Procedure.ofExcept (w.command w.editor)
      Workspace.run argv
    match ← (onWorkspace launch).attempt with
    | .ok () => return
    | .error f =>
      if f.family = .storage || f.family = .form then
        onWorkspace (Workspace.note (.quoting .debug .writer
          ("Editor '" ++ w.editor.shown ++ "' could not be launched: ") f ""))
      else throw f

/-- Whether a session carries on after a fault of its formatter. -/
def formatterMayFail (f : Fault) : Bool :=
  f.family = .storage || f.family = .form || f.family = .command

/-- Run the formatter on the script, if there is one. -/
def runFormatter : Procedure Desk Unit := do
  let w := (← get).writer
  if w.formatter.truthy then
    let argv ← Procedure.ofExcept (w.command w.formatter)
    match ← (onWorkspace (Workspace.run argv)).attempt with
    | .ok () =>
      noteWriter .debug
        ("Formatted " ++ w.scriptPath.text ++ " with '" ++ w.formatter.shown ++ "'")
    | .error f =>
      if formatterMayFail f then
        onWorkspace (Workspace.note (.quoting .debug .writer
          ("Formatter '" ++ w.formatter.shown ++ "' skipped: ") f ""))
      else throw f

/-! ### Requests -/

/-- Write now; a running timer is cancelled. -/
def flush : Procedure Desk Unit := do
  changeWriter Writer.cancel
  writeAll

/-- Begin: write what there is and hand it to the editor. -/
def start : Procedure Desk Unit := do
  changeWriter fun w => { w with closed := false }
  flush
  launchEditor

/-- Write once the events have paused. Not after the writer is closed. -/
def schedule : Procedure Desk Unit :=
  ExceptT.mk fun d =>
    if d.writer.closed then (.ok (), d)
    else
      let (result, w) := d.writer.restart
      (result, { d with writer := w })

/-- End: write for the last time, then format the script. -/
def close : Procedure Desk Unit := do
  changeWriter fun w => { w with closed := true }
  flush
  runFormatter

/-- A timer of a generation runs out. In another generation, or after the writer is closed, it
does nothing. -/
def expire (generation : Nat) : Procedure Desk Unit := do
  let w := (← get).writer
  if generation != w.generation || w.closed then return
  changeWriter fun w => { w with current := none }
  writeAll

/-- The `i`-th timer ever made runs out, whether or not it was cancelled. -/
def fire (i : Nat) : Procedure Desk Unit := do
  match (← get).writer.timers[i]? with
  | some t => expire t.generation
  | none => throw .indexOutOfRange

end Desk

end SessionRecorder
