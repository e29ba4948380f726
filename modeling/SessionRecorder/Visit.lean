import SessionRecorder.Page
/-!
# Visits

A whole recording in a browser: the browser is launched, a page is opened and listened to, the user
does things on it until it is closed, and the recording ends. However the wait ends, the recorder
is stopped before the browser is closed. Whatever is done with the browser may fail.

## Main definitions

* `Browser` — how a browser behaves while a session is recorded in it.
* `Visit` — a tab together with what was done with the browser.
* `Visit.record` — the whole recording, and whether it went well.
-/

namespace SessionRecorder

/-- Something that happens on a page, or to the timers of the recorder, while the recorder waits. -/
inductive PageOperation where
  | call (name : String) (arguments : List Value)
  | navigate (mainFrame : Bool) (url : Value)
  /-- Something else on the page gets the focus. -/
  | focus (v : Value)
  /-- A timer that was ever made runs out. -/
  | fire (i : Nat)

/-- How the wait for the page to be closed ends. -/
inductive Ending where
  | closed
  | lost
  | interrupted
  | crashed
  | failed (f : Fault)

/-- What may fail besides the calls on the page and the wait. -/
inductive BrowserPoint where
  | launch
  | newPage
  | install
  | close
  | exit
  deriving DecidableEq, Repr

/-- How a browser behaves while a session is recorded in it. -/
structure Browser where
  launches : Bool
  /-- The page as it is opened. -/
  page : Page
  /-- Where the page is after it was sent to an address, if not there. -/
  landing : Option Value
  operations : List PageOperation
  ending : Ending
  /-- The fault that something ends with, if it fails. -/
  fails : BrowserPoint → Option Fault := fun _ => none

/-- A browser that is not there. -/
def Browser.absent : Browser where
  launches := false
  page := { url := .none, focus := .none, ready := false, calls := [] }
  landing := none
  operations := []
  ending := .closed

/-- What is done with a browser. -/
inductive BrowserStep where
  | launch (headless : Bool)
  | close
  | exit
  deriving DecidableEq, Repr

/-- A tab together with what was done with the browser, and what came of the operations on the
page. -/
structure Visit extends Tab where
  steps : List BrowserStep
  opened : Bool
  results : List (Except Fault Value)

namespace Visit

/-- A step on the tab of a visit. -/
def onTab {α : Type} (p : Procedure Tab α) : Procedure Visit α :=
  p.within (·.toTab) fun t v => { v with toTab := t }

/-- A step on the recorder of a visit. -/
def onRecorder {α : Type} (p : Procedure Recorder α) : Procedure Visit α :=
  onTab (Tab.onRecorder p)

/-- Note something about the visit. -/
def note (n : Note) : Procedure Visit Unit :=
  onRecorder (Recorder.onWorkspace (Workspace.note n))

/-- Do something with the browser. -/
def step (s : BrowserStep) : Procedure Visit Unit :=
  modify fun v => { v with steps := v.steps ++ [s] }

/-- The step that performs an operation on the page. -/
def perform : PageOperation → Procedure Tab Value
  | .call name arguments => Tab.call name arguments
  | .navigate mainFrame url => do
    Tab.navigated mainFrame url
    return .none
  | .focus v => do
    modify fun t => { t with page := { t.page with focus := v } }
    return .none
  | .fire i => do
    Tab.onRecorder (Recorder.onDesk (Desk.fire i))
    return .none

/-- Perform operations on the page; one that fails does not keep the others from being
performed. -/
def performAll : List PageOperation → Procedure Visit Unit
  | [] => return
  | op :: rest => do
    let result ← (onTab (perform op)).attempt
    modify fun v => { v with results := v.results ++ [result] }
    performAll rest

/-- A note of the command line. -/
def remark (sentence : String) : Note :=
  .plain .info .commandLine sentence

/-- What is noted about the end of the wait, or the fault that it is. -/
def endingNote : Ending → Except Fault (List Note)
  | .closed => .ok []
  | .lost => .ok [remark "Browser closed; finishing recording"]
  | .interrupted => .ok [remark "Interrupted; finishing recording"]
  | .crashed => .error .pageCrashed
  | .failed f => .error f

/-- Wait until the page is closed. -/
def wait (b : Browser) : Procedure Visit Unit := do
  onTab (Tab.callPage (.waitForEvent "close" 0))
  performAll b.operations
  let notes ← Procedure.ofExcept (endingNote b.ending)
  onRecorder (Recorder.onWorkspace (Workspace.notes notes))

/-- Something that may fail is done with the browser. -/
def reach (b : Browser) (point : BrowserPoint) : Procedure Visit Unit :=
  match b.fails point with
  | some f => throw f
  | none => return

/-- Launch the browser and open a page. -/
def launch (b : Browser) (headless : Bool) : Procedure Visit Unit := do
  step (.launch headless)
  if !b.launches then throw .launchFailed
  reach b .launch
  modify fun v => { v with opened := true }
  reach b .newPage

/-- Make the page talk to the recorder. -/
def install (b : Browser) : Procedure Visit Unit := do
  reach b .install
  onTab Tab.install

/-- Send the page to an address. -/
def goto (b : Browser) (url : String) : Procedure Visit Unit := do
  onTab (Tab.callPage (.goto (.str url)))
  onTab (Tab.navigated true (b.landing.getD (.str url)))

/-- Launch the browser, open a page that talks to the recorder, and send it to an address. -/
def openPage (b : Browser) (url : String) (headless : Bool) : Procedure Visit Unit := do
  launch b headless
  install b
  goto b url

/-- Begin to record, the page being the first one. -/
def begin (url : String) : Procedure Visit Unit := do
  onRecorder Recorder.start
  onRecorder (Recorder.recordNavigation (← get).page.url)
  note (remark ("Recording '" ++ url ++ "'. Close the browser window to finish."))

/-- Close the browser. -/
def close (b : Browser) : Procedure Visit Unit := do
  step .close
  reach b .close

/-- Wait, then end the recording and close the browser, however the wait ends. -/
def waitAndClose (b : Browser) : Procedure Visit Unit := do
  let waited ← (wait b).attempt
  onRecorder Recorder.stop
  close b
  Procedure.ofExcept waited

/-- A session in the browser from launch to close. -/
def proceed (b : Browser) (url : String) (headless : Bool) : Procedure Visit Unit := do
  openPage b url headless
  begin url
  waitAndClose b

/-- A session in the browser, which is left in the end, however the session ends. -/
def attend (b : Browser) (url : String) (headless : Bool) : Procedure Visit Unit := do
  let result ← (proceed b url headless).attempt
  step .exit
  reach b .exit
  Procedure.ofExcept result

/-- The note about a recording that failed. -/
def failureNote (f : Fault) : Note :=
  { level := .error, component := .commandLine,
    pieces := [.text "Recording failed: ", .fault f], trace := some f }

/-- The whole recording. Whether it went well; if not, the recorder is stopped all the same. -/
def record (b : Browser) (url : String) (headless : Bool) : Procedure Visit Bool := do
  match ← (attend b url headless).attempt with
  | .ok () =>
    note (remark ("Script written to " ++ (← get).writer.scriptPath.text))
    return true
  | .error f =>
    note (failureNote f)
    onRecorder Recorder.stop
    return false

end Visit

end SessionRecorder
