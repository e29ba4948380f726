import SessionRecorder.Workspace
/-!
# Reports

Files attached to the report of a test run: the script and the screenshots of a session. A file
that is not there is passed over, and a report that takes no attachment is only noted.

## Main definitions

* `Report.attachFile` — one file attached.
* `Report.attachSession` — the files of a session attached.
-/

namespace SessionRecorder.Report

/-- The type of attachments whose type is not given. -/
def defaultType : Value := .str "text/plain"

/-- Read a file and attach it. -/
def attachContent (name : Value) (path : Path) (type : Value) : Procedure Workspace Unit := do
  let content ← Procedure.ofExcept ((← get).read path)
  Workspace.attach ⟨name, type, content⟩

/-- Attach a file, if it is there. -/
def attachFile (name : Value) (path : Path) (type : Value) : Procedure Workspace Unit := do
  let there ← Procedure.ofExcept ((← get).pathExists path)
  if there then
    match ← (attachContent name path (type.orElse defaultType)).attempt with
    | .ok () => return
    | .error f =>
      Workspace.note
        (.quoting .debug .report ("Allure attachment '" ++ name.shown ++ "' skipped: ") f "")

/-- Attach files in order under their own names. -/
def attachFiles (type : Value) : List Path → Procedure Workspace Unit
  | [] => return
  | path :: rest => do
    attachFile (.str path.name) path type
    attachFiles type rest

/-- Attach the script and the screenshots of a session. -/
def attachSession (script : Path) (snapshots : List Path) : Procedure Workspace Unit := do
  attachFile (.str script.name) script (.str "text/plain")
  attachFiles (.str "image/png") snapshots

end SessionRecorder.Report
