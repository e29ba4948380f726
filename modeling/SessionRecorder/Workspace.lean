import SessionRecorder.Disk
import SessionRecorder.Journal
import SessionRecorder.Text.Lines
/-!
# Workspaces

What a recording can touch outside itself: files, the environment, the journal, the commands it
runs and the report it attaches files to. Steps on it may fail; whatever they did before stays.

## Main definitions

* `Procedure` — a step that changes a state and may fail.
* `Workspace` — the files, the environment and everything noted, run and attached so far.
* `Workspace.read`, `Workspace.write`, `Workspace.makeDirectories` — files.
* `Workspace.run`, `Workspace.attach`, `Workspace.note` — what is run, attached and noted.
-/

namespace SessionRecorder

/-- A step that changes a state and may fail; on failure the state is as far as it got. -/
abbrev Procedure (σ α : Type) := ExceptT Fault (StateM σ) α

namespace Procedure

/-- The step that performs a procedure on a part of a state. -/
def within {σ τ α : Type} (get : σ → τ) (set : τ → σ → σ) (p : Procedure τ α) :
    Procedure σ α :=
  ExceptT.mk fun s =>
    let (result, t) := (p.run (get s))
    (result, set t s)

/-- The step that either gives a value or fails, and changes nothing. -/
def ofExcept {σ α : Type} (e : Except Fault α) : Procedure σ α :=
  ExceptT.mk fun s => (e, s)

/-- The step that performs a procedure and gives its result even if that is a failure. -/
def attempt {σ α : Type} (p : Procedure σ α) : Procedure σ (Except Fault α) :=
  ExceptT.mk fun s =>
    let (result, s) := p.run s
    (.ok result, s)

end Procedure

/-- What becomes of a command that is run. -/
inductive CommandResult where
  | works
  | missing
  | fails
  | timesOut
  deriving DecidableEq, Repr

/-- A file attached to a report. -/
structure Attachment where
  name : Value
  type : Value
  body : Blob

/-- Environment variables by name. -/
abbrev Environment := List (String × String)

/-- The value of an environment variable. -/
def Environment.value? (env : Environment) (name : String) : Option String :=
  (env.find? (·.1 == name)).map (·.2)

/-- Named values that stand in for environment variables. -/
abbrev Variables := List (String × Value)

/-- Environment variables as values. -/
def Environment.variables (env : Environment) : Variables :=
  env.map fun v => (v.1, .str v.2)

/-- The files and the surroundings of a program. -/
structure Workspace where
  disk : Disk
  here : Location
  environment : Environment
  /-- The home directories of accounts by name. -/
  accounts : List (String × String)
  commandResult : CommandResult
  /-- Whether the report takes attachments. -/
  reportOpen : Bool
  journal : List Note
  ran : List (List String)
  attached : List Attachment

namespace Workspace

/-! ### Paths -/

/-- The directory that relative paths start from. -/
def herePath (w : Workspace) : Path :=
  ⟨.root, w.here⟩

/-- A text without the slashes at its end. -/
def withoutSlashes (s : String) : String :=
  String.ofList ((s.toList.reverse.dropWhile (· == '/')).reverse)

/-- The home directory that the first part of a path stands for: after the tilde nothing, or the
name of an account. -/
def home? (w : Workspace) (first : String) : Option String :=
  if first == "~" then w.environment.value? "HOME"
  else (w.accounts.find? fun account => "~" ++ account.1 == first).map (·.2)

/-- A path whose first part begins with a tilde, with the home directory in its place. A home that
begins with a tilde itself is none. -/
def expandHome (w : Workspace) (p : Path) : Except Fault Path :=
  match p.anchor, p.parts with
  | .relative, first :: rest =>
    if !first.startsWith "~" then .ok p
    else
      match (w.home? first).map withoutSlashes with
      | none => .error .noHome
      | some home =>
        if home.startsWith "~" then .error .noHome
        else .ok ((Path.parse (if home.isEmpty then "/" else home)).join ⟨.relative, rest⟩)
  | _, _ => .ok p

/-- Whether a path holds a character that no file name can hold. -/
def hasNul (p : Path) : Bool :=
  p.parts.any fun part => part.toList.contains '\x00'

/-- The refusal of an operation on a path. -/
def refused (p : Path) (c : Disk.Cause) : Fault :=
  .storage ⟨c, p.text⟩

/-! ### Files -/

/-- Whether a path names a file. -/
def isFile (w : Workspace) (p : Path) : Except Fault Bool :=
  if hasNul p then .ok false
  else
    match w.disk.find w.here p with
    | .ok (_, .file _) => .ok true
    | .ok (_, .directory) => .ok false
    | .error .nameTooLong => .error (refused p .nameTooLong)
    | .error _ => .ok false

/-- Whether a path names anything. -/
def pathExists (w : Workspace) (p : Path) : Except Fault Bool :=
  if hasNul p then .ok false
  else
    match w.disk.find w.here p with
    | .ok _ => .ok true
    | .error .nameTooLong => .error (refused p .nameTooLong)
    | .error _ => .ok false

/-- The content of a file. -/
def read (w : Workspace) (p : Path) : Except Fault Blob :=
  if hasNul p then .error .embeddedNul
  else
    match w.disk.read w.here p with
    | .ok content => .ok content
    | .error c => .error (refused p c)

/-- The text of a file, its line ends made uniform. -/
def readText (w : Workspace) (p : Path) : Except Fault String :=
  match w.read p with
  | .error f => .error f
  | .ok content =>
    match content.decode with
    | .ok s => .ok (Text.unifyNewlines s)
    | .error problem => .error (.encoding problem)

/-- A step that replaces the disk, unless that is refused. -/
def changeDisk (f : Workspace → Except Fault Disk) : Procedure Workspace Unit :=
  ExceptT.mk fun w =>
    match f w with
    | .ok d => (.ok (), { w with disk := d })
    | .error e => (.error e, w)

/-- The disk with a content written to a file. -/
def written (p : Path) (content : Blob) (w : Workspace) : Except Fault Disk :=
  if hasNul p then .error .embeddedNul
  else
    match w.disk.write w.here p content with
    | .ok d => .ok d
    | .error c => .error (refused p c)

/-- Write a content to a file. -/
def write (p : Path) (content : Blob) : Procedure Workspace Unit :=
  changeDisk (written p content)

/-- Make a directory and all that lead to it, any of which may be there already. -/
def makeDirectories (p : Path) : Procedure Workspace Unit :=
  ExceptT.mk fun w =>
    if hasNul p then (.error .embeddedNul, w)
    else
      match w.disk.makeDirectories w.here p with
      | (d, none) => (.ok (), { w with disk := d })
      | (d, some refusal) => (.error (.storage refusal), { w with disk := d })

/-! ### Surroundings -/

/-- Note something down. -/
def note (n : Note) : Procedure Workspace Unit :=
  modify fun w => { w with journal := w.journal ++ [n] }

/-- Note several things down. -/
def notes (ns : List Note) : Procedure Workspace Unit :=
  modify fun w => { w with journal := w.journal ++ ns }

/-- The fault of a command that does not work. -/
def commandFault (result : CommandResult) (argv : List String) : Option Fault :=
  match result with
  | .works => none
  | .missing => some (.commandMissing (argv.headD ""))
  | .fails => some (.commandFailed argv)
  | .timesOut => some (.commandTimedOut argv)

/-- Run a command. -/
def run (argv : List String) : Procedure Workspace Unit :=
  ExceptT.mk fun w =>
    let w := { w with ran := w.ran ++ [argv] }
    match commandFault w.commandResult argv with
    | none => (.ok (), w)
    | some f => (.error f, w)

/-- Attach a file to the report, if the report takes it. -/
def attach (a : Attachment) : Procedure Workspace Unit :=
  ExceptT.mk fun w =>
    if w.reportOpen then (.ok (), { w with attached := w.attached ++ [a] })
    else (.error .attachmentRefused, w)

end Workspace

end SessionRecorder
