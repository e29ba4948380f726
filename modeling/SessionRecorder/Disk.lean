import SessionRecorder.Blob
import SessionRecorder.Path
/-!
# Disks

The files and directories that a program sees, each at a location: the parts from the root
without dots. Paths are followed part by part from a starting location, so double dots lead to
where the directories themselves say.

## Main definitions

* `Disk` — the files and directories by location; `Disk.node?` looks one up.
* `Disk.follow` — the location that a path names.
* `Disk.read`, `Disk.write`, `Disk.makeDirectories`, `Disk.remove` — the operations on files.
* `Disk.Refusal` — why the disk refuses an operation.
-/

namespace SessionRecorder

/-- The parts that lead from the root to a file or a directory. -/
abbrev Location := List String

/-- What stands at a location. -/
inductive Node where
  | file (content : Blob)
  | directory
  deriving DecidableEq, Repr

/-- The files and directories by location. The root is always a directory. -/
structure Disk where
  nodes : List (Location × Node)

namespace Disk

/-- Why an operation is refused. -/
inductive Cause where
  | notFound
  | exists
  | notDirectory
  | isDirectory
  | nameTooLong
  deriving DecidableEq, Repr

/-- A refused operation: the cause and the path it was asked for. -/
structure Refusal where
  cause : Cause
  path : String
  deriving DecidableEq, Repr

/-- The number and the sentence of a cause. -/
def Cause.message : Cause → Nat × String
  | .notFound => (2, "No such file or directory")
  | .exists => (17, "File exists")
  | .notDirectory => (20, "Not a directory")
  | .isDirectory => (21, "Is a directory")
  | .nameTooLong => (36, "File name too long")

/-- The sentence for a refusal. -/
def Refusal.message (r : Refusal) : String :=
  let (number, sentence) := r.cause.message
  "[Errno " ++ toString number ++ "] " ++ sentence ++ ": " ++ Text.quoted r.path

/-! ### Locations -/

/-- What stands at a location. -/
def node? (d : Disk) (l : Location) : Option Node :=
  if l.isEmpty then some .directory
  else (d.nodes.find? (·.1 == l)).map (·.2)

/-- A disk with something else at a location. -/
def put (d : Disk) (l : Location) (n : Node) : Disk :=
  if d.nodes.any (·.1 == l) then
    ⟨d.nodes.map fun entry => if entry.1 == l then (l, n) else entry⟩
  else ⟨d.nodes ++ [(l, n)]⟩

/-- The greatest number of octets in one part of a path. -/
def partLimit : Nat := 255

/-- The greatest number of octets in a whole path, the end mark included. -/
def pathLimit : Nat := 4096

/-- The location that parts lead to from another one. Every part but the last must lead to a
directory that is there; of the last, nothing is asked but its length. -/
def walk (d : Disk) (l : Location) : List String → Except Cause Location
  | [] => .ok l
  | part :: rest =>
    if part == ".." then walk d l.dropLast rest
    else if partLimit < part.utf8ByteSize then .error .nameTooLong
    else
      let next := l ++ [part]
      if rest.isEmpty then .ok next
      else
        match d.node? next with
        | some .directory => walk d next rest
        | some (.file _) => .error .notDirectory
        | none => .error .notFound

/-- The location that a path names, `here` being the directory that relative paths start from. -/
def follow (d : Disk) (here : Location) (p : Path) : Except Cause Location :=
  if pathLimit ≤ p.text.utf8ByteSize then .error .nameTooLong
  else d.walk (if p.isAbsolute then [] else here) p.parts

/-- What a path names, if there is something. -/
def find (d : Disk) (here : Location) (p : Path) : Except Cause (Location × Node) :=
  match d.follow here p with
  | .error c => .error c
  | .ok l =>
    match d.node? l with
    | some n => .ok (l, n)
    | none => .error .notFound

/-! ### Operations -/

/-- The content of a file. -/
def read (d : Disk) (here : Location) (p : Path) : Except Cause Blob :=
  match d.find here p with
  | .error c => .error c
  | .ok (_, .file content) => .ok content
  | .ok (_, .directory) => .error .isDirectory

/-- A disk with a content written to a file, which need not be there yet. -/
def write (d : Disk) (here : Location) (p : Path) (content : Blob) : Except Cause Disk :=
  match d.follow here p with
  | .error c => .error c
  | .ok l =>
    match d.node? l with
    | some .directory => .error .isDirectory
    | _ => .ok (d.put l (.file content))

/-- A disk with one more directory. -/
def makeDirectory (d : Disk) (here : Location) (p : Path) : Except Cause Disk :=
  match d.follow here p with
  | .error c => .error c
  | .ok l =>
    match d.node? l with
    | some _ => .error .exists
    | none => .ok (d.put l .directory)

/-- Whether a path names a directory. -/
def isDirectory (d : Disk) (here : Location) (p : Path) : Bool :=
  match d.find here p with
  | .ok (_, .directory) => true
  | _ => false

/-- A disk with a directory that may be there already, and the refusal of it, if there is one. -/
def ensureDirectory (d : Disk) (here : Location) (p : Path) : Disk × Option Refusal :=
  match d.makeDirectory here p with
  | .ok d => (d, none)
  | .error c => if d.isDirectory here p then (d, none) else (d, some ⟨c, p.text⟩)

/-- A disk with a directory and all that lead to it, any of which may be there already; `fuel`
bounds how many have to be made. Directories made before a refusal stay. -/
def ensureDirectories (d : Disk) (here : Location) : (fuel : Nat) → Path → Disk × Option Refusal
  | 0, p => d.ensureDirectory here p
  | fuel + 1, p =>
    match d.makeDirectory here p with
    | .ok d => (d, none)
    | .error .notFound =>
      if p.parent = p then (d, some ⟨.notFound, p.text⟩)
      else
        match d.ensureDirectories here fuel p.parent with
        | (d, some r) => (d, some r)
        | (d, none) => d.ensureDirectory here p
    | .error c => if d.isDirectory here p then (d, none) else (d, some ⟨c, p.text⟩)

/-- A disk with a directory and all that lead to it, any of which may be there already. -/
def makeDirectories (d : Disk) (here : Location) (p : Path) : Disk × Option Refusal :=
  d.ensureDirectories here p.parts.length p

/-- A disk without what stands at a location and below it. -/
def remove (d : Disk) (l : Location) : Disk :=
  ⟨d.nodes.filter fun entry => !l.isPrefixOf entry.1⟩

/-- The files of a disk with their contents. -/
def files (d : Disk) : List (Location × Blob) :=
  d.nodes.filterMap fun entry =>
    match entry.2 with
    | .file content => some (entry.1, content)
    | .directory => none

/-- The locations of the directories of a disk. -/
def directories (d : Disk) : List Location :=
  (d.nodes.filter fun entry => entry.2 == .directory).map (·.1)

end Disk

end SessionRecorder
