import SessionRecorder.Picture.File
import SessionRecorder.Text.Lower
import SessionRecorder.Value.Arithmetic
/-!
# Stored screenshots

The names under which screenshots are stored, and the storing itself. A name that a caller gives
is made safe: characters other than letters, digits, dots, hyphens and underscores become
underscores, none of them stands at an end, and it ends in `.png`.

## Main definitions

* `Snapshot.automaticName` — the name of a screenshot that nobody named.
* `Snapshot.safeName` — a given name made safe.
* `Snapshot.store` — the octets of a screenshot stored in a directory.
-/

namespace SessionRecorder.Snapshot

/-! ### Names -/

/-- The name of the `n`-th screenshot that nobody named. -/
def automaticName (n : Int) : String :=
  "codegen-" ++ Value.showInt (max n 1) ++ ".png"

/-- The name for a counter of any kind; one that stands for no number counts as one. -/
def automaticNameOf (counter : Value) : String :=
  match counter.toInteger with
  | .ok n => automaticName n
  | .error _ => automaticName 1

/-- Whether a character may stand in a name. -/
def isSafe (c : Char) : Bool :=
  c.isDigit || c.isAlpha || c == '.' || c == '_' || c == '-'

/-- A list of characters with every run of unsafe ones replaced by one underscore. `inRun` tells
whether an unsafe character stands before the list. -/
def flattenFrom (inRun : Bool) : List Char → List Char
  | [] => []
  | c :: rest =>
    if isSafe c then c :: flattenFrom false rest
    else if inRun then flattenFrom true rest
    else '_' :: flattenFrom true rest

/-- Whether a character is taken away at the ends of a name. -/
def isEdge (c : Char) : Bool :=
  c == '.' || c == '_'

/-- Whether a name ends in `.png`, in any case. -/
def endsInPng (cs : List Char) : Bool :=
  match cs.reverse.map Char.toLower with
  | 'g' :: 'n' :: 'p' :: '.' :: _ => true
  | _ => false

/-- A name without unsafe characters, dots and underscores at its ends. -/
def baseName (name : String) : List Char :=
  Text.stripWhile isEdge (flattenFrom false (Text.trim name).toList)

/-- A name made safe. -/
def safeName (name : String) : String :=
  let base := baseName name
  if base.isEmpty then "snapshot.png"
  else if endsInPng base then String.ofList base
  else String.ofList (base ++ ".png".toList)

/-- A value made a safe name; what counts as nothing is the empty name. -/
def safeNameOf (name : Value) : String :=
  safeName (name.orElse (.str "")).shown

/-! ### Storing -/

/-- The path of a name in a directory. -/
def pathOf (directory : Path) (name : Value) : Except Fault Path :=
  match name with
  | .str s => .ok (directory.child s)
  | v => .error (.operands "/" .path v.kind)

/-- The octets of a screenshot that are looked at for a picture. -/
def readable : Value → Except Fault Blob
  | .bytes b => .ok b
  | .none => .ok (.text "")
  | v => .error (.notOctets v.kind)

/-- The octets of a screenshot that are written as they are. -/
def writable : Value → Except Fault Blob
  | .bytes b => .ok b
  | v => .error (.notWritable v.kind)

/-- Write a screenshot as a picture, if it is one. -/
def storePicture (path : Path) (image : Value) : Procedure Workspace Unit := do
  let content ← Procedure.ofExcept (readable image)
  let picture ← Procedure.ofExcept (Picture.ofBlob content)
  picture.save path

/-- Write the octets of a screenshot. -/
def storeOctets (path : Path) (image : Value) : Procedure Workspace Unit := do
  let content ← Procedure.ofExcept (writable image)
  Workspace.write path content

/-- A step whose refusal by the storage is noted and not passed on. Whether it was done. -/
def noting (p : Procedure Workspace Unit) (n : Fault → Note) : Procedure Workspace Bool := do
  match ← p.attempt with
  | .ok () => return true
  | .error f =>
    if f.family = .storage then
      Workspace.note (n f)
      return false
    else throw f

/-- Store a screenshot under a name in a directory: as a picture if it is one, else as it is. The
path, unless the storage refuses it. -/
def store (directory : Path) (name image : Value) : Procedure Workspace (Option Path) := do
  let path ← Procedure.ofExcept (pathOf directory name)
  let parent := path.parent
  let made ← noting (Workspace.makeDirectories parent) fun f =>
    .quoting .warning .writer ("Snapshot directory " ++ parent.text ++ " unavailable: ") f ""
  if !made then return none
  let decoded ← noting (storePicture path image) fun f =>
    .quoting .debug .writer ("Snapshot '" ++ name.shown ++ "' not decodable by Pillow (") f
      "); writing raw bytes"
  if decoded then return some path
  let written ← noting (storeOctets path image) fun f =>
    .quoting .warning .writer ("Could not save snapshot " ++ path.text ++ ": ") f ""
  return if written then some path else none

end SessionRecorder.Snapshot
