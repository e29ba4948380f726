import SessionRecorder.Picture.Comparison
import SessionRecorder.Snapshot.Store
/-!
# Snapshot assertions

A picture compared with a stored one. The share of pixels that differ must be within a tolerance.
A picture that is not stored yet is stored, and the assertion holds; one that fails leaves the
actual picture, and the picture of the differences, beside the stored one.

## Main definitions

* `Snapshot.Source` — the ways in which a picture is handed over.
* `Snapshot.Comparison`, `Snapshot.compare` — the comparison of two pictures.
* `Snapshot.check` — the assertion.
-/

namespace SessionRecorder.Snapshot

/-- A picture as it is handed over: as such, as a value, or by the path of its file. -/
inductive Source where
  | picture (p : Picture)
  | value (v : Value)
  | file (path : Path)

/-- The picture in a file. -/
def pictureAt (w : Workspace) (path : Path) : Except Fault Picture :=
  match w.read path with
  | .error f => .error f
  | .ok content => Picture.ofBlob content

/-- Whether a text names a directory whatever stands there: it ends in a slash, or in a dot after
one. -/
def namesDirectory (s : String) : Bool :=
  s.endsWith "/" || s.endsWith "/."

/-- The picture in the file that a text names. -/
def pictureNamed (w : Workspace) (s : String) : Except Fault Picture :=
  let path := Path.parse s
  match w.isFile path, namesDirectory s with
  | .ok true, true => .error (Workspace.refused path .notDirectory)
  | _, _ => pictureAt w path

/-- The picture that is handed over. -/
def Source.picture? (w : Workspace) : Source → Except Fault Picture
  | .picture p => .ok p
  | .file path => pictureAt w path
  | .value (.bytes b) => Picture.ofBlob b
  | .value (.str s) =>
    if s.isEmpty then .error (.noOperation .str "read") else pictureNamed w s
  | .value v => .error (.noOperation v.kind "read")

/-- The picture that is handed over, with all four channels. -/
def Source.load (w : Workspace) (s : Source) : Except Fault Picture :=
  (s.picture? w).map Picture.toRgba

/-! ### Comparison -/

/-- What comes of a comparison. -/
structure Comparison where
  passed : Bool
  percent : Binary64
  resized : Bool
  difference : Option Picture

/-- A size in a sentence. -/
def sizeText (p : Picture) : String :=
  "(" ++ toString p.width ++ ", " ++ toString p.height ++ ")"

/-- The comparison of pictures of different sizes. -/
def mismatch : Comparison :=
  ⟨false, Binary64.ofRatio 100 1, true, none⟩

/-- What is noted about pictures of different sizes. -/
def sizeNotes (expected actual : Picture) : List Note :=
  if expected.size = actual.size then []
  else
    [.plain .warning .snapshots
      ("Snapshot sizes differ: " ++ sizeText expected ++ " vs " ++ sizeText actual)]

/-- The comparison of two pictures, given how many percent of the pixels may differ. -/
def compare (expected actual : Picture) (tolerance : Value) : Except Fault Comparison :=
  if h : expected.size = actual.size then
    let percent := expected.differencePercent actual
    (Value.atMost percent tolerance).map fun passed =>
      ⟨passed, percent, false, expected.difference? actual h⟩
  else .ok mismatch

/-- The comparison of two pictures that are handed over, noted down. -/
def compareSources (expected actual : Source) (tolerance : Value) :
    Procedure Workspace Comparison := do
  let w ← get
  let expected ← Procedure.ofExcept (expected.load w)
  let actual ← Procedure.ofExcept (actual.load w)
  Workspace.notes (sizeNotes expected actual)
  Procedure.ofExcept (compare expected actual tolerance)

/-! ### Surroundings -/

/-- The variable that names the directory of the stored pictures. -/
def directoryVariable : String := "UI_CODEGEN_SNAPSHOT_DIR"

/-- The variable that asks for stored pictures to be replaced. -/
def updateVariable : String := "UI_CODEGEN_UPDATE_SNAPSHOTS"

/-- The variable that gives the tolerance. -/
def toleranceVariable : String := "UI_CODEGEN_SNAPSHOT_TOLERANCE"

/-- The directory of the pictures stored for a module, beside it. -/
def besideCaller (w : Workspace) (caller : Path) : Path :=
  (w.herePath.join caller).plain.parent.child "snapshots"

/-- The directory of the stored pictures: the given one, or the one that a variable names, or the
one beside the calling module. -/
def directoryFor (w : Workspace) (given : Option Path) (caller : Path) : Path :=
  match given, w.environment.value? directoryVariable with
  | some p, _ => p
  | none, some s => if s.isEmpty then besideCaller w caller else Path.parse s
  | none, none => besideCaller w caller

/-- The tolerance that the surroundings give, zero if it cannot be read. -/
def toleranceAround (w : Workspace) : Binary64 :=
  match w.environment.value? toleranceVariable with
  | none => .zero false
  | some s => (Numeral.readDouble? s).getD (.zero false)

/-- The tolerance of an assertion: the given one, or the one that the surroundings give. -/
def toleranceFor (w : Workspace) (given : Value) : Except Fault Binary64 :=
  match given with
  | .none => .ok (toleranceAround w)
  | v => v.toDouble

/-- Whether stored pictures are to be replaced. -/
def updating (w : Workspace) : Bool :=
  ["1", "true", "yes", "on"].contains (Text.lower ((w.environment.value? updateVariable).getD ""))

/-! ### Assertion -/

/-- Store a picture for later assertions. -/
def storeBaseline (baseline : Path) (actual : Source) : Procedure Workspace Unit := do
  Workspace.makeDirectories baseline.parent
  let picture ← Procedure.ofExcept (actual.load (← get))
  picture.save baseline
  Workspace.note (.plain .info .snapshots ("Snapshot written: " ++ baseline.text))

/-- The path of a picture beside a stored one. -/
def beside (baseline : Path) (word : String) : Except Fault Path :=
  match baseline.withName? (baseline.stem ++ "-" ++ word ++ ".png") with
  | some p => .ok p
  | none => .error (.emptyName baseline)

/-- A percentage with three places. -/
def percentText (x : Binary64) : String :=
  String.ofList (x.fixed 3 "nan".toList "inf".toList)

/-- The fault of an assertion that fails. -/
def failure (name : Value) (baseline actualPath : Path) (c : Comparison) (tolerance : Binary64) :
    Fault :=
  if c.resized then .snapshotResized name.shown baseline.text actualPath.text
  else
    .snapshotDiffers name.shown (percentText c.percent) (percentText tolerance) actualPath.text

/-- Store the picture of the differences beside the stored one, if there is one. -/
def storeDifference (baseline : Path) (c : Comparison) : Procedure Workspace Unit := do
  match c.difference with
  | none => return
  | some p => p.save (← Procedure.ofExcept (beside baseline "diff"))

/-- Leave the pictures of an assertion that fails, and fail. -/
def reject (name : Value) (baseline : Path) (actual : Source) (c : Comparison)
    (tolerance : Binary64) : Procedure Workspace Unit := do
  let actualPath ← Procedure.ofExcept (beside baseline "actual")
  let picture ← Procedure.ofExcept (actual.load (← get))
  picture.save actualPath
  storeDifference baseline c
  throw (failure name baseline actualPath c tolerance)

/-- Assert that a picture is the one stored under a name, within a tolerance in percent. -/
def check (actual : Source) (name : Value) (directory : Option Path) (tolerance : Value)
    (caller : Path) : Procedure Workspace Unit := do
  let w ← get
  let tolerance ← Procedure.ofExcept (toleranceFor w tolerance)
  let baseline ← Procedure.ofExcept (pathOf (directoryFor w directory caller) name)
  let there ← Procedure.ofExcept (w.pathExists baseline)
  if !there || updating w then storeBaseline baseline actual
  else
    let c ← compareSources (.file baseline) actual (.float tolerance)
    if !c.passed then reject name baseline actual c tolerance

end SessionRecorder.Snapshot
