import SessionRecorder.Event
import SessionRecorder.Json.Printer
/-!
# Entries of the action log

What the log of a session keeps: single actions, merged ones such as clicks and runs of moves, and
the boundaries of steps. Every entry has a form as a record.

## Main definitions

* `Entry` — the entries.
* `Entry.toRecord`, `Entry.ofRecord` — an entry as a record and back.
* `Entry.display` — an entry as it is shown in a sentence.
* `Entry.isShort` — whether the whole numbers of an entry have no more digits than are read.
-/

namespace SessionRecorder

/-- An action of the log. -/
inductive Entry where
  | mouseDown (x y : Value)
  /-- A run of moves up to a place, `steps` counting those after the first. -/
  | mouseMove (x y steps : Value)
  | mouseUp
  | click (x y : Value)
  | doubleClick (x y : Value)
  | wheel (x y deltaX deltaY : Value)
  | keyDown (label : Value)
  | keyUp (label : Value)
  | keyPress (label : Value)
  | screenshot (name locator : Value) (region : Region)
  /-- A boundary of a step: its start if `which` is the text `start`. -/
  | step (which name : Value)
  | comment (text : Value)
  | navigation (url : Value)

namespace Entry

/-- The kinds of entries. -/
inductive Kind where
  | mouseDown
  | mouseMove
  | mouseUp
  | click
  | doubleClick
  | wheel
  | keyDown
  | keyUp
  | keyPress
  | screenshot
  | step
  | comment
  | navigation
  deriving DecidableEq, Repr

namespace Kind

/-- All kinds. -/
def all : List Kind :=
  [.mouseDown, .mouseMove, .mouseUp, .click, .doubleClick, .wheel, .keyDown, .keyUp, .keyPress,
    .screenshot, .step, .comment, .navigation]

/-- The name of a kind in a record. -/
def name : Kind → String
  | .mouseDown => "mouse_down"
  | .mouseMove => "mouse_move"
  | .mouseUp => "mouse_up"
  | .click => "click"
  | .doubleClick => "double_click"
  | .wheel => "wheel"
  | .keyDown => "key_down"
  | .keyUp => "key_up"
  | .keyPress => "key_press"
  | .screenshot => "screenshot"
  | .step => "step"
  | .comment => "comment"
  | .navigation => "navigation"

/-- The name of a kind in a sentence. -/
def typeName : Kind → String
  | .mouseDown => "MouseDownEntry"
  | .mouseMove => "MouseMoveRun"
  | .mouseUp => "MouseUpEntry"
  | .click => "ClickEntry"
  | .doubleClick => "DoubleClickEntry"
  | .wheel => "WheelEntry"
  | .keyDown => "KeyDownEntry"
  | .keyUp => "KeyUpEntry"
  | .keyPress => "KeyPressEntry"
  | .screenshot => "ScreenshotEntry"
  | .step => "StepBoundary"
  | .comment => "CommentEntry"
  | .navigation => "NavigationEntry"

/-- The fields that an entry of a kind must have. -/
def required : Kind → List String
  | .mouseDown | .mouseMove | .click | .doubleClick | .wheel => ["x", "y"]
  | .mouseUp => []
  | .keyDown | .keyUp | .keyPress => ["label"]
  | .screenshot => ["name"]
  | .step => ["which"]
  | .comment => ["text"]
  | .navigation => ["url"]

/-- The fields that an entry of a kind may have, with what they are otherwise. -/
def optional : Kind → List (String × Value)
  | .mouseMove => [("steps", .int 0)]
  | .wheel => [("delta_x", .int 0), ("delta_y", .int 0)]
  | .screenshot => [("locator", .str ""), ("region", .none)]
  | .step => [("name", .none)]
  | _ => []

/-- The fields of the entries of a kind. -/
def signature (k : Kind) : Signature :=
  ⟨k.typeName ++ ".__init__", 1, k.required, k.optional⟩

/-- The kind of a name. -/
def ofName? (name : String) : Option Kind :=
  all.find? fun k => k.name == name

end Kind

/-- The kind of an entry. -/
def kind : Entry → Kind
  | .mouseDown .. => .mouseDown
  | .mouseMove .. => .mouseMove
  | .mouseUp => .mouseUp
  | .click .. => .click
  | .doubleClick .. => .doubleClick
  | .wheel .. => .wheel
  | .keyDown _ => .keyDown
  | .keyUp _ => .keyUp
  | .keyPress _ => .keyPress
  | .screenshot .. => .screenshot
  | .step .. => .step
  | .comment _ => .comment
  | .navigation _ => .navigation

/-! ### Records -/

/-- The fields of an entry. -/
def fields : Entry → List (String × Value)
  | .mouseDown x y | .click x y | .doubleClick x y => [("x", x), ("y", y)]
  | .mouseMove x y steps => [("x", x), ("y", y), ("steps", steps)]
  | .mouseUp => []
  | .wheel x y dx dy => [("x", x), ("y", y), ("delta_x", dx), ("delta_y", dy)]
  | .keyDown label | .keyUp label | .keyPress label => [("label", label)]
  | .screenshot name locator region =>
    [("name", name), ("locator", locator), ("region", region.toValue)]
  | .step which name => [("which", which), ("name", name)]
  | .comment text => [("text", text)]
  | .navigation url => [("url", url)]

/-- An entry as a record, the name of its kind in front. -/
def toRecord (e : Entry) : Value :=
  .dict (("kind", .str e.kind.name) :: e.fields)

/-- The entry of a kind with the given fields. -/
def ofFields (kind : Kind) (get : String → Value) (region : Region) : Entry :=
  match kind with
  | .mouseDown => .mouseDown (get "x") (get "y")
  | .mouseMove => .mouseMove (get "x") (get "y") (get "steps")
  | .mouseUp => .mouseUp
  | .click => .click (get "x") (get "y")
  | .doubleClick => .doubleClick (get "x") (get "y")
  | .wheel => .wheel (get "x") (get "y") (get "delta_x") (get "delta_y")
  | .keyDown => .keyDown (get "label")
  | .keyUp => .keyUp (get "label")
  | .keyPress => .keyPress (get "label")
  | .screenshot => .screenshot (get "name") (get "locator") region
  | .step => .step (get "which") (get "name")
  | .comment => .comment (get "text")
  | .navigation => .navigation (get "url")

/-- The region in the fields of an entry of a kind. -/
def regionOf (kind : Kind) (fields : List (String × Value)) : Except Fault Region :=
  if kind = .screenshot then Event.regionOf fields else .ok .whole

/-- The entry that a record with a known kind describes. Fields of other kinds are passed over. -/
def ofKnown (kind : Kind) (fields : List (String × Value)) : Except Fault Entry := do
  let sig := kind.signature
  let region ← regionOf kind fields
  let arguments ← sig.bind (fields.filter fun field => sig.has field.1)
  return ofFields kind (fun name => Value.fieldOr arguments name .none) region

/-- The entry that a record describes. -/
def ofRecord (record : Value) : Except Fault Entry := do
  let fields ← record.fields
  let name := Value.fieldOr fields "kind" .none
  match Kind.ofName? name.shown with
  | none => .error (.unknownEntryKind name)
  | some kind => ofKnown kind fields

/-- The entries that records describe, up to the first that describes none. -/
def ofRecords : List Value → Except Fault (List Entry)
  | [] => .ok []
  | record :: rest => do
    let e ← ofRecord record
    let es ← ofRecords rest
    return e :: es

/-! ### Sentences -/

/-- An entry as it is shown in a sentence. -/
def display (e : Entry) : String :=
  e.kind.typeName ++ "(" ++
    ", ".intercalate (e.fields.map fun field => field.1 ++ "=" ++ field.2.display) ++ ")"

/-- Whether a boundary of a step is its start. -/
def isStart (which : Value) : Bool :=
  which.same (.str "start")

end Entry

/-! ### Numbers -/

/-- Whether a value is no whole number with more digits than are read. -/
def Value.isShort : Value → Bool
  | .int i => Json.isShort i
  | _ => true

/-- Whether the whole numbers of a region have no more digits than are read. -/
def Region.isShort : Region → Bool
  | .rect r => r.x.isShort && (r.y.isShort && (r.width.isShort && r.height.isShort))
  | .other _ => true

/-- Whether the whole numbers of an entry have no more digits than are read. -/
def Entry.isShort : Entry → Bool
  | .mouseDown x y | .click x y | .doubleClick x y => x.isShort && y.isShort
  | .mouseMove x y steps => x.isShort && (y.isShort && steps.isShort)
  | .wheel x y dx dy => x.isShort && (y.isShort && (dx.isShort && dy.isShort))
  | .screenshot _ _ region => region.isShort
  | _ => true

end SessionRecorder
