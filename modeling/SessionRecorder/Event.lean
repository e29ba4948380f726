import SessionRecorder.KeyLabel
import SessionRecorder.Signature
/-!
# Events

What happens while a session is recorded: what the page sees of mouse and keyboard, and what the
user asks for. Nothing is promised about the kinds of their values. Pages describe events as
records; callers make them by naming their fields.

## Main definitions

* `Rect` — a part of a page.
* `Event` — the events.
* `Event.ofPayload` — the event that a record from a page describes.
* `Event.make` — the event of a type with fields given by name.
-/

namespace SessionRecorder

/-! ### Rectangles -/

/-- A part of a page. -/
structure Rect where
  x : Value
  y : Value
  width : Value
  height : Value

namespace Rect

/-- A rectangle as a record. -/
def toFields (r : Rect) : List (String × Value) :=
  [("x", r.x), ("y", r.y), ("width", r.width), ("height", r.height)]

/-- A rectangle as it is displayed. -/
def display (r : Rect) : String :=
  "Rect(" ++ ", ".intercalate (r.toFields.map fun field =>
    field.1 ++ "=" ++ field.2.display) ++ ")"

/-- The value under a name in what should be a record. -/
def member (v : Value) (name : String) : Except Fault Value :=
  match v with
  | .dict fields =>
    match Value.lookup? name fields with
    | some w => .ok w
    | none => .error (.missingKey name)
  | .list _ | .str _ | .bytes _ => .error (.nameAsIndex v.kind)
  | v => .error (.notSubscriptable v.kind)

/-- The rectangle that a record describes. -/
def ofValue (v : Value) : Except Fault Rect := do
  let x ← member v "x"
  let y ← member v "y"
  let width ← member v "width"
  let height ← member v "height"
  return ⟨x, y, width, height⟩

end Rect

/-- The part of a page that a screenshot is limited to: a rectangle, or a value that was given in
its place, nothing if the whole page is meant. -/
inductive Region where
  | rect (r : Rect)
  | other (v : Value)

namespace Region

/-- No limit. -/
def whole : Region :=
  .other .none

/-- The region that a value stands for: a record must describe a rectangle. -/
def ofValue : Value → Except Fault Region
  | .dict fields => (Rect.ofValue (.dict fields)).map .rect
  | v => .ok (.other v)

/-- A region as a value. -/
def toValue : Region → Value
  | .rect r => .dict r.toFields
  | .other v => v

end Region

/-! ### Events -/

/-- What the mouse did at a place. -/
inductive PointerKind where
  | down
  | move
  | up
  | doubleClick
  deriving DecidableEq, Repr

/-- What happened to a key. -/
inductive KeyKind where
  | down
  | up
  deriving DecidableEq, Repr

/-- The name of the type of an event. -/
def PointerKind.typeName : PointerKind → String
  | .down => "MouseDown"
  | .move => "MouseMove"
  | .up => "MouseUp"
  | .doubleClick => "DoubleClick"

/-- The name of the type of an event. -/
def KeyKind.typeName : KeyKind → String
  | .down => "KeyDown"
  | .up => "KeyUp"

/-- A place on the page, with what is there and the modifiers held down. -/
structure Target where
  x : Value
  y : Value
  locator : Value
  modifiers : Value

/-- Something that happens while a session is recorded. -/
inductive Event where
  | pointer (kind : PointerKind) (target : Target)
  | wheel (target : Target) (deltaX deltaY : Value)
  | key (kind : KeyKind) (key modifiers : Value)
  | screenshot (name image locator : Value) (region : Region)
  | stepStart (name : Value)
  | stepEnd
  | comment (text : Value)
  | navigation (url : Value)
  /-- A value that is no event, as it is displayed. -/
  | unknown (shown : String)

namespace Event

/-! ### Types of events -/

/-- The fields that every event at a place may have besides the place. -/
def targetOptions : List (String × Value) :=
  [("locator", .str ""), ("modifiers", .list [])]

/-- The fields of the events of a type. A rectangle is made in the same way, and is no event. -/
def signature? (type : String) : Option Signature :=
  let takes (required : List String) (optional : List (String × Value)) : Option Signature :=
    some ⟨type ++ ".__init__", 1, required, optional⟩
  match type with
  | "MouseDown" | "MouseMove" | "MouseUp" | "DoubleClick" => takes ["x", "y"] targetOptions
  | "Wheel" =>
    takes ["x", "y"] ([("delta_x", .int 0), ("delta_y", .int 0)] ++ targetOptions)
  | "KeyDown" | "KeyUp" => takes ["key"] [("modifiers", .list [])]
  | "ScreenshotRequest" =>
    takes ["name"] [("image_bytes", .bytes (.text "")), ("locator", .str ""), ("region", .none)]
  | "StepStart" => takes [] [("name", .none)]
  | "StepEnd" => takes [] []
  | "Comment" => takes ["text"] []
  | "Navigation" => takes ["url"] []
  | "Rect" => takes ["x", "y", "width", "height"] []
  | _ => none

/-- The place that arguments describe. -/
def targetOf (arguments : List (String × Value)) : Target :=
  let get (name : String) := Value.fieldOr arguments name .none
  ⟨get "x", get "y", get "locator", get "modifiers"⟩

/-- The event of a type whose arguments are complete. -/
def ofArguments (type : String) (arguments : List (String × Value)) (region : Region) : Event :=
  let get (name : String) := Value.fieldOr arguments name .none
  match type with
  | "MouseDown" => .pointer .down (targetOf arguments)
  | "MouseMove" => .pointer .move (targetOf arguments)
  | "MouseUp" => .pointer .up (targetOf arguments)
  | "DoubleClick" => .pointer .doubleClick (targetOf arguments)
  | "Wheel" => .wheel (targetOf arguments) (get "delta_x") (get "delta_y")
  | "KeyDown" => .key .down (get "key") (get "modifiers")
  | "KeyUp" => .key .up (get "key") (get "modifiers")
  | "ScreenshotRequest" =>
    .screenshot (get "name") (get "image_bytes") (get "locator") region
  | "StepStart" => .stepStart (get "name")
  | "StepEnd" => .stepEnd
  | "Comment" => .comment (get "text")
  | "Navigation" => .navigation (get "url")
  | "Rect" =>
    .unknown (Rect.display ⟨get "x", get "y", get "width", get "height"⟩)
  | _ => .unknown (Value.dict arguments).display

/-- Items that can be collected without regard to order: neither lists nor records. -/
def checkHashable : List Value → Except Fault Unit
  | [] => .ok ()
  | .list _ :: _ => .error (.notHashable .list)
  | .dict _ :: _ => .error (.notHashable .dict)
  | _ :: rest => checkHashable rest

/-- The items of a list of modifiers can be collected. -/
def checkModifiers (fields : List (String × Value)) : Except Fault Unit :=
  match Value.lookup? "modifiers" fields with
  | some (.list items) => checkHashable items
  | _ => .ok ()

/-- The region among the fields of an event. -/
def regionOf (fields : List (String × Value)) : Except Fault Region :=
  Region.ofValue (Value.fieldOr fields "region" .none)

/-- The event of a type with fields given by name. -/
def make (type : String) (fields : List (String × Value)) : Except Fault Event := do
  checkModifiers fields
  let region ← regionOf fields
  match signature? type with
  | none => return .unknown (Value.dict fields).display
  | some sig =>
    let arguments ← sig.bind fields
    return ofArguments type arguments region

/-- The type of an event and its fields. -/
def describe : Event → String × List (String × Value)
  | .pointer kind t =>
    (PointerKind.typeName kind,
      [("x", t.x), ("y", t.y), ("locator", t.locator), ("modifiers", t.modifiers)])
  | .wheel t dx dy =>
    ("Wheel", [("x", t.x), ("y", t.y), ("delta_x", dx), ("delta_y", dy),
      ("locator", t.locator), ("modifiers", t.modifiers)])
  | .key kind label modifiers =>
    (KeyKind.typeName kind, [("key", label), ("modifiers", modifiers)])
  | .screenshot name image locator region =>
    ("ScreenshotRequest", [("name", name), ("image_bytes", image), ("locator", locator),
      ("region", region.toValue)])
  | .stepStart name => ("StepStart", [("name", name)])
  | .stepEnd => ("StepEnd", [])
  | .comment text => ("Comment", [("text", text)])
  | .navigation url => ("Navigation", [("url", url)])
  | .unknown shown => ("", [("shown", .str shown)])

/-! ### Payloads -/

/-- A field as a text, empty if it counts as nothing. -/
def textField (fields : List (String × Value)) (name : String) : String :=
  ((Value.fieldOr fields name .none).orElse (.str "")).shown

/-- The modifiers that a payload marks as held down. -/
def payloadModifiers (fields : List (String × Value)) : List Modifier :=
  Modifier.all.filter fun m => (Value.fieldOr fields (m.name ++ "Key") .none).truthy

/-- The place in a payload. -/
def payloadTarget (fields : List (String × Value)) : Target where
  x := Value.fieldOr fields "x" (.int 0)
  y := Value.fieldOr fields "y" (.int 0)
  locator := .str (textField fields "locator")
  modifiers := Modifier.toValue (payloadModifiers fields)

/-- What a payload calls an event of the mouse. -/
def pointerKind? : String → Option PointerKind
  | "mousedown" => some .down
  | "mousemove" => some .move
  | "mouseup" => some .up
  | "dblclick" => some .doubleClick
  | _ => none

/-- What a payload calls an event of the keyboard. -/
def keyKind? : String → Option KeyKind
  | "keydown" => some .down
  | "keyup" => some .up
  | _ => none

/-- The event of a type that a payload describes. -/
def ofPayloadFields (type : String) (fields : List (String × Value)) : Except Fault Event :=
  match pointerKind? type, keyKind? type with
  | some kind, _ => .ok (.pointer kind (payloadTarget fields))
  | none, some kind =>
    let key := Value.fieldOr fields "key" .none
    if key.truthy then
      .ok (.key kind (.str key.shown) (Modifier.toValue (payloadModifiers fields)))
    else .error (.keylessEvent (.dict fields))
  | none, none =>
    if type == "wheel" then
      .ok (.wheel (payloadTarget fields) (Value.fieldOr fields "deltaX" (.int 0))
        (Value.fieldOr fields "deltaY" (.int 0)))
    else if type == "navigation" then .ok (.navigation (.str (textField fields "url")))
    else .error (.unknownEvent type)

/-- The event that a record from a page describes. -/
def ofPayload (payload : Value) : Except Fault Event :=
  match payload.fields with
  | .error f => .error f
  | .ok fields => ofPayloadFields (Text.lower (textField fields "type")) fields

end Event

end SessionRecorder
