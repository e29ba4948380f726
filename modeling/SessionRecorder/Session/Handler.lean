import SessionRecorder.Session
import SessionRecorder.Workspace
/-!
# Handling events

The steps in which an event is taken into a session, one after the other: the button, the open steps
and the log are changed each on its own, and what has happened is noted at the end. A label that
cannot be made and amounts that cannot be added stop the handling where it has got to; what was
changed before that is not taken back.

## Main definitions

* `Handler.Stage` — a session with the journal of its events.
* `Handler.append`, `Handler.replaceLast`, `Handler.pushStep`, `Handler.popStep` — the single steps.
* `Handler.apply` — the handling of an event.
-/

namespace SessionRecorder

namespace Handler

/-- A session with the journal of its events. -/
structure Stage where
  session : Session
  journal : List Note

/-- Change the session. -/
def changeSession (f : Session → Session) : Procedure Stage Unit :=
  modify fun t => { t with session := f t.session }

/-- The button is held down, or it is let go. -/
def setButton (down : Bool) : Procedure Stage Unit :=
  changeSession fun s => { s with buttonDown := down }

/-- Put an entry at the end of the log. -/
def append (e : Entry) : Procedure Stage Unit :=
  changeSession fun s => { s with log := s.log ++ [e] }

/-- Put an entry in the place of the last ones. -/
def replaceLast (count : Nat) (e : Entry) : Procedure Stage Unit := do
  changeSession fun s => { s with log := s.log.take (s.log.length - count) }
  append e

/-- One more step is open. -/
def pushStep (name : Value) : Procedure Stage Unit :=
  changeSession fun s => { s with openSteps := s.openSteps ++ [name] }

/-- The innermost step is not open any more. -/
def popStep : Procedure Stage Unit :=
  changeSession fun s => { s with openSteps := s.openSteps.dropLast }

/-- Note what has happened. -/
def note (level : Level) (sentence : String) : Procedure Stage Unit :=
  modify fun t => { t with journal := t.journal ++ Session.note level sentence }

/-! ### Mouse -/

/-- A button goes down. -/
def press (x y : Value) : Procedure Stage Bool := do
  setButton true
  append (.mouseDown x y)
  note .info ("Recorded: mouse_down at " ++ Session.place x y)
  return true

/-- The mouse moves. -/
def move (x y : Value) : Procedure Stage Bool := do
  let s := (← get).session
  if !s.buttonDown then return false
  match s.tail? with
  | some (.mouseMove _ _ steps) =>
    let steps ← Procedure.ofExcept (steps.add (.int 1))
    replaceLast 1 (.mouseMove x y steps)
  | _ => append (.mouseMove x y (.int 0))
  note .debug ("Recorded: mouse_move -> " ++ Session.place x y)
  return true

/-- A button goes up. -/
def release (x y : Value) : Procedure Stage Bool := do
  setButton false
  match (← get).session.tail? with
  | some (.mouseDown x y) =>
    replaceLast 1 (.click x y)
    note .info ("Recorded: click at " ++ Session.place x y)
  | _ =>
    append .mouseUp
    note .info ("Recorded: mouse_up at " ++ Session.place x y)
  return true

/-- A double click. -/
def doubleClick (x y : Value) : Procedure Stage Bool := do
  if Session.endsInTwoClicks (← get).session.log then replaceLast 2 (.doubleClick x y)
  else append (.doubleClick x y)
  note .info ("Recorded: double_click at " ++ Session.place x y)
  return true

/-- The wheel turns. -/
def wheel (x y dx dy : Value) : Procedure Stage Bool := do
  match (← get).session.tail? with
  | some (.wheel x₀ y₀ dx₀ dy₀) =>
    if x₀.same x && y₀.same y then
      let dx₁ ← Procedure.ofExcept (dx₀.add dx)
      let dy₁ ← Procedure.ofExcept (dy₀.add dy)
      replaceLast 1 (.wheel x₀ y₀ dx₁ dy₁)
    else append (.wheel x y dx dy)
  | _ => append (.wheel x y dx dy)
  note .debug ("Recorded: wheel at " ++ Session.place x y ++ " dx=" ++ dx.shown ++ ", dy=" ++
    dy.shown)
  return true

/-! ### Keyboard -/

/-- A key goes down. -/
def keyDown (key modifiers : Value) : Procedure Stage Bool := do
  let label ← Procedure.ofExcept (KeyLabel.make key modifiers)
  append (.keyDown (.str label))
  note .info ("Recorded: key_down '" ++ label ++ "'")
  return true

/-- A key goes up. -/
def keyUp (key modifiers : Value) : Procedure Stage Bool := do
  let label ← Procedure.ofExcept (KeyLabel.make key modifiers)
  if Session.endsInKeyDown (← get).session.tail? label then
    replaceLast 1 (.keyPress (.str label))
    note .info ("Recorded: key_press '" ++ label ++ "'")
  else
    append (.keyUp (.str label))
    note .info ("Recorded: key_up '" ++ label ++ "'")
  return true

/-! ### What the user asks for -/

/-- A screenshot. -/
def screenshot (name locator : Value) (region : Region) : Procedure Stage Bool := do
  append (.screenshot name locator region)
  note .info ("Recorded: screenshot '" ++ name.shown ++ "'")
  return true

/-- A step begins. -/
def startStep (name : Value) : Procedure Stage Bool := do
  pushStep name
  append (.step (.str "start") name)
  let depth := (← get).session.openSteps.length
  note .info ("Recorded: step '" ++ name.shown ++ "' (depth=" ++ toString depth ++ ")")
  return true

/-- The innermost step ends, if one is open. -/
def endStep : Procedure Stage Bool := do
  match (← get).session.openSteps.getLast? with
  | none =>
    note .warning "Ignored: end of step with no open step"
    return false
  | some name =>
    popStep
    append (.step (.str "end") name)
    note .info ("Recorded: end of step '" ++ name.shown ++ "'")
    return true

/-- A comment. -/
def comment (text : Value) : Procedure Stage Bool := do
  append (.comment text)
  note .info "Recorded: comment"
  return true

/-- Another page is shown. -/
def navigation (url : Value) : Procedure Stage Bool := do
  append (.navigation url)
  note .info ("Recorded: navigation -> " ++ url.shown)
  return true

/-! ### Events -/

/-- The handling of an event while the session records. A step without a name is called
`defaultStep`. -/
def record (defaultStep : Value) : Event → Procedure Stage Bool
  | .pointer .down t => press t.x t.y
  | .pointer .move t => move t.x t.y
  | .pointer .up t => release t.x t.y
  | .pointer .doubleClick t => doubleClick t.x t.y
  | .wheel t dx dy => wheel t.x t.y dx dy
  | .key .down key modifiers => keyDown key modifiers
  | .key .up key modifiers => keyUp key modifiers
  | .screenshot name _ locator region => screenshot name locator region
  | .stepStart name => startStep (name.orElse defaultStep)
  | .stepEnd => endStep
  | .comment text => comment text
  | .navigation url => navigation url
  | .unknown shown => throw (.noEvent shown)

/-- The handling of an event. Whether it was accepted: a session that does not record ignores
everything. -/
def apply (defaultStep : Value) (e : Event) : Procedure Stage Bool := do
  if !(← get).session.recording then return false
  record defaultStep e

end Handler

end SessionRecorder
