import SessionRecorder.Entry
import SessionRecorder.Journal
import SessionRecorder.Value.Arithmetic
/-!
# Sessions

The state of a recording and what each event does to it. Events are applied once, in the order of
their arrival, and merged with the end of the log as they come: a press and a release become a
click, two clicks before a double click vanish into it, moves form runs, turns of the wheel at one
place add up, and a key that goes down and up is typed. Only the last two entries are ever looked
at.

## Main definitions

* `Session` — whether events are recorded, whether a button is held down, the steps that are open
  and the log.
* `Change` — what an event does to the log.
* `Session.apply` — an event applied to a session.
-/

namespace SessionRecorder

/-- The state of a recording. -/
structure Session where
  recording : Bool
  buttonDown : Bool
  openSteps : List Value
  log : List Entry

/-- A session in which nothing has happened. -/
def Session.fresh : Session :=
  ⟨false, false, [], []⟩

/-- What an event does to the log. -/
inductive Change where
  | append (e : Entry)
  /-- The last entry is replaced. -/
  | replaceLast (e : Entry)
  /-- The last two entries are replaced by one. -/
  | replaceTwo (e : Entry)

/-- A log after a change. -/
def Change.applyTo (log : List Entry) : Change → List Entry
  | .append e => log ++ [e]
  | .replaceLast e => log.dropLast ++ [e]
  | .replaceTwo e => log.dropLast.dropLast ++ [e]

/-- What comes of an event: the session after it, whether the event was accepted, and the notes
about it. -/
structure Outcome where
  session : Session
  accepted : Bool
  notes : List Note

namespace Session

/-- The last entry of the log. -/
def tail? (s : Session) : Option Entry :=
  s.log.getLast?

/-- A session with a changed log. -/
def change (s : Session) (c : Change) : Session :=
  { s with log := c.applyTo s.log }

/-- An event that leaves no mark. -/
def ignore (s : Session) : Outcome :=
  ⟨s, false, []⟩

/-- A note about an event. -/
def note (level : Level) (sentence : String) : List Note :=
  [.plain level .normalizer sentence]

/-- A place in a sentence. -/
def place (x y : Value) : String :=
  "(" ++ x.shown ++ ", " ++ y.shown ++ ")"

/-! ### Mouse -/

/-- A button goes down. -/
def press (s : Session) (x y : Value) : Outcome :=
  ⟨{ s.change (.append (.mouseDown x y)) with buttonDown := true }, true,
    note .info ("Recorded: mouse_down at " ++ place x y)⟩

/-- What a move does to a log that ends in the given way. -/
def moveChange (tail : Option Entry) (x y : Value) : Except Fault Change :=
  match tail with
  | some (.mouseMove _ _ steps) =>
    (steps.add (.int 1)).map fun steps => .replaceLast (.mouseMove x y steps)
  | _ => .ok (.append (.mouseMove x y (.int 0)))

/-- The mouse moves. Moves count only while a button is down. -/
def move (s : Session) (x y : Value) : Except Fault Outcome :=
  if s.buttonDown then
    (moveChange s.tail? x y).map fun c =>
      ⟨s.change c, true, note .debug ("Recorded: mouse_move -> " ++ place x y)⟩
  else .ok s.ignore

/-- A button goes up: right after it went down, the two are a click where it went down. -/
def release (s : Session) (x y : Value) : Outcome :=
  let s := { s with buttonDown := false }
  match s.tail? with
  | some (.mouseDown x y) =>
    ⟨s.change (.replaceLast (.click x y)), true,
      note .info ("Recorded: click at " ++ place x y)⟩
  | _ =>
    ⟨s.change (.append .mouseUp), true, note .info ("Recorded: mouse_up at " ++ place x y)⟩

/-- Whether a log ends with two clicks. -/
def endsInTwoClicks (log : List Entry) : Bool :=
  match log.reverse with
  | .click .. :: .click .. :: _ => true
  | _ => false

/-- A double click: the two clicks it is made of vanish into it. -/
def doubleClick (s : Session) (x y : Value) : Outcome :=
  let e := Entry.doubleClick x y
  ⟨s.change (if endsInTwoClicks s.log then .replaceTwo e else .append e), true,
    note .info ("Recorded: double_click at " ++ place x y)⟩

/-- What a turn of the wheel does to a log that ends in the given way. -/
def wheelChange (tail : Option Entry) (x y dx dy : Value) : Except Fault Change :=
  match tail with
  | some (.wheel x₀ y₀ dx₀ dy₀) =>
    if x₀.same x && y₀.same y then do
      let dx ← dx₀.add dx
      let dy ← dy₀.add dy
      return .replaceLast (.wheel x₀ y₀ dx dy)
    else .ok (.append (.wheel x y dx dy))
  | _ => .ok (.append (.wheel x y dx dy))

/-- The wheel turns. -/
def wheel (s : Session) (x y dx dy : Value) : Except Fault Outcome :=
  (wheelChange s.tail? x y dx dy).map fun c =>
    ⟨s.change c, true,
      note .debug ("Recorded: wheel at " ++ place x y ++ " dx=" ++ dx.shown ++ ", dy=" ++
        dy.shown)⟩

/-! ### Keyboard -/

/-- A key goes down. -/
def keyDown (s : Session) (label : String) : Outcome :=
  ⟨s.change (.append (.keyDown (.str label))), true,
    note .info ("Recorded: key_down '" ++ label ++ "'")⟩

/-- Whether a log ends with a key going down that has a label. -/
def endsInKeyDown (tail : Option Entry) (label : String) : Bool :=
  match tail with
  | some (.keyDown l) => l.same (.str label)
  | _ => false

/-- A key goes up: right after it went down, the two are the key being typed. -/
def keyUp (s : Session) (label : String) : Outcome :=
  if endsInKeyDown s.tail? label then
    ⟨s.change (.replaceLast (.keyPress (.str label))), true,
      note .info ("Recorded: key_press '" ++ label ++ "'")⟩
  else
    ⟨s.change (.append (.keyUp (.str label))), true,
      note .info ("Recorded: key_up '" ++ label ++ "'")⟩

/-! ### What the user asks for -/

/-- A screenshot. -/
def screenshot (s : Session) (name locator : Value) (region : Region) : Outcome :=
  ⟨s.change (.append (.screenshot name locator region)), true,
    note .info ("Recorded: screenshot '" ++ name.shown ++ "'")⟩

/-- A step begins. -/
def startStep (s : Session) (name : Value) : Outcome :=
  ⟨{ s.change (.append (.step (.str "start") name)) with openSteps := s.openSteps ++ [name] },
    true,
    note .info ("Recorded: step '" ++ name.shown ++ "' (depth=" ++
      toString (s.openSteps.length + 1) ++ ")")⟩

/-- The innermost step ends, if one is open. -/
def endStep (s : Session) : Outcome :=
  match s.openSteps.getLast? with
  | none => ⟨s, false, note .warning "Ignored: end of step with no open step"⟩
  | some name =>
    ⟨{ s.change (.append (.step (.str "end") name)) with openSteps := s.openSteps.dropLast },
      true, note .info ("Recorded: end of step '" ++ name.shown ++ "'")⟩

/-- A comment. -/
def comment (s : Session) (text : Value) : Outcome :=
  ⟨s.change (.append (.comment text)), true, note .info "Recorded: comment"⟩

/-- Another page is shown. -/
def navigation (s : Session) (url : Value) : Outcome :=
  ⟨s.change (.append (.navigation url)), true,
    note .info ("Recorded: navigation -> " ++ url.shown)⟩

/-! ### Events -/

/-- An event applied to a session that records. A step without a name is called `defaultStep`. -/
def record (defaultStep : Value) (s : Session) : Event → Except Fault Outcome
  | .pointer .down t => .ok (s.press t.x t.y)
  | .pointer .move t => s.move t.x t.y
  | .pointer .up t => .ok (s.release t.x t.y)
  | .pointer .doubleClick t => .ok (s.doubleClick t.x t.y)
  | .wheel t dx dy => s.wheel t.x t.y dx dy
  | .key .down key modifiers => (KeyLabel.make key modifiers).map s.keyDown
  | .key .up key modifiers => (KeyLabel.make key modifiers).map s.keyUp
  | .screenshot name _ locator region => .ok (s.screenshot name locator region)
  | .stepStart name => .ok (s.startStep (name.orElse defaultStep))
  | .stepEnd => .ok s.endStep
  | .comment text => .ok (s.comment text)
  | .navigation url => .ok (s.navigation url)
  | .unknown shown => .error (.noEvent shown)

/-- An event applied to a session. One that does not record ignores everything. -/
def apply (defaultStep : Value) (s : Session) (e : Event) : Except Fault Outcome :=
  if s.recording then s.record defaultStep e else .ok s.ignore

end Session

end SessionRecorder
