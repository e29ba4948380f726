import SessionRecorder.Recorder
/-!
# Calls of a recorder

The operations of a recorder by name, called with arguments by position; a screenshot is requested
with arguments by name. A call that does not fit changes nothing.

## Main definitions

* `Recorder.Operation` — the operations that can be called.
* `Recorder.call` — an operation called with arguments.
* `Recorder.callScreenshot` — a screenshot requested with arguments by name.
-/

namespace SessionRecorder.Recorder

/-- An operation of a recorder that takes its arguments by position. -/
inductive Operation where
  | start
  | stop
  | enter
  | exit
  | feedPayload
  | recordStep
  | endStep
  | recordComment
  | recordNavigation
  deriving DecidableEq, Repr

namespace Operation

/-- All operations. -/
def all : List Operation :=
  [.start, .stop, .enter, .exit, .feedPayload, .recordStep, .endStep, .recordComment,
    .recordNavigation]

/-- The name by which an operation is called. -/
def name : Operation → String
  | .start => "start"
  | .stop => "stop"
  | .enter => "enter"
  | .exit => "exit"
  | .feedPayload => "feed_payload"
  | .recordStep => "record_step"
  | .endStep => "end_step"
  | .recordComment => "record_comment"
  | .recordNavigation => "record_navigation"

/-- The operation of a name. -/
def ofName? (name : String) : Option Operation :=
  all.find? fun op => op.name == name

/-- The parameters of an operation. -/
def signature (op : Operation) : Signature :=
  let takes (required : List String) (optional : List (String × Value)) : Signature :=
    ⟨"Recorder." ++ op.name, 1, required, optional⟩
  match op with
  | .feedPayload => takes ["payload"] []
  | .recordStep => takes [] [("name", .none)]
  | .recordComment => takes ["text"] []
  | .recordNavigation => takes ["url"] []
  | _ => takes [] []

end Operation

/-- What an operation does, given the argument of its parameter if it has one. -/
def perform (op : Operation) (argument : Value) : Procedure Recorder Value :=
  match op with
  | .start | .enter => do start; return if op = .enter then .bool true else .none
  | .stop | .exit => do stop; return .none
  | .feedPayload => do return .bool (← feedPayload argument)
  | .recordStep => do recordStep argument; return .none
  | .endStep => do endStep; return .none
  | .recordComment => do recordComment argument; return .none
  | .recordNavigation => do recordNavigation argument; return .none

/-- Call an operation with arguments. -/
def call (op : Operation) (arguments : List Value) : Procedure Recorder Value := do
  let given ← Procedure.ofExcept (op.signature.bindPositions arguments)
  perform op (given.headD .none)

/-- The parameters of a request for a screenshot. -/
def screenshotSignature : Signature :=
  ⟨"Recorder.request_screenshot", 1, ["image_bytes"],
    [("name", .none), ("locator", .str ""), ("region", .none)]⟩

/-- Request a screenshot with arguments by name. -/
def callScreenshot (arguments : List (String × Value)) : Procedure Recorder Value := do
  let given ← Procedure.ofExcept (screenshotSignature.bind arguments)
  let get (name : String) := Value.fieldOr given name .none
  return .str (← requestScreenshot (get "image_bytes") (get "name") (get "locator")
    (get "region"))

end SessionRecorder.Recorder
