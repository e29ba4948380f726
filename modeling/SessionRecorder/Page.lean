import SessionRecorder.Page.Listener
import SessionRecorder.Recorder
/-!
# Pages

A browser page that a recorder listens to. The page calls the recorder through bindings: one for
its events and others for what the user types into its console. A screenshot is taken of a
rectangle, of what a locator finds, or of the whole page, and by default of what has the focus.

## Main definitions

* `Page` — a page, with the calls made on it so far and how it answers them.
* `Tab` — a recorder and the page it listens to.
* `Tab.install` — the page made to talk to the recorder.
* `Binding`, `Tab.call` — what the page can call.
* `Tab.capture` — a screenshot taken and recorded.
* `Tab.navigated` — another page is shown.
-/

namespace SessionRecorder

/-- A call made on a page. -/
inductive PageCall where
  | runListener
  | evaluate (expression : String)
  | screenshot (clip : Option Rect)
  | locator (selector : Value)
  | goto (url : Value)
  | waitForEvent (name : String) (timeout : Nat)

/-- What a picture of a page holds, if it is not said otherwise. -/
def PageCall.sample : PageCall → Blob
  | .locator _ => .text "locator-bytes"
  | _ => .text "page-bytes"

/-- A page: its address, what has the focus, and whether it is ready to run the listener. How it
answers a call may depend on the calls before it. -/
structure Page where
  url : Value
  focus : Value
  ready : Bool
  calls : List PageCall
  /-- The fault that a call ends with, if it fails. -/
  fails : List PageCall → PageCall → Option Fault := fun _ _ => none
  /-- What a picture of the page holds. -/
  picture : List PageCall → PageCall → Blob := fun _ c => c.sample

/-- A recorder and the page it listens to. -/
structure Tab extends Recorder where
  page : Page

/-- What a page can call. -/
inductive Binding where
  | event
  | startRecording
  | stopRecording
  | step
  | endStep
  | comment
  | captureScreenshot
  deriving DecidableEq, Repr

namespace Binding

/-- All bindings, in the order in which they are installed. -/
def all : List Binding :=
  [.event, .startRecording, .stopRecording, .step, .endStep, .comment, .captureScreenshot]

/-- The name under which a page calls a binding. -/
def name : Binding → String
  | .event => "__codegenEvent"
  | .startRecording => "startRecording"
  | .stopRecording => "stopRecording"
  | .step => "step"
  | .endStep => "endStep"
  | .comment => "comment"
  | .captureScreenshot => "captureScreenshot"

/-- The binding of a name. -/
def ofName? (name : String) : Option Binding :=
  all.find? fun b => b.name == name

/-- The parameters of a binding besides the source of the call. -/
def signature : Binding → Signature
  | .event => ⟨"install.<locals>.on_event", 1, ["payload"], []⟩
  | .startRecording => ⟨"install.<locals>.on_start", 1, [], []⟩
  | .stopRecording => ⟨"install.<locals>.on_stop", 1, [], []⟩
  | .step => ⟨"install.<locals>.on_step", 1, [], [("name", .none)]⟩
  | .endStep => ⟨"install.<locals>.on_end_step", 1, [], []⟩
  | .comment => ⟨"install.<locals>.on_comment", 1, [], [("text", .str "")]⟩
  | .captureScreenshot => ⟨"install.<locals>.on_screenshot", 1, [], [("options", .none)]⟩

end Binding

/-! ### Options -/

namespace Page

/-- One part of a list of named options: a pair, of which only one with a text for a name
counts. -/
def namedPair (index : Nat) (fields : List (String × Value)) (items : List Value) :
    Except Fault (List (String × Value)) :=
  match items with
  | [.str name, v] => .ok (Value.setField name v fields)
  | [.list _, _] => .error (.notHashable .list)
  | [.dict _, _] => .error (.notHashable .dict)
  | [_, _] => .ok fields
  | items => .error (.pairLength index items.length)

/-- Options from the items of a list, `index` being the index of the first. -/
def optionsOfItems (index : Nat) (fields : List (String × Value)) :
    List Value → Except Fault (List (String × Value))
  | [] => .ok fields
  | item :: rest =>
    match item.items with
    | .error _ => .error (.pairExpected index)
    | .ok parts =>
      match namedPair index fields parts with
      | .error f => .error f
      | .ok fields => optionsOfItems (index + 1) fields rest

/-- The options that a value gives: a record, or a list of pairs. -/
def optionsOf (v : Value) : Except Fault (List (String × Value)) :=
  if v.truthy then
    match v with
    | .dict fields => .ok fields
    | v =>
      match v.items with
      | .error f => .error f
      | .ok items => optionsOfItems 0 [] items
  else .ok []

end Page

namespace Tab

/-- A step on the recorder of a tab. -/
def onRecorder {α : Type} (p : Procedure Recorder α) : Procedure Tab α :=
  p.within (·.toRecorder) fun r t => { t with toRecorder := r }

/-- Make a call on the page, which may fail. -/
def callPage (c : PageCall) : Procedure Tab Unit := do
  let p := (← get).page
  modify fun t => { t with page := { t.page with calls := t.page.calls ++ [c] } }
  match p.fails p.calls c with
  | some f => throw f
  | none => return

/-! ### Installation -/

/-- A note about a page. -/
def notePage (n : Note) : Procedure Tab Unit :=
  onRecorder (Recorder.onWorkspace (Workspace.note n))

/-- The note about a listener that does not run yet. -/
def listenerNote (f : Fault) : Note :=
  .quoting .debug .page "Listener will attach on next navigation: " f ""

/-- Make the page run the listener, which it may not be ready for. -/
def runListener : Procedure Tab Unit := do
  if (← get).page.ready then
    match ← (callPage .runListener).attempt with
    | .ok () => return
    | .error f => notePage (listenerNote f)
  else notePage (listenerNote .pageNotReady)

/-- Make the page talk to the recorder. -/
def install : Procedure Tab Unit := do
  runListener
  let url := (← get).page.url
  notePage (.plain .info .page
    ("Recorder bindings installed on " ++ (url.orElse (.str "<blank page>")).shown))

/-! ### Screenshots -/

/-- Take a picture by a call on the page. -/
def takePicture (c : PageCall) : Procedure Tab Value := do
  let p := (← get).page
  callPage c
  return .bytes (p.picture p.calls c)

/-- Take a screenshot of a rectangle if there is one, else of what a locator finds if there is one,
else of the whole page. -/
def takeScreenshot (clip locator : Value) : Procedure Tab Value := do
  if clip.truthy then
    let r ← Procedure.ofExcept (Rect.ofValue clip)
    takePicture (.screenshot (some r))
  else if locator.truthy then takePicture (.locator locator)
  else takePicture (.screenshot none)

/-- The locator of a screenshot: what has the focus, if neither a rectangle nor a locator is
given. -/
def screenshotLocator (clip locator : Value) : Procedure Tab Value := do
  if clip.truthy || locator.truthy then return locator
  callPage (.evaluate Page.focusExpression)
  return (← get).page.focus

/-- Take a screenshot and record it. The name under which it is stored. -/
def capture (options : Value) : Procedure Tab String := do
  let fields ← Procedure.ofExcept (Page.optionsOf options)
  onRecorder (Recorder.requireRunning "request_screenshot")
  let clip := Value.fieldOr fields "clip" .none
  let locator ← screenshotLocator clip (Value.fieldOr fields "locator" .none)
  let image ← takeScreenshot clip locator
  onRecorder (Recorder.requestScreenshot image (Value.fieldOr fields "name" .none)
    (locator.orElse (.str "")) clip)

/-! ### Calls from the page -/

/-- What a binding does, given the argument of its parameter if it has one. -/
def perform (b : Binding) (argument : Value) : Procedure Tab Value :=
  match b with
  | .event => do
    let _ ← onRecorder (Recorder.feedPayload (argument.orElse (.dict [])))
    return .none
  | .startRecording => do onRecorder Recorder.start; return .none
  | .stopRecording => do onRecorder Recorder.stop; return .none
  | .step => do onRecorder (Recorder.recordStep argument); return .none
  | .endStep => do onRecorder Recorder.endStep; return .none
  | .comment => do onRecorder (Recorder.recordComment argument); return .none
  | .captureScreenshot => do return .str (← capture argument)

/-- The page calls a binding with arguments. -/
def call (name : String) (arguments : List Value) : Procedure Tab Value := do
  match Binding.ofName? name with
  | none => throw (.missingKey name)
  | some b =>
    let given ← Procedure.ofExcept (b.signature.bindPositions arguments)
    perform b (given.headD .none)

/-- Another page is shown in a frame. In the main frame it is recorded if the recorder is
running; other frames do not matter. -/
def navigated (mainFrame : Bool) (url : Value) : Procedure Tab Unit := do
  if mainFrame then
    modify fun t => { t with page := { t.page with url := url } }
    if (← get).running then onRecorder (Recorder.recordNavigation url)

end Tab

end SessionRecorder
