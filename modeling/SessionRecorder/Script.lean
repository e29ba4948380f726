import SessionRecorder.Entry
import SessionRecorder.Json.Printer
import SessionRecorder.Text.Lines
import SessionRecorder.Value.Arithmetic
/-!
# Scripts

The test script that a log stands for: one or two statements for each action, comments, and blocks
for the steps. Steps that are open at the end are closed; a block that has received no statement
gets one that does nothing. The lines of the beginning of a log are the beginning of the lines of
the whole log, as long as nothing is closed.

## Main definitions

* `Script.statements` — the statements for an entry.
* `Script.Blocks` — the blocks that are open while lines are written.
* `Script.render` — the lines of a log.
* `Script.text` — the whole script.
-/

namespace SessionRecorder.Script

/-- One level of indentation. -/
def indent : String := "    "

/-- The lines in front of the recorded ones. -/
def header : List String :=
  ["import allure",
   "from playwright.sync_api import Page",
   "",
   "from ui_codegen.snapshots import assert_snapshot",
   "",
   "",
   "def test_recorded_session(page: Page) -> None:"]

/-! ### Literals -/

/-- A number as a literal: a whole one without a point. -/
def number : Value → String
  | .float (.finite s m p h) =>
    if (Binary64.finite s m p h).isIntegral then Value.showInt (Binary64.truncate s m p)
    else Value.showDouble (.finite s m p h)
  | v => v.display

/-- A value as a text literal; what counts as nothing is the empty text. -/
def literal (v : Value) : Except Fault String :=
  let v := v.orElse (.str "")
  match Json.firstUnwritable? v with
  | some kind => .error (.notJson kind)
  | none => .ok (Json.compact v)

/-- A label of a key as a text literal. -/
def keyLiteral (label : Value) : Except Fault String :=
  (KeyLabel.typedValue label).map Json.quote

/-- The literal of a rectangle. -/
def clip (r : Rect) : String :=
  "\x7b" ++ ", ".intercalate (r.toFields.map fun field =>
    Json.quote field.1 ++ ": " ++ number field.2) ++ "\x7d"

/-! ### Statements -/

/-- The capture of a whole page. -/
def pageCapture : String := "page.screenshot()"

/-- The capture of a rectangle of the page. -/
def clipCapture (r : Rect) : String :=
  "page.screenshot(clip=" ++ clip r ++ ")"

/-- The expression that takes a screenshot. -/
def capture (locator : Value) : Region → Except Fault String
  | .rect r => .ok (clipCapture r)
  | .other .none =>
    if locator.truthy then
      (literal locator).map fun l => "page.locator(" ++ l ++ ").screenshot()"
    else .ok pageCapture
  | .other v => .error (.noOperation v.kind "to_dict")

/-- A call with two numbers. -/
def call (function : String) (a b : Value) : String :=
  function ++ "(" ++ number a ++ ", " ++ number b ++ ")"

/-- A call with a label of a key. -/
def keyCall (function : String) (label : Value) : Except Fault (List String) :=
  (keyLiteral label).map fun l => [function ++ "(" ++ l ++ ")"]

/-- The statement for a run of moves. -/
def moveRun (x y steps : Value) : String :=
  if steps.truthy then
    "page.mouse.move(" ++ number x ++ ", " ++ number y ++ ", steps=" ++ steps.shown ++ ")"
  else call "page.mouse.move" x y

/-- The statements for an entry, without indentation. Comments and boundaries of steps have
none. -/
def statements : Entry → Except Fault (List String)
  | .mouseDown x y => .ok [call "page.mouse.move" x y, "page.mouse.down()"]
  | .mouseMove x y steps => .ok [moveRun x y steps]
  | .mouseUp => .ok ["page.mouse.up()"]
  | .click x y => .ok [call "page.mouse.click" x y]
  | .doubleClick x y => .ok [call "page.mouse.dblclick" x y]
  | .wheel x y dx dy => .ok [call "page.mouse.move" x y, call "page.mouse.wheel" dx dy]
  | .keyDown label => keyCall "page.keyboard.down" label
  | .keyUp label => keyCall "page.keyboard.up" label
  | .keyPress label => keyCall "page.keyboard.press" label
  | .screenshot name locator region => do
    let taken ← capture locator region
    let name ← literal name
    return ["assert_snapshot(" ++ taken ++ ", " ++ name ++ ")"]
  | .navigation url => (literal url).map fun l => ["page.goto(" ++ l ++ ")"]
  | .step which name => .error (.unrenderable (Entry.step which name).display)
  | .comment text => .error (.unrenderable (Entry.comment text).display)

/-- The lines of a comment; an empty one has one line. Characters with code zero are left
out. -/
def commentLines (text : String) : List String :=
  match Text.splitLines (String.ofList (text.toList.filter (· != '\x00'))) with
  | [] => [""]
  | lines => lines

/-! ### Blocks -/

/-- The blocks that are open, from the innermost to the body: whether each has received a
statement. -/
structure Blocks where
  innermost : Bool
  outer : List Bool

/-- Only the body is open, and it is empty. -/
def Blocks.start : Blocks :=
  ⟨false, []⟩

/-- The blocks after a statement. -/
def Blocks.fill (b : Blocks) : Blocks :=
  { b with innermost := true }

/-- The greatest size of what is repeated. -/
def sizeLimit : Int := Int.ofNat (Nat.pow 2 63)

/-- The number of levels in front of a line at a depth, the body having depth zero and `base`
levels. -/
def level (base : Value) (depth : Nat) : Except Fault Int := do
  let sum ← base.add (.int (depth + 1))
  match sum with
  | .bool b => return (if b then 1 else 0) - 1
  | .int i =>
    if sizeLimit ≤ i - 1 || i - 1 < -sizeLimit then .error .countTooLarge else return i - 1
  | sum => .error (.repetition sum.kind)

/-- The greatest number of characters in front of a line that can be held. -/
def memoryLimit : Int := Int.ofNat (Nat.pow 2 30)

/-- The blanks of a number of levels. -/
def blanks (levels : Int) : Except Fault String :=
  let count := levels * indent.length
  if sizeLimit ≤ count then .error .repetitionTooLong
  else if memoryLimit ≤ count then .error .memoryExhausted
  else .ok (String.join (List.replicate levels.toNat indent))

/-- The blanks in front of a line. -/
def margin (base : Value) (depth : Nat) : Except Fault String := do
  blanks (← level base depth)

/-- Lines at the depth of the innermost block. -/
def indented (base : Value) (b : Blocks) (lines : List String) : Except Fault (List String) :=
  (margin base b.outer.length).map fun m => lines.map (m ++ ·)

/-- The statement for an empty block, if the innermost is one. -/
def padding (base : Value) (b : Blocks) : Except Fault (List String) :=
  if b.innermost then .ok [] else indented base b ["pass"]

/-- The lines for the start of a step. -/
def openBlock (base : Value) (b : Blocks) (name : Value) :
    Except Fault (List String × Blocks) := do
  let l ← literal name
  let lines ← indented base b ["with allure.step(" ++ l ++ "):"]
  return (lines, ⟨false, true :: b.outer⟩)

/-- The lines for the end of a step; without an open one there are none. -/
def closeBlock (base : Value) (b : Blocks) : Except Fault (List String × Blocks) :=
  match b.outer with
  | [] => .ok ([], b)
  | filled :: outer => (padding base b).map fun lines => (lines, ⟨filled, outer⟩)

/-- The lines for a comment. -/
def commentBlock (base : Value) (b : Blocks) (text : Value) : Except Fault (List String) := do
  let m ← margin base b.outer.length
  match text with
  | .str text => return (commentLines text).map fun line => Text.trimEnd (m ++ "# " ++ line)
  | .bytes _ => .error (.notOctets .str)
  | v => .error (.noOperation v.kind "replace")

/-- The lines for an entry, and the blocks after it. -/
def entryLines (base : Value) (b : Blocks) : Entry → Except Fault (List String × Blocks)
  | .step which name => if Entry.isStart which then openBlock base b name else closeBlock base b
  | .comment text => (commentBlock base b text).map fun lines => (lines, b)
  | e => do
    let lines ← statements e
    let lines ← indented base b lines
    return (lines, b.fill)

/-- The lines for entries in order, and the blocks after them. -/
def logLines (base : Value) (b : Blocks) : List Entry → Except Fault (List String × Blocks)
  | [] => .ok ([], b)
  | e :: rest => do
    let (lines, b) ← entryLines base b e
    let (more, b) ← logLines base b rest
    return (lines ++ more, b)

/-- The lines that close the blocks `outer` and the one inside them, down to the body. -/
def closingLines (base : Value) (innermost : Bool) : List Bool → Except Fault (List String)
  | [] => padding base ⟨innermost, []⟩
  | filled :: outer => do
    let lines ← padding base ⟨innermost, filled :: outer⟩
    let more ← closingLines base filled outer
    return lines ++ more

/-! ### Logs -/

/-- A log followed by the ends of the steps that are open, the innermost first. -/
def closeSteps (log : List Entry) (openSteps : List Value) : List Entry :=
  log ++ openSteps.reverse.map fun name => .step (.str "end") name

/-- The lines of a log. -/
def render (log : List Entry) (openSteps : List Value) (base : Value) (closed : Bool) :
    Except Fault (List String) := do
  let (lines, b) ← logLines base .start (closeSteps log openSteps)
  if closed then
    let more ← closingLines base b.innermost b.outer
    return lines ++ more
  else return lines

/-- The whole script, without the newline at its end. -/
def scriptLines (log : List Entry) (openSteps : List Value) : Except Fault (List String) :=
  (render log openSteps (.int 1) true).map (header ++ ·)

/-- The whole script. -/
def text (log : List Entry) (openSteps : List Value) : Except Fault String :=
  (scriptLines log openSteps).map fun lines => Text.joinLines lines ++ "\n"

end SessionRecorder.Script
