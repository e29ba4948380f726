import SessionRecorder.Fault
/-!
# Journal notes

What a program notes down while it works: a sentence with a level and the component it comes from.
A sentence may quote a fault, which is spelled only when the note is shown, and may be followed by
the trace of one.

## Main definitions

* `Note` — a sentence of the journal.
* `Note.text` — the sentence, given how faults are spelled.
-/

namespace SessionRecorder

/-- How much a note matters. -/
inductive Level where
  | debug
  | info
  | warning
  | error
  deriving DecidableEq, Repr

/-- The name of a level. -/
def Level.name : Level → String
  | .debug => "DEBUG"
  | .info => "INFO"
  | .warning => "WARNING"
  | .error => "ERROR"

/-- The component that a note comes from. -/
inductive Component where
  | normalizer
  | writer
  | recorder
  | page
  | report
  | commandLine
  | snapshots
  deriving DecidableEq, Repr

/-- The name of a component in the journal. -/
def Component.name : Component → String
  | .normalizer => "ui_codegen.automation.normalizer"
  | .writer => "ui_codegen.automation.driver"
  | .recorder => "ui_codegen.automation.recorder"
  | .page => "ui_codegen.automation.browser"
  | .report => "ui_codegen.automation.reporting.allure_helpers"
  | .commandLine => "ui_codegen.cli"
  | .snapshots => "ui_codegen.snapshots"

/-- A piece of a sentence. -/
inductive Piece where
  | text (s : String)
  | fault (f : Fault)

/-- A sentence of the journal. -/
structure Note where
  level : Level
  component : Component
  pieces : List Piece
  trace : Option Fault := none

namespace Note

/-- A note without faults. -/
def plain (level : Level) (component : Component) (sentence : String) : Note :=
  ⟨level, component, [.text sentence], none⟩

/-- A note that quotes a fault between two texts. -/
def quoting (level : Level) (component : Component) (before : String) (f : Fault)
    (after : String) : Note :=
  ⟨level, component, [.text before, .fault f, .text after], none⟩

/-- The sentence of a note, given how faults are spelled. -/
def text (spell : Fault → String) (n : Note) : String :=
  String.join (n.pieces.map fun
    | .text s => s
    | .fault f => spell f)

end Note

end SessionRecorder
