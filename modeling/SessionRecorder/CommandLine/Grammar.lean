/-!
# Command line grammars

What the parts of a command line are called and what they mean: options with and without a value,
and one positional argument, which may be the name of a subcommand that takes the rest of the line.

## Main definitions

* `CommandLine.Flag` — an option.
* `CommandLine.Grammar` — the options and the positional argument of a command.
* `CommandLine.mainGrammar`, `CommandLine.recordGrammar`, `CommandLine.renderGrammar` — the
  grammars of the recorder's command line.
-/

namespace SessionRecorder.CommandLine

/-- An option: its names, the word for its value if it takes one, and what it is for. -/
structure Flag where
  names : List String
  value : Option String
  help : String
  deriving DecidableEq, Repr

/-- The positional argument of a command: one word, or the name of a subcommand that takes the
rest of the line. -/
inductive Positional where
  | word (name help : String)
  | subcommand (name : String) (choices : List (String × String))
  deriving DecidableEq, Repr

/-- The grammar of a command. -/
structure Grammar where
  program : String
  description : Option String
  flags : List Flag
  positional : Positional
  deriving DecidableEq, Repr

/-- The option that asks for help. -/
def helpFlag : Flag :=
  ⟨["-h", "--help"], none, "show this help message and exit"⟩

/-- The option for the settings file. -/
def settingsFlag : Flag :=
  ⟨["--settings"], some "SETTINGS",
    "Recorder settings JSON, applied before environment/INI overrides"⟩

/-- The option for more notes. -/
def verboseFlag : Flag :=
  ⟨["--verbose"], none, "Enable verbose logging"⟩

/-- The option for the directory of a recording. -/
def outputDirFlag : Flag :=
  ⟨["--output-dir"], some "OUTPUT_DIR", "Directory for the script and snapshots"⟩

/-- The option for the name of the script. -/
def scriptNameFlag : Flag :=
  ⟨["--script-name"], some "SCRIPT_NAME", "Script file name (default codegen.py)"⟩

/-- The option for a browser without a window. -/
def headlessFlag : Flag :=
  ⟨["--headless"], none, "Run the browser headless"⟩

/-- The option for the file of a rendered script. -/
def outputFlag : Flag :=
  ⟨["--output"], some "OUTPUT", "Write the script here instead of stdout"⟩

/-- The name of the program. -/
def programName : String := "ui-codegen"

/-- The grammar of the whole command line. -/
def mainGrammar : Grammar where
  program := programName
  description := some "Record a browser session as a Playwright test"
  flags := [helpFlag, settingsFlag, verboseFlag]
  positional := .subcommand "command"
    [("record", "Open a browser and record until the page is closed"),
      ("render", "Re-render a saved action log JSON")]

/-- The grammar of the subcommand that records. -/
def recordGrammar : Grammar where
  program := programName ++ " record"
  description := none
  flags := [helpFlag, outputDirFlag, scriptNameFlag, headlessFlag]
  positional := .word "url" "Page to open before recording starts"

/-- The grammar of the subcommand that renders. -/
def renderGrammar : Grammar where
  program := programName ++ " render"
  description := none
  flags := [helpFlag, outputFlag]
  positional := .word "log_json" "Action log written next to a recorded script"

/-- The name of the positional argument in a sentence. -/
def Positional.name : Positional → String
  | .word name _ => name
  | .subcommand name _ => name

/-- The positional argument in a help text. -/
def Positional.heading : Positional → String
  | .word name _ => name
  | .subcommand _ choices => "\x7b" ++ ",".intercalate (choices.map (·.1)) ++ "\x7d"

/-- An option in a usage line. -/
def Flag.usage (f : Flag) : String :=
  match f.value with
  | none => "[" ++ f.names.headD "" ++ "]"
  | some word => "[" ++ f.names.headD "" ++ " " ++ word ++ "]"

/-- An option in a help text. -/
def Flag.heading (f : Flag) : String :=
  match f.value with
  | none => ", ".intercalate f.names
  | some word => ", ".intercalate (f.names.map fun name => name ++ " " ++ word)

/-- An option in a sentence. -/
def Flag.phrase (f : Flag) : String :=
  "/".intercalate f.names

end SessionRecorder.CommandLine
