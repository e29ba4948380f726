import SessionRecorder.CommandLine.Grammar
import SessionRecorder.Text.Lines
/-!
# Usage and help texts

The texts that explain a command line, laid out for lines of 78 characters: a usage line, wrapped
between its parts if it is too long, and tables with what each argument is for in a second column.

## Main definitions

* `CommandLine.usage` — the usage of a command.
* `CommandLine.help` — the help text of a command.
-/

namespace SessionRecorder.CommandLine

/-- The greatest length of a line. -/
def lineWidth : Nat := 78

/-- The column in which explanations begin at the latest. -/
def latestColumn : Nat := 24

/-- Some blanks. -/
def blanks (n : Nat) : String :=
  String.ofList (List.replicate n ' ')

/-- Words laid out in lines of at most `width` characters, `line` being the words of the current
line in reverse and `used` its length. A line has at least one word. -/
def fillLines (width : Nat) (line : List String) (used : Nat) : List String → List (List String)
  | [] => if line.isEmpty then [] else [line.reverse]
  | word :: rest =>
    if line.isEmpty then fillLines width [word] word.length rest
    else if used + 1 + word.length ≤ width then
      fillLines width (word :: line) (used + 1 + word.length) rest
    else line.reverse :: fillLines width [word] word.length rest

/-- Words in lines of at most `width` characters. -/
def wrap (width : Nat) (words : List String) : List String :=
  (fillLines width [] 0 words).map (" ".intercalate ·)

/-! ### Usage -/

/-- What stands in front of a usage. -/
def usageMark : String := "usage: "

/-- The parts of the usage of a positional argument. -/
def Positional.usageParts : Positional → List String
  | .word name _ => [name]
  | .subcommand _ choices => ["\x7b" ++ ",".intercalate (choices.map (·.1)) ++ "\x7d", "..."]

/-- The lines of a usage: one if everything fits, else the options wrapped behind the name of the
program, and the positional argument on a line of its own. -/
def usageLines (g : Grammar) : List String :=
  let parts := g.flags.map Flag.usage
  let whole := usageMark ++ " ".intercalate (g.program :: parts ++ g.positional.usageParts)
  if whole.length ≤ lineWidth then [whole]
  else
    let margin := usageMark.length + g.program.length + 1
    let wrapped := wrap (lineWidth - margin) parts ++
      wrap (lineWidth - margin) g.positional.usageParts
    match wrapped with
    | [] => [usageMark ++ g.program]
    | first :: rest => (usageMark ++ g.program ++ " " ++ first) :: rest.map (blanks margin ++ ·)

/-- The usage of a command. -/
def usage (g : Grammar) : String :=
  Text.joinLines (usageLines g) ++ "\n"

/-! ### Help -/

/-- A row of a table: its indentation, what it is about, and the explanation if there is one. -/
structure Row where
  indent : Nat
  heading : String
  help : String

/-- The rows for a positional argument. -/
def Positional.rows : Positional → List Row
  | .word name help => [⟨2, name, help⟩]
  | .subcommand name choices =>
    ⟨2, (Positional.subcommand name choices).heading, ""⟩ ::
      choices.map fun choice => ⟨4, choice.1, choice.2⟩

/-- The row for an option. -/
def Flag.row (f : Flag) : Row :=
  ⟨2, f.heading, f.help⟩

/-- The column in which the explanations of rows begin. A row of a subcommand counts as long as
one that is not indented further. -/
def helpColumn (rows : List Row) : Nat :=
  min ((rows.map fun r => r.heading.length + 2).foldl max 0 + 2) latestColumn

/-- The lines of a row whose explanation begins in a column. -/
def rowLines (column : Nat) (r : Row) : List String :=
  let head := blanks r.indent ++ r.heading
  match wrap (lineWidth - column) ((r.help.splitOn " ")) with
  | first :: rest =>
    if r.help.isEmpty then [head]
    else if r.indent + r.heading.length + 2 ≤ column then
      (head ++ blanks (column - head.length) ++ first) :: rest.map (blanks column ++ ·)
    else head :: (first :: rest).map (blanks column ++ ·)
  | [] => [head]

/-- The help text of a command. -/
def help (g : Grammar) : String :=
  let arguments := g.positional.rows
  let options := g.flags.map Flag.row
  let column := helpColumn (arguments ++ options)
  let about := (g.description.map fun d => [d, ""]).getD []
  Text.joinLines (usageLines g ++ [""] ++ about ++ ["positional arguments:"] ++
    arguments.flatMap (rowLines column) ++ ["", "options:"] ++
    options.flatMap (rowLines column)) ++ "\n"

/-- The sentence with which a command line is refused. -/
def refusal (g : Grammar) (sentence : String) : String :=
  usage g ++ g.program ++ ": error: " ++ sentence ++ "\n"

end SessionRecorder.CommandLine
