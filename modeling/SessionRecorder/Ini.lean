import SessionRecorder.Text.Blank
import SessionRecorder.Text.Lower
/-!
# Configuration files in sections

Files of lines `option = value` or `option: value` under headers `[section]`. Option names are in
lower case. A line that is indented deeper than its option continues the value. Lines that begin
with `#` or `;` are comments. Options of the section `DEFAULT` belong to every section.

## Main definitions

* `Ini.Document` — the sections of a file in order, with their options.
* `Ini.readLines` — the document that lines spell, or that they spell none.
* `Ini.Document.raw?` — the text of an option, the defaults included.

## Implementation notes

A line that is neither a header nor an option spoils the document, but only at its end: lines
after it are still looked at, and may be found undecodable first. A file that is cut short by
undecodable octets is told apart by `Ini.readPartial`.
-/

namespace SessionRecorder.Ini

/-- A section: its name and its options with the lines of their values. -/
structure Section where
  name : String
  options : List (String × List String)
  deriving DecidableEq, Repr

/-- The sections of a file. -/
structure Document where
  sections : List Section
  deriving DecidableEq, Repr

/-- The section whose options belong to every section. -/
def defaultSection : String := "DEFAULT"

/-- The option that the following lines may continue. -/
structure Current where
  openSection : Option String
  openOption : Option String
  /-- The indentation of the latest line that was no continuation. -/
  indent : Nat
  deriving Repr

/-- What has been read of a file: the document so far, whether a line was neither header nor
option, and the option in progress. -/
structure Progress where
  document : Document
  spoiled : Bool
  current : Current

/-- Nothing has been read. -/
def Progress.start : Progress :=
  ⟨⟨[]⟩, false, ⟨none, none, 0⟩⟩

/-! ### Lines -/

/-- The name between the brackets of a header: from the bracket at the front to the last closing
one, if there is something between them. -/
def header? : List Char → Option String
  | '[' :: rest =>
    match rest.reverse.dropWhile (· != ']') with
    | _ :: name =>
      if name.isEmpty then none else some (String.ofList name.reverse)
    | [] => none
  | _ => none

/-- The characters in front of the first `=` or `:`, and those behind it. -/
def splitOption? : List Char → Option (List Char × List Char)
  | [] => none
  | c :: rest =>
    if c == '=' || c == ':' then some ([], rest)
    else (splitOption? rest).map fun (before, after) => (c :: before, after)

/-- The name of an option, in lower case and without the blanks at its end. -/
def optionName (cs : List Char) : String :=
  Text.lower (String.ofList (Text.dropEndWhile Text.isBlank cs))

/-- A line without its blanks at both ends. -/
def trimmed (cs : List Char) : List Char :=
  Text.stripWhile Text.isBlank cs

/-- Whether a line is a comment. -/
def isComment (line : List Char) : Bool :=
  match trimmed line with
  | c :: _ => c == '#' || c == ';'
  | [] => false

/-- The number of blanks at the front of a line. -/
def indentOf (line : List Char) : Nat :=
  (line.takeWhile Text.isBlank).length

/-! ### Documents -/

/-- The section of a name. -/
def Document.find? (d : Document) (name : String) : Option Section :=
  d.sections.find? (·.name == name)

/-- A document with one section changed. -/
def Document.change (d : Document) (name : String) (f : Section → Section) : Document :=
  ⟨d.sections.map fun s => if s.name == name then f s else s⟩

/-- A section with one more option. -/
def Section.add (s : Section) (option value : String) : Section :=
  { s with options := s.options ++ [(option, [value])] }

/-- A section with one more line in the value of an option. -/
def Section.extend (s : Section) (option line : String) : Section :=
  { s with options := s.options.map fun (o, lines) =>
      if o == option then (o, lines ++ [line]) else (o, lines) }

/-- A header: a new section, or the defaults once more. Another section must not be opened
twice. -/
def beginSection (p : Progress) (indent : Nat) (name : String) : Option Progress :=
  let current : Current := ⟨some name, none, indent⟩
  if (p.document.find? name).isSome then
    if name == defaultSection then some { p with current := current } else none
  else
    some { p with document := ⟨p.document.sections ++ [⟨name, []⟩]⟩, current := current }

/-- An option: it must be new in its section. One without a name spoils the document. -/
def addOption (p : Progress) (indent : Nat) (sectionName : String) (before after : List Char) :
    Option Progress :=
  let option := optionName before
  let known := (p.document.find? sectionName).any fun s => s.options.any (·.1 == option)
  if known then none
  else
    some
      { document := p.document.change sectionName
          (·.add option (String.ofList (trimmed after)))
        spoiled := p.spoiled || option.isEmpty
        current := ⟨some sectionName, some option, indent⟩ }

/-- The option in progress, if lines can continue it. -/
def Current.continued? (c : Current) : Option (String × String) :=
  match c.openSection, c.openOption with
  | some s, some o => if o.isEmpty then none else some (s, o)
  | _, _ => none

/-- A line with something on it. Nothing if the document cannot be read on. -/
def readFilled (p : Progress) (line : List Char) : Option Progress :=
  let text := trimmed line
  let indent := indentOf line
  match p.current.continued?, decide (p.current.indent < indent) with
  | some (s, o), true =>
    some { p with document := p.document.change s (·.extend o (String.ofList text)) }
  | _, _ =>
    match header? text, p.current.openSection with
    | some name, _ => beginSection p indent name
    | none, none => none
    | none, some s =>
      match splitOption? text with
      | some (before, after) => addOption p indent s before after
      | none => some { p with spoiled := true, current := { p.current with indent := indent } }

/-- An empty line: one more line in the value in progress. -/
def readEmpty (p : Progress) : Progress :=
  match p.current.continued? with
  | some (s, o) => { p with document := p.document.change s (·.extend o "") }
  | none => p

/-- One line. -/
def readLine (p : Progress) (line : List Char) : Option Progress :=
  if isComment line then some p
  else if (trimmed line).isEmpty then some (readEmpty p)
  else readFilled p line

/-- Lines in order, as long as the document can be read. -/
def readPartial (p : Progress) : List (List Char) → Option Progress
  | [] => some p
  | line :: rest =>
    match readLine p line with
    | none => none
    | some p => readPartial p rest

/-- The document that lines spell. -/
def readLines (lines : List (List Char)) : Option Document :=
  match readPartial .start lines with
  | some p => if p.spoiled then none else some p.document
  | none => none

/-! ### Look-up -/

/-- The text of a value: its lines, without the blanks at the end. -/
def valueOf (lines : List String) : String :=
  Text.trimEnd ("\n".intercalate lines)

/-- The text of an option in a section, not looking at the defaults. -/
def Section.value? (s : Section) (option : String) : Option String :=
  (s.options.find? (·.1 == option)).map fun found => valueOf found.2

/-- Whether a document has a section; the defaults are none. -/
def Document.has (d : Document) (name : String) : Bool :=
  name != defaultSection && (d.find? name).isSome

/-- The text of an option as it was written, from its section or else from the defaults. -/
def Document.raw? (d : Document) (name option : String) : Option String :=
  ((d.find? name).bind (·.value? option)).or
    ((d.find? defaultSection).bind (·.value? option))

end SessionRecorder.Ini
