import SessionRecorder.CommandLine.Help
import SessionRecorder.Text.Digit
import SessionRecorder.Text.Quoted
/-!
# Arguments

The words of a command line sorted by a grammar. Options may stand anywhere and be cut short as
long as they are told apart; a value follows its option or is joined to it with an equals sign;
after two hyphens every word is positional. What fits nowhere is left over.

## Main definitions

* `CommandLine.classify` — a word taken for an option or for a positional argument.
* `CommandLine.Parsed` — the arguments of a command.
* `CommandLine.Stop` — a command line that is not carried out: help is asked for, or it is wrong.
* `CommandLine.parse` — the arguments of a command and what is left over.
-/

namespace SessionRecorder.CommandLine

/-- Why a command line is not carried out. -/
inductive Stop where
  | help (text : String)
  | refused (text : String)
  deriving DecidableEq, Repr

/-- How a value is joined to the name of an option. -/
inductive Joined where
  | nothing
  /-- Behind a long name and an equals sign. -/
  | equals (value : List Char)
  /-- Behind the letter of an option, with or without an equals sign. -/
  | adjacent (value : List Char)
  deriving DecidableEq, Repr

/-- A word of a command line, as a grammar takes it. -/
inductive Word where
  | plain (text : String)
  /-- Two hyphens. -/
  | separator
  /-- An option and what is joined to it. -/
  | flag (text : String) (flag : Flag) (joined : Joined)
  /-- What looks like an option and is none. -/
  | unknown (text : String)
  deriving DecidableEq, Repr

/-- The text of a word. -/
def Word.text : Word → String
  | .plain text => text
  | .separator => "--"
  | .flag text _ _ => text
  | .unknown text => text

/-- Whether a word has the form of an option. -/
def Word.isOption : Word → Bool
  | .flag .. => true
  | .unknown _ => true
  | _ => false

/-! ### Words -/

/-- An option found for a word: its name, and the value joined to it. -/
abbrev Match := Flag × String × Joined

/-- The names of the options of a grammar. -/
def names (g : Grammar) : List (Flag × String) :=
  g.flags.flatMap fun f => f.names.map (f, ·)

/-- The option of a name. -/
def named? (g : Grammar) (name : List Char) : Option (Flag × String) :=
  (names g).find? fun entry => entry.2.toList == name

/-- A value joined to a name. -/
def joinedTo (name value : List Char) : Joined :=
  match name with
  | '-' :: '-' :: _ => .equals value
  | _ => .adjacent value

/-- A word cut at its first equals sign. -/
def splitJoined (cs : List Char) : List Char × Joined :=
  match cs.dropWhile (· != '=') with
  | _ :: value =>
    let name := cs.takeWhile (· != '=')
    (name, joinedTo name value)
  | [] => (cs, .nothing)

/-- The options that a word may be short for. -/
def candidates (g : Grammar) (cs : List Char) : List Match :=
  match cs with
  | '-' :: '-' :: _ =>
    let (start, joined) := splitJoined cs
    ((names g).filter fun entry => start.isPrefixOf entry.2.toList).map fun (f, name) =>
      (f, name, joined)
  | _ =>
    (names g).filterMap fun (f, name) =>
      if name.toList == cs.take 2 then some (f, name, .adjacent (cs.drop 2))
      else if cs.isPrefixOf name.toList then some (f, name, .nothing)
      else none

/-- Characters without a line end behind them. -/
def withoutLineEnd (cs : List Char) : List Char :=
  if cs.getLast? == some '\n' then cs.dropLast else cs

/-- Whether a character is a digit of some script. -/
def isDigit (c : Char) : Bool :=
  (Text.digitValue? c).isSome

/-- Whether a word is a negative number: a hyphen and digits, with or without a fraction. A line
end may follow. -/
def isNegativeNumber (cs : List Char) : Bool :=
  match withoutLineEnd cs with
  | '-' :: rest =>
    match rest.dropWhile isDigit with
    | [] => !rest.isEmpty
    | '.' :: fraction => !fraction.isEmpty && fraction.all isDigit
    | _ => false
  | _ => false

/-- A word that might be short for several options. -/
def ambiguous (g : Grammar) (text : String) (found : List Match) : Stop :=
  .refused (refusal g ("ambiguous option: " ++ text ++ " could match " ++
    ", ".intercalate (found.map fun m => m.2.1)))

/-- A word that begins with a hyphen and is longer. -/
def classifyHyphened (g : Grammar) (text : String) : Except Stop Word :=
  let cs := text.toList
  let (start, joined) := splitJoined cs
  match named? g cs, named? g start with
  | some (f, _), _ => .ok (.flag text f .nothing)
  | none, some (f, _) => .ok (.flag text f joined)
  | none, none =>
    match candidates g cs with
    | [(f, _, joined)] => .ok (.flag text f joined)
    | [] =>
      if isNegativeNumber cs || cs.contains ' ' then .ok (.plain text) else .ok (.unknown text)
    | found => .error (ambiguous g text found)

/-- A word in front of two hyphens. -/
def classify (g : Grammar) (text : String) : Except Stop Word :=
  match text.toList with
  | '-' :: _ :: _ => classifyHyphened g text
  | _ => .ok (.plain text)

/-- The words of a command line. After two hyphens all are positional. -/
def classifyAll (g : Grammar) : List String → Except Stop (List Word)
  | [] => .ok []
  | text :: rest =>
    if text == "--" then .ok (.separator :: rest.map .plain)
    else do
      let w ← classify g text
      let ws ← classifyAll g rest
      return w :: ws

/-! ### Arguments -/

/-- The arguments of a command: the options that were given, each with the words it was given, of
which there is at most one; the positional argument, with the words that a subcommand takes; and
what is left over. -/
structure Parsed where
  flags : List (Flag × List String)
  positional : Option (List String)
  extras : List String
  deriving Repr

/-- No arguments. -/
def Parsed.none : Parsed :=
  ⟨[], Option.none, []⟩

/-- The words with which an option was given last. -/
def Parsed.words? (p : Parsed) (f : Flag) : Option (List String) :=
  (p.flags.reverse.find? (·.1 == f)).map (·.2)

/-- The value with which an option was given last. -/
def Parsed.value? (p : Parsed) (f : Flag) : Option String :=
  (p.words? f).bind List.head?

/-- Whether an option was given. -/
def Parsed.given (p : Parsed) (f : Flag) : Bool :=
  (p.words? f).isSome

/-- An option is wrong. -/
def wrongFlag (g : Grammar) (f : Flag) (sentence : String) : Stop :=
  .refused (refusal g ("argument " ++ f.phrase ++ ": " ++ sentence))

/-- An option with what was joined to it. -/
abbrev Given := Flag × Option (List Char)

/-- An option that takes no value has one joined to it. -/
def ignoredValue (g : Grammar) (f : Flag) (value : List Char) : Stop :=
  wrongFlag g f ("ignored explicit argument " ++ Text.quoted (String.ofList value))

/-- The options whose letters stand behind the letter of an option that takes no value. The first
that takes one has the rest for its value. -/
def spread (g : Grammar) (f : Flag) : List Char → Except Stop (List Given)
  | [] => .error (ignoredValue g f [])
  | c :: rest =>
    match named? g ['-', c], rest with
    | none, _ => .error (ignoredValue g f (c :: rest))
    | some (next, _), [] => .ok [(f, none), (next, none)]
    | some (next, _), rest =>
      if next.value.isSome then .ok [(f, none), (next, some rest)]
      else (spread g next rest).map fun given => (f, none) :: given

/-- The options in a word that was found to be one. -/
def givenIn (g : Grammar) (f : Flag) (joined : Joined) : Except Stop (List Given) :=
  match f.value, joined with
  | _, .nothing => .ok [(f, none)]
  | some _, .equals value => .ok [(f, some value)]
  | some _, .adjacent value => .ok [(f, some value)]
  | none, .equals value => .error (ignoredValue g f value)
  | none, .adjacent value => spread g f value

/-- The words that a joined value gives: two hyphens alone give none. -/
def wordsOf (value : List Char) : List String :=
  if value = ['-', '-'] then [] else [String.ofList value]

/-- The words of options; the last one may have to take its value from the words behind it. What
remains of those. -/
def valuesOf (g : Grammar) (rest : List Word) :
    List Given → Except Stop (List (Flag × List String) × List Word)
  | [] => .ok ([], rest)
  | (f, joined) :: more =>
    match f.value, joined, more, rest with
    | none, _, more, rest => (valuesOf g rest more).map fun (vs, rest) => ((f, []) :: vs, rest)
    | some _, some value, more, rest =>
      (valuesOf g rest more).map fun (vs, rest) => ((f, wordsOf value) :: vs, rest)
    | some _, none, more, .plain value :: rest =>
      (valuesOf g rest more).map fun (vs, rest) => ((f, [value]) :: vs, rest)
    | some _, none, _, _ => .error (wrongFlag g f "expected one argument")

/-- Options take effect in order; help stops everything. -/
def accept (g : Grammar) (p : Parsed) : List (Flag × List String) → Except Stop Parsed
  | [] => .ok p
  | (f, words) :: rest =>
    if f = helpFlag then .error (.help (help g))
    else accept g { p with flags := p.flags ++ [(f, words)] } rest

/-- The positional argument at the front of words, and the words behind it. -/
def positionalOf (g : Grammar) (ws : List Word) : Option (List String × List Word) :=
  match g.positional, ws.dropWhile (· == .separator) with
  | .word .., .plain text :: rest => some ([text], rest.dropWhile (· == .separator))
  | .subcommand .., .plain _ :: _ => some (ws.map Word.text, [])
  | _, _ => none

/-- The positional argument taken from the front of words, if it is still missing. -/
def takePositional (g : Grammar) (p : Parsed) (ws : List Word) : Option (Parsed × List Word) :=
  if p.positional.isSome then none
  else (positionalOf g ws).map fun (texts, rest) => ({ p with positional := some texts }, rest)

/-- Words that fit nowhere. -/
def leave (p : Parsed) (ws : List Word) : Parsed :=
  { p with extras := p.extras ++ ws.map Word.text }

/-- The arguments in words; every step takes at least one of them. -/
def parseWords (g : Grammar) : (fuel : Nat) → Parsed → List Word → Except Stop Parsed
  | 0, p, _ => .ok p
  | _, p, [] => .ok p
  | fuel + 1, p, .flag _ f joined :: rest => do
    let given ← givenIn g f joined
    let (values, rest) ← valuesOf g rest given
    let p ← accept g p values
    parseWords g fuel p rest
  | fuel + 1, p, .unknown text :: rest => parseWords g fuel (leave p [.unknown text]) rest
  | fuel + 1, p, ws =>
    match takePositional g p ws, ws.any Word.isOption with
    | some (p, rest), true => parseWords g fuel p rest
    | none, true =>
      parseWords g fuel (leave p (ws.takeWhile fun w => !w.isOption))
        (ws.dropWhile fun w => !w.isOption)
    | some (p, rest), false => .ok (leave p rest)
    | none, false => .ok (leave p ws)

/-- The arguments of a command. The positional one must be there. -/
def parse (g : Grammar) (line : List String) : Except Stop Parsed := do
  let ws ← classifyAll g line
  let p ← parseWords g (ws.length + 1) .none ws
  if p.positional.isNone then
    throw (.refused (refusal g
      ("the following arguments are required: " ++ g.positional.name)))
  return p

/-! ### Commands -/

/-- Where a rendered script goes. -/
inductive Destination where
  | printed
  | file (path : String)
  /-- A file is asked for and none is named. -/
  | unnamed
  deriving DecidableEq, Repr

/-- What a command line asks for. -/
inductive Command where
  | record (url : String) (outputDir scriptName : Option String) (headless : Bool)
  | render (log : String) (output : Destination)
  deriving DecidableEq, Repr

/-- A command line that is in order. -/
structure Request where
  settings : Option String
  verbose : Bool
  command : Command
  deriving DecidableEq, Repr

/-- The grammar of a subcommand. -/
def subgrammar? (name : String) : Option Grammar :=
  if name == "record" then some recordGrammar
  else if name == "render" then some renderGrammar
  else none

/-- The only word of a positional argument. -/
def Parsed.word (p : Parsed) : String :=
  (p.positional.getD []).headD ""

/-- Where the arguments want a rendered script. -/
def Parsed.destination (p : Parsed) : Destination :=
  match p.words? outputFlag with
  | .none => .printed
  | some [] => .unnamed
  | some (path :: _) => .file path

/-- The command of a subcommand's arguments. -/
def commandOf (name : String) (p : Parsed) : Command :=
  if name == "record" then
    .record p.word (p.value? outputDirFlag) (p.value? scriptNameFlag) (p.given headlessFlag)
  else .render p.word p.destination

/-- A subcommand that there is none of. -/
def unknownChoice (g : Grammar) (name : String) (choices : List (String × String)) : Stop :=
  .refused (refusal g ("argument " ++ g.positional.name ++ ": invalid choice: " ++
    Text.quoted name ++ " (choose from " ++
    ", ".intercalate (choices.map fun choice => Text.quoted choice.1) ++ ")"))

/-- The choices of a positional argument. -/
def Positional.choices : Positional → List (String × String)
  | .word .. => []
  | .subcommand _ choices => choices

/-- What a command line asks for. Words that fit nowhere are refused last. -/
def request (line : List String) : Except Stop Request := do
  let p ← parse mainGrammar line
  let words := p.positional.getD []
  match subgrammar? (words.headD "") with
  | none => .error (unknownChoice mainGrammar (words.headD "") mainGrammar.positional.choices)
  | some g =>
    let sub ← parse g words.tail
    let extras := p.extras ++ sub.extras
    if extras.isEmpty then
      return ⟨p.value? settingsFlag, p.given verboseFlag, commandOf (words.headD "") sub⟩
    else
      .error (.refused (refusal mainGrammar
        ("unrecognized arguments: " ++ " ".intercalate extras)))

end SessionRecorder.CommandLine
