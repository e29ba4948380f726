/-!
# Words of a command

The words of a command line written as one text. Blanks separate words; quotes of either kind
keep blanks inside a word; a backslash takes the next character as it is, but between double
quotes only in front of a double quote or a backslash.

## Main definitions

* `Command.Problem` — a quote that is not closed, or a backslash at the end.
* `Command.words` — the words of a command.
-/

namespace SessionRecorder.Command

/-- Why a text has no words. -/
inductive Problem where
  | unclosedQuote
  | nothingEscaped
  deriving DecidableEq, Repr

/-- The sentence for a problem. -/
def Problem.message : Problem → String
  | .unclosedQuote => "No closing quotation"
  | .nothingEscaped => "No escaped character"

/-- Where the scan of a command stands. -/
inductive Place where
  /-- Between words. -/
  | outside
  /-- In a word, outside quotes. -/
  | inside
  | quoted (quote : Char)
  /-- After a backslash outside quotes. -/
  | escaped
  /-- After a backslash between double quotes. -/
  | escapedInQuotes
  deriving DecidableEq, Repr

/-- Blanks that separate words. -/
def isSeparator (c : Char) : Bool :=
  c == ' ' || c == '\t' || c == '\r' || c == '\n'

/-- Whether a character opens and closes a quoted part. -/
def isQuote (c : Char) : Bool :=
  c == '\'' || c == '"'

/-- Where a character that begins or continues a word leads, and whether it belongs to the
word. -/
def enter (c : Char) : Place × List Char :=
  if isQuote c then (.quoted c, [])
  else if c == '\\' then (.escaped, [])
  else (.inside, [c])

/-- The words from a place on, `word` holding the characters of the current word in reverse. -/
def scan (place : Place) (word : List Char) : List Char → Except Problem (List (List Char))
  | [] =>
    match place with
    | .outside => .ok []
    | .inside => .ok [word.reverse]
    | .quoted _ => .error .unclosedQuote
    | .escaped => .error .nothingEscaped
    | .escapedInQuotes => .error .nothingEscaped
  | c :: rest =>
    match place with
    | .outside =>
      if isSeparator c then scan .outside [] rest
      else scan (enter c).1 (enter c).2 rest
    | .inside =>
      if isSeparator c then (scan .outside [] rest).map (word.reverse :: ·)
      else scan (enter c).1 ((enter c).2 ++ word) rest
    | .quoted quote =>
      if c == quote then scan .inside word rest
      else if c == '\\' && quote == '"' then scan .escapedInQuotes word rest
      else scan (.quoted quote) (c :: word) rest
    | .escaped => scan .inside (c :: word) rest
    | .escapedInQuotes =>
      if c == '"' || c == '\\' then scan (.quoted '"') (c :: word) rest
      else scan (.quoted '"') (c :: '\\' :: word) rest

/-- The words of a command. -/
def words (command : String) : Except Problem (List String) :=
  (scan .outside [] command.toList).map fun ws => ws.map String.ofList

end SessionRecorder.Command
