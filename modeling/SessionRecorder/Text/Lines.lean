/-!
# Lines

Three ways in which a text falls into lines: at every line boundary of Unicode (for text shown
to people), at the newlines of a file (after its line ends have been made uniform), and by joining
lines back with newlines.

## Main definitions

* `Text.splitLines` — the lines of a text at any Unicode line boundary, boundaries dropped.
* `Text.unifyNewlines` — a text with each of `\r\n` and `\r` turned into `\n`.
* `Text.joinLines` — lines joined with newlines between them.
-/

namespace SessionRecorder.Text

/-- The characters that end a line on their own: newline, carriage return, vertical tab, form
feed, the separator controls U+001C to U+001E, U+0085 and the line and paragraph separators. -/
def isLineBoundary (c : Char) : Bool :=
  [0x0a, 0x0b, 0x0c, 0x0d, 0x1c, 0x1d, 0x1e, 0x85, 0x2028, 0x2029].contains c.toNat

/-- The lines of a text, `line` holding the characters of the current line in reverse. A carriage
return and a newline that follows it are one boundary, and a boundary at the end of the text
opens no further line. -/
def splitLinesFrom (line : List Char) : List Char → List (List Char)
  | [] => if line.isEmpty then [] else [line.reverse]
  | '\r' :: '\n' :: rest => line.reverse :: splitLinesFrom [] rest
  | c :: rest =>
    if isLineBoundary c then line.reverse :: splitLinesFrom [] rest
    else splitLinesFrom (c :: line) rest

/-- The lines of a text, without their boundaries. -/
def splitLines (s : String) : List String :=
  (splitLinesFrom [] s.toList).map String.ofList

/-- A list of characters with every line end written as one newline. -/
def unifyNewlineChars : List Char → List Char
  | [] => []
  | '\r' :: '\n' :: rest => '\n' :: unifyNewlineChars rest
  | '\r' :: rest => '\n' :: unifyNewlineChars rest
  | c :: rest => c :: unifyNewlineChars rest

/-- A text with every line end written as one newline, as text files are read. -/
def unifyNewlines (s : String) : String :=
  String.ofList (unifyNewlineChars s.toList)

/-- The lines of a list of characters, each with the newline that ends it; `line` holds the
current line in reverse. -/
def newlineLinesFrom (line : List Char) : List Char → List (List Char)
  | [] => if line.isEmpty then [] else [line.reverse]
  | c :: rest =>
    if c == '\n' then (c :: line).reverse :: newlineLinesFrom [] rest
    else newlineLinesFrom (c :: line) rest

/-- Lines joined with one newline between each two. -/
def joinLines (lines : List String) : String :=
  String.intercalate "\n" lines

end SessionRecorder.Text
