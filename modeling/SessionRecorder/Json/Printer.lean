import SessionRecorder.Numeral
import SessionRecorder.Value.Display
/-!
# Writing JSON

Values as JSON text in ASCII, either on one line or with every item on a line of its own. Octets
have no JSON form, and neither have whole numbers with more digits than are read; doubles that are
no numbers are written by name.

## Main definitions

* `Json.quote` — a text between double quotes, with escapes for whatever is not ASCII.
* `Json.compact` — a value on one line.
* `Json.indented` — a value over several lines.
* `Json.firstUnwritable?` — the first part of a value that has no JSON form.
-/

namespace SessionRecorder.Json

/-- The escape of one unit of UTF-16. -/
def unitEscape (n : Nat) : List Char :=
  '\\' :: 'u' :: Text.hexDigits 4 n

/-- A character between the quotes of a JSON text. -/
def escapeChar (c : Char) : List Char :=
  if c == '"' then ['\\', '"']
  else if c == '\\' then ['\\', '\\']
  else if c == '\n' then ['\\', 'n']
  else if c == '\r' then ['\\', 'r']
  else if c == '\t' then ['\\', 't']
  else if c.toNat == 0x08 then ['\\', 'b']
  else if c.toNat == 0x0c then ['\\', 'f']
  else if 0x20 ≤ c.toNat && c.toNat < 0x7f then [c]
  else if c.toNat < 0x10000 then unitEscape c.toNat
  else
    unitEscape (0xd800 + (c.toNat - 0x10000) / 0x400) ++
      unitEscape (0xdc00 + (c.toNat - 0x10000) % 0x400)

/-- A text between double quotes. -/
def quoteChars (cs : List Char) : List Char :=
  '"' :: cs.flatMap escapeChar ++ ['"']

/-- A text between double quotes. -/
def quote (s : String) : String :=
  String.ofList (quoteChars s.toList)

/-- Doubles are spelled as they are displayed, but for the values that are no numbers. -/
def numberStyle : Binary64.NumberStyle :=
  { Value.numberStyle with nanWord := "NaN".toList, infinityWord := "Infinity".toList }

/-- Whether a whole number has no more digits than are read. -/
def isShort (i : Int) : Bool :=
  decide ((Binary64.digitChars i.natAbs).length ≤ Numeral.digitLimit)

mutual

/-- The kind of the first part of a value that has no JSON form, if there is one. -/
def firstUnwritable? : Value → Option Value.Kind
  | .bytes _ => some .bytes
  | .int i => if isShort i then none else some .int
  | .list items => firstUnwritableItem? items
  | .dict fields => firstUnwritableField? fields
  | _ => none

/-- The kind of the first part of a list's items that has no JSON form. -/
def firstUnwritableItem? : List Value → Option Value.Kind
  | [] => none
  | v :: rest => (firstUnwritable? v).or (firstUnwritableItem? rest)

/-- The kind of the first part of a record's fields that has no JSON form. -/
def firstUnwritableField? : List (String × Value) → Option Value.Kind
  | [] => none
  | (_, v) :: rest => (firstUnwritable? v).or (firstUnwritableField? rest)

end

/-- The characters of a whole number. -/
def intChars (i : Int) : List Char :=
  Binary64.withSign (decide (i < 0)) (Binary64.digitChars i.natAbs)

/-- Pieces with a separator between each two. -/
def separated (separator : List Char) : List (List Char) → List Char
  | [] => []
  | [piece] => piece
  | piece :: rest => piece ++ separator ++ separated separator rest

mutual

/-- The characters of a value on one line. Octets are left out. -/
def compactChars : Value → List Char
  | .none => "null".toList
  | .bool b => if b then "true".toList else "false".toList
  | .int i => intChars i
  | .float x => x.format numberStyle
  | .str s => quoteChars s.toList
  | .bytes _ => []
  | .list items => '[' :: separated [',', ' '] (compactItems items) ++ [']']
  | .dict fields => '\x7b' :: separated [',', ' '] (compactFields fields) ++ ['\x7d']

/-- The items of a list, each on one line. -/
def compactItems : List Value → List (List Char)
  | [] => []
  | v :: rest => compactChars v :: compactItems rest

/-- The fields of a record, each on one line. -/
def compactFields : List (String × Value) → List (List Char)
  | [] => []
  | (k, v) :: rest =>
    (quoteChars k.toList ++ [':', ' '] ++ compactChars v) :: compactFields rest

end

/-- A value on one line. -/
def compact (v : Value) : String :=
  String.ofList (compactChars v)

/-- A new line, indented by two blanks for each level. -/
def freshLine (level : Nat) : List Char :=
  '\n' :: List.replicate (2 * level) ' '

/-- Pieces between brackets, each on a line of its own one level deeper. -/
def block (level : Nat) (opening closing : Char) (pieces : List (List Char)) : List Char :=
  if pieces.isEmpty then [opening, closing]
  else
    opening :: freshLine (level + 1) ++ separated (',' :: freshLine (level + 1)) pieces ++
      freshLine level ++ [closing]

mutual

/-- The characters of a value over several lines. Octets are left out. -/
def indentedChars (level : Nat) : Value → List Char
  | .list items => block level '[' ']' (indentedItems (level + 1) items)
  | .dict fields => block level '\x7b' '\x7d' (indentedFields (level + 1) fields)
  | .none => "null".toList
  | .bool b => if b then "true".toList else "false".toList
  | .int i => intChars i
  | .float x => x.format numberStyle
  | .str s => quoteChars s.toList
  | .bytes _ => []

/-- The items of a list over several lines. -/
def indentedItems (level : Nat) : List Value → List (List Char)
  | [] => []
  | v :: rest => indentedChars level v :: indentedItems level rest

/-- The fields of a record over several lines. -/
def indentedFields (level : Nat) : List (String × Value) → List (List Char)
  | [] => []
  | (k, v) :: rest =>
    (quoteChars k.toList ++ [':', ' '] ++ indentedChars level v) :: indentedFields level rest

end

/-- A value over several lines, with two blanks for each level. -/
def indented (v : Value) : String :=
  String.ofList (indentedChars 0 v)

end SessionRecorder.Json
