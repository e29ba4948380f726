import SessionRecorder.Numeral
import SessionRecorder.Text.Lines
import SessionRecorder.Value
/-!
# Reading JSON

JSON text to values. Besides what the standard allows, the words `NaN`, `Infinity` and
`-Infinity` are numbers. Of fields with one name the last counts, in the place of the first. Lists
and records stand in one another only up to a depth.

## Main definitions

* `Json.Cause`, `Json.Problem` — why and where a text is no JSON.
* `Json.read` — the value that a text spells.

## Implementation notes

The reader works on the characters that remain. A failure records how many of them remained, and
`Json.read` turns that into a line and a column. Every step from a value into its items spends one
unit of fuel; a text cannot hold more values than characters.
-/

namespace SessionRecorder.Json

/-- What a reader found wrong. -/
inductive Cause where
  | valueExpected
  | nameExpected
  | colonExpected
  | commaExpected
  | trailingText
  | unclosedText
  | controlCharacter
  | unknownEscape
  | malformedUnicodeEscape
  | byteOrderMark
  deriving DecidableEq, Repr

/-- The sentence for a cause. -/
def Cause.message : Cause → String
  | .valueExpected => "Expecting value"
  | .nameExpected => "Expecting property name enclosed in double quotes"
  | .colonExpected => "Expecting ':' delimiter"
  | .commaExpected => "Expecting ',' delimiter"
  | .trailingText => "Extra data"
  | .unclosedText => "Unterminated string starting at"
  | .controlCharacter => "Invalid control character at"
  | .unknownEscape => "Invalid \\escape"
  | .malformedUnicodeEscape => "Invalid \\uXXXX escape"
  | .byteOrderMark => "Unexpected UTF-8 BOM (decode using utf-8-sig)"

/-- What holds other values. -/
inductive Container where
  | array
  | object
  deriving DecidableEq, Repr

/-- The word for a container. -/
def Container.name : Container → String
  | .array => "array"
  | .object => "object"

/-- How many containers may stand in one another. -/
def deepest : Nat := 988

/-- Why a text was not read: the cause and the characters that remained where it was found, a
numeral with too many digits, or a container that stands too deep in others. -/
inductive Failure where
  | at (cause : Cause) (remaining : List Char)
  | tooManyDigits (count : Nat)
  | tooDeep (container : Container)
  deriving DecidableEq, Repr

/-- What was read, and the characters that remain. -/
abbrev Reading (α : Type) := Except Failure (α × List Char)

/-- Blanks between the parts of a JSON text. -/
def isBlank (c : Char) : Bool :=
  c == ' ' || c == '\t' || c == '\n' || c == '\r'

/-- The characters after the blanks at the front. -/
def skipBlanks (cs : List Char) : List Char :=
  cs.dropWhile isBlank

/-! ### Texts -/

/-- The value of a hexadecimal digit. -/
def hexValue? (c : Char) : Option Nat :=
  let n := c.toNat
  if 48 ≤ n && n ≤ 57 then some (n - 48)
  else if 97 ≤ n && n ≤ 102 then some (n - 87)
  else if 65 ≤ n && n ≤ 70 then some (n - 55)
  else none

/-- The value of four hexadecimal digits. -/
def unit? (a b c d : Char) : Option Nat :=
  match hexValue? a, hexValue? b, hexValue? c, hexValue? d with
  | some a, some b, some c, some d => some (((a * 16 + b) * 16 + c) * 16 + d)
  | _, _, _, _ => none

/-- Whether a unit of UTF-16 is the first of a pair. -/
def isLeading (n : Nat) : Bool :=
  0xd800 ≤ n && n ≤ 0xdbff

/-- Whether a unit of UTF-16 is the second of a pair. -/
def isTrailing (n : Nat) : Bool :=
  0xdc00 ≤ n && n ≤ 0xdfff

/-- The character of a unit that stands alone; half of a pair is replaced. -/
def loneUnit (n : Nat) : Char :=
  if 0xd800 ≤ n && n ≤ 0xdfff then Char.ofNat 0xfffd else Char.ofNat n

/-- The character that two units stand for. -/
def pairedUnits (lead trail : Nat) : Char :=
  Char.ofNat (0x10000 + (lead - 0xd800) * 0x400 + (trail - 0xdc00))

/-- The character that an escape of one letter stands for. -/
def escaped? (c : Char) : Option Char :=
  if c == '"' || c == '\\' || c == '/' then some c
  else if c == 'n' then some '\n'
  else if c == 'r' then some '\r'
  else if c == 't' then some '\t'
  else if c == 'b' then some (Char.ofNat 8)
  else if c == 'f' then some (Char.ofNat 12)
  else none

/-- A character in front of what was read. -/
def readAfter (c : Char) (found : Reading (List Char)) : Reading (List Char) :=
  found.map fun (cs, rest) => (c :: cs, rest)

/-- The rest of a text whose opening quote is passed; `opening` are the characters that remained
at that quote. -/
def readText (opening : List Char) : List Char → Reading (List Char)
  | [] => .error (.at .unclosedText opening)
  | '"' :: rest => .ok ([], rest)
  | '\\' :: 'u' :: a :: b :: c :: d :: '\\' :: 'u' :: e :: f :: g :: h :: rest =>
    match unit? a b c d, unit? e f g h with
    | none, _ =>
      .error (.at .malformedUnicodeEscape
        ('u' :: a :: b :: c :: d :: '\\' :: 'u' :: e :: f :: g :: h :: rest))
    | some n, second =>
      if isLeading n then
        match second with
        | none => .error (.at .malformedUnicodeEscape ('u' :: e :: f :: g :: h :: rest))
        | some m =>
          if isTrailing m then
            if rest.isEmpty then .error (.at .malformedUnicodeEscape ['u', e, f, g, h])
            else readAfter (pairedUnits n m) (readText opening rest)
          else readAfter (loneUnit n) (readText opening ('\\' :: 'u' :: e :: f :: g :: h :: rest))
      else readAfter (loneUnit n) (readText opening ('\\' :: 'u' :: e :: f :: g :: h :: rest))
  | '\\' :: 'u' :: a :: b :: c :: d :: rest =>
    match unit? a b c d, rest.isEmpty with
    | some n, false => readAfter (loneUnit n) (readText opening rest)
    | _, _ => .error (.at .malformedUnicodeEscape ('u' :: a :: b :: c :: d :: rest))
  | '\\' :: 'u' :: rest => .error (.at .malformedUnicodeEscape ('u' :: rest))
  | '\\' :: [] => .error (.at .unclosedText opening)
  | '\\' :: c :: rest =>
    match escaped? c with
    | some e => readAfter e (readText opening rest)
    | none => .error (.at .unknownEscape ('\\' :: c :: rest))
  | c :: rest =>
    if c.toNat < 0x20 then .error (.at .controlCharacter (c :: rest))
    else readAfter c (readText opening rest)

/-! ### Numbers and words -/

/-- The digits at the front of a list and the rest. -/
def spanDigits (cs : List Char) : List Char × List Char :=
  (cs.takeWhile Char.isDigit, cs.dropWhile Char.isDigit)

/-- The whole part of a number: a zero alone, or digits that begin with another one. -/
def spanWhole : List Char → List Char × List Char
  | '0' :: rest => (['0'], rest)
  | cs => spanDigits cs

/-- A fraction at the front of a list: its digits, and the rest. -/
def spanFraction : List Char → List Char × List Char
  | '.' :: rest =>
    match spanDigits rest with
    | ([], _) => ([], '.' :: rest)
    | found => found
  | cs => ([], cs)

/-- An exponent at the front of a list, and the rest. -/
def spanExponent (cs : List Char) : Option Int × List Char :=
  match cs with
  | e :: rest =>
    if e == 'e' || e == 'E' then
      let (negative, rest) := Numeral.splitSign rest
      match spanDigits rest with
      | ([], _) => (none, cs)
      | (ds, rest) => (some (Binary64.signed negative (Numeral.digitsValue ds)), rest)
    else (none, cs)
  | [] => (none, [])

/-- The number without its sign at the front of a list: whole unless it has a fraction or an
exponent. `start` are the characters that remained where the number began. -/
def readMagnitude (start : List Char) (negative : Bool) (cs : List Char) : Reading Value :=
  let (whole, rest) := spanWhole cs
  if whole.isEmpty then .error (.at .valueExpected start)
  else
    let (fraction, rest) := spanFraction rest
    let (exponent, rest) := spanExponent rest
    if fraction.isEmpty && exponent.isNone then
      match Numeral.wholeNumber negative whole with
      | .number i => .ok (.int i, rest)
      | .malformed => .error (.at .valueExpected start)
      | .tooLong count => .error (.tooManyDigits count)
    else
      let x := Numeral.ofDecimal negative (whole ++ fraction)
        (exponent.getD 0 - fraction.length)
      .ok (.float x, rest)

/-- A word, or a number, at the front of a list. -/
def readScalar (cs : List Char) : Reading Value :=
  match cs with
  | 'n' :: 'u' :: 'l' :: 'l' :: rest => .ok (.none, rest)
  | 't' :: 'r' :: 'u' :: 'e' :: rest => .ok (.bool true, rest)
  | 'f' :: 'a' :: 'l' :: 's' :: 'e' :: rest => .ok (.bool false, rest)
  | 'N' :: 'a' :: 'N' :: rest => .ok (.float .nan, rest)
  | 'I' :: 'n' :: 'f' :: 'i' :: 'n' :: 'i' :: 't' :: 'y' :: rest =>
    .ok (.float (.infinite false), rest)
  | '-' :: 'I' :: 'n' :: 'f' :: 'i' :: 'n' :: 'i' :: 't' :: 'y' :: rest =>
    .ok (.float (.infinite true), rest)
  | '-' :: rest => readMagnitude cs true rest
  | _ => readMagnitude cs false cs

/-! ### Values -/

/-- A field with its name in front of other fields: the later of two fields with one name
counts. -/
def ofFields (fields : List (String × Value)) : List (String × Value) :=
  fields.foldl (fun acc (name, v) => Value.setField name v acc) []

mutual

/-- The value at the front of a list; `room` is how many more containers may stand in one
another. -/
def readValue : (fuel room : Nat) → List Char → Reading Value
  | 0, _, cs => .error (.at .valueExpected cs)
  | _ + 1, 0, '[' :: _ => .error (.tooDeep .array)
  | _ + 1, 0, '\x7b' :: _ => .error (.tooDeep .object)
  | fuel + 1, room, cs =>
    match cs with
    | '"' :: rest =>
      (readText cs rest).map fun (text, rest) => (.str (String.ofList text), rest)
    | '[' :: rest =>
      match skipBlanks rest with
      | ']' :: rest => .ok (.list [], rest)
      | rest =>
        (readItems fuel (room - 1) rest).map fun (items, rest) => (.list items, rest)
    | '\x7b' :: rest =>
      match skipBlanks rest with
      | '\x7d' :: rest => .ok (.dict [], rest)
      | rest =>
        (readFields fuel (room - 1) rest).map fun (fields, rest) =>
          (.dict (ofFields fields), rest)
    | cs => readScalar cs

/-- The items of a list that is not empty, up to its closing bracket. -/
def readItems : (fuel room : Nat) → List Char → Reading (List Value)
  | 0, _, cs => .error (.at .valueExpected cs)
  | fuel + 1, room, cs =>
    match readValue fuel room cs with
    | .error e => .error e
    | .ok (v, rest) =>
      match skipBlanks rest with
      | ']' :: rest => .ok ([v], rest)
      | ',' :: rest =>
        (readItems fuel room (skipBlanks rest)).map fun (items, rest) => (v :: items, rest)
      | rest => .error (.at .commaExpected rest)

/-- The fields of a record that is not empty, up to its closing brace. -/
def readFields : (fuel room : Nat) → List Char → Reading (List (String × Value))
  | 0, _, cs => .error (.at .valueExpected cs)
  | fuel + 1, room, cs =>
    match cs with
    | '"' :: rest =>
      match readText cs rest with
      | .error e => .error e
      | .ok (name, rest) =>
        match skipBlanks rest with
        | ':' :: rest =>
          match readValue fuel room (skipBlanks rest) with
          | .error e => .error e
          | .ok (v, rest) =>
            match skipBlanks rest with
            | '\x7d' :: rest => .ok ([(String.ofList name, v)], rest)
            | ',' :: rest =>
              (readFields fuel room (skipBlanks rest)).map fun (fields, rest) =>
                ((String.ofList name, v) :: fields, rest)
            | rest => .error (.at .commaExpected rest)
        | rest => .error (.at .colonExpected rest)
    | cs => .error (.at .nameExpected cs)

end

/-- Enough fuel for every text of the given length. -/
def fuelFor (length : Nat) : Nat :=
  2 * length + 2

/-- The value that a whole list of characters spells. -/
def readAll (cs : List Char) : Except Failure Value :=
  if cs.head? == some (Char.ofNat 0xfeff) then .error (.at .byteOrderMark cs)
  else
    match readValue (fuelFor cs.length) deepest (skipBlanks cs) with
    | .error e => .error e
    | .ok (v, rest) =>
      match skipBlanks rest with
      | [] => .ok v
      | rest => .error (.at .trailingText rest)

/-! ### Places -/

/-- Why and where a text is no JSON. The line and the column count from one, the offset from
zero. -/
inductive Problem where
  | malformed (cause : Cause) (line column offset : Nat)
  | tooManyDigits (count : Nat)
  | tooDeep (container : Container)
  deriving DecidableEq, Repr

/-- A failure with its place in the text. -/
def Failure.place (cs : List Char) : Failure → Problem
  | .at cause remaining =>
    let before := cs.take (cs.length - remaining.length)
    let column := (before.reverse.takeWhile (· != '\n')).length
    .malformed cause (before.count '\n' + 1) (column + 1) before.length
  | .tooManyDigits count => .tooManyDigits count
  | .tooDeep container => .tooDeep container

/-- The value that a text spells. -/
def read (s : String) : Except Problem Value :=
  match readAll s.toList with
  | .ok v => .ok v
  | .error e => .error (e.place s.toList)

end SessionRecorder.Json
