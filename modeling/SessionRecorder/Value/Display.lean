import SessionRecorder.Binary64.Decimal
import SessionRecorder.Text.Quoted
import SessionRecorder.Value
/-!
# Display of values

The text of a value as it is shown to people: a text plainly on its own, but quoted inside other
values; numbers by their shortest decimal form.

## Main definitions

* `Value.numberStyle` — how doubles are spelled.
* `Value.display` — a value with its quotes and brackets.
* `Value.shown` — a value as it stands in a sentence: a text as it is, all else by `display`.
-/

namespace SessionRecorder

/-- Doubles are positional from `1e-4` to below `1e16`, with at least two digits in an
exponent. -/
def Value.numberStyle : Binary64.NumberStyle where
  leastPositional := -4
  leastScientific := 16
  mark := ['e']
  exponentWidth := 2
  nanWord := "nan".toList
  infinityWord := "inf".toList

namespace Value

/-- A whole number in decimal digits. -/
def showInt (i : Int) : String :=
  String.ofList (Binary64.withSign (decide (i < 0)) (Binary64.digitChars i.natAbs))

/-- A double in the shortest form that reads back. -/
def showDouble (x : Binary64) : String :=
  String.ofList (x.format numberStyle)

mutual

/-- The text of a value with texts in quotes. -/
def display : Value → String
  | .none => "None"
  | .bool true => "True"
  | .bool false => "False"
  | .int i => showInt i
  | .float x => showDouble x
  | .str s => Text.quoted s
  | .bytes b => Text.quotedOctets b.toOctets
  | .list items => "[" ++ ", ".intercalate (displayItems items) ++ "]"
  | .dict fields => "\x7b" ++ ", ".intercalate (displayFields fields) ++ "\x7d"

/-- The texts of the items of a list. -/
def displayItems : List Value → List String
  | [] => []
  | v :: rest => display v :: displayItems rest

/-- The texts of the fields of a record. -/
def displayFields : List (String × Value) → List String
  | [] => []
  | (k, v) :: rest => (Text.quoted k ++ ": " ++ display v) :: displayFields rest

end

/-- The text of a value in a sentence. -/
def shown : Value → String
  | .str s => s
  | v => v.display

end Value

end SessionRecorder
