import SessionRecorder.Fault
/-!
# Arithmetic of values

Sums of values, and the numbers that values stand for. Truth values count as numbers; a sum with a
double is rounded; texts, lists and octets are joined with their own kind alone.

## Main definitions

* `Value.add` — the sum of two values.
* `Value.toInteger` — the whole number a value stands for, cut toward zero.
* `Value.toDouble` — the double a value stands for.
* `Value.atMost` — whether a double is at most a value.
-/

namespace SessionRecorder.Value

/-- The whole number that a value is, truth values included. -/
def integer? : Value → Option Int
  | .bool b => some (if b then 1 else 0)
  | .int i => some i
  | _ => Option.none

/-- The double nearest to a whole number. -/
def doubleOf (i : Int) : Except Fault Binary64 :=
  match Binary64.ofInt? i with
  | some x => .ok x
  | Option.none => .error .integerTooLarge

/-- The sum of two values that are not joined: both must be numbers. -/
def addNumbers (v w : Value) : Except Fault Value :=
  match v.integer?, w.integer?, v, w with
  | some i, some j, _, _ => .ok (.int (i + j))
  | some i, Option.none, _, .float y => (doubleOf i).map fun x => .float (x.add y)
  | Option.none, some j, .float x, _ => (doubleOf j).map fun y => .float (x.add y)
  | Option.none, Option.none, .float x, .float y => .ok (.float (x.add y))
  | _, _, v, w => .error (.operands "+" v.kind w.kind)

/-- The sum of two values. -/
def add : Value → Value → Except Fault Value
  | .str s, .str t => .ok (.str (s ++ t))
  | .str _, w => .error (.concatenation .str w.kind)
  | .list xs, .list ys => .ok (.list (xs ++ ys))
  | .list _, w => .error (.concatenation .list w.kind)
  | .bytes a, .bytes b => .ok (.bytes (a.append b))
  | .bytes _, w => .error (.octetConcatenation w.kind)
  | v, w => addNumbers v w

/-- How much of a text that is no number a sentence shows. -/
def shownLimit : Nat := 200

/-- The beginning of a display. -/
def shownStart (s : String) : String :=
  String.ofList (s.toList.take shownLimit)

/-- The whole number that a numeral spells. -/
def parseInteger (v : Value) (numeral : String) : Except Fault Int :=
  match Numeral.readInteger numeral with
  | .number i => .ok i
  | .malformed => .error (.malformedInteger (shownStart v.display))
  | .tooLong count => .error (.tooManyDigits count)

/-- The numeral that octets spell, in ASCII alone: any other octet belongs to no numeral. -/
def asciiNumeral (b : Blob) : String :=
  String.ofList (b.toOctets.map fun o => if o < 0x80 then Char.ofNat o.toNat else '?')

/-- The whole number that a value stands for. -/
def toInteger : Value → Except Fault Int
  | .bool b => .ok (if b then 1 else 0)
  | .int i => .ok i
  | .float .nan => .error .undefinedInteger
  | .float (.infinite _) => .error .infiniteInteger
  | .float (.finite s m p _) => .ok (Binary64.truncate s m p)
  | .str s => parseInteger (.str s) s
  | .bytes b => parseInteger (.bytes b) (asciiNumeral b)
  | v => .error (.notInteger v.kind)

/-- The double that a numeral spells. -/
def parseDouble (v : Value) (numeral : String) : Except Fault Binary64 :=
  match Numeral.readDouble? numeral with
  | some x => .ok x
  | Option.none => .error (.malformedNumber v.display)

/-- The double that a value stands for. -/
def toDouble : Value → Except Fault Binary64
  | .bool b => doubleOf (if b then 1 else 0)
  | .int i => doubleOf i
  | .float x => .ok x
  | .str s => parseDouble (.str s) s
  | .bytes b => parseDouble (.bytes b) (asciiNumeral b)
  | v => .error (.notNumber v.kind)

/-- Whether a double is at most a value, which must be a number. -/
def atMost (x : Binary64) (v : Value) : Except Fault Bool :=
  match v.amount? with
  | some y => .ok (x.exact.le y)
  | Option.none => .error (.ordering .float v.kind)

end SessionRecorder.Value
