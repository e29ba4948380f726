import SessionRecorder.Binary64
import SessionRecorder.Text.Blank
import SessionRecorder.Text.Digit
/-!
# Numerals

Numbers written as text by people: digits of any script, single underscores between digits, a
sign, and blanks around the whole. Whole numbers and numbers with a point or an exponent of ten
are read exactly; the latter are then rounded once to the nearest double.

## Main definitions

* `Numeral.readInteger` — the whole number a text spells.
* `Numeral.readDouble?` — the double a text spells.
* `Numeral.ofDecimal` — the double nearest to a decimal number.
-/

namespace SessionRecorder.Numeral

/-- Blanks around a numeral. The separator controls U+001C to U+001F do not count here. -/
def isMargin (c : Char) : Bool :=
  if c.toNat < 0x80 then c == ' ' || (0x09 ≤ c.toNat && c.toNat ≤ 0x0d) else Text.isBlank c

/-- A character of a numeral with digits of any script replaced by those of ASCII. -/
def plainDigit (c : Char) : Char :=
  match Text.digitValue? c with
  | some d => Char.ofNat (48 + d)
  | none => c

/-- The characters of a numeral without its margins, in ASCII digits. -/
def normalize (s : String) : List Char :=
  (Text.stripWhile isMargin s.toList).map plainDigit

/-- A list of characters without its underscores, if each of them stands between two digits.
`digitBefore` tells whether a digit stands before the list. -/
def dropUnderscores? (digitBefore : Bool) : List Char → Option (List Char)
  | [] => some []
  | '_' :: rest =>
    match rest with
    | [] => none
    | d :: _ => if digitBefore && d.isDigit then dropUnderscores? false rest else none
  | c :: rest => (dropUnderscores? c.isDigit rest).map (c :: ·)

/-- A sign in front of the rest of a numeral. -/
def splitSign : List Char → Bool × List Char
  | '-' :: rest => (true, rest)
  | '+' :: rest => (false, rest)
  | rest => (false, rest)

/-- The value of a list of ASCII digits. -/
def digitsValue (ds : List Char) : Nat :=
  ds.foldl (fun n d => 10 * n + (d.toNat - 48)) 0

/-- What a text spells when it is read as a whole number. -/
inductive IntegerReading where
  | number (n : Int)
  | malformed
  /-- The numeral has more digits than are read. -/
  | tooLong (digits : Nat)
  deriving DecidableEq, Repr

/-- The greatest number of digits of a whole number that is read. -/
def digitLimit : Nat := 4300

/-- The whole number with the given sign and digits, unless there are too many of them. -/
def wholeNumber (negative : Bool) (ds : List Char) : IntegerReading :=
  if digitLimit < ds.length then .tooLong ds.length
  else .number (Binary64.signed negative (digitsValue ds))

/-- Whether a character may stand between the first and the last digit of a numeral. -/
def isInDigits (c : Char) : Bool :=
  c.isDigit || c == '_'

/-- The whole number that a text spells. Digits are counted before what follows them is looked
at, so a numeral that is too long is refused as that whatever stands behind it. -/
def readInteger (s : String) : IntegerReading :=
  let (negative, body) := splitSign (normalize s)
  match dropUnderscores? false (body.takeWhile isInDigits) with
  | none => .malformed
  | some ds =>
    match wholeNumber negative ds with
    | .number i =>
      if ds.isEmpty || !(body.dropWhile isInDigits).isEmpty then .malformed else .number i
    | refusal => refusal

/-- The double nearest to `ds * 10 ^ exponent`, `ds` being digits. From four hundred powers of ten
on, on either side, the answer is an infinity or zero. -/
def ofDecimal (negative : Bool) (ds : List Char) (exponent : Int) : Binary64 :=
  let ds := ds.dropWhile (· == '0')
  if ds.isEmpty then .zero negative
  else if 400 < exponent + ds.length then .infinite negative
  else if exponent + ds.length < -400 then .zero negative
  else if 0 ≤ exponent then
    Binary64.nearest negative (digitsValue ds * Nat.pow 10 exponent.toNat * Binary64.unit) 1
  else Binary64.nearest negative (digitsValue ds * Binary64.unit) (Nat.pow 10 (-exponent).toNat)

/-- The exponent at the end of a numeral, zero if nothing is left. -/
def exponentOf? : List Char → Option Int
  | [] => some 0
  | e :: rest =>
    if e == 'e' || e == 'E' then
      let (negative, ds) := splitSign rest
      if ds.isEmpty || !ds.all Char.isDigit then none
      else some (Binary64.signed negative (digitsValue ds))
    else none

/-- The double spelled by a numeral without a sign, in ASCII and without underscores. -/
def readMagnitude? (negative : Bool) (body : List Char) : Option Binary64 :=
  let word := body.map Char.toLower
  if word == "inf".toList || word == "infinity".toList then some (.infinite negative)
  else if word == "nan".toList then some .nan
  else
    let whole := body.takeWhile Char.isDigit
    let rest := body.dropWhile Char.isDigit
    let (fraction, rest) :=
      match rest with
      | '.' :: rest => (rest.takeWhile Char.isDigit, rest.dropWhile Char.isDigit)
      | rest => ([], rest)
    let ds := whole ++ fraction
    if ds.isEmpty then none
    else
      (exponentOf? rest).map fun exponent =>
        ofDecimal negative ds (exponent - fraction.length)

/-- The double that a text spells. -/
def readDouble? (s : String) : Option Binary64 :=
  match dropUnderscores? false (normalize s) with
  | none => none
  | some cs =>
    let (negative, body) := splitSign cs
    readMagnitude? negative body

end SessionRecorder.Numeral
