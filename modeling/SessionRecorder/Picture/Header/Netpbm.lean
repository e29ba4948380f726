import SessionRecorder.Numeral
import SessionRecorder.Picture.Scan
/-!
# Headers of Netpbm files

A word that tells the kind of picture, then its width, its height and for most kinds the greatest
value of a sample, as numerals with blanks between them. A comment goes from a number sign to the
end of the line.

## Main definitions

* `Picture.Netpbm.scan` — the header of a Netpbm file.
-/

namespace SessionRecorder.Picture.Netpbm

/-- How the samples of a picture are written. -/
inductive Samples where
  /-- Bits, eight to an octet. -/
  | bits
  /-- Octets, or two of them for each sample. -/
  | octets
  | floats
  /-- Numerals. -/
  | numerals
  deriving DecidableEq, Repr

/-- The words that files begin with: how the samples are written, and whether there is a greatest
value. -/
def words : List (String × Samples × Bool) :=
  [("P1", .numerals, false), ("P2", .numerals, true), ("P3", .numerals, true),
    ("P4", .bits, false), ("P5", .octets, true), ("P6", .octets, true),
    ("P0CMYK", .octets, true), ("Pf", .floats, false), ("PyP", .octets, true),
    ("PyRGBA", .octets, true), ("PyCMYK", .octets, true)]

/-- Whether octets begin with a word of this format. -/
def begins : List UInt8 → Bool
  | 0x50 :: second :: _ => (ascii "0123456fy").contains second
  | _ => false

/-- Whether an octet is a blank. -/
def isBlank (o : UInt8) : Bool :=
  o == 0x20 || (0x09 ≤ o && o ≤ 0x0d)

/-! ### Words -/

/-- A word of at most six octets, up to a blank, and what follows that. -/
def takeWord : (count : Nat) → List UInt8 → List UInt8 × List UInt8
  | 0, octets => ([], octets)
  | _, [] => ([], [])
  | count + 1, o :: rest =>
    if isBlank o then ([], rest)
    else
      let (word, rest) := takeWord count rest
      (o :: word, rest)

/-- Octets behind the end of a line. -/
def afterLine : List UInt8 → List UInt8
  | [] => []
  | o :: rest => if o == 0x0a || o == 0x0d then rest else afterLine rest

/-- The greatest number of octets in a token. -/
def longestToken : Nat := 10

/-- A token up to a blank, and what follows that; `token` holds its octets so far, the last one
first. Each step takes an octet. -/
def takeToken : (fuel : Nat) → (token octets : List UInt8) → List UInt8 × List UInt8
  | 0, token, octets => (token.reverse, octets)
  | _, token, [] => (token.reverse, [])
  | fuel + 1, token, o :: rest =>
    if longestToken < token.length then (token.reverse, o :: rest)
    else if isBlank o then
      if token.isEmpty then takeToken fuel token rest else (token.reverse, rest)
    else if o == 0x23 then takeToken fuel token (afterLine rest)
    else takeToken fuel (o :: token) rest

/-- A header is wrong. -/
def wrong {α : Type} (p : HeaderProblem) : Scan α :=
  throw (.malformed p)

/-- A token. -/
def token : Scan (List UInt8) := do
  let taken ← modifyGet fun octets => takeToken octets.length [] octets
  if taken.isEmpty then wrong .endOfHeader
  else if longestToken < taken.length then wrong (.longToken taken)
  else return taken

/-- A token as a text, octets beyond ASCII as a sign that no numeral holds. -/
def tokenText (octets : List UInt8) : String :=
  String.ofList (octets.map fun o => if o < 0x80 then Char.ofNat o.toNat else '?')

/-- A whole number. -/
def whole : Scan Int := do
  let t ← token
  match Numeral.readInteger (tokenText t) with
  | .number n => return n
  | _ => wrong (.notWhole t)

/-- The scale of floats: neither zero nor infinite. -/
def scale : Scan Unit := do
  let t ← token
  match Numeral.readDouble? (tokenText t) with
  | none => wrong (.notNumber t)
  | some (.finite _ m _ _) => if m == 0 then wrong .scale else return ()
  | some _ => wrong .scale

/-- The greatest value of a sample. -/
def greatest : Scan Int := do
  let n ← whole
  if 0 < n && n < 65536 then return n else wrong .greatest

/-- Whether samples in octets have all the values that octets or pairs of them have. -/
def isFull (word : String) (greatest : Int) : Bool :=
  greatest == 255 || (greatest == 65535 && word == "P5")

/-- Why the pixels behind a header cannot be had. Samples that have to be counted are missed as
samples; others are missed as octets. -/
def pixels (word : String) (samples : Samples) (greatest : Int) : Refusal :=
  if samples = .numerals || !isFull word greatest then .malformed .missingPixels else .damaged

/-- The header of a file. -/
def scan : Scan Header := do
  let word := tokenText (← modifyGet fun octets => takeWord 6 octets)
  match words.find? (·.1 == word) with
  | none => throw .foreign
  | some (_, samples, bounded) =>
    let width ← whole
    let height ← whole
    if samples = .floats then scale
    let most ← if bounded then greatest else pure 255
    Header.announce width.toNat height.toNat (pixels word samples most)

end SessionRecorder.Picture.Netpbm
