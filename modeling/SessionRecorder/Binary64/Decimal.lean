import SessionRecorder.Binary64
/-!
# Decimal forms of doubles

The shortest decimal form that reads back as the same double, and the form with a fixed number of
places. Both are computed by exact arithmetic on natural numbers.

## Main definitions

* `Binary64.shortest` — the fewest decimal digits that determine a finite double, and of those
  the nearest to it.
* `Binary64.NumberStyle` — where positional notation ends and how special values are spelled.
* `Binary64.format` — a double in a style.
* `Binary64.fixed` — a double with a fixed number of places.
-/

namespace SessionRecorder.Binary64

/-- A decimal magnitude: the digits of `digits`, the point standing before the first digit if
`point` is zero and `point` places further right otherwise. -/
structure Decimal where
  digits : Nat
  count : Nat
  point : Int
  deriving DecidableEq, Repr

/-- The magnitude of a finite double and the interval of magnitudes that round to it, all in
quarters of a unit; the ends belong to the interval if the significand is even. -/
structure Neighbourhood where
  value : Nat
  low : Nat
  high : Nat
  closed : Bool
  deriving Repr

/-- The neighbourhood of a finite double that is not zero. -/
def neighbourhood (significand shift : Nat) : Neighbourhood :=
  let value := 4 * magnitude significand shift
  let unitInLast := Nat.pow 2 shift
  let below :=
    if significand == Nat.pow 2 52 && shift != 0 then unitInLast else 2 * unitInLast
  ⟨value, value - below, value + 2 * unitInLast, significand % 2 == 0⟩

/-- Whether the magnitude `n / d` quarters of a unit lies in the neighbourhood. -/
def Neighbourhood.contains (b : Neighbourhood) (n d : Nat) : Bool :=
  if b.closed then b.low * d ≤ n && n ≤ b.high * d else b.low * d < n && n < b.high * d

/-- Ten to the power `e`, as a quotient of natural numbers. -/
def powerOfTen (e : Int) : Nat × Nat :=
  if 0 ≤ e then (Nat.pow 10 e.toNat, 1) else (1, Nat.pow 10 (-e).toNat)

/-- The grid of decimal numbers with a step of `10 ^ e`, against a neighbourhood: the grid's
point below or at the value, and the one above. Of those that lie in the neighbourhood the
nearer is taken, the even one if both are equally near. -/
def gridPoint? (b : Neighbourhood) (e : Int) : Option Nat :=
  let (stepNum, stepDen) := powerOfTen e
  -- the step is `stepNum / stepDen` and a quarter of a unit is `1 / (4 * unit)`
  let scale := stepNum * (4 * unit)
  let below := b.value * stepDen / scale
  let above := below + 1
  let inBelow := b.contains (below * scale) stepDen
  let inAbove := b.contains (above * scale) stepDen
  let gapBelow := b.value * stepDen - below * scale
  let gapAbove := above * scale - b.value * stepDen
  match inBelow, inAbove with
  | false, false => none
  | true, false => some below
  | false, true => some above
  | true, true =>
    if gapBelow < gapAbove then some below
    else if gapAbove < gapBelow then some above
    else if below % 2 == 0 then some below else some above

/-- The first of the grids with `10 ^ point` above the value and one digit more each, up to
seventeen, that has a point in the neighbourhood. -/
def firstGrid (b : Neighbourhood) (point : Int) : (fuel : Nat) → (count : Nat) → Decimal
  | 0, count => ⟨b.value, count, point⟩
  | fuel + 1, count =>
    match gridPoint? b (point - count) with
    | some digits => ⟨digits, count, point⟩
    | none => firstGrid b point fuel (count + 1)

/-- The number of decimal digits of a natural number. -/
def digitCount (n : Nat) : Nat :=
  (Nat.toDigits 10 n).length

/-- The least `point` for which the value `n / d` is below `10 ^ point`. -/
def pointOf (n d : Nat) : Int :=
  if d ≤ n then digitCount (n / d)
  else 1 - (digitCount ((d - 1) / n) : Int)

/-- The digits of a decimal without zeros at their end. -/
def Decimal.trimmed (fuel : Nat) (x : Decimal) : Decimal :=
  match fuel with
  | 0 => x
  | fuel + 1 =>
    if x.digits % 10 == 0 && 1 < x.count then
      Decimal.trimmed fuel ⟨x.digits / 10, x.count - 1, x.point⟩
    else x

/-- The fewest decimal digits that determine a finite double, the nearest of them to it. -/
def shortest (significand shift : Nat) : Decimal :=
  if significand == 0 then ⟨0, 1, 1⟩
  else
    let b := neighbourhood significand shift
    let found := firstGrid b (pointOf b.value (4 * unit)) 17 1
    -- the nearer grid point may be the power of ten itself
    if digitCount found.digits == found.count then found
    else Decimal.trimmed 17 ⟨found.digits, found.count + 1, found.point + 1⟩

/-- How doubles are spelled: the decimal exponents that are written positionally, the mark and
the least width of the exponent otherwise, and the words for the special values. -/
structure NumberStyle where
  leastPositional : Int
  leastScientific : Int
  mark : List Char
  exponentWidth : Nat
  nanWord : List Char
  infinityWord : List Char

/-- The decimal digits of a natural number. -/
def digitChars (n : Nat) : List Char :=
  Nat.toDigits 10 n

/-- The digits of a natural number, filled up with zeros on the left. -/
def padded (width n : Nat) : List Char :=
  let ds := digitChars n
  List.replicate (width - ds.length) '0' ++ ds

/-- A decimal in positional notation, with at least one digit on each side of the point. -/
def positional (x : Decimal) : List Char :=
  let ds := digitChars x.digits
  if x.point ≤ 0 then
    ['0', '.'] ++ List.replicate (-x.point).toNat '0' ++ ds
  else
    let whole := x.point.toNat
    if ds.length ≤ whole then ds ++ List.replicate (whole - ds.length) '0' ++ ['.', '0']
    else ds.take whole ++ ['.'] ++ ds.drop whole

/-- A decimal with one digit before the point and an exponent of ten. -/
def scientific (style : NumberStyle) (x : Decimal) : List Char :=
  let exponent := x.point - 1
  let sign := if exponent < 0 then '-' else '+'
  let tail := style.mark ++ [sign] ++ padded style.exponentWidth exponent.natAbs
  match digitChars x.digits with
  | [] => tail
  | [d] => d :: tail
  | d :: ds => d :: '.' :: ds ++ tail

/-- A magnitude in a style. -/
def formatDecimal (style : NumberStyle) (x : Decimal) : List Char :=
  if x.point - 1 < style.leastPositional || style.leastScientific ≤ x.point - 1 then
    scientific style x
  else positional x

/-- A minus sign in front of what is negative. -/
def withSign (negative : Bool) (cs : List Char) : List Char :=
  if negative then '-' :: cs else cs

/-- A double in a style. -/
def format (style : NumberStyle) : Binary64 → List Char
  | .nan => style.nanWord
  | .infinite s => withSign s style.infinityWord
  | .finite s m p _ => withSign s (formatDecimal style (shortest m p))

/-- A double with `places` places after the point, the last of them rounded to the nearest, a tie
to the even digit. -/
def fixed (places : Nat) (nanWord infinityWord : List Char) : Binary64 → List Char
  | .nan => nanWord
  | .infinite s => withSign s infinityWord
  | .finite s m p _ =>
    let scale := Nat.pow 10 places
    let n := roundQuotient (magnitude m p * scale) unit
    withSign s (digitChars (n / scale) ++ ['.'] ++ padded places (n % scale))

end SessionRecorder.Binary64
