/-!
# Double-precision numbers

Binary floating-point numbers of double precision as exact data: not a number, an infinity, or a
sign with a magnitude that is a whole number of units of `2 ^ -1074`. Arithmetic is exact
arithmetic on natural numbers, rounded once to the nearest double, a tie to the even significand.

## Main definitions

* `Binary64` — the numbers; the finite ones carry the proof that their parts are in range.
* `Binary64.nearest` — the double nearest a quotient of natural numbers of units.
* `Binary64.add`, `Binary64.mul`, `Binary64.divNat` — rounded arithmetic.
* `Binary64.Exact` — the value of a number on the extended line, for comparisons with integers.
-/

namespace SessionRecorder

/-- Quotient of two natural numbers rounded to the nearest, a tie to the even neighbour. -/
def roundQuotient (n d : Nat) : Nat :=
  let q := n / d
  let r := n % d
  if 2 * r < d then q
  else if d < 2 * r then q + 1
  else if q % 2 == 0 then q else q + 1

/-- The parts of a finite double: a significand of at most 53 bits and a shift. The significand
has all 53 bits unless the shift is zero, so that every magnitude is written in one way. -/
def Binary64.Valid (significand shift : Nat) : Prop :=
  significand < Nat.pow 2 53 ∧ shift ≤ 2045 ∧ (Nat.pow 2 52 ≤ significand ∨ shift = 0)

instance (m p : Nat) : Decidable (Binary64.Valid m p) := by
  unfold Binary64.Valid; infer_instance

/-- A number of double precision. A finite one has the magnitude
`significand * 2 ^ shift` units of `2 ^ -1074`. -/
inductive Binary64 where
  | nan
  | infinite (negative : Bool)
  | finite (negative : Bool) (significand shift : Nat)
      (valid : Binary64.Valid significand shift)
  deriving DecidableEq

namespace Binary64

/-- The number of units in one. -/
def unit : Nat := Nat.pow 2 1074

/-- Zero, with a sign. -/
def zero (negative : Bool) : Binary64 :=
  .finite negative 0 0 (by decide)

instance : Inhabited Binary64 := ⟨zero false⟩

/-- The double with the given parts, a significand of 54 bits carried into the shift; an infinity
if the shift is out of range. -/
def ofParts (negative : Bool) (significand shift : Nat) : Binary64 :=
  if h : Valid significand shift then .finite negative significand shift h
  else if h : Valid (significand / 2) (shift + 1) then
    .finite negative (significand / 2) (shift + 1) h
  else .infinite negative

/-- The double nearest to `n / d` units. -/
def nearest (negative : Bool) (n d : Nat) : Binary64 :=
  let shift := Nat.log2 (n / d) - 52
  ofParts negative (roundQuotient n (d * Nat.pow 2 shift)) shift

/-- The magnitude of a finite double in units. -/
def magnitude (significand shift : Nat) : Nat :=
  significand * Nat.pow 2 shift

/-- A signed count of units. -/
def signed (negative : Bool) (n : Nat) : Int :=
  if negative then -(n : Int) else n

/-! ### Integers -/

/-- The double nearest to an integer, unless that is out of range. -/
def ofInt? (i : Int) : Option Binary64 :=
  match nearest (decide (i < 0)) (unit * i.natAbs) 1 with
  | .infinite _ => none
  | x => some x

/-- The double nearest to a quotient of natural numbers; zero if nothing is divided. -/
def ofRatio (n d : Nat) : Binary64 :=
  nearest false (n * unit) d

/-- The integer next to a finite double on the side of zero. -/
def truncate (negative : Bool) (significand shift : Nat) : Int :=
  signed negative (magnitude significand shift / unit)

/-- Whether a double is a whole number. -/
def isIntegral : Binary64 → Bool
  | .finite _ m p _ => magnitude m p % unit == 0
  | _ => false

/-! ### Arithmetic -/

/-- Sum of two doubles. -/
def add : Binary64 → Binary64 → Binary64
  | .finite s m p _, .finite t n q _ =>
    let total := signed s (magnitude m p) + signed t (magnitude n q)
    nearest (if total == 0 then s && t else decide (total < 0)) total.natAbs 1
  | .nan, _ => .nan
  | _, .nan => .nan
  | .infinite s, .infinite t => if s == t then .infinite s else .nan
  | .infinite s, _ => .infinite s
  | _, .infinite t => .infinite t

/-- Product of two doubles. -/
def mul : Binary64 → Binary64 → Binary64
  | .finite s m p _, .finite t n q _ =>
    nearest (s != t) (magnitude m p * magnitude n q) unit
  | .nan, _ => .nan
  | _, .nan => .nan
  | .infinite s, .infinite t => .infinite (s != t)
  | .infinite s, .finite t n _ _ => if n == 0 then .nan else .infinite (s != t)
  | .finite s m _ _, .infinite t => if m == 0 then .nan else .infinite (s != t)

/-- Quotient of a double by a positive natural number that is itself a double. -/
def divNat (x : Binary64) (d : Nat) : Binary64 :=
  match x with
  | .finite s m p _ => nearest s (magnitude m p) d
  | x => x

/-! ### Comparison -/

/-- The value of a number on the line extended by two infinities, a finite value in units; not a
number is apart from all of them. -/
inductive Exact where
  | undefined
  | negativeInfinity
  | units (n : Int)
  | positiveInfinity
  deriving DecidableEq

/-- The value of a double. -/
def exact : Binary64 → Exact
  | .nan => .undefined
  | .infinite s => if s then .negativeInfinity else .positiveInfinity
  | .finite s m p _ => .units (signed s (magnitude m p))

/-- The value of an integer. -/
def Exact.ofInt (i : Int) : Exact :=
  .units (i * unit)

/-- Equality of values; what is undefined equals nothing. -/
def Exact.eq : Exact → Exact → Bool
  | .undefined, _ => false
  | x, y => x == y

/-- Order of values; what is undefined is in no order. -/
def Exact.le : Exact → Exact → Bool
  | .undefined, _ => false
  | _, .undefined => false
  | .negativeInfinity, _ => true
  | _, .positiveInfinity => true
  | .units m, .units n => decide (m ≤ n)
  | _, _ => false

end Binary64

end SessionRecorder
