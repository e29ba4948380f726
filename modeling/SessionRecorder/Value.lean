import SessionRecorder.Binary64
import SessionRecorder.Blob
/-!
# Values

The values that pages, files and callers hand over: nothing is promised about their kind, so a
coordinate may be a text and a name a list. A record lists its fields in order, each name once.

## Main definitions

* `Value` — the values; `Value.Kind` — their kinds, with the names people read.
* `Value.lookup?`, `Value.fieldOr` — look-up in a record.
* `Value.truthy` — whether a value counts as something rather than nothing.
* `Value.same` — equality as values, where `1`, `1.0` and `true` are equal.
-/

namespace SessionRecorder

/-- The kinds of values, and of what values are combined with. -/
inductive Value.Kind where
  | none
  | bool
  | int
  | float
  | str
  | bytes
  | list
  | dict
  | path
  deriving DecidableEq, Repr

/-- The name of a kind. -/
def Value.Kind.name : Value.Kind → String
  | .none => "NoneType"
  | .bool => "bool"
  | .int => "int"
  | .float => "float"
  | .str => "str"
  | .bytes => "bytes"
  | .list => "list"
  | .dict => "dict"
  | .path => "PosixPath"

/-- A value of any kind. -/
inductive Value where
  | none
  | bool (b : Bool)
  | int (i : Int)
  | float (x : Binary64)
  | str (s : String)
  | bytes (b : Blob)
  | list (items : List Value)
  | dict (fields : List (String × Value))
  deriving Inhabited

namespace Value

/-- The kind of a value. -/
def kind : Value → Kind
  | .none => .none
  | .bool _ => .bool
  | .int _ => .int
  | .float _ => .float
  | .str _ => .str
  | .bytes _ => .bytes
  | .list _ => .list
  | .dict _ => .dict

/-! ### Records -/

/-- The value under a name in a list of fields. -/
def lookup? (name : String) : List (String × Value) → Option Value
  | [] => Option.none
  | (k, v) :: rest => if k == name then some v else lookup? name rest

/-- The value of a field, or another one if it is not there. -/
def fieldOr (fields : List (String × Value)) (name : String) (default : Value) : Value :=
  (lookup? name fields).getD default

/-- The fields with one of them set: in its place if the name is there, else at the end. -/
def setField (name : String) (value : Value) : List (String × Value) → List (String × Value)
  | [] => [(name, value)]
  | (k, v) :: rest =>
    if k == name then (k, value) :: rest else (k, v) :: setField name value rest

/-! ### Truth -/

/-- Whether a number is zero. -/
def isZero : Binary64 → Bool
  | .finite _ m _ _ => m == 0
  | _ => false

/-- Whether a value counts as something: nothing, false, zero and whatever is empty do not. -/
def truthy : Value → Bool
  | .none => false
  | .bool b => b
  | .int i => i != 0
  | .float x => !isZero x
  | .str s => !s.isEmpty
  | .bytes b => !b.isEmpty
  | .list items => !items.isEmpty
  | .dict fields => !fields.isEmpty

/-- A value, or another one if it counts as nothing. -/
def orElse (v other : Value) : Value :=
  if v.truthy then v else other

/-! ### Equality -/

/-- The number that a value stands for, if it is one. -/
def amount? : Value → Option Binary64.Exact
  | .bool b => some (.ofInt (if b then 1 else 0))
  | .int i => some (.ofInt i)
  | .float x => some x.exact
  | _ => Option.none

mutual

/-- Whether two values are equal: numbers by what they amount to, records whatever the order of
their fields, everything else part by part. Not a number equals nothing. -/
def same : Value → Value → Bool
  | .none, .none => true
  | .str s, .str t => s == t
  | .bytes a, .bytes b => a == b
  | .list xs, .list ys => sameItems xs ys
  | .dict fs, .dict gs => fs.length == gs.length && sameFields fs gs
  | v, w =>
    match v.amount?, w.amount? with
    | some x, some y => x.eq y
    | _, _ => false

/-- Whether two lists hold equal values in the same order. -/
def sameItems : List Value → List Value → Bool
  | [], [] => true
  | x :: xs, y :: ys => same x y && sameItems xs ys
  | _, _ => false

/-- Whether each field of one record has an equal field in another. -/
def sameFields : List (String × Value) → List (String × Value) → Bool
  | [], _ => true
  | (k, v) :: rest, gs =>
    (match lookup? k gs with
      | some w => same v w
      | Option.none => false) && sameFields rest gs

end

end Value

end SessionRecorder
