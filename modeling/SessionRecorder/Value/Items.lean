import SessionRecorder.Fault
/-!
# What values hold

The items that a value lists, the fields that it has and the path that it spells, and the faults of
values that hold no such thing.

## Main definitions

* `Value.items` — the items that a value lists.
* `Value.backwardItems` — the items that a value lists, to be taken from the last to the first.
* `Value.fields` — the fields of a record.
* `Value.path` — the path that a text spells.
-/

namespace SessionRecorder.Value

/-- The items that a value lists, if it does: of a text its characters, of a record the names of
its fields. -/
def items? : Value → Option (List Value)
  | .list items => some items
  | .str s => some (s.toList.map fun c => .str (String.ofList [c]))
  | .dict fields => some (fields.map fun field => .str field.1)
  | .bytes b => some (b.toOctets.map fun o => .int o.toNat)
  | _ => Option.none

/-- The items that a value lists. -/
def items (v : Value) : Except Fault (List Value) :=
  match v.items? with
  | some items => .ok items
  | Option.none => .error (.notIterable v.kind)

/-- The items that a value lists, to be taken from the last to the first. -/
def backwardItems (v : Value) : Except Fault (List Value) :=
  match v.items? with
  | some items => .ok items
  | Option.none => .error (.notReversible v.kind)

/-- The fields of a record. -/
def fields : Value → Except Fault (List (String × Value))
  | .dict fields => .ok fields
  | v => .error (.noOperation v.kind "get")

/-- The path that a value spells. -/
def path : Value → Except Fault Path
  | .str s => .ok (Path.parse s)
  | .bytes _ => .error .octetsAsPath
  | v => .error (.notPath v.kind)

end SessionRecorder.Value
