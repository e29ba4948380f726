import SessionRecorder.Text.Lower
import SessionRecorder.Value.Items
/-!
# Key labels

A key with the modifiers held down, written as one label: the modifiers in a fixed order and the
key, joined with plus signs. A modifier that is pressed on its own is not held down as well. The
label of a key is spelled in a second way where keys are typed.

## Main definitions

* `Modifier` — the four modifiers; `Modifier.ofName?` reads the ways in which they are named.
* `Modifier.ofValue` — the modifiers that a value lists.
* `KeyLabel.make` — the label of a key.
* `KeyLabel.typed` — a label as it is typed.
-/

namespace SessionRecorder

/-- A key that changes what other keys do. -/
inductive Modifier where
  | alt
  | ctrl
  | metaKey
  | shift
  deriving DecidableEq, Repr

namespace Modifier

/-- All modifiers, in the order in which labels list them. -/
def all : List Modifier :=
  [.alt, .ctrl, .metaKey, .shift]

/-- The plain name of a modifier. -/
def name : Modifier → String
  | .alt => "alt"
  | .ctrl => "ctrl"
  | .metaKey => "meta"
  | .shift => "shift"

/-- The name of a modifier in a label. -/
def label : Modifier → String
  | .alt => "Alt"
  | .ctrl => "Ctrl"
  | .metaKey => "Meta"
  | .shift => "Shift"

/-- The name of a modifier where keys are typed. -/
def typedName : Modifier → String
  | .ctrl => "Control"
  | m => m.label

/-- The keys that are the modifier itself. -/
def keys : Modifier → List String
  | .alt => ["Alt", "AltGraph"]
  | .ctrl => ["Ctrl", "Control"]
  | .metaKey => ["Meta", "OS"]
  | .shift => ["Shift"]

/-- A name without the word `key` at its end. -/
def withoutKeyWord (cs : List Char) : List Char :=
  match cs.reverse with
  | 'y' :: 'e' :: 'k' :: rest => rest.reverse
  | _ => cs

/-- The modifier that a name stands for: in any case, with blanks around it, with or without the
word `key` at its end; `control` is `ctrl`. -/
def ofName? (s : String) : Option Modifier :=
  let name := String.ofList (withoutKeyWord (Text.lower (Text.trim s)).toList)
  if name == "control" then some .ctrl
  else all.find? fun m => m.name == name

/-- The modifiers of a list, each once, in the order of labels. -/
def ordered (ms : List Modifier) : List Modifier :=
  all.filter ms.contains

/-- The modifiers that a value lists; names of anything else are passed over. -/
def ofValue (v : Value) : Except Fault (List Modifier) :=
  if v.truthy then
    v.items.map fun items => ordered (items.filterMap fun item => ofName? item.shown)
  else .ok []

/-- Modifiers as a value. -/
def toValue (ms : List Modifier) : Value :=
  .list (ms.map fun m => .str m.name)

end Modifier

namespace KeyLabel

/-- Whether a key is a modifier itself. -/
def isSelf (key : Value) (m : Modifier) : Bool :=
  m.keys.any fun name => key.same (.str name)

/-- The modifiers that the label of a key lists. -/
def listed (key : Value) (ms : List Modifier) : List Modifier :=
  (Modifier.ordered ms).filter fun m => !isSelf key m

/-- The label of a key that is a text. -/
def text (key : String) (ms : List Modifier) : String :=
  "+".intercalate ((listed (.str key) ms).map Modifier.label ++ [key])

/-- The label of a key with the modifiers that a value lists. -/
def make (key modifiers : Value) : Except Fault String :=
  match Modifier.ofValue modifiers with
  | .error f => .error f
  | .ok ms =>
    match key with
    | .str key => .ok (text key ms)
    | key => .error (.joinedItem (listed key ms).length key.kind)

/-! ### Typed labels -/

/-- The modifier in front of a label, and what follows the plus sign behind it, if anything does. -/
def inFront? (cs : List Char) : Option (Modifier × List Char) :=
  match cs.dropWhile (· != '+') with
  | _ :: c :: rest =>
    (Modifier.all.find? fun m => m.label.toList == cs.takeWhile (· != '+')).map (·, c :: rest)
  | _ => none

/-- What follows the modifier in front of a label is shorter than the label. -/
theorem length_lt_of_inFront? {cs rest : List Char} {m : Modifier}
    (h : inFront? cs = some (m, rest)) : rest.length < cs.length := by
  have hdrop := (List.dropWhile_sublist (· != '+') (l := cs)).length_le
  unfold inFront? at h
  split at h
  next d c rest' heq =>
    obtain ⟨m', -, hpair⟩ := Option.map_eq_some_iff.1 h
    rw [heq] at hdrop
    simp only [Prod.mk.injEq] at hpair
    simp only [← hpair.2, List.length_cons] at hdrop ⊢
    omega
  next => cases h

/-- A list of characters with the modifiers at its front spelled as they are typed: `Control`
for `Ctrl`. Something must follow each of them. -/
def typedChars (cs : List Char) : List Char :=
  match _ : inFront? cs with
  | none => cs
  | some (m, rest) => m.typedName.toList ++ '+' :: typedChars rest
termination_by cs.length
decreasing_by exact length_lt_of_inFront? ‹_›

/-- A label as it is typed. -/
def typed (label : String) : String :=
  String.ofList (typedChars label.toList)

/-- A label as it is typed, if it is a text. -/
def typedValue : Value → Except Fault String
  | .str label => .ok (typed label)
  | .bytes _ => .error (.notOctets .str)
  | v => .error (.noOperation v.kind "partition")

end KeyLabel

end SessionRecorder
