import SessionRecorder.Ini
import SessionRecorder.Text.Quoted
/-!
# References inside option values

A value may refer to another option of its section as `%(name)s`; `%%` stands for a percent sign.
The value referred to may hold references in turn, ten steps deep.

## Main definitions

* `Ini.Piece` — the parts of a value.
* `Ini.Problem` — why a value cannot be expanded.
* `Ini.Document.value?` — the expanded text of an option.
-/

namespace SessionRecorder.Ini

/-- A part of a value. -/
inductive Piece where
  | literal (c : Char)
  | reference (option : List Char)
  /-- A percent sign followed by neither a percent sign nor a parenthesis, and what follows. -/
  | strayPercent (rest : List Char)
  /-- A parenthesis after a percent sign that does not enclose a name. -/
  | brokenReference (rest : List Char)
  deriving DecidableEq, Repr

/-- The name of a reference whose opening parenthesis is passed, and what follows it. -/
def reference? (cs : List Char) : Option (List Char × List Char) :=
  match cs.dropWhile (· != ')') with
  | ')' :: 's' :: rest =>
    let name := cs.takeWhile (· != ')')
    if name.isEmpty then none else some (name, rest)
  | _ => none

/-- What follows a reference is shorter than what its name begins. -/
theorem length_of_reference? {cs name rest : List Char} (h : reference? cs = some (name, rest)) :
    rest.length < cs.length := by
  have hle : (cs.dropWhile (· != ')')).length ≤ cs.length :=
    (List.dropWhile_suffix _).sublist.length_le
  unfold reference? at h
  split at h
  · next found heq =>
    rw [heq, List.length_cons, List.length_cons] at hle
    dsimp only at h
    split at h
    · cases h
    · cases h; omega
  · cases h

/-- The parts of a value, up to the first that is malformed. -/
def pieces : List Char → List Piece
  | [] => []
  | '%' :: '%' :: rest => .literal '%' :: pieces rest
  | '%' :: '(' :: rest =>
    match _found : reference? rest with
    | some (name, after) => .reference name :: pieces after
    | none => [.brokenReference ('%' :: '(' :: rest)]
  | c :: rest => if c == '%' then [.strayPercent (c :: rest)] else .literal c :: pieces rest
termination_by cs => cs.length
decreasing_by
  · simp only [List.length_cons]; omega
  · have := length_of_reference? _found
    simp only [List.length_cons]; omega
  · simp only [List.length_cons]; omega

/-- Why the value of an option cannot be expanded. -/
inductive Problem where
  /-- It refers to an option that is not there. -/
  | missing (option sectionName reference raw : String)
  /-- Its references go too deep. -/
  | tooDeep (option sectionName raw : String)
  | strayPercent (rest : String)
  | brokenReference (rest : String)
  deriving DecidableEq, Repr

/-- How many references may stand inside each other. -/
def depthLimit : Nat := 10

/-- The sentence for a problem. -/
def Problem.message : Problem → String
  | .missing option sectionName reference raw =>
    "Bad value substitution: option " ++ Text.quoted option ++ " in section " ++
      Text.quoted sectionName ++ " contains an interpolation key " ++ Text.quoted reference ++
      " which is not a valid option name. Raw value: " ++ Text.quoted raw
  | .tooDeep option sectionName raw =>
    "Recursion limit exceeded in value substitution: option " ++ Text.quoted option ++
      " in section " ++ Text.quoted sectionName ++
      " contains an interpolation key which cannot be substituted in " ++ toString depthLimit ++
      " steps. Raw value: " ++ Text.quoted raw
  | .strayPercent rest => "'%' must be followed by '%' or '(', found: " ++ Text.quoted rest
  | .brokenReference rest => "bad interpolation variable reference " ++ Text.quoted rest

/-- The characters that parts stand for, references being resolved by `resolve`. -/
def expandPieces (resolve : String → Except Problem (List Char)) :
    List Piece → Except Problem (List Char)
  | [] => .ok []
  | .literal c :: rest => (expandPieces resolve rest).map (c :: ·)
  | .reference name :: rest =>
    match resolve (Text.lower (String.ofList name)) with
    | .error p => .error p
    | .ok cs => (expandPieces resolve rest).map (cs ++ ·)
  | .strayPercent cs :: _ => .error (.strayPercent (String.ofList cs))
  | .brokenReference cs :: _ => .error (.brokenReference (String.ofList cs))

/-- The expanded characters of a value of `option`, with `depth` levels of references left. -/
def expand (d : Document) (sectionName option raw : String) :
    (depth : Nat) → List Char → Except Problem (List Char)
  | 0, _ => .error (.tooDeep option sectionName raw)
  | depth + 1, cs =>
    expandPieces (fun name =>
      match d.raw? sectionName name with
      | none => .error (.missing option sectionName name raw)
      | some value =>
        if value.contains '%' then expand d sectionName option raw depth value.toList
        else .ok value.toList) (pieces cs)

/-- The expanded text of an option, if the option is there. -/
def Document.value? (d : Document) (sectionName option : String) :
    Except Problem (Option String) :=
  match d.raw? sectionName option with
  | none => .ok none
  | some raw =>
    (expand d sectionName option raw depthLimit raw.toList).map fun cs => some (String.ofList cs)

end SessionRecorder.Ini
