import SessionRecorder.Proofs.Value
import SessionRecorder.Value.Arithmetic
/-!
# Values that can be added

Nothing is promised about the kinds of the values that are added up, and the sum of two values that
have JSON forms may be missing, or have none itself. Which sums there are is up to the kinds of the
two values, and where both are numbers up to their size.

## Main definitions

* `Value.addable` — whether two values can be added.

## Main results

* `Value.addable_iff` — these are the values whose sum has a JSON form.
-/

namespace SessionRecorder.Value

variable {v w : Value}

/-- Whether two values can be added: two texts, two lists, two doubles, a double and a whole number
next to which there is a double, or two whole numbers whose sum has no more digits than are read.
Truth values count as whole numbers. -/
def addable : Value → Value → Bool
  | .str _, .str _ => true
  | .list _, .list _ => true
  | .float _, .float _ => true
  | .float _, w => w.integer?.any fun j => (Binary64.ofInt? j).isSome
  | v, .float _ => v.integer?.any fun i => (Binary64.ofInt? i).isSome
  | v, w => v.integer?.any fun i => w.integer?.any fun j => Json.isShort (i + j)

/-- A sum with a double is there if there is a double next to the whole number in it. -/
lemma isSome_ofInt?_iff (i : Int) (f : Binary64 → Binary64) :
    (Binary64.ofInt? i).isSome = true ↔
      ∃ u, ((doubleOf i).map fun x => Value.float (f x)) = .ok u ∧ u.IsWritable := by
  unfold doubleOf
  cases Binary64.ofInt? i with
  | none => exact ⟨nofun, nofun⟩
  | some x => exact ⟨fun _ => ⟨_, rfl, rfl⟩, fun _ => rfl⟩

/-- A sum of whole numbers is there, and has a JSON form if it is short. -/
lemma isShort_iff (i : Int) : Json.isShort i = true ↔
    ∃ u, (.ok (.int i) : Except Fault Value) = .ok u ∧ u.IsWritable := by
  rw [← isWritable_int]
  exact ⟨fun h => ⟨_, rfl, h⟩, fun ⟨u, hu, h⟩ => Except.ok.inj hu ▸ h⟩

/-- **Two values can be added** if they have a sum and it has a JSON form. -/
theorem addable_iff (hv : v.IsWritable) (hw : w.IsWritable) :
    v.addable w = true ↔ ∃ u, v.add w = .ok u ∧ u.IsWritable := by
  cases v with
  | none | dict fields => cases w <;> exact ⟨nofun, nofun⟩
  | bytes b => cases hv
  | str s =>
    cases w with
    | str t => exact ⟨fun _ => ⟨_, rfl, rfl⟩, fun _ => rfl⟩
    | _ => exact ⟨nofun, nofun⟩
  | list xs =>
    cases w with
    | list ys =>
      have hitems : (Value.list (xs ++ ys)).IsWritable := isWritable_list.2
        (List.forall_mem_append.2 ⟨isWritable_list.1 hv, isWritable_list.1 hw⟩)
      exact ⟨fun _ => ⟨_, rfl, hitems⟩, fun _ => rfl⟩
    | _ => exact ⟨nofun, nofun⟩
  | float x =>
    cases w with
    | float y => exact ⟨fun _ => ⟨_, rfl, rfl⟩, fun _ => rfl⟩
    | bool b => exact isSome_ofInt?_iff _ _
    | int j => exact isSome_ofInt?_iff _ _
    | _ => exact ⟨nofun, nofun⟩
  | bool b =>
    cases w with
    | float y => exact isSome_ofInt?_iff _ _
    | bool c => exact isShort_iff _
    | int j => exact isShort_iff _
    | _ => exact ⟨nofun, nofun⟩
  | int i =>
    cases w with
    | float y => exact isSome_ofInt?_iff _ _
    | bool c => exact isShort_iff _
    | int j => exact isShort_iff _
    | _ => exact ⟨nofun, nofun⟩

end SessionRecorder.Value
