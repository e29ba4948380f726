import SessionRecorder.Ini.Interpolation
import SessionRecorder.Proofs.Result
/-!
# Values that can be expanded

The value of an option can be expanded exactly if every percent sign in it is doubled or begins a
reference, and every reference names an option of the section whose value has no percent sign or can
be expanded in turn. This goes ten levels deep, and no further.

## Main definitions

* `Ini.Resolves` — the values that can be expanded.

## Main results

* `Ini.exists_value?_iff` — an option has an expanded text, or none, exactly if its value resolves.
-/

namespace SessionRecorder.Ini

/-- A part that can be expanded: a character, or a reference that is resolved. -/
def Piece.IsSound (resolved : String → Prop) : Piece → Prop
  | .literal _ => True
  | .reference option => resolved (Text.lower (String.ofList option))
  | .strayPercent _ | .brokenReference _ => False

/-- A value can be expanded with `depth` levels of references left: all its parts can, and a
reference is resolved by an option of the section whose value has no percent sign, or can be
expanded with one level less. -/
def Resolves (d : Document) (sectionName : String) : (depth : Nat) → List Char → Prop
  | 0, _ => False
  | depth + 1, cs => ∀ piece ∈ pieces cs, piece.IsSound fun option =>
      ∃ value, d.raw? sectionName option = some value ∧
        (value.contains '%' = true → Resolves d sectionName depth value.toList)

/-- Parts come to a text exactly if each of them can be expanded. -/
lemma exists_expandPieces_iff {resolve : String → Except Problem (List Char)}
    {parts : List Piece} : (∃ cs, expandPieces resolve parts = .ok cs) ↔
      ∀ piece ∈ parts, piece.IsSound fun option => ∃ cs, resolve option = .ok cs := by
  induction parts with
  | nil => exact ⟨fun _ => List.forall_mem_nil _, fun _ => ⟨[], rfl⟩⟩
  | cons piece rest ih =>
    rw [List.forall_mem_cons, ← ih]
    cases piece with
    | literal c => exact exists_map_iff.trans (and_iff_right trivial).symm
    | reference option =>
      rw [expandPieces]
      simp only [Piece.IsSound]
      cases resolve (Text.lower (String.ofList option)) with
      | error p => simp
      | ok cs => exact exists_map_iff.trans (and_iff_right ⟨cs, rfl⟩).symm
    | strayPercent cs => simp [expandPieces, Piece.IsSound]
    | brokenReference cs => simp [expandPieces, Piece.IsSound]

/-- A value comes to a text exactly if it can be expanded, whichever option it is looked at for. -/
lemma exists_expand_iff {d : Document} {sectionName option raw : String} {depth : Nat}
    {cs : List Char} : (∃ text, expand d sectionName option raw depth cs = .ok text) ↔
      Resolves d sectionName depth cs := by
  induction depth generalizing cs with
  | zero => exact ⟨nofun, False.elim⟩
  | succ depth ih =>
    rw [expand, exists_expandPieces_iff, Resolves]
    refine forall₂_congr fun piece _ => ?_
    cases piece with
    | reference name =>
      simp only [Piece.IsSound]
      cases d.raw? sectionName (Text.lower (String.ofList name)) with
      | none => simp
      | some value =>
        simp only [Option.some.injEq, exists_eq_left']
        cases value.contains '%' with
        | false => simp
        | true => simpa using ih
    | _ => exact Iff.rfl

/-- **An option has an expanded text, or none, exactly if its value can be expanded.** -/
lemma exists_value?_iff {d : Document} {sectionName option : String} :
    (∃ text, d.value? sectionName option = .ok text) ↔
      ∀ raw, d.raw? sectionName option = some raw →
        Resolves d sectionName depthLimit raw.toList := by
  rw [Document.value?]
  cases d.raw? sectionName option with
  | none => simp
  | some raw =>
    simp only [Option.some.injEq, forall_eq']
    exact exists_map_iff.trans exists_expand_iff

end SessionRecorder.Ini
