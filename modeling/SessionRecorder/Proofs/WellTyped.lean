import Mathlib.Tactic.Common
import SessionRecorder.Session
/-!
# Well-typed events and entries

The kinds that the fields of events and entries are declared to have. Nothing in the program checks
them: a page may hand over anything. The statements about what a recording *means* are about
events whose fields have their declared kinds.

## Main definitions

* `Value.IsNumber`, `Value.IsTruth`, `Value.IsText`, `Value.IsOptionalText`, `Value.IsTextList` — the
  kinds of fields.
* `Event.WellTyped`, `Entry.WellTyped` — events and entries whose fields are of these kinds.
* `Session.WellTyped` — a session with well-typed entries.

## Main results

* `Modifier.exists_ofValue`, `KeyLabel.exists_make` — a well-typed key has a label.
-/

namespace SessionRecorder

/-! ## Kinds of fields -/

namespace Value

/-- A whole number or a double of any kind. -/
def IsNumber : Value → Prop
  | .int _ | .float _ => True
  | _ => False

/-- A whole number. -/
def IsInteger : Value → Prop
  | .int _ => True
  | _ => False

/-- A text. -/
def IsText : Value → Prop
  | .str _ => True
  | _ => False

/-- A text or nothing. -/
def IsOptionalText : Value → Prop
  | .none | .str _ => True
  | _ => False

/-- A truth value. -/
def IsTruth : Value → Prop
  | .bool _ => True
  | _ => False

/-- A list of texts. -/
def IsTextList : Value → Prop
  | .list items => ∀ item ∈ items, item.IsText
  | _ => False

/-- A text is a character string. -/
lemma IsText.exists_eq {v : Value} (h : v.IsText) : ∃ s, v = .str s := by
  cases v <;> simp_all [IsText]

/-- A whole number is an integer. -/
lemma IsInteger.exists_eq {v : Value} (h : v.IsInteger) : ∃ i, v = .int i := by
  cases v <;> simp_all [IsInteger]

/-- A truth value is true or false. -/
lemma IsTruth.exists_eq {v : Value} (h : v.IsTruth) : ∃ b, v = .bool b := by
  cases v <;> simp_all [IsTruth]

/-- A whole number is a number. -/
lemma IsInteger.isNumber {v : Value} (h : v.IsInteger) : v.IsNumber := by
  obtain ⟨i, rfl⟩ := h.exists_eq
  trivial

/-- A text is an optional text. -/
lemma IsText.isOptionalText {v : Value} (h : v.IsText) : v.IsOptionalText := by
  obtain ⟨s, rfl⟩ := h.exists_eq
  trivial

/-- A text has a JSON form, and so has nothing. -/
lemma IsOptionalText.firstUnwritable {v : Value} (h : v.IsOptionalText) :
    Json.firstUnwritable? v = Option.none := by
  cases v <;> first | rfl | exact h.elim

/-- A text has a JSON form. -/
lemma IsText.firstUnwritable {v : Value} (h : v.IsText) :
    Json.firstUnwritable? v = Option.none :=
  h.isOptionalText.firstUnwritable

/-- A truth value has a JSON form. -/
lemma IsTruth.firstUnwritable {v : Value} (h : v.IsTruth) :
    Json.firstUnwritable? v = Option.none := by
  obtain ⟨b, rfl⟩ := h.exists_eq
  rfl

/-- The name of a step that may have none, with a text in place of nothing, is a text. -/
lemma IsOptionalText.isText_orElse {v w : Value} (hv : v.IsOptionalText) (hw : w.IsText) :
    (v.orElse w).IsText := by
  cases v with
  | none => simpa [orElse, truthy] using hw
  | str s =>
    simp only [orElse]
    split
    · trivial
    · exact hw
  | _ => exact hv.elim

/-- A text in place of which the empty one stands if it is empty. -/
@[simp] lemma str_orElse_empty (s : String) : (Value.str s).orElse (.str "") = .str s := by
  by_cases h : s = ""
  · subst h
    rfl
  · simp [orElse, truthy, h]

/-- A double is a number. -/
lemma isNumber_float (x : Binary64) : (Value.float x).IsNumber := True.intro

/-- The sum of two whole numbers. -/
@[simp] lemma int_add_int (i j : Int) : (Value.int i).add (.int j) = .ok (.int (i + j)) := rfl

/-- What comes of a sum rounded to a double is a number. -/
lemma isNumber_of_map {r : Except Fault Binary64} {f : Binary64 → Binary64} {u : Value}
    (h : (r.map fun x => Value.float (f x)) = .ok u) : u.IsNumber := by
  cases r with
  | error e => cases h
  | ok x =>
    obtain rfl := Except.ok.inj h
    exact isNumber_float (f x)

/-- The sum of two numbers is a number, if there is one: that of a whole number and a double may be
out of range. -/
lemma IsNumber.add {v w u : Value} (hv : v.IsNumber) (hw : w.IsNumber) (h : v.add w = .ok u) :
    u.IsNumber := by
  cases v with
  | int i =>
    cases w with
    | int j =>
      obtain rfl := Except.ok.inj h
      exact True.intro
    | float y => exact isNumber_of_map h
    | _ => exact hw.elim
  | float x =>
    cases w with
    | int j => exact isNumber_of_map h
    | float y =>
      obtain rfl := Except.ok.inj h
      exact isNumber_float _
    | _ => exact hw.elim
  | _ => exact hv.elim

end Value

/-! ## Events -/

/-- A rectangle of numbers. -/
structure Rect.WellTyped (r : Rect) : Prop where
  x : r.x.IsNumber
  y : r.y.IsNumber
  width : r.width.IsNumber
  height : r.height.IsNumber

/-- The whole page, or a rectangle of numbers. -/
def Region.WellTyped : Region → Prop
  | .rect r => r.WellTyped
  | .other .none => True
  | .other _ => False

/-- A place given by numbers, with a text for what is there and a list of texts for the
modifiers. -/
structure Target.WellTyped (t : Target) : Prop where
  x : t.x.IsNumber
  y : t.y.IsNumber
  locator : t.locator.IsText
  modifiers : t.modifiers.IsTextList

/-- An event whose fields are of the declared kinds. -/
def Event.WellTyped : Event → Prop
  | .pointer _ t => t.WellTyped
  | .wheel t dx dy => t.WellTyped ∧ dx.IsNumber ∧ dy.IsNumber
  | .key _ k modifiers => k.IsText ∧ modifiers.IsTextList
  | .screenshot name image locator region =>
    name.IsText ∧ (∃ b, image = .bytes b) ∧ locator.IsText ∧ region.WellTyped
  | .stepStart name => name.IsOptionalText
  | .stepEnd => True
  | .comment text => text.IsText
  | .navigation url => url.IsText
  | .unknown _ => False

/-- Every turn of the wheel is by whole numbers. -/
def Event.TurnsWhole : Event → Prop
  | .wheel _ dx dy => dx.IsInteger ∧ dy.IsInteger
  | _ => True

/-! ## Entries -/

/-- An entry whose fields are of the declared kinds. -/
def Entry.WellTyped : Entry → Prop
  | .mouseDown x y | .click x y | .doubleClick x y => x.IsNumber ∧ y.IsNumber
  | .mouseMove x y steps => x.IsNumber ∧ y.IsNumber ∧ steps.IsInteger
  | .mouseUp => True
  | .wheel x y dx dy => x.IsNumber ∧ y.IsNumber ∧ dx.IsNumber ∧ dy.IsNumber
  | .keyDown label | .keyUp label | .keyPress label => label.IsText
  | .screenshot name locator region => name.IsText ∧ locator.IsText ∧ region.WellTyped
  | .step which name => which.IsText ∧ name.IsOptionalText
  | .comment text => text.IsText
  | .navigation url => url.IsText

/-- A session whose entries are well-typed and whose open steps have texts for names. -/
structure Session.WellTyped (s : Session) : Prop where
  log : ∀ e ∈ s.log, e.WellTyped
  openSteps : ∀ name ∈ s.openSteps, name.IsText

/-! ## Labels -/

/-- A list of texts lists modifiers. -/
lemma Modifier.exists_ofValue {v : Value} (h : v.IsTextList) : ∃ ms, ofValue v = .ok ms := by
  cases v with
  | list items =>
    unfold ofValue
    split
    · exact ⟨_, rfl⟩
    · exact ⟨_, rfl⟩
  | _ => exact h.elim

/-- A key that is a text has a label, whatever modifiers are held down. -/
lemma KeyLabel.exists_make {key modifiers : Value} (hk : key.IsText)
    (hm : modifiers.IsTextList) : ∃ label, make key modifiers = .ok label := by
  obtain ⟨s, rfl⟩ := hk.exists_eq
  obtain ⟨ms, hms⟩ := Modifier.exists_ofValue hm
  exact ⟨text s ms, by simp only [make, hms]⟩

end SessionRecorder
