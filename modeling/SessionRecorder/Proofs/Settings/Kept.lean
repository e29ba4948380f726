import SessionRecorder.Proofs.Files
import SessionRecorder.Proofs.Settings.Precedence
import SessionRecorder.Proofs.WellTyped
/-!
# Which settings a file gives

A file that cannot be read, is no JSON or holds no record gives the defaults, and so does a record
for each setting that it leaves out. What a record holds is not looked at before it is used: the
delay is made a whole number, which may fail, and whatever stands for a name is made a text.

## Main definitions

* `Value.IsIntegral` — the values that stand for whole numbers.
* `Settings.recordOf`, `Settings.given` — what a file gives for each setting.
* `Settings.Faithful` — settings that are what the file gives, each of its kind.
* `Settings.Sound` — records from which such settings can be made.

## Main results

* `Settings.faithful_iff` — a file gives faithful settings exactly if its record is sound.
* `Settings.spoiled_by_values` — values that stop the loading, or that a text is made of.
-/

namespace SessionRecorder

/-! ## Values that stand for others -/

/-- A text is the numeral of a whole number, with no more digits than are read. -/
def Numeral.SpellsInteger (s : String) : Prop :=
  ∃ i, readInteger s = .number i

namespace Value

/-- The values that stand for whole numbers: truth values, whole numbers, finite doubles, and
numerals of whole numbers in a text or in octets. -/
def IsIntegral : Value → Prop
  | .bool _ | .int _ | .float (.finite ..) => True
  | .str s => Numeral.SpellsInteger s
  | .bytes b => Numeral.SpellsInteger (asciiNumeral b)
  | _ => False

/-- A numeral is made a whole number if it spells one. -/
lemma exists_parseInteger_iff (v : Value) {numeral : String} :
    (∃ i, parseInteger v numeral = .ok i) ↔ Numeral.SpellsInteger numeral := by
  unfold parseInteger Numeral.SpellsInteger
  cases Numeral.readInteger numeral <;> simp

/-- A value is made a whole number if it stands for one. -/
lemma exists_toInteger_iff (v : Value) : (∃ i, v.toInteger = .ok i) ↔ v.IsIntegral := by
  have missing {f : Fault} : (∃ i : Int, Except.error f = .ok i) ↔ False := by simp
  cases v with
  | bool b => exact ⟨fun _ => trivial, fun _ => ⟨_, rfl⟩⟩
  | int i => exact ⟨fun _ => trivial, fun _ => ⟨i, rfl⟩⟩
  | float x =>
    cases x with
    | finite s m p hv => exact ⟨fun _ => trivial, fun _ => ⟨_, rfl⟩⟩
    | infinite s => exact missing
    | nan => exact missing
  | str s => exact exists_parseInteger_iff _
  | bytes b => exact exists_parseInteger_iff _
  | none => exact missing
  | list items => exact missing
  | dict fields => exact missing

/-- A value is the text that is made of it exactly if it is a text. -/
lemma str_shown_eq_iff (v : Value) : .str v.shown = v ↔ v.IsText := by
  cases v with
  | str s => exact ⟨fun _ => trivial, fun _ => rfl⟩
  | _ => exact ⟨nofun, False.elim⟩

end Value

namespace Settings

variable {w : Workspace} {p : Path} {record : List (String × Value)} {s : Settings}

/-! ## Records -/

/-- The names of the settings that are texts. -/
def textNames : List String := ["output_dir", "script_name", "default_step_name"]

/-- The names of the settings that are texts or nothing. -/
def optionalNames : List String := ["snapshot_dir", "formatter", "editor"]

/-- What a record gives for a setting: what it holds under the name of it, or else the default. -/
def given (record : List (String × Value)) (name : String) : Value :=
  Value.fieldOr record name (Value.fieldOr defaults name .none)

/-- **Settings are what a record gives, each of its kind**: names and optional settings as they
stand there, names being texts; the delay the whole number and the switch the truth value that
stand there or that what stands there stands for. -/
structure Faithful (record : List (String × Value)) (s : Settings) : Prop where
  texts : ∀ name ∈ textNames, s.value name = given record name ∧ (s.value name).IsText
  optionals : ∀ name ∈ optionalNames, s.value name = given record name
  debounce : ∃ i, s.debounce = .int i ∧ (given record "debounce_ms").toInteger = .ok i
  saveLog : s.saveLog = .bool (given record "save_log_json").truthy

/-- **Faithful settings can be made of a record**: each name that it holds is a text, and the delay
stands for a whole number. -/
structure Sound (record : List (String × Value)) : Prop where
  texts : ∀ name ∈ textNames, (given record name).IsText
  debounce : (given record "debounce_ms").IsIntegral

/-- What is shown of each text is shown of all. -/
lemma forall_textNames {P : String → Prop} : (∀ name ∈ textNames, P name) ↔
    P "output_dir" ∧ P "script_name" ∧ P "default_step_name" := by
  simp [textNames]

/-- The settings that a record gives, if there is a delay. -/
def ofDelay (record : List (String × Value)) (debounce : Int) : Settings where
  outputDir := .str (given record "output_dir").shown
  scriptName := .str (given record "script_name").shown
  snapshotDir := given record "snapshot_dir"
  debounce := .int debounce
  defaultStep := .str (given record "default_step_name").shown
  formatter := given record "formatter"
  editor := given record "editor"
  saveLog := .bool (given record "save_log_json").truthy

/-- Only the delay may keep settings from being made of a record. -/
lemma ofRecord_eq (record : List (String × Value)) :
    ofRecord record = (given record "debounce_ms").toInteger.map (ofDelay record) := rfl

/-- Settings that are made of a record are faithful to it exactly if its names are texts. -/
lemma faithful_ofDelay_iff {i : Int} (h : (given record "debounce_ms").toInteger = .ok i) :
    Faithful record (ofDelay record i) ↔ ∀ name ∈ textNames, (given record name).IsText := by
  have htexts : ∀ name ∈ textNames,
      (ofDelay record i).value name = .str (given record name).shown := by
    rw [forall_textNames]
    exact ⟨rfl, rfl, rfl⟩
  constructor
  · intro hfaithful name hname
    obtain ⟨heq, -⟩ := hfaithful.texts name hname
    exact (Value.str_shown_eq_iff _).1 ((htexts name hname).symm.trans heq)
  · intro htext
    refine ⟨fun name hname => ?_, ?_, ⟨i, rfl, h⟩, rfl⟩
    · rw [htexts name hname]
      exact ⟨(Value.str_shown_eq_iff _).2 (htext name hname), trivial⟩
    · simp only [optionalNames, List.forall_mem_cons]
      exact ⟨rfl, rfl, rfl, by simp⟩

/-! ## Files -/

/-- What a file gives: the fields of the record that it holds, or nothing. -/
def recordOf (w : Workspace) (p : Path) : List (String × Value) :=
  (record? w p).getD []

/-- What is not there holds no record. -/
lemma recordOf_of_pathExists (h : w.pathExists p = .ok false) : recordOf w p = [] := by
  unfold recordOf record? Workspace.readText
  cases hread : w.read p with
  | error f => rfl
  | ok content =>
    rw [Workspace.pathExists_of_read hread] at h
    cases h

/-- **The settings in a file are made of what it gives**, once it is known whether there is
something. -/
lemma load_eq (w : Workspace) (p : Path) :
    load w p = w.pathExists p >>= fun _ => ofRecord (recordOf w p) := by
  unfold load
  cases hexists : w.pathExists p with
  | error f => rfl
  | ok there =>
    cases there with
    | false =>
      show _ = ofRecord (recordOf w p)
      rw [recordOf_of_pathExists hexists]
      rfl
    | true =>
      show _ = ofRecord (recordOf w p)
      unfold recordOf
      cases record? w p <;> rfl

/-- **A file gives settings** exactly if it can be found out whether it is there, and what it gives
for the delay stands for a whole number. -/
lemma exists_load_iff_isIntegral (w : Workspace) (p : Path) : (∃ s, load w p = .ok s) ↔
    (∃ there, w.pathExists p = .ok there) ∧ (given (recordOf w p) "debounce_ms").IsIntegral := by
  rw [load_eq]
  refine exists_bind_iff_and Iff.rfl fun _ => ?_
  rw [ofRecord_eq]
  exact exists_map_iff.trans (Value.exists_toInteger_iff _)

/-- Settings that a file gives are faithful to it exactly if its names are texts. -/
lemma faithful_load_iff (h : load w p = .ok s) :
    Faithful (recordOf w p) s ↔ ∀ name ∈ textNames, (given (recordOf w p) name).IsText := by
  rw [load_eq] at h
  obtain ⟨_, -, hrecord⟩ := exists_of_bind h
  rw [ofRecord_eq] at hrecord
  obtain ⟨i, hi, rfl⟩ := exists_of_map hrecord
  exact faithful_ofDelay_iff hi

/-- **A file gives settings that are faithful to it exactly if it can be found out whether it is
there and what it gives is sound.** A file that cannot be read, is no JSON, or holds no record gives
nothing, which is sound: the defaults stand for all that is left out. A record is spoiled by a delay
that stands for no whole number, and by a name that is no text, nothing included. -/
theorem faithful_iff (w : Workspace) (p : Path) :
    (∃ s, load w p = .ok s ∧ Faithful (recordOf w p) s) ↔
      (∃ there, w.pathExists p = .ok there) ∧ Sound (recordOf w p) := by
  constructor
  · rintro ⟨s, hload, hfaithful⟩
    obtain ⟨hexists, hdebounce⟩ := (exists_load_iff_isIntegral w p).1 ⟨s, hload⟩
    exact ⟨hexists, (faithful_load_iff hload).1 hfaithful, hdebounce⟩
  · rintro ⟨hexists, hsound⟩
    obtain ⟨s, hload⟩ := (exists_load_iff_isIntegral w p).2 ⟨hexists, hsound.debounce⟩
    exact ⟨s, hload, (faithful_load_iff hload).2 hsound.texts⟩

/-- A workspace with a file of settings. -/
def workspaceOf (content : String) : Workspace :=
  { Overrides.layeredWorkspace with disk := ⟨[(["settings.json"], .file (.text content))]⟩ }

/-- What a file of settings with a content gives. -/
def loaded (content : String) : Except Fault Settings :=
  load (workspaceOf content) (Path.parse "settings.json")

/-- **Some values spoil a file of settings**: a delay that is a word or nothing stops the loading,
and nothing in place of a name is made a text. -/
theorem spoiled_by_values :
    (error? (loaded "\x7b\"debounce_ms\": \"soon\"\x7d")).map Fault.message =
      some "invalid literal for int() with base 10: 'soon'" ∧
    (error? (loaded "\x7b\"debounce_ms\": null\x7d")).map Fault.message = some
      "int() argument must be a string, a bytes-like object or a real number, not 'NoneType'" ∧
    (loaded "\x7b\"output_dir\": null\x7d").toOption.map (·.outputDir.shown) = some "None" := by
  decide +kernel

end Settings

end SessionRecorder
