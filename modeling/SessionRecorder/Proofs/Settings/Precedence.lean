import Mathlib.Tactic.Common
import SessionRecorder.CommandLine
import SessionRecorder.Proofs.Result
/-!
# Which setting wins

A setting is looked for in four places: on the command line, in an environment variable, in the
configuration file, and among the settings that were kept. The first place that has it wins, for
each setting on its own. A number or a truth value that cannot be read is as good as not there,
while an empty text, zero and false are there.

## Main definitions

* `Settings.names`, `Settings.value` — the settings by name.
* `Overrides.reading?` — the value that a text gives to a setting.
* `Overrides.configuration`, `Overrides.runtimeText` — what the configuration file says.
* `Overrides.layered` — the value of a setting, from a variable, the file and what was kept.

## Main results

* `Overrides.precedence_of_load` — every setting of a run comes from the first place that has it.
-/

namespace SessionRecorder

namespace Settings

/-- The names of the settings. -/
def names : List String := defaults.map (·.1)

/-- The value of a setting. -/
def value (s : Settings) (name : String) : Value :=
  Value.fieldOr s.fields name .none

end Settings

namespace Overrides

/-! ## Values in texts -/

/-- The value that a text gives to a setting: for the delay the whole number and for the switch the
truth value that it spells, if it spells one; for the others the text itself, even if empty. -/
def reading? (name text : String) : Option Value :=
  if name = "debounce_ms" then (readInt text).toOption.join.map .int
  else if name = "save_log_json" then (readBool text).map .bool
  else some (.str text)

/-- The value of a setting: what the text of a variable gives, or else what the text of the
configuration file gives, or else what was kept. -/
def layered (name : String) (exported written : Option String) (kept : Value) : Value :=
  ((exported.bind (reading? name)).or (written.bind (reading? name))).getD kept

/-! ## Single settings -/

/-- A value, unless it is nothing. -/
def present? : Value → Option Value
  | .none => none
  | v => some v

/-- A value that is given goes before another. -/
lemma given_eq (v other : Value) : given v other = (present? v).getD other := by
  cases v <;> rfl

/-- What overrides give for each setting. -/
def fields (o : Overrides) : List (String × Option Value) :=
  [("output_dir", present? o.outputDir), ("script_name", present? o.scriptName),
    ("snapshot_dir", present? o.snapshotDir), ("debounce_ms", o.debounce.map .int),
    ("default_step_name", present? o.defaultStep), ("formatter", present? o.formatter),
    ("editor", present? o.editor), ("save_log_json", o.saveLog.map .bool)]

/-- What overrides give for a setting. -/
def value? (o : Overrides) (name : String) : Option Value :=
  ((o.fields.find? (·.1 == name)).map (·.2)).join

/-- What is shown of each setting is shown of all. -/
lemma forall_names {p : String → Prop} : (∀ name ∈ Settings.names, p name) ↔
    p "output_dir" ∧ p "script_name" ∧ p "snapshot_dir" ∧ p "debounce_ms" ∧
      p "default_step_name" ∧ p "formatter" ∧ p "editor" ∧ p "save_log_json" := by
  simp [Settings.names, Settings.defaults]

/-- Applied overrides give what they have, and keep the other settings. -/
lemma value_apply (o : Overrides) (s : Settings) :
    ∀ name ∈ Settings.names, (o.apply s).value name = (o.value? name).getD (s.value name) := by
  rw [forall_names]
  refine ⟨?_, ?_, ?_, ?_, ?_, ?_, ?_, ?_⟩ <;>
    simp [Settings.value, Settings.fields, Value.fieldOr, Value.lookup?, apply, value?, fields,
      given_eq]

/-- Nothing is given by nothing. -/
lemma value?_nothing (source : Option Path) :
    ∀ name ∈ Settings.names, (nothing source).value? name = none := by
  rw [forall_names]
  exact ⟨rfl, rfl, rfl, rfl, rfl, rfl, rfl, rfl⟩

/-! ## Sources of texts -/

/-- A source that gives nothing but texts. -/
def Texts (source : Source) : Prop :=
  ∀ name v, source name = .ok (some v) → ∃ text, v = .str text

variable {source : Source}

/-- A source of texts that can be asked gives a text or nothing. -/
lemma Texts.exists_text (h : Texts source) {name : String} {found : Option Value}
    (hfound : source name = .ok found) : ∃ text : Option String, found = text.map .str := by
  cases found with
  | none => exact ⟨none, rfl⟩
  | some v =>
    obtain ⟨text, rfl⟩ := h name v hfound
    exact ⟨some text, rfl⟩

/-- What a source of texts gives for a setting, and what was given before. -/
def Asked (source : Source) (key setting : String) (before after : Option Value) : Prop :=
  ∃ text : Option String, source key = .ok (text.map .str) ∧
    after = (text.bind (reading? setting)).or before

/-- A value from a source of texts. -/
lemma asked_of_valueFrom (h : Texts source) {key setting : String} {before after : Value}
    (hd : setting ≠ "debounce_ms") (hs : setting ≠ "save_log_json")
    (hv : valueFrom source key before = .ok after) :
    Asked source key setting (present? before) (present? after) := by
  cases hsource : source key with
  | error f => simp [valueFrom, hsource, Except.map] at hv
  | ok found =>
    obtain ⟨text, rfl⟩ := h.exists_text hsource
    simp only [valueFrom, hsource, Except.map, Except.ok.injEq] at hv
    subst hv
    refine ⟨text, hsource, ?_⟩
    cases text <;> simp [reading?, hd, hs, present?]

/-- Without a text the number is what it was. -/
lemma intFrom_of_none {key : String} (before : Option Int) (h : source key = .ok none) :
    intFrom source key before = .ok before := by
  rw [intFrom, h]
  rfl

/-- The number that a text spells goes before what was given. -/
lemma intFrom_of_some {key text : String} (before : Option Int)
    (h : source key = .ok (some (.str text))) :
    intFrom source key before = (readInt text).map (·.or before) := by
  rw [intFrom, h]
  cases hread : readInt text with
  | error f => simp only [bind, Except.bind, Value.shown, hread, Except.map]
  | ok n => simp only [bind, Except.bind, Value.shown, hread, Except.map, pure, Except.pure]

/-- A whole number from a source of texts. -/
lemma asked_of_intFrom (h : Texts source) {key : String} {before after : Option Int}
    (hv : intFrom source key before = .ok after) :
    Asked source key "debounce_ms" (before.map .int) (after.map .int) := by
  cases hsource : source key with
  | error f =>
    rw [intFrom, hsource] at hv
    cases hv
  | ok found =>
    obtain ⟨text, rfl⟩ := h.exists_text hsource
    refine ⟨text, hsource, ?_⟩
    cases text with
    | none =>
      rw [intFrom_of_none before hsource, Except.ok.injEq] at hv
      subst hv
      rfl
    | some text =>
      rw [intFrom_of_some before hsource] at hv
      cases hread : readInt text with
      | error f => simp [hread, Except.map] at hv
      | ok n =>
        simp only [hread, Except.map, Except.ok.injEq] at hv
        subst hv
        cases n <;> simp [reading?, hread, Except.toOption]

/-- Without a text the truth value is what it was. -/
lemma boolFrom_of_none {key : String} (before : Option Bool) (h : source key = .ok none) :
    boolFrom source key before = .ok before := by
  rw [boolFrom, h]
  rfl

/-- The truth value that a text spells goes before what was given. -/
lemma boolFrom_of_some {key text : String} (before : Option Bool)
    (h : source key = .ok (some (.str text))) :
    boolFrom source key before = .ok ((readBool text).or before) := by
  rw [boolFrom, h]
  rfl

/-- A truth value from a source of texts. -/
lemma asked_of_boolFrom (h : Texts source) {key : String} {before after : Option Bool}
    (hv : boolFrom source key before = .ok after) :
    Asked source key "save_log_json" (before.map .bool) (after.map .bool) := by
  cases hsource : source key with
  | error f =>
    rw [boolFrom, hsource] at hv
    cases hv
  | ok found =>
    obtain ⟨text, rfl⟩ := h.exists_text hsource
    refine ⟨text, hsource, ?_⟩
    cases text with
    | none =>
      rw [boolFrom_of_none before hsource, Except.ok.injEq] at hv
      subst hv
      rfl
    | some text =>
      rw [boolFrom_of_some before hsource, Except.ok.injEq] at hv
      subst hv
      cases hread : readBool text <;> simp [reading?, hread]

/-- A source of texts, asked for every setting. -/
lemma asked_of_withSource (h : Texts source) {key : String → String} {o o' : Overrides}
    (ho : withSource source key o = .ok o') :
    ∀ name ∈ Settings.names, Asked source (key name) name (o.value? name) (o'.value? name) := by
  obtain ⟨outputDir, h₁, ho⟩ := exists_of_bind ho
  obtain ⟨scriptName, h₂, ho⟩ := exists_of_bind ho
  obtain ⟨snapshotDir, h₃, ho⟩ := exists_of_bind ho
  obtain ⟨debounce, h₄, ho⟩ := exists_of_bind ho
  obtain ⟨defaultStep, h₅, ho⟩ := exists_of_bind ho
  obtain ⟨formatter, h₆, ho⟩ := exists_of_bind ho
  obtain ⟨editor, h₇, ho⟩ := exists_of_bind ho
  obtain ⟨saveLog, h₈, ho⟩ := exists_of_bind ho
  rw [forall_names]
  have value {setting : String} {key : String} {before after : Value} (hd hs hv) :=
    @asked_of_valueFrom source h key setting before after hd hs hv
  obtain rfl := Except.ok.inj ho
  exact ⟨value (by decide) (by decide) h₁, value (by decide) (by decide) h₂,
    value (by decide) (by decide) h₃, asked_of_intFrom h h₄, value (by decide) (by decide) h₅,
    value (by decide) (by decide) h₆, value (by decide) (by decide) h₇, asked_of_boolFrom h h₈⟩

/-! ## Variables -/

/-- A variable among variables of the environment. -/
lemma lookup?_variables (env : Environment) (name : String) :
    Value.lookup? name env.variables = (env.value? name).map .str := by
  induction env with
  | nil => rfl
  | cons entry rest ih =>
    obtain ⟨key, text⟩ := entry
    simp only [Environment.variables, Environment.value?, List.map_cons, Value.lookup?,
      List.find?_cons] at ih ⊢
    cases hkey : key == name with
    | true => simp
    | false => simpa using ih

/-- Variables give nothing but texts. -/
lemma texts_variables (env : Environment) :
    Texts fun name => .ok (Value.lookup? name env.variables) := by
  intro name v hv
  rw [Except.ok.injEq, lookup?_variables, Option.map_eq_some_iff] at hv
  obtain ⟨text, -, rfl⟩ := hv
  exact ⟨text, rfl⟩

/-- What variables give goes before what was given. -/
lemma value?_of_withVariables {env : Environment} {o o' : Overrides}
    (h : withVariables env.variables o = .ok o') : ∀ name ∈ Settings.names,
      o'.value? name =
        ((env.value? (variableName name)).bind (reading? name)).or (o.value? name) := by
  intro name hname
  obtain ⟨text, hfound, hvalue⟩ := asked_of_withSource (texts_variables env) h name hname
  rw [Except.ok.injEq, lookup?_variables] at hfound
  rw [hvalue, Option.map_injective (fun _ _ => Value.str.inj) hfound]

example : Settings.names.map variableName =
    ["UI_CODEGEN_OUTPUT_DIR", "UI_CODEGEN_SCRIPT_NAME", "UI_CODEGEN_SNAPSHOT_DIR",
      "UI_CODEGEN_DEBOUNCE_MS", "UI_CODEGEN_DEFAULT_STEP_NAME", "UI_CODEGEN_FORMATTER",
      "UI_CODEGEN_EDITOR", "UI_CODEGEN_SAVE_LOG_JSON"] := by
  decide +kernel

/-! ## The configuration file -/

/-- The configuration in a file: an empty one if there is no such file or if what it holds is
none. -/
def fileConfiguration (w : Workspace) (p : Path) : Except Fault Ini.Document := do
  if ← w.isFile p then return (← document (← w.read p)).getD ⟨[]⟩ else return ⟨[]⟩

/-- The configuration of a run: the one in the configuration file, and an empty one without such a
file. -/
def configuration (w : Workspace) (env : Variables) (given : Option Path) :
    Except Fault Ini.Document := do
  match ← configFile w env given with
  | none => return ⟨[]⟩
  | some p => fileConfiguration w p

/-- The text of a setting in a configuration: the one of the option in the section `runtime`, if
there is such a section and such an option. -/
def runtimeText (d : Ini.Document) (name : String) : Except Ini.Problem (Option String) :=
  if d.has sectionName then d.value? sectionName name else .ok none

/-- A file gives what the configuration in it gives. -/
lemma withFile_eq (w : Workspace) (p : Path) (o : Overrides) :
    withFile w p o = fileConfiguration w p >>= fun d => withDocument d o := by
  rw [withFile, fileConfiguration]
  cases w.isFile p with
  | error f => rfl
  | ok isFile =>
    cases isFile with
    | false => rfl
    | true =>
      cases w.read p with
      | error f => rfl
      | ok content =>
        show (document content >>= _) = ((document content >>= fun d => _) >>= _)
        cases document content with
        | error f => rfl
        | ok d => cases d <;> rfl

/-- The configuration in the file that was found: an empty one if none was. -/
def foundConfiguration (w : Workspace) : Option Path → Except Fault Ini.Document
  | none => .ok ⟨[]⟩
  | some p => fileConfiguration w p

/-- The configuration of a run is the one in the file that is found. -/
lemma configuration_eq (w : Workspace) (env : Variables) (given : Option Path) :
    configuration w env given = configFile w env given >>= foundConfiguration w := by
  unfold configuration
  cases configFile w env given with
  | error f => rfl
  | ok source => cases source <;> rfl

/-- Overrides come from the configuration and then from variables. -/
lemma load_eq (w : Workspace) (env : Variables) (given : Option Path) :
    load w env given = configFile w env given >>= fun source =>
      foundConfiguration w source >>= fun d =>
        withDocument d (nothing source) >>= withVariables env := by
  unfold load
  cases configFile w env given with
  | error f => rfl
  | ok source =>
    cases source with
    | none => rfl
    | some p =>
      show (withFile w p (nothing (some p)) >>= withVariables env) = _
      rw [withFile_eq]
      show _ = (fileConfiguration w p >>= _)
      cases fileConfiguration w p <;> rfl

/-- What is loaded comes from the configuration and then from variables. -/
lemma exists_of_load {w : Workspace} {env : Variables} {given : Option Path} {o : Overrides}
    (h : load w env given = .ok o) :
    ∃ source d fromFile, configuration w env given = .ok d ∧
      withDocument d (nothing source) = .ok fromFile ∧ withVariables env fromFile = .ok o := by
  rw [load_eq] at h
  obtain ⟨source, hsource, h⟩ := exists_of_bind h
  obtain ⟨d, hd, h⟩ := exists_of_bind h
  obtain ⟨fromFile, hfile, h⟩ := exists_of_bind h
  refine ⟨source, d, fromFile, ?_, hfile, h⟩
  rw [configuration_eq, hsource]
  exact hd

/-- A configuration has an option, or has it not, if the text of it can be expanded. -/
lemma optionOf_eq_ok_iff {d : Ini.Document} {name : String} {written : Option String} :
    optionOf d name = .ok (written.map .str) ↔ d.value? sectionName name = .ok written := by
  rw [optionOf]
  cases d.value? sectionName name with
  | error p => simp
  | ok text => simpa using (Option.map_injective fun _ _ => Value.str.inj).eq_iff

/-- A configuration gives nothing but texts. -/
lemma texts_optionOf (d : Ini.Document) : Texts (optionOf d) := by
  intro name v hv
  rw [optionOf] at hv
  split at hv
  · rw [Except.ok.injEq, Option.map_eq_some_iff] at hv
    obtain ⟨text, -, rfl⟩ := hv
    exact ⟨text, rfl⟩
  · cases hv

/-- What a configuration gives. -/
lemma value?_of_withDocument {d : Ini.Document} {source : Option Path} {o : Overrides}
    (h : withDocument d (nothing source) = .ok o) : ∀ name ∈ Settings.names,
      ∃ written, runtimeText d name = .ok written ∧
        o.value? name = written.bind (reading? name) := by
  intro name hname
  rw [withDocument] at h
  cases hhas : d.has sectionName with
  | false =>
    rw [if_neg (by simp [hhas]), Except.ok.injEq] at h
    subst h
    refine ⟨none, ?_, value?_nothing source name hname⟩
    rw [runtimeText, if_neg (by simp [hhas])]
  | true =>
    rw [if_pos hhas] at h
    obtain ⟨written, hfound, hvalue⟩ := asked_of_withSource (texts_optionOf d) h name hname
    refine ⟨written, ?_, ?_⟩
    · rw [runtimeText, if_pos hhas]
      exact optionOf_eq_ok_iff.1 hfound
    · rw [hvalue, value?_nothing source name hname, Option.or_none]

/-! ## The command line -/

end Overrides

namespace CommandLine

/-- The settings that were kept: those in a file, or what they are if nothing is set. -/
def keptSettings (w : Workspace) : Option String → Except Fault Settings
  | some file => Settings.load w (Path.parse file)
  | none => .ok Settings.default

/-- The text that the command line gives to a setting. An empty text is none. -/
def textFor? (outputDir scriptName : Option String) (name : String) : Option String :=
  Option.filter (· != "") <|
    if name = "output_dir" then outputDir else if name = "script_name" then scriptName else none

/-- What stands on the command line goes before everything else, and no other setting changes. -/
lemma exists_recordSettings {w : Workspace} {file : Option String} {kept : Settings}
    (h : keptSettings w file = .ok kept) (o : Overrides) (outputDir scriptName : Option String) :
    ∃ s, recordSettings w file o outputDir scriptName = .ok s ∧ ∀ name ∈ Settings.names,
      s.value name = ((textFor? outputDir scriptName name).map .str).getD
        ((o.apply kept).value name) := by
  have named (text : Option String) (v : Value) : (Value.str (text.getD "")).orElse v =
      ((text.filter (· != "")).map .str).getD v := by
    cases text with
    | none => rfl
    | some text =>
      by_cases hempty : text = "" <;> simp [Value.orElse, Value.truthy, Option.filter, hempty]
  have hsettings : recordSettings w file o outputDir scriptName = (keptSettings w file).map fun s =>
      { o.apply s with
        outputDir := (Value.str (outputDir.getD "")).orElse (o.apply s).outputDir
        scriptName := (Value.str (scriptName.getD "")).orElse (o.apply s).scriptName } := by
    cases file with
    | none => rfl
    | some file =>
      rw [recordSettings, keptSettings]
      cases Settings.load w (Path.parse file) <;> rfl
  rw [hsettings, h]
  refine ⟨_, rfl, ?_⟩
  rw [Overrides.forall_names]
  refine ⟨named outputDir _, named scriptName _, rfl, rfl, rfl, rfl, rfl, rfl⟩

end CommandLine

namespace Overrides

/-- **Every setting comes from the first place that has it.** When the overrides of a run can be
loaded, the configuration file spells a configuration, or it counts as an empty one, and each
setting is then what its variable gives if that is set, even to nothing; else what the option of
the configuration gives if it is there; else what it was. A delay or a switch that cannot be read
counts as not there, wherever it stands. In a recording, a directory for the output or a name of
the script on the command line wins over all of these, unless it is empty, and no other setting is
changed by it.

**Proof sketch.** The file and the environment are two sources of texts, asked one after the other
for every setting in the same way (`asked_of_withSource`): what the source gives, if it can be read,
goes before what was given. Nothing is given at first. -/
theorem precedence_of_load {w : Workspace} {env : Environment} {given : Option Path} {o : Overrides}
    (h : load w env.variables given = .ok o) :
    ∃ d, configuration w env.variables given = .ok d ∧
      (∀ name ∈ Settings.names, ∃ written, runtimeText d name = .ok written ∧
        ∀ s : Settings, (o.apply s).value name =
          layered name (env.value? (variableName name)) written (s.value name)) ∧
      ∀ (w' : Workspace) (file outputDir scriptName : Option String) (kept : Settings),
        CommandLine.keptSettings w' file = .ok kept →
        ∃ s, CommandLine.recordSettings w' file o outputDir scriptName = .ok s ∧
          ∀ name ∈ Settings.names,
            s.value name = ((CommandLine.textFor? outputDir scriptName name).map .str).getD
              ((o.apply kept).value name) := by
  obtain ⟨source, d, fromFile, hd, hfile, hvariables⟩ := exists_of_load h
  refine ⟨d, hd, fun name hname => ?_, fun w' file outputDir scriptName kept hkept =>
    CommandLine.exists_recordSettings hkept o outputDir scriptName⟩
  obtain ⟨written, hwritten, hvalue⟩ := value?_of_withDocument hfile name hname
  refine ⟨written, hwritten, fun s => ?_⟩
  rw [value_apply o s name hname, value?_of_withVariables hvariables name hname, hvalue, layered]

/-- A workspace with a configuration file, and with variables that are empty, that spell no number
and that switch the log off. -/
def layeredWorkspace : Workspace where
  disk := ⟨[(["ui_codegen.ini"],
    .file (.text "[runtime]\noutput_dir = out\ndebounce_ms = 0\neditor = vi\nsave_log_json = on\n"))]⟩
  here := []
  environment := [("UI_CODEGEN_OUTPUT_DIR", ""), ("UI_CODEGEN_DEBOUNCE_MS", "soon"),
    ("UI_CODEGEN_SAVE_LOG_JSON", "Off")]
  accounts := []
  commandResult := .works
  reportOpen := true
  journal := []
  ran := []
  attached := []

/-- The configuration in its file. -/
def layeredConfiguration : Ini.Document :=
  ⟨[⟨"runtime", [("output_dir", ["out"]), ("debounce_ms", ["0"]), ("editor", ["vi"]),
    ("save_log_json", ["on"])]⟩]⟩

/-- The empty directory, the switch and the name on the command line win over the file, and the
delay of zero in the file wins over the variable that spells no number. -/
theorem precedence_layeredWorkspace : ∃ o s,
    load layeredWorkspace layeredWorkspace.environment.variables none = .ok o ∧
    CommandLine.recordSettings layeredWorkspace none o (some "") (some "run.py") = .ok s ∧
    s.value "output_dir" = .str "" ∧ s.value "script_name" = .str "run.py" ∧
    s.value "debounce_ms" = .int 0 ∧ s.value "editor" = .str "vi" ∧
    s.value "save_log_json" = .bool false ∧ s.value "formatter" = .none := by
  have hloads : (load layeredWorkspace layeredWorkspace.environment.variables none).isOk = true :=
    by decide +kernel
  obtain ⟨o, ho⟩ := exists_of_isOk hloads
  obtain ⟨d, hd, hlayers, hrecord⟩ := precedence_of_load ho
  obtain ⟨s, hs, hvalues⟩ := hrecord layeredWorkspace none (some "") (some "run.py") .default rfl
  -- the configuration is the one with four options, and each of them is found in it
  obtain rfl : layeredConfiguration = d := by
    have hconfiguration : (configuration layeredWorkspace
        layeredWorkspace.environment.variables none).toOption = some layeredConfiguration := by
      decide +kernel
    rw [hd] at hconfiguration
    exact (Option.some.inj hconfiguration).symm
  have layer {name : String} (exported written : Option String) (hname : name ∈ Settings.names)
      (hexported : layeredWorkspace.environment.value? (variableName name) = exported)
      (hwritten : (runtimeText layeredConfiguration name).toOption = some written) :
      (o.apply .default).value name =
        layered name exported written (Settings.default.value name) := by
    obtain ⟨text, htext, hlayer⟩ := hlayers name hname
    rw [htext] at hwritten
    rw [hlayer, hexported, Option.some.inj hwritten]
  have hnumber : (readInt "soon").toOption.join = none ∧ (readInt "0").toOption.join = some 0 := by
    decide +kernel
  have hswitch : readBool "Off" = some false := by decide +kernel
  refine ⟨o, s, ho, hs, ?_, ?_, ?_, ?_, ?_, ?_⟩
  · rw [hvalues _ (by decide),
      layer (some "") (some "out") (by decide) (by decide +kernel) (by decide +kernel)]
    rfl
  · rw [hvalues _ (by decide)]
    rfl
  · rw [hvalues _ (by decide),
      layer (some "soon") (some "0") (by decide) (by decide +kernel) (by decide +kernel)]
    simp [CommandLine.textFor?, layered, reading?, hnumber]
  · rw [hvalues _ (by decide),
      layer none (some "vi") (by decide) (by decide +kernel) (by decide +kernel)]
    rfl
  · rw [hvalues _ (by decide),
      layer (some "Off") (some "on") (by decide) (by decide +kernel) (by decide +kernel)]
    simp [CommandLine.textFor?, layered, reading?, hswitch]
  · rw [hvalues _ (by decide), layer none none (by decide) (by decide +kernel) (by decide +kernel)]
    rfl

end Overrides

end SessionRecorder
