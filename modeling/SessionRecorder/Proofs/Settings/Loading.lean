import SessionRecorder.Proofs.Files
import SessionRecorder.Proofs.Ini
import SessionRecorder.Proofs.Settings.Precedence
/-!
# When overrides can be loaded

A delay or a switch that cannot be read counts as not given, and a file that is no configuration as
an empty one. Yet some values stop the loading altogether: a delay without end, a reference in an
option that cannot be resolved, octets that are no text. Nothing else stops it, once it is known
which file to look at.

## Main definitions

* `Overrides.SpellsInfinity` — a text that spells a number without end.
* `Overrides.Expands` — a setting that can be had from a configuration.
* `Overrides.Legible` — an environment and a configuration file that can be read.

## Main results

* `Overrides.exists_load_iff` — overrides are loaded exactly if everything is legible, and then
  what cannot be read counts as not given.
* `Overrides.stopped_by_values` — values that stop the loading.
-/

namespace SessionRecorder

/-! ## Files -/

/-- A path names a file exactly if it can be read. -/
lemma Workspace.isFile_eq_true_iff {w : Workspace} {p : Path} :
    w.isFile p = .ok true ↔ ∃ content, w.read p = .ok content := by
  unfold isFile read Disk.read
  cases hasNul p with
  | true => simp
  | false =>
    rcases w.disk.find w.here p with c | ⟨l, n⟩
    · cases c <;> simp
    · cases n <;> simp

namespace Overrides

/-! ## Sources of texts -/

/-- A text spells a number without end: an infinity by name, or a number beyond all doubles. -/
def SpellsInfinity (text : String) : Prop :=
  ∃ negative, Numeral.readDouble? (Text.trim text) = some (.infinite negative)

/-- A text is read as a whole number, or as none, unless it spells a number without end. -/
lemma exists_readInt_iff {text : String} :
    (∃ n, readInt text = .ok n) ↔ ¬SpellsInfinity text := by
  unfold readInt SpellsInfinity
  rcases Numeral.readDouble? (Text.trim text) with _ | _ | negative | _ <;> simp

/-- A source can be asked for a setting: it gives a text or nothing, and for the delay no number
without end. -/
def Answers (source : Source) (key setting : String) : Prop :=
  ∃ text : Option String, source key = .ok (text.map .str) ∧
    (setting = "debounce_ms" → ∀ t, text = some t → ¬SpellsInfinity t)

section

variable {source : Source} {key : String}

/-- A value is had from a source that can be asked. -/
lemma exists_valueFrom_iff (h : Texts source) {setting : String} {before : Value}
    (hd : setting ≠ "debounce_ms") :
    (∃ v, valueFrom source key before = .ok v) ↔ Answers source key setting := by
  refine exists_map_iff.trans ⟨?_, fun ⟨text, htext, _⟩ => ⟨_, htext⟩⟩
  rintro ⟨found, hfound⟩
  obtain ⟨text, rfl⟩ := h.exists_text hfound
  exact ⟨text, hfound, fun hs => absurd hs hd⟩

/-- A delay is had from a source that can be asked. -/
lemma exists_intFrom_iff (h : Texts source) {before : Option Int} :
    (∃ n, intFrom source key before = .ok n) ↔ Answers source key "debounce_ms" := by
  have hsome {t : String} (ht : source key = .ok (some (.str t))) :
      (∃ n, intFrom source key before = .ok n) ↔ ¬SpellsInfinity t := by
    rw [intFrom_of_some before ht]
    exact exists_map_iff.trans exists_readInt_iff
  constructor
  · intro hn
    obtain ⟨found, hfound, -⟩ := exists_bind_iff.1 hn
    obtain ⟨text, rfl⟩ := h.exists_text hfound
    refine ⟨text, hfound, ?_⟩
    rintro - t rfl
    exact (hsome hfound).1 hn
  · rintro ⟨_ | t, htext, hfinite⟩
    · exact ⟨before, intFrom_of_none before htext⟩
    · exact (hsome htext).2 (hfinite rfl t rfl)

/-- A switch is had from a source that can be asked. -/
lemma exists_boolFrom_iff (h : Texts source) {before : Option Bool} :
    (∃ b, boolFrom source key before = .ok b) ↔ Answers source key "save_log_json" := by
  constructor
  · intro hb
    obtain ⟨found, hfound, -⟩ := exists_bind_iff.1 hb
    obtain ⟨text, rfl⟩ := h.exists_text hfound
    exact ⟨text, hfound, by simp⟩
  · rintro ⟨_ | t, htext, -⟩
    · exact ⟨before, boolFrom_of_none before htext⟩
    · exact ⟨_, boolFrom_of_some before htext⟩

/-- **A source of texts gives overrides** exactly if it can be asked for every setting. -/
lemma exists_withSource_iff (h : Texts source) {key : String → String} {o : Overrides} :
    (∃ o', withSource source key o = .ok o') ↔
      ∀ name ∈ Settings.names, Answers source (key name) name := by
  rw [forall_names]
  have value {before : Value} {setting : String} (hd : setting ≠ "debounce_ms") :=
    @exists_valueFrom_iff source (key setting) h setting before hd
  refine exists_bind_iff_and (value (by decide)) fun _ => ?_
  refine exists_bind_iff_and (value (by decide)) fun _ => ?_
  refine exists_bind_iff_and (value (by decide)) fun _ => ?_
  refine exists_bind_iff_and (exists_intFrom_iff h) fun _ => ?_
  refine exists_bind_iff_and (value (by decide)) fun _ => ?_
  refine exists_bind_iff_and (value (by decide)) fun _ => ?_
  refine exists_bind_iff_and (value (by decide)) fun _ => ?_
  refine (exists_bind_iff_and (exists_boolFrom_iff h) fun _ => ?_).trans (and_iff_left trivial)
  exact ⟨fun _ => trivial, fun _ => ⟨_, rfl⟩⟩

/-- What is had from a source does not change which file was looked at. -/
lemma source_of_withSource {key : String → String} {o o' : Overrides}
    (h : withSource source key o = .ok o') : o'.source = o.source := by
  iterate 8 obtain ⟨_, -, h⟩ := exists_of_bind h
  obtain rfl := Except.ok.inj h
  rfl

end

/-! ## Variables -/

/-- Variables give overrides exactly if the one for the delay spells no number without end. -/
lemma exists_withVariables_iff {env : Environment} {o : Overrides} :
    (∃ o', withVariables env.variables o = .ok o') ↔
      ∀ text, env.value? (variableName "debounce_ms") = some text → ¬SpellsInfinity text := by
  refine (exists_withSource_iff (texts_variables env)).trans ⟨fun h text htext => ?_, ?_⟩
  · obtain ⟨found, hfound, hfinite⟩ := h "debounce_ms" (by decide)
    rw [Except.ok.injEq, lookup?_variables, htext] at hfound
    exact hfinite rfl text (Option.map_injective (fun _ _ => Value.str.inj) hfound).symm
  · rintro h name -
    refine ⟨env.value? (variableName name), congrArg Except.ok (lookup?_variables env _), ?_⟩
    rintro rfl
    exact h

/-! ## The configuration file -/

/-- A setting can be had from a configuration: its option can be expanded if it is there, and the
delay is no number without end. -/
def Expands (d : Ini.Document) (name : String) : Prop :=
  ∃ written, runtimeText d name = .ok written ∧
    (name = "debounce_ms" → ∀ text, written = some text → ¬SpellsInfinity text)

/-- A configuration gives overrides exactly if every setting can be had from it. -/
lemma exists_withDocument_iff {d : Ini.Document} {o : Overrides} :
    (∃ o', withDocument d o = .ok o') ↔ ∀ name ∈ Settings.names, Expands d name := by
  unfold withDocument Expands runtimeText
  cases d.has sectionName with
  | false => simp
  | true =>
    refine (exists_withSource_iff (texts_optionOf d)).trans (forall₂_congr fun name _ => ?_)
    exact exists_congr fun text => and_congr_left' optionOf_eq_ok_iff

/-- Every setting can be had from a configuration exactly if the options of the section can be
expanded, and the delay is no number without end. -/
lemma forall_expands_iff {d : Ini.Document} : (∀ name ∈ Settings.names, Expands d name) ↔
    (d.has sectionName = true → ∀ name ∈ Settings.names, ∀ raw, d.raw? sectionName name = some raw →
      Ini.Resolves d sectionName Ini.depthLimit raw.toList) ∧
    ∀ text, runtimeText d "debounce_ms" = .ok (some text) → ¬SpellsInfinity text := by
  have htext (name : String) : (∃ written, runtimeText d name = .ok written) ↔
      (d.has sectionName = true → ∀ raw, d.raw? sectionName name = some raw →
        Ini.Resolves d sectionName Ini.depthLimit raw.toList) := by
    unfold runtimeText
    cases d.has sectionName with
    | false => simp
    | true => simpa using Ini.exists_value?_iff
  constructor
  · intro h
    refine ⟨fun hhas name hname => (htext name).1 ?_ hhas, fun text htext => ?_⟩
    · obtain ⟨written, hwritten, -⟩ := h name hname
      exact ⟨written, hwritten⟩
    · obtain ⟨written, hwritten, hfinite⟩ := h "debounce_ms" (by decide)
      exact hfinite rfl text (Except.ok.inj (hwritten.symm.trans htext))
  · rintro ⟨hresolves, hfinite⟩ name hname
    obtain ⟨written, hwritten⟩ := (htext name).2 fun hhas => hresolves hhas name hname
    refine ⟨written, hwritten, ?_⟩
    rintro rfl text rfl
    exact hfinite text hwritten

/-- The lines of a content that are complete before the octets that are no text, if there are
any. -/
def completeLines (content : Blob) : List (List Char) :=
  (Text.newlineLinesFrom [] (Text.unifyNewlineChars content.decodeBlocks.1)).filter
    fun line => line.getLast? == some '\n'

/-- A content is taken for a configuration, or for none, exactly if it is a text, or the lines
before what is no text are no configuration. -/
lemma exists_document_iff {content : Blob} : (∃ d, document content = .ok d) ↔
    content.decodeBlocks.2 = none ∨ Ini.readPartial .start (completeLines content) = none := by
  unfold document completeLines
  rcases content.decodeBlocks with ⟨cs, _ | problem⟩
  · simp
  · dsimp only
    cases Ini.readPartial .start _ <;> simp

/-- There is a configuration in a file, or none, exactly if it can be found out whether the file is
there and its content is taken for one or for none. -/
lemma exists_fileConfiguration_iff {w : Workspace} {p : Path} :
    (∃ d, fileConfiguration w p = .ok d) ↔ (∃ isFile, w.isFile p = .ok isFile) ∧
      ∀ content, w.read p = .ok content → ∃ d, document content = .ok d := by
  unfold fileConfiguration
  rw [exists_bind_iff]
  constructor
  · rintro ⟨isFile, hisFile, hrest⟩
    refine ⟨⟨isFile, hisFile⟩, fun content hcontent => ?_⟩
    obtain rfl : isFile = true :=
      Except.ok.inj (hisFile.symm.trans (Workspace.isFile_eq_true_iff.2 ⟨content, hcontent⟩))
    rw [if_pos rfl, exists_bind_iff] at hrest
    obtain ⟨_, hread, hdocument⟩ := hrest
    obtain rfl := Except.ok.inj (hcontent.symm.trans hread)
    obtain ⟨d, hd, -⟩ := exists_bind_iff.1 hdocument
    exact ⟨d, hd⟩
  · rintro ⟨⟨isFile, hisFile⟩, hdocument⟩
    refine ⟨isFile, hisFile, ?_⟩
    cases isFile with
    | false => exact ⟨_, rfl⟩
    | true =>
      obtain ⟨content, hcontent⟩ := Workspace.isFile_eq_true_iff.1 hisFile
      obtain ⟨d, hd⟩ := hdocument content hcontent
      rw [if_pos rfl, hcontent]
      exact exists_bind_iff.2 ⟨content, rfl, exists_bind_iff.2 ⟨d, hd, _, rfl⟩⟩

/-- There is a configuration, or none, exactly if there is in the file that was found. -/
lemma exists_foundConfiguration_iff {w : Workspace} {source : Option Path} :
    (∃ d, foundConfiguration w source = .ok d) ↔ ∀ p, source = some p →
      (∃ isFile, w.isFile p = .ok isFile) ∧ ∀ content, w.read p = .ok content →
        content.decodeBlocks.2 = none ∨ Ini.readPartial .start (completeLines content) = none := by
  cases source with
  | none => exact ⟨fun _ => nofun, fun _ => ⟨_, rfl⟩⟩
  | some p =>
    simp only [Option.some.injEq, forall_eq', ← exists_document_iff]
    exact exists_fileConfiguration_iff

/-! ## Loading -/

/-- **The environment and the configuration file can be read.** It can be found out which file there
is, and whether it is one; the file is a text, or spoiled before it ceases to be one; the options of
the section can be expanded; and no delay is without end. -/
structure Legible (w : Workspace) (env : Environment) (given : Option Path) : Prop where
  found : ∃ source, configFile w env.variables given = .ok source
  asked : ∀ p, configFile w env.variables given = .ok (some p) →
    ∃ isFile, w.isFile p = .ok isFile
  decoded : ∀ p, configFile w env.variables given = .ok (some p) →
    ∀ content, w.read p = .ok content →
      content.decodeBlocks.2 = none ∨ Ini.readPartial .start (completeLines content) = none
  expanded : ∀ d, configuration w env.variables given = .ok d → d.has sectionName = true →
    ∀ name ∈ Settings.names, ∀ raw, d.raw? sectionName name = some raw →
      Ini.Resolves d sectionName Ini.depthLimit raw.toList
  written : ∀ d, configuration w env.variables given = .ok d →
    ∀ text, runtimeText d "debounce_ms" = .ok (some text) → ¬SpellsInfinity text
  exported : ∀ text, env.value? (variableName "debounce_ms") = some text → ¬SpellsInfinity text

/-- Overrides hold what the environment gives for each setting, or else what the configuration
gives, and nothing where neither can be read. -/
def Reads (w : Workspace) (env : Environment) (given : Option Path) (o : Overrides) : Prop :=
  configFile w env.variables given = .ok o.source ∧
    ∃ d, configuration w env.variables given = .ok d ∧ ∀ name ∈ Settings.names,
      ∃ written, runtimeText d name = .ok written ∧
        o.value? name = ((env.value? (variableName name)).bind (reading? name)).or
          (written.bind (reading? name))

/-- Overrides are loaded exactly if there is a file or none, it holds a configuration or none, every
setting can be had from that, and the variable for the delay spells no number without end. -/
lemma exists_load_iff_steps (w : Workspace) (env : Environment) (given : Option Path) :
    (∃ o, load w env.variables given = .ok o) ↔
      ∃ source, configFile w env.variables given = .ok source ∧
        ∃ d, foundConfiguration w source = .ok d ∧ (∀ name ∈ Settings.names, Expands d name) ∧
          ∀ text, env.value? (variableName "debounce_ms") = some text → ¬SpellsInfinity text := by
  rw [load_eq, exists_bind_iff]
  refine exists_congr fun source => and_congr_right' ?_
  rw [exists_bind_iff]
  refine exists_congr fun d => and_congr_right' ?_
  exact exists_bind_iff_and exists_withDocument_iff fun _ => exists_withVariables_iff

/-- What is loaded is what can be read. -/
lemma reads_of_load {w : Workspace} {env : Environment} {given : Option Path} {o : Overrides}
    (h : load w env.variables given = .ok o) : Reads w env given o := by
  rw [load_eq] at h
  obtain ⟨source, hsource, h⟩ := exists_of_bind h
  obtain ⟨d, hd, h⟩ := exists_of_bind h
  obtain ⟨fromFile, hfile, hvariables⟩ := exists_of_bind h
  refine ⟨?_, d, ?_, fun name hname => ?_⟩
  · have hfromFile : fromFile.source = source := by
      unfold withDocument at hfile
      split at hfile
      next => exact source_of_withSource hfile
      next => exact (Except.ok.inj hfile).symm ▸ rfl
    rw [hsource, source_of_withSource hvariables, hfromFile]
  · rw [configuration_eq, hsource]
    exact hd
  · obtain ⟨written, hwritten, hvalue⟩ := value?_of_withDocument hfile name hname
    exact ⟨written, hwritten, by rw [value?_of_withVariables hvariables name hname, hvalue]⟩

/-- **Overrides are loaded exactly if everything is legible.** For each setting they then hold what
the text of its variable spells; or else what the option of the configuration spells; or else
nothing. A delay that is no number and a switch that is no truth value spell nothing, wherever they
stand.

**Proof sketch.** Every part of the loading comes to a result exactly if what it looks at can be
read, and what it comes to does not matter for the parts after it, but for the file that is found
and the configuration in it (`exists_load_iff_steps`). -/
theorem exists_load_iff (w : Workspace) (env : Environment) (given : Option Path) :
    (∃ o, load w env.variables given = .ok o ∧ Reads w env given o) ↔ Legible w env given := by
  have hreads : (∃ o, load w env.variables given = .ok o ∧ Reads w env given o) ↔
      ∃ o, load w env.variables given = .ok o :=
    exists_congr fun o => and_iff_left_of_imp reads_of_load
  rw [hreads, exists_load_iff_steps]
  have hsame {source : Option Path} (hsource : configFile w env.variables given = .ok source) :
      configuration w env.variables given = foundConfiguration w source := by
    rw [configuration_eq, hsource]
    rfl
  constructor
  · rintro ⟨source, hsource, d, hd, hexpands, hexported⟩
    have hfile {p : Path} (hp : configFile w env.variables given = .ok (some p)) :=
      exists_foundConfiguration_iff.1 ⟨d, hd⟩ p (Except.ok.inj (hsource.symm.trans hp))
    have hone {d' : Ini.Document} (hd' : configuration w env.variables given = .ok d') : d = d' :=
      Except.ok.inj (hd.symm.trans ((hsame hsource).symm.trans hd'))
    obtain ⟨hexpanded, hwritten⟩ := forall_expands_iff.1 hexpands
    exact ⟨⟨source, hsource⟩, fun p hp => (hfile hp).1, fun p hp => (hfile hp).2,
      fun d' hd' => hone hd' ▸ hexpanded, fun d' hd' => hone hd' ▸ hwritten, hexported⟩
  · intro h
    obtain ⟨source, hsource⟩ := h.found
    obtain ⟨d, hd⟩ : ∃ d, foundConfiguration w source = .ok d := by
      refine exists_foundConfiguration_iff.2 ?_
      rintro p rfl
      exact ⟨h.asked p hsource, h.decoded p hsource⟩
    have hconfiguration := (hsame hsource).trans hd
    exact ⟨source, hsource, d, hd,
      forall_expands_iff.2 ⟨h.expanded d hconfiguration, h.written d hconfiguration⟩, h.exported⟩

/-- A workspace with one configuration file. -/
def workspaceOf (content : Blob) : Workspace :=
  { layeredWorkspace with disk := ⟨[(["ui_codegen.ini"], .file content)]⟩ }

/-- **Some values stop the loading**: a delay without end in a variable or in the file, a percent
sign that stands alone in an option, and an octet that begins no character. -/
theorem stopped_by_values :
    (error? (load (workspaceOf (.text "")) [("UI_CODEGEN_DEBOUNCE_MS", .str "inf")] none)).map
      Fault.message = some "cannot convert float infinity to integer" ∧
    (error? (load (workspaceOf (.text "[runtime]\ndebounce_ms = 1e400\n")) [] none)).map
      Fault.message = some "cannot convert float infinity to integer" ∧
    (error? (load (workspaceOf (.text "[runtime]\neditor = %x\n")) [] none)).map
      Fault.message = some "'%' must be followed by '%' or '(', found: '%x'" ∧
    (error? (load (workspaceOf (.octets [0xff])) [] none)).map Fault.message =
      some "'utf-8' codec can't decode byte 0xff in position 0: invalid start byte" := by
  decide +kernel

end Overrides

end SessionRecorder
