import SessionRecorder.Proofs.Event
import SessionRecorder.Proofs.Recorder.Reached
import SessionRecorder.Proofs.Snapshot.Name
/-!
# What a recorder writes

A recorder writes its script, the log next to it, and pictures in the directory of its screenshots.
Whatever is done with it, and whatever a page or a caller hands over on the way, every other file
stays what it is, and none comes to be elsewhere. Only a caller that feeds the event of a screenshot
itself chooses its name unseen.

## Main definitions

* `Recorder.Owns` — the locations of the files of a recorder.
* `Recorder.Action.NamesSafely` — an action under which every screenshot has a name made for it.

## Main results

* `Recorder.Reached.placed` — a recorder writes to the script and the log of its configuration.
* `Recorder.owns_of_changed` — a file that is not the same afterwards is one of the recorder's own.
-/

namespace SessionRecorder

namespace Recorder

variable {c : Config} {r r' r'' : Recorder} {a : Action} {e : Event}

/-! ## The files of a recorder -/

/-- The location of a file that a recorder may write: its script, the log next to the script, or a
picture in the directory of its screenshots. -/
inductive Owns (c : Config) (here : Location) : Location → Prop
  | script {script : Path} : c.scriptPath = .ok script → Owns c here (script.location here)
  | log {script log : Path} : c.scriptPath = .ok script → Config.logPathFor script = .ok log →
      Owns c here (log.location here)
  | picture {name : String} : Snapshot.IsPictureName name →
      Owns c here (c.snapshots.location here ++ [name])

/-- A recorder with a configuration, whose writer writes to the files of that configuration. -/
structure Placed (c : Config) (r : Recorder) : Prop where
  config : r.config = c
  script : c.scriptPath = .ok r.writer.scriptPath
  log : logPath c r.writer.scriptPath = .ok r.writer.logPath

/-- The files of the writer belong to the recorder. -/
lemma Placed.owns (h : r.Placed c) (here : Location) {path : Path} (hpath : path ∈ r.writer.paths) :
    Owns c here (path.location here) := by
  rcases List.mem_cons.1 hpath with rfl | hlog
  · exact .script h.script
  · have hwritten := h.log
    rw [Option.mem_toList.1 hlog, logPath] at hwritten
    split at hwritten
    next =>
      cases hfor : Config.logPathFor r.writer.scriptPath with
      | error f => simp [hfor, Except.map] at hwritten
      | ok log =>
        obtain rfl : log = path := by simpa [hfor, Except.map] using hwritten
        exact .log h.script hfor
    next => cases hwritten

/-- A recorder that is just made writes to the files of its configuration. -/
lemma placed_of_create {w : Workspace} (h : Recorder.create c w = .ok r) : r.Placed c := by
  obtain ⟨script, log, ms, hscript, hlog, rfl⟩ := exists_of_create h
  exact ⟨rfl, hscript, hlog⟩

/-- No stage gives the writer other files. -/
lemma Stage.placed (stage : Stage a r r') (h : r.Placed c) : r'.Placed c := by
  cases stage with
  | desk hgoes =>
    refine ⟨h.config, ?_, ?_⟩
    · rw [hgoes.scriptPath]
      exact h.script
    · rw [hgoes.scriptPath, hgoes.logPath]
      exact h.log
  | begin | finish | accept | store | count => exact ⟨h.config, h.script, h.log⟩

/-- **A recorder writes to the script and the log of its configuration.** -/
lemma Reached.placed (h : Reached c r) : r.Placed c := by
  induction h with
  | create h => exact placed_of_create h
  | @perform q a _ ih => exact (course_perform a q).keeps ih fun _ _ => Stage.placed
  | outside w _ ih => exact ⟨ih.config, ih.script, ih.log⟩

/-! ## Names of screenshots -/

/-- An action under which every screenshot has a name that is made for it, and not taken from a
caller as it is. -/
def Action.NamesSafely : Action → Prop
  | .feed (.screenshot ..) => False
  | _ => True

/-- The name of a screenshot is that of a picture. -/
lemma Action.Feeds.isPictureName {shots : ℕ} {name image locator : Value} {region : Region}
    (h : a.Feeds shots (.screenshot name image locator region)) (ha : a.NamesSafely) :
    ∃ s, name = .str s ∧ Snapshot.IsPictureName s := by
  cases h with
  | feed => exact ha.elim
  | feedPayload _ he =>
    obtain ⟨fields, -, hpage⟩ := Event.fromPage_of_ofPayload he
    cases hpage
  | named => exact ⟨_, rfl, Snapshot.isPictureName_safeNameOf _⟩
  | unnamed => exact ⟨_, rfl, Snapshot.isPictureName_automaticName _⟩

/-! ## What an action leaves alone -/

/-- Every file that does not belong to a recorder is what it was. -/
structure Confined (c : Config) (r r' : Recorder) : Prop where
  here : r'.workspace.here = r.workspace.here
  files : ∀ l, ¬Owns c r.workspace.here l →
    r'.workspace.disk.content? l = r.workspace.disk.content? l

/-- A workspace that stays the same is confined. -/
lemma Confined.of_eq (h : r'.workspace = r.workspace) : Confined c r r' :=
  ⟨by rw [h], fun _ _ => by rw [h]⟩

/-- What is confined stays confined. -/
lemma Confined.trans (h : Confined c r r') (h' : Confined c r' r'') : Confined c r r'' :=
  ⟨h'.here.trans h.here, fun l hl => (h'.files l (h.here ▸ hl)).trans (h.files l hl)⟩

/-- What is written to files of a recorder is confined. -/
lemma confined_of_writes {written : List Path}
    (h : r.workspace.Writes written r'.workspace)
    (hw : ∀ path ∈ written, Owns c r.workspace.here (path.location r.workspace.here)) :
    Confined c r r' := by
  refine ⟨h.here, fun l hl => h.disk.content? fun hmem => ?_⟩
  obtain ⟨path, hpath, rfl⟩ := List.mem_map.1 hmem
  exact hl (hw path hpath)

/-- **Every stage writes to files of the recorder only.** -/
lemma Stage.confined (stage : Stage a r r') (ha : a.NamesSafely) (h : r.Placed c) :
    Confined c r r' := by
  cases stage with
  | desk hgoes => exact confined_of_writes hgoes.files fun path hpath => h.owns _ hpath
  | begin | finish | accept | count => exact .of_eq rfl
  | store he hpath hwrites =>
    obtain ⟨s, rfl, hs⟩ := he.isPictureName ha
    obtain rfl := Except.ok.inj hpath
    refine confined_of_writes hwrites fun q hq => ?_
    obtain rfl := List.mem_singleton.1 hq
    rw [hs.location_child, h.config]
    exact .picture hs

/-- Every action writes to files of the recorder only. -/
lemma confined_perform (ha : a.NamesSafely) (h : r.Placed c) :
    a.perform.Yields r fun _ r' => Confined c r r' ∧ r'.Placed c := by
  refine (course_perform a r).mono fun _ r' hcourse => ?_
  refine hcourse.keeps (P := fun q => Confined c r q ∧ q.Placed c) ⟨.of_eq rfl, h⟩ ?_
  exact fun q q' stage hq => ⟨hq.1.trans (stage.confined ha hq.2), stage.placed hq.2⟩

/-- Actions one after the other write to files of the recorder only. -/
lemma confined_performAll {actions : List Action} (ha : ∀ a ∈ actions, a.NamesSafely)
    (h : r.Placed c) : Confined c r (r.performAll actions) := by
  induction actions generalizing r with
  | nil => exact .of_eq rfl
  | cons a rest ih =>
    obtain ⟨hfirst, hplaced⟩ := confined_perform (ha a List.mem_cons_self) h
    exact hfirst.trans (ih (fun b hb => ha b (List.mem_cons_of_mem a hb)) hplaced)

/-- **Recordings stay inside their files.** Whatever is done with a recorder, in any order and
whether or not it succeeds, and whatever names, octets and records are handed over: a file that was
created, changed or removed is the script of the configuration, the log next to it, or a picture in
the directory of the screenshots itself, under a name that is safe. Only screenshots that a caller
feeds as events of its own are left out.

**Proof sketch.** An action runs through stages, and each stage writes to the files of the writer,
to the file of one screenshot, or to none. The files of the writer are those of the configuration.
The name of a screenshot was made safe or made of a number, since no record from a page describes a
screenshot; so it is one part without dots in front, and leads to the directory itself. -/
theorem owns_of_changed (h : Reached c r) {actions : List Action}
    (ha : ∀ a ∈ actions, a.NamesSafely) {l : Location}
    (hl : (r.performAll actions).workspace.disk.content? l ≠ r.workspace.disk.content? l) :
    Owns c r.workspace.here l := by
  by_contra hout
  exact hl ((confined_performAll ha h.placed).files l hout)

/-- A screenshot under a name that tries to lead elsewhere. -/
def escapingShot : List Action :=
  [.start, .requestScreenshot (.bytes (.text "image")) (.str "../../etc/pass wd") .none .none,
    .feedPayload (.dict [("type", .str "navigation"), ("url", .str "/etc")]), .stop]

/-- It is stored among the others. -/
theorem owns_escapingShot : ∃ r, Recorder.create .plain emptyWorkspace = .ok r ∧
    Reached .plain r ∧ (∀ a ∈ escapingShot, a.NamesSafely) ∧
    ((r.performAll escapingShot).workspace.disk.content? ["out", "snapshots", "etc_pass_wd.png"] ≠
      r.workspace.disk.content? ["out", "snapshots", "etc_pass_wd.png"]) ∧
    Owns .plain r.workspace.here ["out", "snapshots", "etc_pass_wd.png"] := by
  obtain ⟨r, hr⟩ : ∃ r, Recorder.create .plain emptyWorkspace = .ok r := ⟨_, rfl⟩
  have hreached : Reached .plain r := .create hr
  have hsafe : ∀ a ∈ escapingShot, a.NamesSafely := by
    simp only [escapingShot, List.forall_mem_cons]
    exact ⟨True.intro, True.intro, True.intro, True.intro, by simp⟩
  have hchanged :
      (r.performAll escapingShot).workspace.disk.content? ["out", "snapshots", "etc_pass_wd.png"] ≠
        r.workspace.disk.content? ["out", "snapshots", "etc_pass_wd.png"] := by
    obtain rfl := Except.ok.inj hr
    decide +kernel
  exact ⟨r, hr, hreached, hsafe, hchanged, owns_of_changed hreached hsafe hchanged⟩

end Recorder

end SessionRecorder
