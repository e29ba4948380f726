import SessionRecorder.Proofs.Recorder.Course
import SessionRecorder.Proofs.Session.OpenSteps
import SessionRecorder.Proofs.Session.Press
/-!
# Recorders that are reached

The recorders that come of one that was just made, by calls in any order, by timers that run out and
by whatever happens to the files in the meantime. Calls that end with a fault count too. The session
of such a recorder is one that comes of a fresh one, and while the recorder is not running none of
its timers writes.

## Main definitions

* `Recorder.Reached` — the recorders that come of one that was just made.
* `Recorder.Evolves` — a recorder that goes on in the same recording.
* `Recorder.Quiet` — while nothing is recorded, no timer writes.

## Main results

* `Recorder.yields_start_session`, `Recorder.yields_stop_session` — what a beginning and an end do
  to the session, even if they fail.
* `Recorder.keeps_perform` — everything else goes on in the same recording.
* `Recorder.Reached.session`, `Recorder.Reached.quiet` — what holds of every recorder.
* `Recorder.stepsMatch_reached` — the log of a recorder, or of any session, tells its open steps.
* `Recorder.movesHeld_reached` — the log of a recorder, or of any session, has moves only within a
  press.
-/

namespace SessionRecorder

namespace Recorder

variable {c : Config} {r r' : Recorder}

/-! ## The same recording -/

/-- A recorder goes on in the same recording: what happens to its session are events that it
accepts. -/
structure Evolves (r r' : Recorder) : Prop where
  config : r'.config = r.config
  recording : r'.session.recording = r.session.recording
  reached : ∀ d, d = r.config.defaultStep → Session.Reached d r.session →
    Session.Reached d r'.session

instance : Std.Refl Evolves := ⟨fun _ => ⟨rfl, rfl, fun _ _ h => h⟩⟩

instance : IsTrans Recorder Evolves where
  trans _ _ _ h h' := ⟨h'.config.trans h.config, h'.recording.trans h.recording, fun d hd hs =>
    h'.reached d (h.config ▸ hd) (h.reached d hd hs)⟩

/-- A recorder with the same session and the same configuration goes on. -/
lemma Evolves.of_eq (hconfig : r'.config = r.config) (hsession : r'.session = r.session) :
    r.Evolves r' :=
  ⟨hconfig, by rw [hsession], fun _ _ h => hsession ▸ h⟩

/-- Every stage but a beginning and an end goes on in the same recording. -/
lemma Stage.evolves {a : Action} (h : Stage a r r') (hstart : a ≠ .start) (hstop : a ≠ .stop) :
    r.Evolves r' := by
  cases h with
  | desk hgoes => exact .of_eq rfl hgoes.session
  | begin ha => exact absurd ha hstart
  | finish ha => exact absurd ha hstop
  | accept _ _ step => exact ⟨rfl, step.recording, fun d hd hs => hs.accept (hd ▸ step)⟩
  | store | count => exact .of_eq rfl rfl

/-- **Everything but a beginning and an end goes on in the same recording.** -/
lemma keeps_perform {a : Action} (hstart : a ≠ .start) (hstop : a ≠ .stop) :
    Procedure.Keeps Evolves a.perform :=
  fun r => (course_perform a r).mono fun _ _ h => h.related fun _ _ stage =>
    stage.evolves hstart hstop

/-! ## Beginning and end -/

/-- Nothing but the workspace is different. -/
def OnlyWorkspace (r r' : Recorder) : Prop :=
  ∃ w, r' = { r with workspace := w }

instance : Std.Refl OnlyWorkspace := ⟨fun r => ⟨r.workspace, rfl⟩⟩

instance : IsTrans Recorder OnlyWorkspace where
  trans _ _ _ := by
    rintro ⟨w, rfl⟩ ⟨w', rfl⟩
    exact ⟨w', rfl⟩

/-- A step on the workspace leaves the rest of the recorder as it is. -/
lemma onlyWorkspace_onWorkspace {α : Type} (p : Procedure Workspace α) :
    Procedure.Keeps OnlyWorkspace (onWorkspace p) := fun _ => ⟨_, rfl⟩

/-- What the desk does, and what comes after it, is no matter of the session. -/
lemma yields_onDesk_bind {α : Type} {p : Procedure Desk Unit} {rest : Procedure Recorder α}
    {P : Desk → Prop} (hp : p.Yields r.toDesk fun _ d => P d)
    (hrest : Procedure.Keeps OnlyWorkspace rest)
    (hP : ∀ d w, P d → P { d with workspace := w }) :
    (onDesk p >>= fun _ => rest).Yields r fun _ r' => r'.config = r.config ∧ P r'.toDesk := by
  refine (yields_onDesk hp).bind (fun _ t h => ?_) fun _ t h => ?_
  · obtain ⟨d, rfl, hd⟩ := h
    refine (hrest _).mono fun _ r' h => ?_
    obtain ⟨w, rfl⟩ := h
    exact ⟨rfl, hP d w hd⟩
  · obtain ⟨d, rfl, hd⟩ := h
    exact ⟨rfl, hd⟩

/-- A beginning switches recording on, even if it fails to write. -/
lemma yields_start_session (hr : r.running = false) : (start).Yields r fun _ r' =>
    r'.config = r.config ∧ r'.session = { r.session with recording := true } := by
  rw [yields_start_iff hr]
  refine yields_onDesk_bind (r := r.switchedOn)
    (P := fun d => d.session = { r.session with recording := true }) ?_ ?_ ?_
  · exact (Desk.yields_start_rests _).mono fun _ _ h => h.session
  · exact onlyWorkspace_onWorkspace _
  · exact fun _ _ h => h

/-- An end switches recording off and closes the writer, even if it fails to write. -/
lemma yields_stop_session (hr : r.running = true) : (stop).Yields r fun _ r' =>
    r'.config = r.config ∧ r'.session = { r.session with recording := false, buttonDown := false } ∧
      r'.writer.closed = true := by
  rw [yields_stop_iff hr]
  refine yields_onDesk_bind (r := r.switchedOff)
    (P := fun d => d.session = { r.session with recording := false, buttonDown := false } ∧
      d.writer.closed = true) ?_ ?_ ?_
  · refine (Desk.yields_close_rests _).mono fun _ d' h => ⟨h.session, ?_⟩
    obtain ⟨n, hwriter⟩ := h.writer
    rw [hwriter]
    rfl
  · refine Procedure.keeps_get_bind fun q => (onlyWorkspace_onWorkspace _).bind fun _ => ?_
    refine Procedure.keeps_get_bind fun q => ?_
    split
    next => exact onlyWorkspace_onWorkspace _
    next => exact Procedure.keeps_pure _
  · exact fun _ _ h => h

/-! ## All recorders -/

/-- The recorders that come of one that was just made with a configuration: by calls and by timers
that run out, in any order and whether or not they succeed, whatever happens to the workspace in the
meantime. -/
inductive Reached (c : Config) : Recorder → Prop
  | create {w : Workspace} {r : Recorder} : Recorder.create c w = .ok r → Reached c r
  | perform {r : Recorder} (a : Action) : Reached c r → Reached c (a.perform.run r).2
  | outside {r : Recorder} (w : Workspace) : Reached c r → Reached c { r with workspace := w }

/-- While nothing is recorded, the writer is closed, or no timer was ever made for it. -/
def Quiet (r : Recorder) : Prop :=
  r.running = false → r.writer.closed = true ∨ r.writer.timers = []

/-- A recorder that is just made has a fresh session, and a writer for the files of its
configuration that has done nothing yet. -/
lemma exists_of_create {w : Workspace} (h : Recorder.create c w = .ok r) :
    ∃ script log ms, c.scriptPath = .ok script ∧ logPath c script = .ok log ∧ r = {
      session := .fresh
      writer := {
        scriptPath := script, logPath := log, debounce := ms, formatter := c.formatter,
        editor := c.editor, timers := [], current := none, generation := 0, closed := false,
        writes := 0 }
      workspace := w, config := c, shots := 0, snapshots := [] } := by
  unfold Recorder.create at h
  cases hscript : c.scriptPath with
  | error f => simp [hscript, bind, Except.bind] at h
  | ok script =>
    cases hlog : logPath c script with
    | error f => simp [hscript, hlog, bind, Except.bind] at h
    | ok log =>
      cases hms : c.debounce.toInteger with
      | error f => simp [hscript, hlog, hms, Writer.create, bind, Except.bind, Except.map] at h
      | ok ms =>
        simp only [hscript, hlog, hms, Writer.create, bind, Except.bind, Except.map, pure,
          Except.pure, Except.ok.injEq] at h
        exact ⟨script, log, ms.toNat, rfl, hlog, h.symm⟩

/-- A recorder that is just made has a fresh session, and no timers. -/
lemma session_of_create {w : Workspace} (h : Recorder.create c w = .ok r) :
    r.config = c ∧ r.session = .fresh ∧ r.writer.timers = [] := by
  obtain ⟨script, log, ms, -, -, rfl⟩ := exists_of_create h
  exact ⟨rfl, rfl, rfl⟩

/-- A recorder that is not running and quiet is left as it is by a timer that runs out. -/
lemma Quiet.run_fire (h : r.Quiet) (hr : r.running = false) (i : ℕ) :
    ∃ res, (Action.fire i).perform.run r = (res, r) := by
  have hrun : ∃ res, (Desk.fire i).run r.toDesk = (res, r.toDesk) := by
    rcases Desk.fire_cases r.toDesk i with hrun | ⟨hopen, -⟩
    · exact hrun
    · have htimers : r.writer.timers = [] := (h hr).resolve_left (by simp [hopen])
      exact ⟨_, Desk.run_fire_of_missing (by rw [htimers]; rfl)⟩
  obtain ⟨res, hrun⟩ := hrun
  refine ⟨res, ?_⟩
  show ((Desk.fire i).run r.toDesk).map id (fun d => { r with toDesk := d }) = (res, r)
  rw [hrun]
  rfl

/-- **A recorder that is not running and quiet is left as it is**, by everything but a beginning. -/
lemma Quiet.yields_perform (h : r.Quiet) (hr : r.running = false) {a : Action}
    (hstart : a ≠ .start) : a.perform.Yields r fun _ r' => r.Unmoved r' := by
  by_cases hfire : ∃ i, a = .fire i
  · obtain ⟨i, rfl⟩ := hfire
    obtain ⟨res, hrun⟩ := h.run_fire hr i
    exact (Procedure.yields_of_run hrun).2 (.refl r)
  · exact yields_perform_of_not_running hr hstart fun i ha => hfire ⟨i, ha⟩

/-- Whatever happens to a quiet recorder leaves it quiet. -/
lemma Quiet.perform (h : r.Quiet) (a : Action) : Quiet (a.perform.run r).2 := by
  cases hr : r.running with
  | false =>
    by_cases hstart : a = .start
    · subst hstart
      have hsession := (yields_start_session hr).2
      intro hstopped
      rw [running, Action.perform, hsession] at hstopped
      cases hstopped
    · obtain ⟨journal, hunmoved⟩ := h.yields_perform hr hstart
      rw [hunmoved]
      exact fun hr => h hr
  | true =>
    by_cases hstart : a = .start
    · subst hstart
      rw [run_start_of_running hr]
      exact h
    · by_cases hstop : a = .stop
      · subst hstop
        exact fun _ => .inl (yields_stop_session hr).2.2
      · intro hstopped
        rw [running, (keeps_perform hstart hstop r).recording, ← running, hr] at hstopped
        cases hstopped

/-- **While nothing is recorded, no timer writes.** -/
lemma Reached.quiet (h : Reached c r) : r.Quiet := by
  induction h with
  | create h => exact fun _ => .inr (session_of_create h).2.2
  | perform a _ ih => exact ih.perform a
  | outside w _ ih => exact ih

/-- **The session of a recorder comes of a fresh one.** -/
lemma Reached.session (h : Reached c r) :
    r.config = c ∧ Session.Reached c.defaultStep r.session := by
  induction h with
  | create h =>
    obtain ⟨hconfig, hsession, -⟩ := session_of_create h
    exact ⟨hconfig, hsession ▸ .fresh⟩
  | @perform r a _ ih =>
    obtain ⟨rfl, hs⟩ := ih
    by_cases hstart : a = .start
    · subst hstart
      cases hr : r.running with
      | true =>
        rw [run_start_of_running hr]
        exact ⟨rfl, hs⟩
      | false =>
        obtain ⟨hconfig, hsession⟩ := yields_start_session hr
        exact ⟨hconfig, by rw [Action.perform, hsession]; exact hs.switch true _⟩
    · by_cases hstop : a = .stop
      · subst hstop
        cases hr : r.running with
        | true =>
          obtain ⟨hconfig, hsession, -⟩ := yields_stop_session hr
          exact ⟨hconfig, by rw [Action.perform, hsession]; exact hs.switch false false⟩
        | false =>
          obtain ⟨journal, hunmoved⟩ :=
            yields_perform_of_not_running hr hstart (a := .stop) (by simp)
          rw [hunmoved]
          exact ⟨rfl, hs⟩
      · have hevolves := keeps_perform hstart hstop r
        exact ⟨hevolves.config, hevolves.reached _ rfl hs⟩
  | outside w _ ih => exact ih

/-- **The open steps are exactly what the log says.** Whatever happens to a fresh session, and
whatever is done with a recorder, scanning the log from its start opens a step at each start and
closes one at each end, never closes a step when none is open, closes every step under the name that
it was opened with, and leaves the open steps of the session open, in their order. -/
theorem stepsMatch_reached :
    (∀ (d : Value) (turns : List Session.Turn), (Session.run d .fresh turns).StepsMatch) ∧
    ∀ (c : Config) (r : Recorder), Reached c r → r.session.StepsMatch :=
  ⟨fun d turns => (Session.reached_run d turns).stepsMatch, fun _ _ h => h.session.2.stepsMatch⟩

/-- A configuration. -/
def Config.plain : Config where
  outputDir := Path.parse "out"
  scriptName := .str "codegen.py"
  snapshotDir := none
  debounce := .int 250
  defaultStep := .str "step"
  formatter := .none
  editor := .none
  saveLog := true
  attach := false

/-- A workspace without files. -/
def emptyWorkspace : Workspace where
  disk := ⟨[]⟩
  here := []
  environment := []
  accounts := []
  commandResult := .works
  reportOpen := true
  journal := []
  ran := []
  attached := []

/-- A recorder after actions in order, whatever comes of them. -/
def performAll (r : Recorder) (actions : List Action) : Recorder :=
  actions.foldl (fun r a => (a.perform.run r).2) r

/-- Whatever is done with a recorder that is reached leads to another one. -/
lemma Reached.performAll (h : Reached c r) (actions : List Action) :
    Reached c (r.performAll actions) := by
  induction actions generalizing r with
  | nil => exact h
  | cons a rest ih => exact ih (h.perform a)

/-- Two steps, a click in the inner one, which is ended after the recorder has been stopped and
started again. -/
def nestedSteps : List Action :=
  [.start, .recordStep (.str "outer"), .recordStep .none,
    .feed (.pointer .down ⟨.int 1, .int 2, .str "", .list []⟩), .stop, .endStep, .start,
    .feed (.pointer .up ⟨.int 1, .int 2, .str "", .list []⟩), .endStep]

/-- The outer one is left open. -/
theorem stepsMatch_nestedSteps : ∃ r r', Recorder.create .plain emptyWorkspace = .ok r ∧
    r.performAll nestedSteps = r' ∧ Reached .plain r' ∧
    r'.session.openSteps.map Value.shown = ["outer"] ∧ r'.session.StepsMatch := by
  obtain ⟨r, hr⟩ : ∃ r, Recorder.create .plain emptyWorkspace = .ok r := ⟨_, rfl⟩
  have hreached : Reached .plain (r.performAll nestedSteps) := (Reached.create hr).performAll _
  refine ⟨r, _, hr, rfl, hreached, ?_, stepsMatch_reached.2 _ _ hreached⟩
  obtain rfl := Except.ok.inj hr
  decide +kernel

/-- Every stage keeps the flag for the button and the log together. -/
lemma Stage.holding {a : Action} (stage : Stage a r r') (h : r.session.Holding) :
    r'.session.Holding := by
  cases stage with
  | desk hgoes => exact hgoes.session ▸ h
  | begin => exact ⟨h.moves, h.pressed⟩
  | finish => exact ⟨h.moves, fun hheld => by cases hheld⟩
  | accept _ _ step => exact h.accept step
  | store | count => exact h

/-- The flag for the button and the log agree in every recorder. -/
lemma Reached.holding (h : Reached c r) : r.session.Holding := by
  induction h with
  | create h => exact (session_of_create h).2.1 ▸ Session.holding_fresh
  | @perform q a _ ih => exact (course_perform a q).keeps ih fun _ _ => Stage.holding
  | outside w _ ih => exact ih

/-- **Moves are recorded only within a press.** Whatever happens to a fresh session, and whatever is
done with a recorder, before every run of moves in the log the last entry that says that the button
went down or up says that it went down. -/
theorem movesHeld_reached :
    (∀ (d : Value) (turns : List Session.Turn),
      Session.MovesHeld (Session.run d .fresh turns).log) ∧
    ∀ (c : Config) (r : Recorder), Reached c r → Session.MovesHeld r.session.log :=
  ⟨fun d turns => (Session.holding_run d turns).moves, fun _ _ h => h.holding.moves⟩

/-- Moves within a press that is still held when the recorder is stopped, and one more after it has
been started again. -/
def brokenDrag : List Action :=
  [.start, .feed (.pointer .down ⟨.int 1, .int 2, .str "", .list []⟩),
    .feed (.pointer .move ⟨.int 3, .int 4, .str "", .list []⟩),
    .feed (.pointer .move ⟨.int 5, .int 6, .str "", .list []⟩), .stop, .start,
    .feed (.pointer .move ⟨.int 7, .int 8, .str "", .list []⟩),
    .feed (.pointer .up ⟨.int 7, .int 8, .str "", .list []⟩)]

/-- The last move is not recorded. -/
theorem movesHeld_brokenDrag : ∃ r r', Recorder.create .plain emptyWorkspace = .ok r ∧
    r.performAll brokenDrag = r' ∧ Reached .plain r' ∧
    r'.session.log.map Entry.kind = [.mouseDown, .mouseMove, .mouseUp] ∧
    Session.MovesHeld r'.session.log := by
  obtain ⟨r, hr⟩ : ∃ r, Recorder.create .plain emptyWorkspace = .ok r := ⟨_, rfl⟩
  have hreached : Reached .plain (r.performAll brokenDrag) := (Reached.create hr).performAll _
  refine ⟨r, _, hr, rfl, hreached, ?_, movesHeld_reached.2 _ _ hreached⟩
  obtain rfl := Except.ok.inj hr
  decide +kernel

end Recorder

end SessionRecorder
