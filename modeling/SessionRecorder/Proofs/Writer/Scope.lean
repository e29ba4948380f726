import SessionRecorder.Proofs.Writer
/-!
# What the writer writes

Requests to the writer, and timers that run out for it, write the files of the writer and no other,
whether or not they succeed. Nor do they touch the session.

## Main definitions

* `Desk.Goes` — a desk goes on with the same session, and only the files of its writer have been
  written.

## Main results

* `Desk.keeps_goes_start`, `Desk.keeps_goes_close`, `Desk.keeps_goes_schedule`,
  `Desk.keeps_goes_fire` — every request, and a timer that runs out, lets a desk go on.
-/

namespace SessionRecorder

namespace Desk

open Workspace

variable {d d' : Desk} {α : Type}

/-- A desk goes on with the same session and with a writer for the same files, which are the only
ones that may have been written. -/
structure Goes (d d' : Desk) : Prop where
  session : d'.session = d.session
  scriptPath : d'.writer.scriptPath = d.writer.scriptPath
  logPath : d'.writer.logPath = d.writer.logPath
  formatter : d'.writer.formatter = d.writer.formatter
  files : d.workspace.Writes d.writer.paths d'.workspace

/-- A desk goes on with the same files of its writer. -/
lemma Goes.paths (h : d.Goes d') : d'.writer.paths = d.writer.paths := by
  rw [Writer.paths, Writer.paths, h.scriptPath, h.logPath]

instance : Std.Refl Goes := ⟨fun _ => ⟨rfl, rfl, rfl, rfl, (SameFiles.refl _).writes⟩⟩

instance : IsTrans Desk Goes where
  trans _ _ _ h h' := ⟨h'.session.trans h.session, h'.scriptPath.trans h.scriptPath,
    h'.logPath.trans h.logPath, h'.formatter.trans h.formatter,
    h.files.trans (h.paths ▸ h'.files)⟩

/-- A desk goes on with another writer for the same files. -/
lemma goes_of_writer {w : Writer} (hscript : w.scriptPath = d.writer.scriptPath)
    (hlog : w.logPath = d.writer.logPath) (hformatter : w.formatter = d.writer.formatter) :
    d.Goes { d with writer := w } :=
  ⟨rfl, hscript, hlog, hformatter, (SameFiles.refl _).writes⟩

/-- A change of the writer that leaves its files and its formatter alone lets a desk go on. -/
lemma keeps_goes_changeWriter {f : Writer → Writer} (hscript : ∀ w, (f w).scriptPath = w.scriptPath)
    (hlog : ∀ w, (f w).logPath = w.logPath) (hformatter : ∀ w, (f w).formatter = w.formatter) :
    Procedure.Keeps Goes (changeWriter f) :=
  Procedure.keeps_modify fun d => goes_of_writer (hscript d.writer) (hlog d.writer)
    (hformatter d.writer)

/-- Tools that are run let a desk go on. -/
lemma SetAside.goes (h : d.SetAside d') : d.Goes d' :=
  ⟨h.session, by rw [h.writer], by rw [h.writer], by rw [h.writer], h.files.mono (by simp)⟩

/-- A step on the workspace that writes to files of the writer only. -/
lemma yields_goes_onWorkspace {p : Procedure Workspace α} {written : List Path}
    (hp : Touches written p) (hw : written ⊆ d.writer.paths) :
    (onWorkspace p).Yields d fun _ d' => d.Goes d' :=
  ⟨rfl, rfl, rfl, rfl, (hp d.workspace).1.mono hw⟩

/-! ## Files -/

/-- Writing a file with its directory writes nothing else. -/
lemma touches_writeOnce (path : Path) (text : String) : Touches [path] (writeOnce path text) :=
  (touches_makeDirectories _).bind fun _ => touches_write path _

/-- Writing a file, however often, writes nothing else. -/
lemma touches_writeText (path : Path) (text : String) (more attempt : ℕ) :
    Touches [path] (writeText path text more attempt) := by
  induction more generalizing attempt with
  | zero =>
    rw [writeText]
    refine touches_attempt_bind (touches_writeOnce path text) (fun _ => touches_pure true)
      fun f hf => ?_
    dsimp only
    split
    next => exact (touches_note _).bind fun _ => touches_pure false
    next => exact touches_throw hf
  | succ more ih =>
    rw [writeText]
    refine touches_attempt_bind (touches_writeOnce path text) (fun _ => touches_pure true)
      fun f hf => ?_
    dsimp only
    split
    next => exact (touches_note _).bind fun _ => ih _
    next => exact touches_throw hf

/-- Writing the script lets a desk go on. -/
lemma keeps_goes_writeScript : Procedure.Keeps Goes writeScript := by
  intro d
  unfold writeScript
  rw [Procedure.yields_get_bind]
  cases scriptText d.session with
  | error f => exact refl_of Goes d
  | ok text =>
    rw [Procedure.yields_ofExcept_ok_bind]
    have hwrite : (onWorkspace (writeText d.writer.scriptPath text 1 1)).Yields d
        fun _ d' => d.Goes d' :=
      yields_goes_onWorkspace (touches_writeText _ _ _ _) (by simp [Writer.paths])
    refine hwrite.bind (fun written d' h => ?_) fun _ _ h => h
    have hrest : Procedure.Keeps Goes (do
        changeWriter fun w => { w with writes := w.writes + 1 }
        noteWriter .debug ("Wrote " ++ toString d.session.log.length ++ " action(s) to " ++
          d.writer.scriptPath.text)) :=
      Procedure.Keeps.bind (keeps_goes_changeWriter (fun _ => rfl) (fun _ => rfl) fun _ => rfl)
        fun _ _ => yields_goes_onWorkspace (touches_note _) (List.nil_subset _)
    split
    next => exact (hrest d').mono fun _ _ h' => trans_of Goes h h'
    next => exact h

/-- Writing the log lets a desk go on. -/
lemma keeps_goes_writeLog : Procedure.Keeps Goes writeLog := by
  intro d
  unfold writeLog
  rw [Procedure.yields_get_bind]
  split
  next => exact refl_of Goes d
  next path hpath =>
    cases logText d.session with
    | error f => exact refl_of Goes d
    | ok text =>
      rw [Procedure.yields_ofExcept_ok_bind]
      have hwrite : (onWorkspace (writeText path text 1 1)).Yields d fun _ d' => d.Goes d' :=
        yields_goes_onWorkspace (touches_writeText _ _ _ _) (by simp [Writer.paths, hpath])
      exact hwrite.bind (fun _ _ h => h) fun _ _ h => h

/-- Writing all files lets a desk go on. -/
lemma keeps_goes_writeAll : Procedure.Keeps Goes writeAll :=
  keeps_goes_writeScript.bind fun _ => keeps_goes_writeLog

/-! ## Requests and timers -/

/-- A writer that is opened or closed writes and runs tools, and the desk goes on. -/
lemma keeps_goes_flush {closed : Bool} {tools : Procedure Desk Unit}
    (htools : ∀ d, tools.Yields d fun _ d' => d.SetAside d') :
    Procedure.Keeps Goes (do
      changeWriter fun w => { w with closed := closed }
      flush
      tools) := by
  have hcancel : Procedure.Keeps Goes (changeWriter Writer.cancel) :=
    keeps_goes_changeWriter (fun _ => rfl) (fun _ => rfl) fun _ => rfl
  refine Procedure.Keeps.bind
    (keeps_goes_changeWriter (fun _ => rfl) (fun _ => rfl) fun _ => rfl) fun _ => ?_
  refine Procedure.Keeps.bind (hcancel.bind fun _ => keeps_goes_writeAll) fun _ d => ?_
  exact (htools d).mono fun _ _ h => h.goes

/-- **A beginning lets a desk go on.** -/
lemma keeps_goes_start : Procedure.Keeps Goes start :=
  keeps_goes_flush yields_launchEditor

/-- **An end lets a desk go on.** -/
lemma keeps_goes_close : Procedure.Keeps Goes close :=
  keeps_goes_flush yields_runFormatter

/-- **A new timer lets a desk go on.** -/
lemma keeps_goes_schedule : Procedure.Keeps Goes schedule := by
  intro d
  cases hclosed : d.writer.closed with
  | true => exact (Procedure.yields_of_run (run_schedule_of_closed hclosed)).2 (refl_of Goes d)
  | false =>
    refine (Procedure.yields_of_run (run_schedule_of_open hclosed)).2 ?_
    cases h : d.writer.interval with
    | ok seconds =>
      rw [Writer.restart_of_ok h]
      exact goes_of_writer rfl rfl rfl
    | error f =>
      rw [Writer.restart_of_error h]
      exact goes_of_writer rfl rfl rfl

/-- **A timer that runs out lets a desk go on.** -/
lemma keeps_goes_fire (i : ℕ) : Procedure.Keeps Goes (fire i) := by
  intro d
  rcases fire_cases d i with ⟨r, hrun⟩ | ⟨-, hrun⟩
  · exact (Procedure.yields_of_run hrun).2 (refl_of Goes d)
  · rw [Procedure.Yields, hrun]
    have hwriter : d.Goes (d.withWriter { d.writer with current := none }) :=
      goes_of_writer rfl rfl rfl
    exact trans_of Goes hwriter (keeps_goes_writeAll _)

end Desk

end SessionRecorder
