import SessionRecorder.Proofs.Procedure
import SessionRecorder.Writer
/-!
# What requests do to the writer

Writing files, and running the tools, leaves the session and the timers as they are, whether or not
it succeeds. So each request has its effect on the timers before anything is written, and no fault
takes it back.

## Main definitions

* `Desk.Rests` — the session and the timers are what they were.

## Main results

* `Writer.restart_of_ok`, `Writer.restart_of_error` — a timer begun anew.
* `Desk.keeps_writeAll_of`, `Desk.keeps_runFormatter_of` — what is kept while files are written, and
  while the script is formatted.
* `Desk.keeps_writeAll` — the session and the timers rest while files are written.
* `Desk.yields_flush_rests`, `Desk.yields_start_rests`, `Desk.yields_close_rests` — a request that
  writes at once cancels the timer that is waited for.
* `Desk.run_schedule_of_open`, `Desk.run_schedule_of_closed`, `Desk.yields_schedule_of_interval` — a
  request to write later.
* `Desk.run_fire_of_stale`, `Desk.run_fire_of_current`, `Desk.fire_cases` — a timer runs out.
-/

namespace SessionRecorder

namespace Writer

/-! ## New timers -/

variable {w : Writer}

/-- A timer that can be made is waited for, in a generation of its own. -/
lemma restart_of_ok {seconds : Binary64} (h : w.interval = .ok seconds) :
    w.restart = (.ok (), { w with
      timers := w.timersCancelled ++ [⟨seconds, w.generation + 1, true, false⟩]
      current := some w.timersCancelled.length
      generation := w.generation + 1 }) := by
  have hlength : interval { w with
      timers := w.timersCancelled
      generation := w.generation + 1 } = w.interval := rfl
  unfold restart
  simp only [hlength, h]

/-- A timer whose length is refused takes the place of the one that is waited for, but is not
there. -/
lemma restart_of_error {f : Fault} (h : w.interval = .error f) :
    w.restart = (.error f, { w with
      timers := w.timersCancelled
      generation := w.generation + 1 }) := by
  have hlength : interval { w with
      timers := w.timersCancelled
      generation := w.generation + 1 } = w.interval := rfl
  unfold restart
  simp only [hlength, h]

end Writer

namespace Desk

variable {d d' : Desk}

/-! ## Writing and tools -/

/-- The session and the timers are what they were, whatever was written. -/
structure Rests (d d' : Desk) : Prop where
  session : d'.session = d.session
  writer : ∃ n, d'.writer = { d.writer with writes := n }

instance : Std.Refl Rests := ⟨fun _ => ⟨rfl, _, rfl⟩⟩

instance : IsTrans Desk Rests where
  trans d d' d'' h h' := by
    obtain ⟨n, hn⟩ := h.writer
    obtain ⟨m, hm⟩ := h'.writer
    exact ⟨h'.session.trans h.session, m, by rw [hm, hn]⟩

/-- A step on the workspace leaves the rest of the desk as it is. -/
lemma keeps_onWorkspace {α : Type} (p : Procedure Workspace α) :
    Procedure.Keeps Rests (onWorkspace p) := fun _ => ⟨rfl, _, rfl⟩

/-- A desk with another writer. -/
def withWriter (d : Desk) (w : Writer) : Desk :=
  { d with writer := w }

section

variable {R : Desk → Desk → Prop} [Std.Refl R] [IsTrans Desk R]
  (hcount : ∀ d n, R d (d.withWriter { d.writer with writes := n }))
  (hnote : ∀ n, Procedure.Keeps R (onWorkspace (Workspace.note n)))
  (hwrite : ∀ path text, Procedure.Keeps R (onWorkspace (writeText path text 1 1)))
  (hrun : ∀ argv, Procedure.Keeps R (onWorkspace (Workspace.run argv)))

include hcount hnote hwrite in
/-- What is kept while a text is written is kept while the script is written. -/
lemma keeps_writeScript_of : Procedure.Keeps R writeScript := by
  unfold writeScript
  refine Procedure.keeps_get_bind fun d => (Procedure.keeps_ofExcept _).bind fun text => ?_
  refine (hwrite _ _).bind fun written => ?_
  split
  next =>
    refine Procedure.Keeps.bind ?_ fun _ => hnote _
    exact Procedure.keeps_modify fun d => hcount d _
  next => exact Procedure.keeps_pure _

include hwrite in
/-- What is kept while a text is written is kept while the log is written. -/
lemma keeps_writeLog_of : Procedure.Keeps R writeLog := by
  unfold writeLog
  refine Procedure.keeps_get_bind fun d => ?_
  split
  next => exact Procedure.keeps_pure _
  next path =>
    refine (Procedure.keeps_ofExcept _).bind fun text => ?_
    exact (hwrite _ _).bind fun _ => Procedure.keeps_pure _

include hcount hnote hwrite in
/-- What is kept while a text is written is kept while files are written. -/
lemma keeps_writeAll_of : Procedure.Keeps R writeAll :=
  (keeps_writeScript_of hcount hnote hwrite).bind fun _ => keeps_writeLog_of hwrite

include hnote hrun in
/-- What is kept while a command is run is kept while the script is formatted. -/
lemma keeps_runFormatter_of : Procedure.Keeps R runFormatter := by
  unfold runFormatter
  refine Procedure.keeps_get_bind fun d => ?_
  dsimp only
  split
  next =>
    refine (Procedure.keeps_ofExcept _).bind fun argv => ?_
    refine (hrun argv).attempt.bind fun r => ?_
    cases r with
    | ok u => exact hnote _
    | error f =>
      dsimp only
      split
      next => exact hnote _
      next => exact Procedure.keeps_throw _
  next => exact Procedure.keeps_pure _

end

/-- The session and the timers rest while the script is written. -/
lemma keeps_writeScript : Procedure.Keeps Rests writeScript :=
  keeps_writeScript_of (fun _ _ => ⟨rfl, _, rfl⟩) (fun _ => keeps_onWorkspace _)
    fun _ _ => keeps_onWorkspace _

/-- **The session and the timers rest while files are written.** -/
lemma keeps_writeAll : Procedure.Keeps Rests writeAll :=
  keeps_writeScript.bind fun _ => keeps_writeLog_of fun _ _ => keeps_onWorkspace _

/-- The session and the timers rest while the editor is launched. -/
lemma keeps_launchEditor : Procedure.Keeps Rests launchEditor := by
  unfold launchEditor
  refine Procedure.keeps_get_bind fun d => ?_
  dsimp only
  split
  next =>
    refine (keeps_onWorkspace _).attempt.bind fun r => ?_
    cases r with
    | ok u => exact Procedure.keeps_pure _
    | error f =>
      dsimp only
      split
      next => exact keeps_onWorkspace _
      next => exact Procedure.keeps_throw _
  next => exact Procedure.keeps_pure _

/-- The session and the timers rest while the script is formatted. -/
lemma keeps_runFormatter : Procedure.Keeps Rests runFormatter :=
  keeps_runFormatter_of (fun _ => keeps_onWorkspace _) fun _ => keeps_onWorkspace _

/-! ## Requests -/

/-- Before anything is written, the timer that is waited for is cancelled. -/
lemma yields_flush_rests (d : Desk) :
    flush.Yields d fun _ d' => (d.withWriter d.writer.cancel).Rests d' := by
  unfold flush changeWriter
  rw [Procedure.yields_modify_bind]
  exact keeps_writeAll _

/-- A writer is opened or closed, and then the timer that is waited for is cancelled, before
anything is written and tools are run. -/
lemma yields_flush_tools {closed : Bool} {tools : Procedure Desk Unit}
    (htools : Procedure.Keeps Rests tools) (d : Desk) :
    (do
      changeWriter fun w => { w with closed := closed }
      flush
      tools).Yields d fun _ d' =>
        (d.withWriter { d.writer with closed := closed }.cancel).Rests d' := by
  rw [changeWriter, Procedure.yields_modify_bind]
  refine (yields_flush_rests { d with writer := { d.writer with closed := closed } }).bind
    (fun _ d' h => ?_) fun _ _ h => h
  exact (htools d').mono fun _ _ h' => trans_of Rests h h'

/-- A beginning opens the writer and cancels the timer that is waited for. -/
lemma yields_start_rests (d : Desk) :
    start.Yields d fun _ d' => (d.withWriter { d.writer with closed := false }.cancel).Rests d' :=
  yields_flush_tools keeps_launchEditor d

/-- An end closes the writer and cancels the timer that is waited for. -/
lemma yields_close_rests (d : Desk) :
    close.Yields d fun _ d' => (d.withWriter { d.writer with closed := true }.cancel).Rests d' :=
  yields_flush_tools keeps_runFormatter d

/-- A closed writer makes no timer. -/
lemma run_schedule_of_closed (h : d.writer.closed = true) : schedule.run d = (.ok (), d) := by
  unfold schedule
  rw [ExceptT.run_mk, if_pos h]

/-- A writer that is not closed begins a timer anew. -/
lemma run_schedule_of_open (h : d.writer.closed = false) :
    schedule.run d = (d.writer.restart.1, d.withWriter d.writer.restart.2) := by
  unfold schedule
  rw [ExceptT.run_mk, if_neg (by simp [h])]
  rfl

/-- A request to write later is met if its timer has a length. -/
lemma yields_schedule_of_interval {seconds : Binary64} (h : d.writer.interval = .ok seconds) :
    schedule.Yields d fun res d' =>
      res = .ok () ∧ d'.session = d.session ∧ d'.writer.interval = d.writer.interval := by
  cases hclosed : d.writer.closed with
  | true =>
    rw [Procedure.yields_of_run (run_schedule_of_closed hclosed)]
    exact ⟨rfl, rfl, rfl⟩
  | false =>
    rw [Procedure.yields_of_run (run_schedule_of_open hclosed), Writer.restart_of_ok h]
    exact ⟨rfl, rfl, rfl⟩

/-- A timer of another generation, or of a closed writer, does nothing. -/
lemma run_fire_of_stale {i : ℕ} {t : Timer} (ht : d.writer.timers[i]? = some t)
    (h : t.generation ≠ d.writer.generation ∨ d.writer.closed = true) :
    (fire i).run d = (.ok (), d) := by
  have hstale : (t.generation != d.writer.generation || d.writer.closed) = true := by
    rcases h with h | h <;> simp [h]
  rw [fire, Procedure.run_get_bind, ht]
  dsimp only
  rw [expire, Procedure.run_get_bind]
  dsimp only
  rw [if_pos hstale]
  rfl

/-- A timer of this generation writes, and then none is waited for. -/
lemma run_fire_of_current {i : ℕ} {t : Timer} (ht : d.writer.timers[i]? = some t)
    (h : t.generation = d.writer.generation) (hopen : d.writer.closed = false) :
    (fire i).run d = writeAll.run (d.withWriter { d.writer with current := none }) := by
  have hcurrent : ¬((t.generation != d.writer.generation || d.writer.closed) = true) := by
    simp [h, hopen]
  rw [fire, Procedure.run_get_bind, ht]
  dsimp only
  rw [expire, Procedure.run_get_bind]
  dsimp only
  rw [if_neg hcurrent]
  rfl

/-- A timer that was never made cannot run out. -/
lemma run_fire_of_missing {i : ℕ} (h : d.writer.timers[i]? = none) :
    (fire i).run d = (.error .indexOutOfRange, d) := by
  rw [fire, Procedure.run_get_bind, h]
  rfl

/-- A timer that runs out does something only if it is of this generation and the writer is not
closed. -/
lemma fire_cases (d : Desk) (i : ℕ) :
    (∃ r, (fire i).run d = (r, d)) ∨
      d.writer.closed = false ∧
        (fire i).run d = writeAll.run (d.withWriter { d.writer with current := none }) := by
  cases ht : d.writer.timers[i]? with
  | none => exact .inl ⟨_, run_fire_of_missing ht⟩
  | some t =>
    by_cases h : t.generation ≠ d.writer.generation ∨ d.writer.closed = true
    · exact .inl ⟨_, run_fire_of_stale ht h⟩
    · rw [not_or, not_not, Bool.not_eq_true] at h
      exact .inr ⟨h.2, run_fire_of_current ht h.1 h.2⟩

end Desk

end SessionRecorder
