import SessionRecorder.Proofs.Recorder.Ending
import SessionRecorder.Proofs.Recorder.Saved
import SessionRecorder.Proofs.Writer.Scope
/-!
# What no fault takes back

Whatever is done with a recorder that has begun, and whether or not it succeeds, its files are there
to be written again. So an end writes the script, whatever went wrong before it and whatever goes
wrong after it, and while nothing is recorded the script stays that of the session.

## Main definitions

* `Workspace.Spreads` — all files are still there, whatever they hold.
* `Recorder.Goes` — what holds between a recorder before and after anything is done with it.
* `Desk.Finished` — the script is that of the session, unless the session has none.
* `Recorder.Standing` — the invariant of a recorder that has begun.

## Main results

* `Recorder.keeps_goes_perform` — every action lets a recorder go on, even if it fails.
* `Recorder.yields_start_standing` — the invariant holds after a beginning.
* `Recorder.Standing.perform` — every action keeps the invariant, even if it fails.
* `Recorder.Standing.stop_ok` — an end does not fail if the formatter can be called.
-/

namespace SessionRecorder

/-! ## Files that are still there -/

namespace Workspace

variable {w w' : Workspace} {path : Path} {content : Blob} {written : List Path}

/-- A workspace with all its files, whichever have been written. -/
def Spreads (w w' : Workspace) : Prop :=
  ∃ written, w.Grows written w'

instance : Std.Refl Spreads := ⟨fun w => ⟨[], (SameFiles.refl w).grows⟩⟩

instance : IsTrans Workspace Spreads where
  trans _ _ _ := by
    rintro ⟨written, h⟩ ⟨written', h'⟩
    exact ⟨written ++ written', (h.mono (List.subset_append_left _ _)).trans
      (h'.mono (List.subset_append_right _ _))⟩

/-- A file in its directory is still there. -/
lemma Spreads.exists_holds (h : w.Spreads w') (hw : w.Holds path content) :
    ∃ content', w'.Holds path content' :=
  hw.exists_grows h.choose_spec

end Workspace

/-! ## Recorders that go on -/

namespace Recorder

variable {r r' : Recorder} {α : Type}

/-- A recorder goes on with the same configuration and the same files, whatever has been written,
and with a session whose entries are of the declared kinds if they were so before. -/
structure Goes (r r' : Recorder) : Prop where
  config : r'.config = r.config
  scriptPath : r'.writer.scriptPath = r.writer.scriptPath
  logPath : r'.writer.logPath = r.writer.logPath
  formatter : r'.writer.formatter = r.writer.formatter
  files : r.workspace.Spreads r'.workspace
  typed : r.config.defaultStep.IsText → r.session.WellTyped → r'.session.WellTyped

instance : Std.Refl Goes :=
  ⟨fun r => ⟨rfl, rfl, rfl, rfl, refl_of Workspace.Spreads r.workspace, fun _ h => h⟩⟩

instance : IsTrans Recorder Goes where
  trans _ _ _ h h' := ⟨h'.config.trans h.config, h'.scriptPath.trans h.scriptPath,
    h'.logPath.trans h.logPath, h'.formatter.trans h.formatter,
    trans_of Workspace.Spreads h.files h'.files,
    fun hd hs => h'.typed (h.config ▸ hd) (h.typed hd hs)⟩

/-- The session and the files of the writer stay what they are. -/
lemma Moved.goes {written : List Path} (h : r.Moved written r') : r.Goes r' :=
  ⟨h.config, by rw [h.writer], by rw [h.writer], by rw [h.writer], ⟨written, h.files.grows⟩,
    fun _ hs => h.session ▸ hs⟩

/-- Every stage lets a recorder go on. -/
lemma Stage.goes {a : Action} (h : Stage a r r') (ha : a.WellTyped) : r.Goes r' := by
  have hfiles (q : Recorder) : q.workspace.Spreads q.workspace := refl_of Workspace.Spreads _
  cases h with
  | desk hgoes =>
    exact ⟨rfl, hgoes.scriptPath, hgoes.logPath, hgoes.formatter, ⟨_, hgoes.files.grows⟩,
      fun _ hs => hgoes.session ▸ hs⟩
  | begin | finish =>
    exact ⟨rfl, rfl, rfl, rfl, hfiles r, fun _ hs => ⟨hs.log, hs.openSteps⟩⟩
  | accept he _ step =>
    exact ⟨rfl, rfl, rfl, rfl, hfiles r, fun hd hs => step.wellTyped hd (he.wellTyped ha) hs⟩
  | store _ _ hwrites =>
    exact ⟨rfl, rfl, rfl, rfl, ⟨_, hwrites.grows⟩, fun _ hs => hs⟩
  | count => exact ⟨rfl, rfl, rfl, rfl, hfiles r, fun _ hs => hs⟩

/-- **Whatever is done with a recorder, and whether or not it succeeds, it goes on** with the same
configuration and the same files. -/
lemma keeps_goes_perform {a : Action} (ha : a.WellTyped) : Procedure.Keeps Goes a.perform :=
  fun r => (course_perform a r).mono fun _ _ h => h.related fun _ _ stage => stage.goes ha

end Recorder

/-! ## Scripts that are finished -/

namespace Desk

variable {d d' : Desk}

/-- The script is that of the session, unless the session is too large to have one. -/
def Finished (d : Desk) : Prop :=
  (∃ text, scriptText d.session = .ok text ∧
    d.workspace.Holds d.writer.scriptPath (.text text)) ∨ Oversized (scriptText d.session)

/-- A script stays finished when tools are run. -/
lemma Finished.setAside (h : d.Finished) (h' : d.SetAside d') : d'.Finished := by
  unfold Finished
  rw [h'.session, h'.writer]
  refine h.imp_left fun ⟨text, htext, hholds⟩ => ⟨text, htext, ?_⟩
  exact hholds.grows h'.files.grows (by simp)

/-- What has been written is finished. -/
lemma Written.finished {closed : Bool} (h : d.Written closed d') : d'.Finished := by
  unfold Finished
  rw [h.session]
  exact .inl h.shows.script

/-- **After an end the script is finished**, even if the formatter fails. -/
lemma yields_close_finished (hs : d.session.WellTyped)
    (hw : Writable d.workspace d.writer.paths) (hapart : d.Apart) :
    close.Yields d fun _ d' => d'.Finished := by
  have hclose := yields_close hs hw hapart
  have hrests := yields_close_rests d
  rcases hclose with hwritten | hmisses
  · exact hwritten.finished
  · have hsession : (close.run d).2.session = d.session := hrests.session
    refine .inr ?_
    rw [hsession]
    exact hmisses.script

end Desk

namespace Recorder

variable {r r' : Recorder}

/-- A recorder that has begun: its entries are of the declared kinds, its files are different ones,
are there and can be written again, and while nothing is recorded no timer writes and the script is
finished. -/
structure Standing (r : Recorder) : Prop where
  defaultStep : r.config.defaultStep.IsText
  typed : r.session.WellTyped
  apart : r.toDesk.Apart
  files : ∀ path ∈ r.writer.paths, ∃ content, r.workspace.Holds path content
  quiet : r.Quiet
  finished : r.running = false → r.toDesk.Finished

/-- The files can be written again. -/
lemma Standing.writable (h : r.Standing) : Desk.Writable r.workspace r.writer.paths :=
  Desk.writable_of_holds h.apart h.files

/-- The files of the writer stay the same. -/
lemma Goes.paths (h : r.Goes r') : r'.writer.paths = r.writer.paths := by
  rw [Writer.paths, Writer.paths, h.scriptPath, h.logPath]

/-- The files of the writer are still different files. -/
lemma Goes.apart (h : r.Goes r') (hapart : r.toDesk.Apart) : r'.toDesk.Apart := by
  obtain ⟨written, hgrows⟩ := h.files
  rw [Desk.Apart, h.paths, hgrows.here]
  exact hapart

/-- A recorder that goes on stands as it did before, if it is quiet and the script is finished. -/
lemma Standing.goes (h : r.Standing) (hg : r.Goes r') (hquiet : r'.Quiet)
    (hfinished : r'.running = false → r'.toDesk.Finished) : r'.Standing := by
  refine ⟨hg.config ▸ h.defaultStep, hg.typed h.defaultStep h.typed, hg.apart h.apart, ?_, hquiet,
    hfinished⟩
  rw [hg.paths]
  intro path hpath
  obtain ⟨content, hcontent⟩ := h.files path hpath
  exact hg.files.exists_holds hcontent

/-- What is noted makes no difference. -/
lemma Standing.unmoved (h : r.Standing) (hu : r.Unmoved r') : r'.Standing := by
  refine h.goes (@Unmoved.moved r r' [] hu).goes ?_ ?_ <;> obtain ⟨journal, rfl⟩ := hu
  · exact h.quiet
  · exact fun hr => (h.finished hr).setAside ⟨rfl, rfl, Workspace.SameFiles.writes ⟨rfl, rfl⟩⟩

/-- **An end finishes the script**, even if it fails. -/
lemma Standing.yields_stop (h : r.Standing) (hr : r.running = true) :
    (stop).Yields r fun _ r' => r'.toDesk.Finished := by
  have hclose : Desk.close.Yields r.switchedOff.toDesk fun _ d => d.Finished :=
    Desk.yields_close_finished ⟨h.typed.log, h.typed.openSteps⟩ h.writable h.apart
  rw [yields_stop_iff hr]
  refine (yields_onDesk hclose).bind (fun _ q' h' => ?_) fun _ q' h' => ?_
  · obtain ⟨d, rfl, hfinished⟩ := h'
    exact (yields_farewell _).mono fun _ _ hset => hfinished.setAside hset
  · obtain ⟨d, rfl, hfinished⟩ := h'
    exact hfinished

/-- The files are there after a beginning, even if the editor fails. -/
lemma yields_start_files (hr : r.running = false) (htyped : r.session.WellTyped)
    (hw : Desk.Writable r.workspace r.writer.paths) (hapart : r.toDesk.Apart) {text : String}
    (htext : Desk.scriptText r.session = .ok text) : (start).Yields r fun _ r' =>
      ∀ path ∈ r'.writer.paths, ∃ content, r'.workspace.Holds path content := by
  have htext' : Desk.scriptText r.switchedOn.session = .ok text := htext
  have hstart : Desk.start.Yields r.switchedOn.toDesk fun _ d =>
      ∀ path ∈ d.writer.paths, ∃ content, d.workspace.Holds path content := by
    have hwritten := Desk.yields_start (d := r.switchedOn.toDesk)
      ⟨htyped.log, htyped.openSteps⟩ hw hapart
    refine hwritten.mono fun _ d h => ?_
    rcases h with hwritten | hmisses
    · exact fun path hpath => hwritten.shows.exists_holds hpath
    · exact absurd (htext' ▸ hmisses.script) Desk.not_oversized_ok
  rw [yields_start_iff hr]
  refine (yields_onDesk hstart).bind (fun _ q' h => ?_) fun _ q' h => ?_
  · obtain ⟨d, rfl, hfiles⟩ := h
    intro path hpath
    obtain ⟨content, hcontent⟩ := hfiles path hpath
    exact ⟨content, hcontent.grows (@Workspace.touches_note [] _ _).1.grows (by simp)⟩
  · obtain ⟨d, rfl, hfiles⟩ := h
    exact hfiles

/-- **The invariant holds after a beginning**, even if it fails. -/
lemma yields_start_standing (hr : r.running = false) (hdefault : r.config.defaultStep.IsText)
    (htyped : r.session.WellTyped) (hw : Desk.Writable r.workspace r.writer.paths)
    (hapart : r.toDesk.Apart) (hquiet : r.Quiet) {text : String}
    (htext : Desk.scriptText r.session = .ok text) : (start).Yields r fun _ r' =>
      r'.Standing ∧ r'.session = { r.session with recording := true } := by
  have hgoes : r.Goes ((start).run r).2 := @keeps_goes_perform .start trivial r
  have hsession := (yields_start_session hr).2
  refine ⟨⟨hgoes.config ▸ hdefault, hgoes.typed hdefault htyped, hgoes.apart hapart,
    yields_start_files hr htyped hw hapart htext, hquiet.perform .start, fun hstopped => ?_⟩,
    hsession⟩
  rw [running, hsession] at hstopped
  cases hstopped

/-- **Every action keeps the invariant, even if it fails.**

**Proof sketch.** The recorder goes on, and its timers stay quiet. What is left is that the script
is finished if nothing is recorded afterwards. If nothing was recorded before, the action has left
the files alone, unless it was a start, after which something is recorded. If something was
recorded, the action was the end, since no other switches recording off. -/
lemma Standing.perform (h : r.Standing) {a : Action} (ha : a.WellTyped) :
    Standing (a.perform.run r).2 := by
  refine h.goes (keeps_goes_perform ha r) (h.quiet.perform a) fun hstopped => ?_
  cases hr : r.running with
  | false =>
    by_cases hstart : a = .start
    · subst hstart
      have hsession := (yields_start_session hr).2
      rw [running, Action.perform, hsession] at hstopped
      cases hstopped
    · exact (h.unmoved (h.quiet.yields_perform hr hstart)).finished hstopped
  | true =>
    by_cases hstart : a = .start
    · subst hstart
      rw [run_start_of_running hr, hr] at hstopped
      cases hstopped
    · by_cases hstop : a = .stop
      · subst hstop
        exact h.yields_stop hr
      · rw [running, (keeps_perform hstart hstop r).recording, ← running, hr] at hstopped
        cases hstopped

/-- **An end does not fail if the formatter can be called**, unless the session has no script. -/
lemma Standing.stop_ok (h : r.Standing) (hr : r.running = true)
    (hformatter : Command.Splits r.writer.formatter) (hattach : r.config.attach = false)
    {text : String} (htext : Desk.scriptText r.session = .ok text) :
    (stop).Yields r fun res _ => res = .ok () := by
  have htexts : r.toDesk.HasTexts := by
    refine (Desk.hasTexts_or_oversized h.typed).resolve_right fun hscript => ?_
    exact Desk.not_oversized_ok (htext ▸ hscript)
  have hnul : ∀ path ∈ r.writer.paths, Workspace.hasNul path = false := by
    intro path hpath
    obtain ⟨content, hcontent⟩ := h.files path hpath
    exact (Workspace.read_eq_ok_iff.1 hcontent.content).1
  have hfit : r.PathsFit := fun h => by cases hattach.symm.trans h
  exact (yields_stop_ended hr htexts hnul hfit).mono fun _ _ hended => hended.result.2 hformatter

/-- After an end nothing is recorded, even if it fails. -/
lemma running_stop (r : Recorder) : ((stop).run r).2.running = false := by
  cases hr : r.running with
  | false =>
    rw [run_stop_of_not_running hr]
    exact hr
  | true =>
    rw [running, (yields_stop_session hr).2.1]

end Recorder

end SessionRecorder
