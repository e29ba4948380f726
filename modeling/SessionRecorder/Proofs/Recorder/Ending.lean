import SessionRecorder.Proofs.Recorder.Reached
import SessionRecorder.Proofs.Report
import SessionRecorder.Proofs.Result
import SessionRecorder.Proofs.Writer.Formatter
/-!
# Ends of recordings

At the end of a recording the writer is closed, which writes the files and runs the formatter, and
then the files are attached to the report. So whatever comes of the formatter, the script is
written; but a formatter that cannot be called is a fault, and then nothing is attached.

## Main definitions

* `Recorder.PathsFit` — the paths of the files that are attached are short.
* `Recorder.attachments` — what a report gets of a recorder.
* `Recorder.Ended` — what becomes of a recorder at the end of a recording.

## Main results

* `Recorder.Reached.fits_of_mem_snapshots` — the screenshots of a recorder have short paths.
* `Recorder.yields_farewell_attaches` — the files are attached without a fault.
* `Recorder.ended_of_hasTexts` — the end of a recording is a fault exactly if the formatter cannot
  be called.
-/

namespace SessionRecorder

/-! ## Screenshots -/

namespace Snapshot

open Workspace

variable {directory path : Path} {name image : Value}

/-- A picture that is stored has a short path. -/
lemma yields_storePicture_fits (path : Path) (image : Value) (w : Workspace) :
    (storePicture path image).Yields w fun r _ => r = .ok () → path.Fits := by
  unfold storePicture
  refine Procedure.yields_bind_of_forall (fun _ _ => ?_) fun _ _ h => by cases h
  refine Procedure.yields_bind_of_forall (fun p t => ?_) fun _ _ h => by cases h
  exact (yields_save p path t).mono fun _ _ h hr => fits_of_read (h hr)

/-- Octets that are stored have a short path. -/
lemma yields_storeOctets_fits (path : Path) (image : Value) (w : Workspace) :
    (storeOctets path image).Yields w fun r _ => r = .ok () → path.Fits := by
  unfold storeOctets
  refine Procedure.yields_bind_of_forall (fun _ _ => ?_) fun _ _ h => by cases h
  exact yields_write.mono fun _ _ h hr => fits_of_read (h.2 hr)

/-- **A screenshot that is stored has a short path.** -/
lemma yields_store_fits (directory : Path) (name image : Value) (w : Workspace) :
    (store directory name image).Yields w fun r _ => ∀ path, r = .ok (some path) → path.Fits := by
  intro path hstored
  exact (yields_store_done (pathOf_of_store hstored) (yields_storePicture_fits path image)
    (yields_storeOctets_fits path image) w path hstored).2

end Snapshot

namespace Recorder

variable {c : Config} {r r' : Recorder} {α : Type}

/-- The screenshots that have come to a recorder have short paths. -/
def Gathers (r r' : Recorder) : Prop :=
  ∀ path ∈ r'.snapshots, path ∈ r.snapshots ∨ path.Fits

instance : Std.Refl Gathers := ⟨fun _ _ h => .inl h⟩

instance : IsTrans Recorder Gathers where
  trans _ _ _ h h' path hpath := (h' path hpath).elim (h path) .inr

/-- No screenshots come of a step on the desk. -/
lemma keeps_gathers_onDesk (p : Procedure Desk α) : Procedure.Keeps Gathers (onDesk p) :=
  fun _ _ h => .inl h

/-- No screenshots come of a change of the session. -/
lemma keeps_gathers_changeSession (f : Session → Session) :
    Procedure.Keeps Gathers (changeSession f) :=
  fun _ _ h => .inl h

/-- No screenshots come of a refusal. -/
lemma keeps_gathers_requireRunning (operation : String) :
    Procedure.Keeps Gathers (requireRunning operation) := by
  refine Procedure.keeps_get_bind fun r => ?_
  split
  next => exact Procedure.keeps_throw _
  next => exact Procedure.keeps_pure _

/-- The screenshot of an event is gathered if it is stored. -/
lemma keeps_gathers_keepScreenshot (e : Event) : Procedure.Keeps Gathers (keepScreenshot e) := by
  intro r
  cases e with
  | screenshot name image locator region =>
    unfold keepScreenshot
    rw [Procedure.yields_get_bind]
    have hstore := Snapshot.yields_store_fits r.config.snapshots name image r.workspace
    refine (yields_onWorkspace hstore).bind (fun stored r' h => ?_) fun f r' h => ?_
    · obtain ⟨w, rfl, hfits⟩ := h
      cases stored with
      | none => exact fun path hpath => .inl hpath
      | some path =>
        intro path' hpath'
        rcases List.mem_append.1 hpath' with hpath' | hpath'
        · exact .inl hpath'
        · obtain rfl := List.mem_singleton.1 hpath'
          exact .inr (hfits path' rfl)
    · obtain ⟨w, rfl, -⟩ := h
      exact fun path hpath => .inl hpath
  | _ => exact refl_of Gathers r

/-- The screenshot of an event that is fed is gathered. -/
lemma keeps_gathers_feed (e : Event) : Procedure.Keeps Gathers (feed e) := by
  have happly : Procedure.Keeps Gathers (apply e) := by
    refine fun r => (yields_apply r e).mono fun _ r' h => ?_
    obtain ⟨s, journal, rfl, -⟩ := h
    exact fun path hpath => .inl hpath
  refine happly.bind fun accepted => ?_
  split
  next =>
    exact (keeps_gathers_keepScreenshot e).bind fun _ => (keeps_gathers_onDesk _).bind fun _ =>
      Procedure.keeps_pure _
  next => exact Procedure.keeps_pure _

/-- **Whatever is done with a recorder, the screenshots that come to it have short paths.** -/
lemma keeps_gathers_perform (a : Action) : Procedure.Keeps Gathers a.perform := by
  have hfeed (e : Event) : Procedure.Keeps Gathers (feedAny e) :=
    (keeps_gathers_feed e).bind fun _ => Procedure.keeps_pure _
  cases a with
  | start =>
    refine Procedure.keeps_get_bind fun r => ?_
    split
    next => exact Procedure.keeps_pure _
    next =>
      exact (keeps_gathers_changeSession _).bind fun _ => (keeps_gathers_onDesk _).bind fun _ =>
        keeps_gathers_onDesk _
  | stop =>
    have hattach : Procedure.Keeps Gathers attachFiles := by
      refine Procedure.keeps_get_bind fun r => ?_
      split
      next => exact keeps_gathers_onDesk _
      next => exact Procedure.keeps_pure _
    have hnote (sentence : String) : Procedure.Keeps Gathers (noteRecorder sentence) :=
      keeps_gathers_onDesk _
    refine Procedure.keeps_get_bind fun r => ?_
    split
    next =>
      exact (keeps_gathers_changeSession _).bind fun _ => (keeps_gathers_onDesk _).bind fun _ =>
        Procedure.keeps_get_bind fun _ => (hnote _).bind fun _ => hattach
    next => exact Procedure.keeps_pure _
  | feed e => exact hfeed e
  | feedPayload payload =>
    refine Procedure.Keeps.bind ?_ fun _ => Procedure.keeps_pure _
    unfold feedPayload
    split
    next => exact keeps_gathers_feed _
    next =>
      split
      next => exact (keeps_gathers_onDesk _).bind fun _ => Procedure.keeps_pure _
      next => exact Procedure.keeps_throw _
  | recordStep | endStep | recordComment | recordNavigation =>
    exact (keeps_gathers_requireRunning _).bind fun _ => hfeed _
  | requestScreenshot image name locator region =>
    have hname : Procedure.Keeps Gathers (screenshotName name) := by
      unfold screenshotName
      split
      next => exact Procedure.keeps_pure _
      next =>
        refine Procedure.Keeps.bind (Procedure.keeps_modify fun _ _ h => .inl h) fun _ => ?_
        exact Procedure.keeps_get_bind fun _ => Procedure.keeps_pure _
    refine Procedure.Keeps.bind ?_ fun _ => Procedure.keeps_pure _
    exact (keeps_gathers_requireRunning _).bind fun _ => hname.bind fun _ =>
      (Procedure.keeps_ofExcept _).bind fun _ => (hfeed _).bind fun _ => Procedure.keeps_pure _
  | fire i => exact keeps_gathers_onDesk _

/-- **The screenshots of a recorder have short paths.** -/
lemma Reached.fits_of_mem_snapshots (h : Reached c r) : ∀ path ∈ r.snapshots, path.Fits := by
  induction h with
  | create h =>
    obtain ⟨script, log, ms, -, -, rfl⟩ := exists_of_create h
    nofun
  | @perform q a _ ih =>
    exact fun path hpath => (keeps_gathers_perform a q path hpath).elim (ih path) id
  | outside w _ ih => exact ih

/-- The formatter of a recorder is that of its configuration. -/
lemma Reached.formatter (h : Reached c r) : r.writer.formatter = c.formatter := by
  induction h with
  | create h =>
    obtain ⟨script, log, ms, -, -, rfl⟩ := exists_of_create h
    rfl
  | @perform q a _ ih =>
    refine (course_perform a q).keeps (P := fun q => q.writer.formatter = c.formatter) ih ?_
    intro q q' stage hq
    cases stage with
    | desk hgoes => exact hgoes.formatter.trans hq
    | _ => exact hq
  | outside w _ ih => exact ih

/-! ## Farewells -/

/-- A farewell changes nothing about the script. -/
lemma yields_farewell (r : Recorder) : (do
    noteRecorder (farewell (← get).session)
    attachFiles : Procedure Recorder Unit).Yields r fun _ r' => r.toDesk.SetAside r'.toDesk := by
  have hnote (n : Note) (q : Recorder) : (onWorkspace (Workspace.note n)).Yields q
      fun _ q' => q.toDesk.SetAside q'.toDesk :=
    Desk.yields_setAside (Workspace.touches_note n) q.toDesk
  rw [Procedure.yields_get_bind]
  refine (hnote _ r).bind (fun _ q h => ?_) fun _ _ h => h
  unfold attachFiles
  rw [Procedure.yields_get_bind]
  split
  next =>
    have hattach : (onWorkspace (Report.attachSession q.writer.scriptPath q.snapshots)).Yields q
        fun _ q' => q.toDesk.SetAside q'.toDesk :=
      Desk.yields_setAside (Report.touches_attachSession _ _) q.toDesk
    exact hattach.mono fun _ _ h' => h.trans h'
  next => exact h

/-- The paths of the files that a recorder attaches, if it attaches any, are short. -/
def PathsFit (r : Recorder) : Prop :=
  r.config.attach = true → r.writer.scriptPath.Fits ∧ ∀ path ∈ r.snapshots, path.Fits

/-- What a report gets of a recorder: the files of its session, if they are to be attached. -/
def attachments (r : Recorder) (w : Workspace) : List Attachment :=
  if r.config.attach then Report.attachments w r.writer.scriptPath r.snapshots else []

/-- **A farewell attaches the files of the session**, if they are to be attached, and does not
fail. -/
lemma yields_farewell_attaches (h : r.PathsFit) : (do
    noteRecorder (farewell (← get).session)
    attachFiles : Procedure Recorder Unit).Yields r fun res r' =>
      res = .ok () ∧ Report.Attaches (r.attachments r.workspace) r.workspace r'.workspace := by
  obtain ⟨w, hw⟩ : ∃ w, w = ((Workspace.note (.plain .info .recorder (farewell r.session))).run
      r.workspace).2 := ⟨_, rfl⟩
  have hnoted : Report.Attaches [] r.workspace w := hw ▸ (Report.yields_note _ r.workspace).2
  have hnote : (noteRecorder (farewell r.session)).run r = (.ok (), { r with workspace := w }) := by
    rw [hw]
    rfl
  rw [Procedure.yields_get_bind, Procedure.yields_bind_of_run hnote, attachFiles,
    Procedure.yields_get_bind]
  have hfiles : r.attachments w = r.attachments r.workspace := by
    rw [attachments, attachments, Report.attachments_of_sameFiles hnoted.files]
  rw [← hfiles, attachments]
  cases hattach : r.config.attach with
  | true =>
    obtain ⟨hscript, hsnapshots⟩ := h hattach
    have hattached : (onWorkspace (Report.attachSession r.writer.scriptPath r.snapshots)).Yields
        { r with workspace := w } fun res r' => res = .ok () ∧
          Report.Attaches (Report.attachments w r.writer.scriptPath r.snapshots) w r'.workspace :=
      Report.yields_attachSession hscript hsnapshots w
    rw [if_pos rfl, if_pos rfl]
    exact hattached.mono fun _ _ h' => ⟨h'.1, hnoted.trans h'.2⟩
  | false =>
    rw [if_neg (by simp), if_neg (by simp)]
    exact ⟨rfl, hnoted⟩

/-! ## Ends -/

/-- What becomes of a recorder at the end of a recording. Nothing is recorded any more, the writer
is closed and waits for no timer, and the files show the session if they can be written. If the
formatter can be called the files are attached to the report, and otherwise the end is a fault. -/
structure Ended (r : Recorder) (res : Except Fault Unit) (r' : Recorder) : Prop where
  result : res = .ok () ↔ Command.Splits r.writer.formatter
  stopped : r'.running = false
  closed : r'.writer.closed = true
  idle : r'.writer.pending = false
  shows : Desk.Writable r.workspace r.writer.paths → r.toDesk.Apart → r'.toDesk.Shows r.session
  attached : Command.Splits r.writer.formatter → r'.workspace.attached =
    r.workspace.attached ++ if r.workspace.reportOpen then r.attachments r'.workspace else []
  left : ¬Command.Splits r.writer.formatter → r'.workspace.attached = r.workspace.attached

/-- Files that show the session of a recorder show it whether or not recording is switched off. -/
lemma shows_of_switchedOff {d : Desk} (h : d.Shows r.switchedOff.session) : d.Shows r.session :=
  ⟨h.script, h.log⟩

/-- **The end of a recording is a fault exactly if the formatter cannot be called.** -/
lemma yields_stop_ended (hr : r.running = true) (h : r.toDesk.HasTexts)
    (hnul : ∀ path ∈ r.writer.paths, Workspace.hasNul path = false) (hfit : r.PathsFit) :
    (stop).Yields r fun res r' => r.Ended res r' := by
  have hscript : Desk.close.Yields r.switchedOff.toDesk fun _ d =>
      d.writer.scriptPath = r.writer.scriptPath :=
    (Desk.yields_close_rests r.switchedOff.toDesk).mono fun _ d hrests => by
      obtain ⟨n, hwriter⟩ := hrests.writer
      rw [hwriter]
      rfl
  have hclose := (Desk.HasTexts.yields_close (d := r.switchedOff.toDesk) ⟨h.script, h.log⟩ hnul).and
    (hscript.and (Desk.keeps_sameReport_close r.switchedOff.toDesk))
  rw [yields_stop_iff hr]
  refine (yields_onDesk hclose).bind (fun _ q hq => ?_) fun f q hq => ?_
  · obtain ⟨d, rfl, hd, hscript, hreport⟩ := hq
    have hsplits := hd.result.1 rfl
    have hfit' : PathsFit { r.switchedOff with toDesk := d } := fun hattach =>
      ⟨hscript ▸ (hfit hattach).1, (hfit hattach).2⟩
    refine ((yields_farewell_attaches hfit').and (yields_farewell _)).mono ?_
    rintro res r' ⟨⟨hres, hattaches⟩, haside⟩
    have hfiles : attachments { r.switchedOff with toDesk := d } d.workspace =
        r.attachments r'.workspace := by
      rw [attachments, attachments, Report.attachments_of_sameFiles hattaches.files, hscript]
      rfl
    exact {
      result := iff_of_true hres hsplits
      stopped := by rw [running, haside.session, hd.session]; rfl
      closed := by rw [haside.writer, hd.closed]
      idle := by rw [haside.writer, hd.idle]
      shows := fun hw hapart =>
        (shows_of_switchedOff (hd.shows hw hapart)).grows haside.files.grows
          (by rw [haside.writer]) (by rw [haside.writer]) (by simp)
      attached := fun _ => by
        rw [hattaches.attached, hfiles, hreport.attached, hreport.reportOpen]
        rfl
      left := fun hcannot => absurd hsplits hcannot }
  · obtain ⟨d, rfl, hd, -, hreport⟩ := hq
    have hcannot : ¬Command.Splits r.writer.formatter := fun h => by
      cases hd.result.2 h
    exact {
      result := iff_of_false (by simp) hcannot
      stopped := by rw [running, hd.session]; rfl
      closed := hd.closed
      idle := hd.idle
      shows := fun hw hapart => shows_of_switchedOff (hd.shows hw hapart)
      attached := fun hsplits => absurd hsplits hcannot
      left := fun _ => hreport.attached }

/-- **A formatter harms the end of a session exactly if its command line cannot be split into
words.** Whatever comes of calling it, the writer is closed, waits for no timer and has written the
files of every session that has a script. The end of a recording then goes on, and attaches the
files to the report if it is to, unless the formatter cannot be called.

**Proof sketch.** The files are written before the formatter is looked at, and a session with a
script is written without a fault (`Desk.HasTexts.yields_writeAll_ok`). Of what comes of a command
nothing is a fault, so the one fault that is left is a command line without words
(`Desk.yields_runFormatter_iff`). Attaching a file is a fault only if its path is too long, and the
screenshots of a recorder have been stored under their paths (`Reached.fits_of_mem_snapshots`). -/
theorem ended_of_hasTexts {d : Desk} (h : d.HasTexts)
    (hnul : ∀ path ∈ d.writer.paths, Workspace.hasNul path = false) :
    (Desk.close.Yields d fun res d' => d.Closed res d') ∧
    ∀ (c : Config) (r : Recorder), Reached c r → r.toDesk = d → r.running = true →
      (c.attach = true → d.writer.scriptPath.Fits) →
      d.writer.formatter = c.formatter ∧ (stop).Yields r fun res r' => r.Ended res r' := by
  refine ⟨h.yields_close hnul, fun c r hreached hdesk hr hfits => ?_⟩
  subst hdesk
  obtain rfl := hreached.session.1
  exact ⟨hreached.formatter, yields_stop_ended hr h hnul fun hattach =>
    ⟨hfits hattach, hreached.fits_of_mem_snapshots⟩⟩

/-- A configuration that attaches the files of a session to the report, after a formatter. -/
def formatting (formatter : String) : Config :=
  { Config.plain with formatter := .str formatter, attach := true }

/-- A recording with a screenshot. -/
def oneShot : List Action :=
  [.start, .requestScreenshot (.bytes (.text "x")) .none .none .none]

/-- A formatter that takes too long does no harm: the script is written, and the report gets it
together with the screenshot. -/
theorem ended_slowFormatter : ∃ r q, Recorder.create (formatting "black -q")
      { emptyWorkspace with commandResult := .timesOut } = .ok r ∧ r.performAll oneShot = q ∧
    Reached (formatting "black -q") q ∧ q.running = true ∧ q.toDesk.HasTexts ∧
    (∀ path ∈ q.writer.paths, Workspace.hasNul path = false) ∧ q.writer.scriptPath.Fits ∧
    Command.Splits q.writer.formatter ∧
    q.toDesk.Closed (Desk.close.run q.toDesk).1 (Desk.close.run q.toDesk).2 ∧
    q.Ended ((stop).run q).1 ((stop).run q).2 ∧
    ((stop).run q).1 = .ok () ∧
    ((stop).run q).2.workspace.attached.map (·.name.shown) = ["codegen.py", "codegen-1.png"] := by
  obtain ⟨r, hr⟩ : ∃ r, Recorder.create (formatting "black -q")
      { emptyWorkspace with commandResult := .timesOut } = .ok r := ⟨_, rfl⟩
  have hreached := (Reached.create hr).performAll oneShot
  have hrunning : (r.performAll oneShot).running = true := by
    obtain rfl := Except.ok.inj hr
    decide +kernel
  have htexts : (r.performAll oneShot).toDesk.HasTexts := by
    obtain rfl := Except.ok.inj hr
    exact ⟨exists_of_isOk (by decide +kernel), fun _ _ => exists_of_isOk (by decide +kernel)⟩
  have hnul : ∀ path ∈ (r.performAll oneShot).writer.paths, Workspace.hasNul path = false := by
    obtain rfl := Except.ok.inj hr
    decide +kernel
  have hfits : (r.performAll oneShot).writer.scriptPath.Fits := by
    obtain rfl := Except.ok.inj hr
    exact ⟨by decide +kernel, by decide +kernel⟩
  have hsplits : Command.Splits (r.performAll oneShot).writer.formatter := by
    rw [hreached.formatter]
    exact Command.splits_of_plain (by simp [Command.isQuote])
  obtain ⟨hclosed, hstopped⟩ := ended_of_hasTexts htexts hnul
  have hended := (hstopped _ _ hreached rfl hrunning fun _ => hfits).2
  refine ⟨r, _, hr, rfl, hreached, hrunning, htexts, hnul, hfits, hsplits, hclosed, hended,
    hended.result.2 hsplits, ?_⟩
  obtain rfl := Except.ok.inj hr
  decide +kernel

/-- **A quote that is left open breaks the end of a session.** The script is written, but closing
the writer is a fault, and so is the end of the recording, and nothing is attached. -/
theorem broken_openQuote : ∃ r q q', Recorder.create (formatting "'") emptyWorkspace = .ok r ∧
    r.performAll oneShot = q ∧ Reached (formatting "'") q ∧ q.running = true ∧ q.toDesk.HasTexts ∧
    ((stop).run q).2 = q' ∧
    (Desk.close.run q.toDesk).1.mapError Fault.message = .error "No closing quotation" ∧
    ((stop).run q).1.mapError Fault.message = .error "No closing quotation" ∧
    q'.workspace.reportOpen = true ∧ q'.workspace.attached.length = 0 ∧
    ∀ text, Desk.scriptText q.session = .ok text →
      (q'.workspace.read q.writer.scriptPath).toOption = some (.text text) := by
  obtain ⟨r, hr⟩ : ∃ r, Recorder.create (formatting "'") emptyWorkspace = .ok r := ⟨_, rfl⟩
  have hreached := (Reached.create hr).performAll oneShot
  have htexts : (r.performAll oneShot).toDesk.HasTexts := by
    obtain rfl := Except.ok.inj hr
    exact ⟨exists_of_isOk (by decide +kernel), fun _ _ => exists_of_isOk (by decide +kernel)⟩
  refine ⟨r, _, _, hr, rfl, hreached, ?_, htexts, rfl, ?_⟩ <;> obtain rfl := Except.ok.inj hr
  · decide +kernel
  · decide +kernel

end Recorder

end SessionRecorder
