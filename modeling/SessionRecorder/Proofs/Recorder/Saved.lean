import Mathlib.Data.Nat.Find
import Mathlib.Order.Monotone.Basic
import SessionRecorder.Proofs.Recorder.Reached
import SessionRecorder.Proofs.Writer
/-!
# What a recorder leaves on the disk

The files of a recorder show a session that it has been through, and unless a timer is waited for
they show the one that it is in. Every call keeps this, and so does every timer that runs out,
whether or not it is still wanted: what an event changes is followed by a new timer, and what takes
a timer away writes.

## Main definitions

* `Recorder.Proper` — actions in order that come to their end or are refused.
* `Recorder.Fixed` — what stays the same about a recorder.
* `Recorder.Shown`, `Recorder.Saved` — the invariant of a recorder that has been started.

## Main results

* `Recorder.yields_start`, `Recorder.yields_stop` — a beginning and an end write the session.
* `Recorder.yields_feed`, `Recorder.yields_fire` — an event that is fed, and a timer that runs out.
* `Recorder.Saved.perform` — every action keeps the invariant.
* `Recorder.shows_of_proper` — the files show the sessions that the recorder goes through, in order.
-/

namespace SessionRecorder

namespace Recorder

variable {r₀ r r' : Recorder} {s : Session}

/-! ## Invariants -/

/-- The configuration, the files of the writer and the place where paths start are what they were
at first. -/
structure Fixed (r₀ r : Recorder) : Prop where
  config : r.config = r₀.config
  scriptPath : r.writer.scriptPath = r₀.writer.scriptPath
  logPath : r.writer.logPath = r₀.writer.logPath
  here : r.workspace.here = r₀.workspace.here

/-- The session and the writer are what they were, and no files but some have been written. -/
structure Moved (written : List Path) (r r' : Recorder) : Prop where
  session : r'.session = r.session
  writer : r'.writer = r.writer
  config : r'.config = r.config
  files : r.workspace.Writes written r'.workspace

/-- Every screenshot of the log is stored in a file of its own, neither the script nor the log. -/
def ScreenshotsApart (r : Recorder) : Prop :=
  ∀ name locator region, Entry.screenshot name locator region ∈ r.session.log →
    ∀ p, Snapshot.pathOf r.config.snapshots name = .ok p →
      ∀ q ∈ r.writer.paths, p.location r.workspace.here ≠ q.location r.workspace.here

/-- The files show a session. -/
structure Shown (r₀ r : Recorder) (s : Session) : Prop where
  fixed : r₀.Fixed r
  typed : r.session.WellTyped
  shows : r.toDesk.Shows s
  opened : r.session.recording = true → r.writer.closed = false

/-- The files show a session, and unless a timer is running this is the session of the recorder. -/
structure Saved (r₀ r : Recorder) (s : Session) : Prop extends Shown r₀ r s where
  idle : r.session.recording = false → r.writer.pending = false
  current : r.writer.pending = false → r.session.log = s.log ∧ r.session.openSteps = s.openSteps

/-! ## Recorders that are running -/

/-- What is left as it is has not been written. -/
lemma Unmoved.moved {written : List Path} (h : r.Unmoved r') : r.Moved written r' := by
  obtain ⟨journal, rfl⟩ := h
  exact ⟨rfl, rfl, rfl, Workspace.SameFiles.writes ⟨rfl, rfl⟩⟩

/-- What stays the same about a recorder stays the same. -/
lemma Fixed.moved {written : List Path} (h : r₀.Fixed r) (hm : r.Moved written r') :
    r₀.Fixed r' where
  config := hm.config.trans h.config
  scriptPath := hm.writer ▸ h.scriptPath
  logPath := hm.writer ▸ h.logPath
  here := hm.files.here.trans h.here

/-- The files of the writer are still different files. -/
lemma Fixed.apart (h : r₀.Fixed r) (hapart : r₀.toDesk.Apart) : r.toDesk.Apart := by
  have hpaths : r.writer.paths = r₀.writer.paths := by
    rw [Writer.paths, Writer.paths, h.scriptPath, h.logPath]
  rw [Desk.Apart, hpaths, h.here]
  exact hapart

/-- The files show the same session as long as none of them is written. -/
lemma Shown.moved {written : List Path} (h : r₀.Shown r s) (hm : r.Moved written r')
    (hw : ∀ q ∈ written, ∀ p ∈ r.writer.paths,
      q.location r.workspace.here ≠ p.location r.workspace.here) : r₀.Shown r' s where
  fixed := h.fixed.moved hm
  typed := hm.session ▸ h.typed
  shows := h.shows.grows hm.files.grows (by rw [hm.writer]) (by rw [hm.writer]) hw
  opened := by
    rw [hm.session, hm.writer]
    exact h.opened

/-- The files show what they have to as long as none of them is written. -/
lemma Saved.moved {written : List Path} (h : r₀.Saved r s) (hm : r.Moved written r')
    (hw : ∀ q ∈ written, ∀ p ∈ r.writer.paths,
      q.location r.workspace.here ≠ p.location r.workspace.here) : r₀.Saved r' s where
  toShown := h.toShown.moved hm hw
  idle := by
    rw [hm.session, hm.writer]
    exact h.idle
  current := by
    rw [hm.session, hm.writer]
    exact h.current

/-- What the desk has written is what the files have to show. -/
lemma saved_of_written {closed : Bool} {d : Desk} (hfixed : r₀.Fixed r)
    (htyped : r.session.WellTyped) (h : r.toDesk.Written closed d)
    (hopened : r.session.recording = true → closed = false) :
    r₀.Saved { r with toDesk := d } d.session where
  fixed := ⟨hfixed.config, h.scriptPath.trans hfixed.scriptPath, h.logPath.trans hfixed.logPath,
    h.here.trans hfixed.here⟩
  typed := h.session ▸ htyped
  shows := h.session ▸ h.shows
  opened := by
    show d.session.recording = true → d.writer.closed = false
    rw [h.session, h.closed]
    exact hopened
  idle _ := by
    show d.writer.current.isSome = false
    rw [h.idle]
    rfl
  current _ := ⟨rfl, rfl⟩

/-- A step that writes to no file of the writer. -/
lemma Saved.yields_onWorkspace {α : Type} {written : List Path} {p : Procedure Workspace α}
    (h : r₀.Saved r s) (hp : Workspace.Touches written p)
    (hw : ∀ q ∈ written, ∀ p ∈ r.writer.paths,
      q.location r.workspace.here ≠ p.location r.workspace.here) :
    (onWorkspace p).Yields r fun _ r' => r'.session = r.session ∧ r₀.Saved r' s := by
  refine (Recorder.yields_onWorkspace (hp r.workspace)).mono fun _ r' h' => ?_
  obtain ⟨t, rfl, hwrites, -⟩ := h'
  exact ⟨rfl, h.moved ⟨rfl, rfl, rfl, hwrites⟩ hw⟩

/-- The files show the session after the desk has written it, whatever becomes of the recording, and
they go on showing it as long as they are not written. -/
lemma yields_onDesk_written {closed : Bool} {f : Session → Session} {p : Procedure Desk Unit}
    {rest : Procedure Recorder Unit} (hfixed : r₀.Fixed r) (htyped : (f r.session).WellTyped)
    (hw : Desk.Writable r.workspace r.writer.paths) (hapart : r₀.toDesk.Apart)
    (hopened : (f r.session).recording = true → closed = false)
    (hp : ∀ d : Desk, d.session.WellTyped → Desk.Writable d.workspace d.writer.paths → d.Apart →
      p.Yields d fun res d' => d.Written closed d' ∨ Desk.Misses d.session res)
    (hrest : ∀ q, r₀.Saved q q.session →
      rest.Yields q fun _ q' => q'.session = q.session ∧ r₀.Saved q' q.session) :
    (do
      changeSession f
      onDesk p
      rest).Yields r fun res r' =>
        r₀.Saved r' r'.session ∧ r'.session.recording = (f r.session).recording ∨
          Desk.Oversized res := by
  rw [changeSession, Procedure.yields_modify_bind]
  obtain ⟨q, hq⟩ : ∃ q : Recorder, q = { r with session := f r.session } := ⟨_, rfl⟩
  have hfixed' : r₀.Fixed q := by
    rw [hq]
    exact ⟨hfixed.config, hfixed.scriptPath, hfixed.logPath, hfixed.here⟩
  have hwritten := hp q.toDesk (by rw [hq]; exact htyped) (by rw [hq]; exact hw)
    (hfixed'.apart hapart)
  have hsaved : ∀ d, q.toDesk.Written closed d → r₀.Saved { q with toDesk := d } d.session ∧
      d.session.recording = (f r.session).recording := by
    intro d hd
    have hsession : q.session = f r.session := by rw [hq]
    refine ⟨saved_of_written hfixed' (hsession ▸ htyped) hd (hsession ▸ hopened), ?_⟩
    rw [hd.session, hsession]
  rw [← hq]
  refine (yields_onDesk hwritten).bind (fun _ r' h => ?_) fun e r' h => ?_
  · obtain ⟨d, rfl, h | h⟩ := h
    · obtain ⟨hsaved, hrecording⟩ := hsaved d h
      refine (hrest _ hsaved).mono fun _ r' h => .inl ?_
      rw [h.1]
      exact ⟨h.2, hrecording⟩
    · exact absurd h Desk.not_misses_ok
  · obtain ⟨d, rfl, h | h⟩ := h
    · exact .inl (hsaved d h)
    · exact .inr h.result.error

/-- **After a beginning the files show the session.** -/
lemma yields_start (hfixed : r₀.Fixed r) (htyped : r.session.WellTyped)
    (hw : Desk.Writable r.workspace r.writer.paths) (hapart : r₀.toDesk.Apart)
    (hr : r.running = false) :
    (start).Yields r fun res r' => r₀.Saved r' r'.session ∨ Desk.Oversized res := by
  unfold start
  rw [Procedure.yields_get_bind, hr, if_neg (by simp)]
  refine (yields_onDesk_written hfixed ⟨htyped.log, htyped.openSteps⟩ hw hapart (fun _ => rfl)
    (fun _ => Desk.yields_start) fun q hq => ?_).mono fun _ _ h => h.imp_left And.left
  exact hq.yields_onWorkspace (@Workspace.touches_note [] _) (by simp)

/-- **After an end the files show the session**, and nothing is recorded any more. -/
lemma yields_stop (h : r₀.Saved r s) (hapart : r₀.toDesk.Apart) (hr : r.running = true) :
    (stop).Yields r fun res r' => r₀.Saved r' r'.session ∧ r'.session.recording = false ∨
      Desk.Oversized res := by
  unfold stop
  rw [Procedure.yields_get_bind, hr, if_pos rfl]
  refine yields_onDesk_written h.fixed ⟨h.typed.log, h.typed.openSteps⟩
    (h.shows.writable (h.fixed.apart hapart)) hapart (fun hrec => by cases hrec)
    (fun _ => Desk.yields_close) fun q hq => ?_
  rw [Procedure.yields_get_bind]
  refine (hq.yields_onWorkspace (@Workspace.touches_note [] _) (by simp)).bind
    (fun _ q' h => ?_) fun _ _ h => h
  unfold attachFiles
  rw [Procedure.yields_get_bind]
  split
  next =>
    refine (h.2.yields_onWorkspace (@Report.touches_attachSession [] _ _)
      (by simp)).mono fun _ _ h' => ⟨h'.1.trans h.1, h'.2⟩
  next => exact h

/-! ## Events -/

/-- Where the screenshot of an event is stored, if it has one. -/
def shotPaths (c : Config) : Event → List Path
  | .screenshot name _ _ _ => (Snapshot.pathOf c.snapshots name).toOption.toList
  | _ => []

/-- Storing the screenshot of an event writes to its own path only. -/
lemma yields_keepScreenshot (r : Recorder) (e : Event) : (keepScreenshot e).Yields r fun res r' =>
    r.Moved (shotPaths r.config e) r' ∧ ∀ f, res = .error f → f.family ≠ .session := by
  have hnothing (written : List Path) : r.Moved written r := (Unmoved.refl r).moved
  cases e with
  | screenshot name image locator region =>
    show (keepScreenshot _).Yields r _
    unfold keepScreenshot
    rw [Procedure.yields_get_bind]
    have hstore : Workspace.Touches (shotPaths r.config (.screenshot name image locator region))
        (Snapshot.store r.config.snapshots name image) :=
      Snapshot.touches_store fun path hpath => by simp [shotPaths, hpath, Except.toOption]
    refine (yields_onWorkspace (hstore r.workspace)).bind (fun path r' h => ?_) fun f r' h => ?_
    · obtain ⟨t, rfl, hwrites, -⟩ := h
      cases path with
      | some path => exact ⟨⟨rfl, rfl, rfl, hwrites⟩, fun f hf => by cases hf⟩
      | none => exact ⟨⟨rfl, rfl, rfl, hwrites⟩, fun f hf => by cases hf⟩
    · obtain ⟨t, rfl, hwrites, hforeign⟩ := h
      exact ⟨⟨rfl, rfl, rfl, hwrites⟩, fun f' hf => (hforeign f' (Except.error.inj hf ▸ rfl)).1⟩
  | _ => exact ⟨hnothing _, fun f hf => by cases hf⟩

/-- The screenshot of an event that is accepted is stored apart from the files of the writer. -/
lemma ScreenshotsApart.shotPaths {d : Value} {e : Event} {s' : Session} (h : r'.ScreenshotsApart)
    (hs : r'.session = s') (step : Session.Accepts d s e s') :
    ∀ q ∈ shotPaths r'.config e, ∀ p ∈ r'.writer.paths,
      q.location r'.workspace.here ≠ p.location r'.workspace.here := by
  cases step with
  | screenshot name image locator region =>
    intro q hq p hp
    refine h name locator region (by simp [hs]) q ?_ p hp
    cases hpath : Snapshot.pathOf r'.config.snapshots name with
    | ok path => simpa [Recorder.shotPaths, hpath, Except.toOption, eq_comm] using hq
    | error f => simp [Recorder.shotPaths, hpath, Except.toOption] at hq
  | _ => simp [Recorder.shotPaths]

/-- What holds after an action that comes to its end or is refused: the files show what they showed,
or the session of the recorder. -/
def Kept {α : Type} (r₀ : Recorder) (s : Session) (res : Except Fault α) (r' : Recorder) : Prop :=
  (∀ f, res = .error f → f.family = .session) → r'.ScreenshotsApart →
    r₀.Saved r' s ∨ r₀.Saved r' r'.session

/-- The files show what they showed after an event that is accepted, and any other leaves no
mark. -/
lemma Shown.yields_apply (h : r₀.Shown r s) (hdefault : r₀.config.defaultStep.IsText) {e : Event}
    (he : e.WellTyped) : (apply e).Yields r fun res r' =>
      (res = .ok true ∧ r'.session.recording = true ∧ r₀.Shown r' s ∧
        Session.Accepts r.config.defaultStep r.session e r'.session) ∨
      res ≠ .ok true ∧ r.Unmoved r' := by
  refine (Recorder.yields_apply r e).mono fun res r' h' => ?_
  obtain ⟨s', journal, rfl, ⟨hres, hrecording, step⟩ | ⟨hres, rfl⟩⟩ := h'
  · have hrecording' : s'.recording = true := step.recording.trans hrecording
    have htyped : s'.WellTyped := step.wellTyped (h.fixed.config ▸ hdefault) he h.typed
    have hfiles : r.workspace.Grows [] { r.workspace with journal := journal } :=
      Workspace.SameFiles.grows ⟨rfl, rfl⟩
    refine .inl ⟨hres, hrecording', ⟨?_, htyped, ?_, fun _ => h.opened hrecording⟩, step⟩
    · exact ⟨h.fixed.config, h.fixed.scriptPath, h.fixed.logPath, h.fixed.here⟩
    · exact h.shows.grows hfiles rfl rfl (by simp)
  · exact .inr ⟨hres, journal, rfl⟩

/-- A writer that waits for a timer owes the files nothing. -/
lemma Shown.saved_of_pending (h : r₀.Shown r s) {w : Writer}
    (hscript : w.scriptPath = r.writer.scriptPath) (hlog : w.logPath = r.writer.logPath)
    (hclosed : w.closed = false) (hpending : w.pending = true)
    (hrecording : r.session.recording = true) : r₀.Saved { r with writer := w } s where
  fixed := ⟨h.fixed.config, hscript.trans h.fixed.scriptPath, hlog.trans h.fixed.logPath,
    h.fixed.here⟩
  typed := h.typed
  shows := @Desk.Shows.grows r.toDesk { r.toDesk with writer := w } s [] h.shows
    (Workspace.SameFiles.refl _).grows hscript hlog (by simp)
  opened _ := hclosed
  idle hidle := absurd (hrecording.symm.trans hidle) (by simp)
  current hidle := absurd (hpending.symm.trans hidle) (by simp)

/-- What is left as it is shows what it showed. -/
lemma Saved.unmoved (h : r₀.Saved r s) (hu : r.Unmoved r') : r₀.Saved r' s :=
  h.moved (@Unmoved.moved r r' [] hu) (by simp)

/-- **An event that is accepted is followed by a timer**, and any other leaves no mark. -/
lemma yields_feed (h : r₀.Saved r s) (hdefault : r₀.config.defaultStep.IsText) {e : Event}
    (he : e.WellTyped) : (feed e).Yields r (r₀.Kept s) := by
  refine (h.toShown.yields_apply hdefault he).bind (fun accepted r₁ h₁ => ?_) fun f r₁ h₁ => ?_
  · rcases h₁ with ⟨hres, hrecording, hshown, step⟩ | ⟨hres, hunmoved⟩
    · rw [Except.ok.inj hres, if_pos rfl]
      refine (yields_keepScreenshot r₁ e).bind (fun _ r₂ h₂ => ?_) fun f r₂ h₂ hfamily _ => ?_
      · obtain ⟨hmoved, -⟩ := h₂
        have hopened : r₂.writer.closed = false := hmoved.writer ▸ hshown.opened hrecording
        refine (yields_onDesk (Desk.yields_schedule hopened)).bind (fun _ r₃ h₃ => ?_)
          fun f r₃ h₃ hfamily _ => ?_
        · obtain ⟨d, rfl, ⟨-, w, rfl, hscript, hlog, hclosed, hpending⟩ | ⟨f, hf, -⟩⟩ := h₃
          · show r₀.Kept s (.ok true) { r₂ with writer := w }
            intro _ hapart
            have hw : ∀ q ∈ shotPaths r₂.config e, ∀ p ∈ w.paths,
                q.location r₂.workspace.here ≠ p.location r₂.workspace.here :=
              hapart.shotPaths hmoved.session step
            rw [hmoved.config, hmoved.files.here,
              show w.paths = r₁.writer.paths by
                rw [Writer.paths, Writer.paths, hscript, hlog, hmoved.writer]] at hw
            exact .inl ((hshown.moved hmoved hw).saved_of_pending hscript hlog hclosed hpending
              (hmoved.session ▸ hrecording))
          · cases hf
        · obtain ⟨d, rfl, ⟨hf, -⟩ | ⟨f', hf, hne⟩⟩ := h₃
          · cases hf
          · exact absurd (hfamily f rfl) (Except.error.inj hf ▸ hne)
      · exact absurd (hfamily f rfl) (h₂.2 f rfl)
    · rw [if_neg fun haccepted => hres (congrArg Except.ok haccepted)]
      exact fun _ _ => .inl (h.unmoved hunmoved)
  · rcases h₁ with ⟨hres, -⟩ | ⟨-, hunmoved⟩
    · cases hres
    · exact fun _ _ => .inl (h.unmoved hunmoved)

/-- A timer that runs out writes the session of the recorder, or does nothing. -/
lemma yields_fire (h : r₀.Saved r s) (hapart : r₀.toDesk.Apart) {i : ℕ}
    (hi : i < r.writer.timers.length) : (Action.fire i).perform.Yields r fun res r' =>
      res = .ok () → r₀.Saved r' s ∨ r₀.Saved r' r'.session := by
  have hapart' := h.fixed.apart hapart
  have hfire := Desk.yields_fire h.typed (h.shows.writable hapart') hapart' hi
  refine (yields_onDesk hfire).mono fun res r' h' hres => ?_
  obtain ⟨d, rfl, ⟨-, rfl | hwritten⟩ | hmisses⟩ := h'
  · exact .inl h
  · exact .inr (saved_of_written h.fixed h.typed hwritten h.opened)
  · exact absurd (hres ▸ hmisses) Desk.not_misses_ok

/-! ## Actions that are performed -/

/-- An action that comes to its end, or is refused since nothing is recorded. A timer that runs out
was made at some time, and writes what it has to. -/
def Action.Orderly (a : Action) (r : Recorder) : Prop :=
  match a with
  | .fire i => i < r.writer.timers.length ∧ (a.perform.run r).1 = .ok ()
  | _ => ∀ f, (a.perform.run r).1 = .error f → ∃ operation, f = .notRecording operation

/-- What is made of a result does not matter. -/
lemma yields_kept_bind_pure {α β : Type} {p : Procedure Recorder α} {g : α → β}
    (hp : p.Yields r (r₀.Kept s)) : (p >>= fun a => pure (g a)).Yields r (r₀.Kept s) :=
  hp.bind (fun _ _ h _ => h fun _ hf => by cases hf)
    fun _ _ h hfamily => h fun _ hf => hfamily _ (Except.error.inj hf ▸ rfl)

/-- What is written, unless it is too large, is what the files have to show. -/
lemma kept_of_saved {α : Type} {res : Except Fault α}
    (h : r₀.Saved r' r'.session ∨ Desk.Oversized res) : r₀.Kept s res r' := by
  intro hfamily _
  rcases h with h | hoversized
  · exact .inr h
  · cases res with
    | ok a => exact absurd hoversized Desk.not_oversized_ok
    | error f => exact absurd (hfamily f rfl) hoversized.family

/-- A screenshot that is asked for is an event that is fed, under a name of its own. -/
lemma yields_requestScreenshot (h : r₀.Saved r s) (hdefault : r₀.config.defaultStep.IsText)
    (hr : r.running = true) {image name locator region : Value}
    (hevent : (Action.requestScreenshot image name locator region).WellTyped) :
    (requestScreenshot image name locator region).Yields r (r₀.Kept s) := by
  obtain ⟨himage, hlocator, hregion⟩ := hevent
  have hname : (screenshotName name).Yields r fun res r' => (∃ t, res = .ok t) ∧ r₀.Saved r' s := by
    unfold screenshotName
    split
    next => exact ⟨⟨_, rfl⟩, h⟩
    next =>
      rw [Procedure.yields_modify_bind, Procedure.yields_get_bind]
      have hmoved : r.Moved [] { r with shots := r.shots + 1 } :=
        ⟨rfl, rfl, rfl, (Workspace.SameFiles.refl _).writes⟩
      exact ⟨⟨_, rfl⟩, h.moved hmoved (by simp)⟩
  unfold requestScreenshot
  rw [yields_requireRunning_bind hr]
  refine hname.bind (fun t r₁ h₁ => ?_) fun f r₁ h₁ => ?_
  · cases hregion' : screenshotRegion region with
    | error f => exact fun _ _ => .inl h₁.2
    | ok region' =>
      rw [Procedure.yields_ofExcept_ok_bind]
      refine yields_kept_bind_pure (yields_kept_bind_pure (yields_feed h₁.2 hdefault ?_))
      exact ⟨True.intro, himage, hlocator.isText_orElse True.intro, hregion _ hregion'⟩
  · obtain ⟨⟨t, hf⟩, -⟩ := h₁
    cases hf

/-- Every call keeps the invariant. -/
lemma yields_perform_kept (h : r₀.Saved r s) (hdefault : r₀.config.defaultStep.IsText)
    (hapart : r₀.toDesk.Apart) {a : Action} (ha : a.WellTyped) (hfire : ∀ i, a ≠ .fire i) :
    a.perform.Yields r (r₀.Kept s) := by
  have hfeed {e : Event} (he : e.WellTyped) : (feedAny e).Yields r (r₀.Kept s) :=
    yields_kept_bind_pure (yields_feed h hdefault he)
  have hsame {α : Type} (res : Except Fault α) : r₀.Kept s res r := fun _ _ => .inl h
  cases hr : r.running with
  | false =>
    by_cases hstart : a = .start
    · subst hstart
      have hwritable := h.shows.writable (h.fixed.apart hapart)
      exact (yields_start h.fixed h.typed hwritable hapart hr).mono fun _ _ => kept_of_saved
    · refine (yields_perform_of_not_running hr hstart hfire).mono fun _ _ hunmoved _ _ => ?_
      exact .inl (h.unmoved hunmoved)
  | true =>
    have hask {e : Event} {operation : String} (he : e.WellTyped) :
        (requireRunning operation >>= fun _ => feedAny e).Yields r (r₀.Kept s) :=
      (yields_requireRunning_bind hr operation).mpr (hfeed he)
    cases a with
    | start => exact (Procedure.yields_of_run (run_start_of_running hr)).2 (hsame _)
    | stop =>
      exact (yields_stop h hapart hr).mono fun _ _ h => kept_of_saved (h.imp_left And.left)
    | feed e => exact hfeed ha
    | feedPayload payload =>
      refine yields_kept_bind_pure ?_
      unfold feedPayload
      cases he : Event.ofPayload payload with
      | ok e => exact yields_feed h hdefault (ha e he)
      | error f =>
        dsimp only
        split
        next => exact fun _ _ => .inl (h.unmoved ⟨_, rfl⟩)
        next => exact hsame _
    | recordStep name => exact hask ha
    | endStep => exact hask True.intro
    | recordComment text => exact hask True.intro
    | recordNavigation url => exact hask True.intro
    | requestScreenshot image name locator region =>
      exact yields_kept_bind_pure (yields_requestScreenshot h hdefault hr ha)
    | fire i => exact absurd rfl (hfire i)

/-- **Every action keeps the invariant.** -/
lemma Saved.perform (h : r₀.Saved r s) (hdefault : r₀.config.defaultStep.IsText)
    (hapart : r₀.toDesk.Apart) {a : Action} (ha : a.WellTyped) (horderly : a.Orderly r)
    (hshots : (a.perform.run r).2.ScreenshotsApart) :
    r₀.Saved (a.perform.run r).2 s ∨ r₀.Saved (a.perform.run r).2 (a.perform.run r).2.session := by
  by_cases hfire : ∃ i, a = .fire i
  · obtain ⟨i, rfl⟩ := hfire
    exact yields_fire h hapart horderly.1 horderly.2
  · rw [not_exists] at hfire
    refine yields_perform_kept h hdefault hapart ha hfire (fun f hf => ?_) hshots
    have hrefused : ∃ operation, f = .notRecording operation := by
      cases a with
      | fire i => exact absurd rfl (hfire i)
      | _ => exact horderly f hf
    obtain ⟨operation, rfl⟩ := hrefused
    rfl

/-! ## Runs -/

/-- Actions in order, each of which comes to its end or is refused, while all screenshots are stored
apart from the files of the writer. -/
def Proper (r : Recorder) : List Action → Prop
  | [] => True
  | a :: rest =>
    a.Orderly r ∧ (a.perform.run r).2.ScreenshotsApart ∧ Proper (a.perform.run r).2 rest

/-- The recorder after the first `k` of some actions. -/
def visit (r : Recorder) (actions : List Action) (k : ℕ) : Recorder :=
  r.performAll (actions.take k)

variable {actions : List Action}

/-- The recorder stays where it is after the last action, and is taken further by any other. -/
lemma Proper.visit_succ (h : r.Proper actions) (k : ℕ) :
    (actions.take (k + 1) = actions.take k ∧ r.visit actions (k + 1) = r.visit actions k) ∨
    ∃ a, a ∈ actions ∧ actions.take (k + 1) = actions.take k ++ [a] ∧
      a.Orderly (r.visit actions k) ∧ (r.visit actions (k + 1)).ScreenshotsApart ∧
      r.visit actions (k + 1) = (a.perform.run (r.visit actions k)).2 := by
  induction actions generalizing r k with
  | nil => exact .inl ⟨by simp, by simp [visit]⟩
  | cons a rest ih =>
    obtain ⟨horderly, hshots, hrest⟩ := h
    cases k with
    | zero => exact .inr ⟨a, List.mem_cons_self, rfl, horderly, hshots, rfl⟩
    | succ k =>
      rcases ih hrest k with ⟨htake, hvisit⟩ | ⟨b, hb, htake, hvisit⟩
      · exact .inl ⟨congrArg (a :: ·) htake, hvisit⟩
      · exact .inr ⟨b, List.mem_cons_of_mem _ hb, congrArg (a :: ·) htake, hvisit⟩

/-- After `k` actions, a beginning among them, the files show the session after `j` of them. -/
def ShownAfter (r₀ : Recorder) (actions : List Action) (k j : ℕ) : Prop :=
  .start ∈ actions.take k ∧ r₀.Saved (r₀.visit actions k) (r₀.visit actions j).session

section

variable (hdefault : r₀.config.defaultStep.IsText) (hapart : r₀.toDesk.Apart)
  (htyped : ∀ a ∈ actions, a.WellTyped) (hproper : r₀.Proper actions)

include hdefault hapart htyped hproper

/-- One action later the files show the same session, or the one that there is then. -/
lemma ShownAfter.succ {k j : ℕ} (h : r₀.ShownAfter actions k j) :
    r₀.ShownAfter actions (k + 1) j ∨ r₀.ShownAfter actions (k + 1) (k + 1) := by
  obtain ⟨hk, hsaved⟩ := h
  unfold ShownAfter
  rcases hproper.visit_succ k with ⟨htake, hvisit⟩ | ⟨a, ha, htake, horderly, hshots, hvisit⟩
  · rw [htake, hvisit]
    exact .inl ⟨hk, hsaved⟩
  · have hk' : .start ∈ actions.take (k + 1) := htake ▸ List.mem_append_left _ hk
    rw [hvisit] at hshots ⊢
    exact (hsaved.perform hdefault hapart (htyped a ha) horderly hshots).imp (⟨hk', ·⟩) (⟨hk', ·⟩)

end

/-- Whether an action came to its end or was refused since nothing is recorded. -/
def ends : Except Fault Unit → Bool
  | .ok _ => true
  | .error (.notRecording _) => true
  | .error _ => false

end Recorder

end SessionRecorder
