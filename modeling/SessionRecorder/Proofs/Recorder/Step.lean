import SessionRecorder.Proofs.Session.Handler
import SessionRecorder.Proofs.Writer.Frame
import SessionRecorder.Recorder
/-!
# What is done with a recorder

The calls of a recorder and the timers that run out for it, and what comes of the calls while
nothing is recorded: they are ignored or refused.

## Main definitions

* `Recorder.Action` — a call of a recorder, or a timer that runs out.
* `Recorder.Unmoved` — a recorder that is left as it is but for what is noted.

## Main results

* `Recorder.yields_apply` — an event that is applied.
* `Recorder.run_perform_of_operation`, `Recorder.yields_perform_of_not_running` — a recorder that is
  not running refuses what is asked of it and is left as it is.
-/

namespace SessionRecorder

namespace Recorder

/-! ## Actions -/

/-- A call of a recorder, or one of the timers that were ever made for it running out. -/
inductive Action where
  | start
  | stop
  | feed (e : Event)
  | feedPayload (payload : Value)
  | recordStep (name : Value)
  | endStep
  | recordComment (text : Value)
  | recordNavigation (url : Value)
  | requestScreenshot (image name locator region : Value)
  | fire (i : ℕ)

namespace Action

/-- What an action does. -/
def perform : Action → Procedure Recorder Unit
  | .start => Recorder.start
  | .stop => Recorder.stop
  | .feed e => feedAny e
  | .feedPayload payload => do
    let _ ← Recorder.feedPayload payload
  | .recordStep name => Recorder.recordStep name
  | .endStep => Recorder.endStep
  | .recordComment text => Recorder.recordComment text
  | .recordNavigation url => Recorder.recordNavigation url
  | .requestScreenshot image name locator region => do
    let _ ← Recorder.requestScreenshot image name locator region
  | .fire i => onDesk (Desk.fire i)

/-- The operation that an action asks for, if it is one that only a running recorder performs. -/
def operation? : Action → Option String
  | .recordStep _ => some "record_step"
  | .endStep => some "end_step"
  | .recordComment _ => some "record_comment"
  | .recordNavigation _ => some "record_navigation"
  | .requestScreenshot .. => some "request_screenshot"
  | _ => none

/-- An action whose arguments are of the declared kinds. -/
def WellTyped : Action → Prop
  | .feed e => e.WellTyped
  | .feedPayload payload => ∀ e, Event.ofPayload payload = .ok e → e.WellTyped
  | .recordStep name => name.IsOptionalText
  | .requestScreenshot image _ locator region =>
    (∃ b, image = .bytes b) ∧ locator.IsOptionalText ∧
      ∀ r, screenshotRegion region = .ok r → r.WellTyped
  | _ => True

end Action

/-! ## Frames -/

variable {r r' : Recorder}

/-- Nothing is different but what has been noted. -/
def Unmoved (r r' : Recorder) : Prop :=
  ∃ journal, r' = { r with workspace := { r.workspace with journal } }

/-- A recorder is the same as itself. -/
lemma Unmoved.refl (r : Recorder) : r.Unmoved r := ⟨_, rfl⟩

/-- A step on the desk of a recorder. -/
lemma yields_onDesk {α : Type} {p : Procedure Desk α} {P : Except Fault α → Desk → Prop}
    (h : p.Yields r.toDesk P) :
    (onDesk p).Yields r fun res r' => ∃ d, r' = { r with toDesk := d } ∧ P res d :=
  ⟨_, rfl, h⟩

/-- A step on the workspace of a recorder. -/
lemma yields_onWorkspace {α : Type} {p : Procedure Workspace α}
    {P : Except Fault α → Workspace → Prop} (h : p.Yields r.workspace P) :
    (onWorkspace p).Yields r fun res r' => ∃ t, r' = { r with workspace := t } ∧ P res t :=
  ⟨_, rfl, h⟩

/-- An event is applied to the session and the journal of a recorder. -/
lemma run_apply (r : Recorder) (e : Event) : (apply e).run r =
    match r.stage.after (r.session.apply r.config.defaultStep e) with
    | (res, t) => (res, r.withStage t) := by
  have hrun := Handler.run_apply r.config.defaultStep e r.stage
  unfold apply
  rw [Procedure.run_get_bind]
  show (((Handler.apply r.config.defaultStep e).run r.stage).1,
    withStage ((Handler.apply r.config.defaultStep e).run r.stage).2 r) = _
  rw [hrun]
  rfl

/-- An event that is applied to the session, and noted. -/
lemma run_apply_of_ok {e : Event} {o : Outcome}
    (h : r.session.apply r.config.defaultStep e = .ok o) : ∃ journal, (apply e).run r =
      (.ok o.accepted,
        { r with session := o.session, workspace := { r.workspace with journal } }) := by
  refine ⟨r.workspace.journal ++ o.notes, ?_⟩
  rw [run_apply, h]
  rfl

/-- An event that is accepted follows a rule, and any other leaves no mark. -/
lemma yields_apply (r : Recorder) (e : Event) : (apply e).Yields r fun res r' =>
    ∃ s journal, r' = { r with session := s, workspace := { r.workspace with journal } } ∧
      (res = .ok true ∧ r.session.recording = true ∧
          Session.Accepts r.config.defaultStep r.session e s ∨
        res ≠ .ok true ∧ s = r.session) := by
  cases hout : r.session.apply r.config.defaultStep e with
  | error f =>
    have hrun : (apply e).run r = (.error f, r) := by
      rw [run_apply, hout]
      rfl
    exact (Procedure.yields_of_run hrun).2 ⟨r.session, _, rfl, .inr ⟨nofun, rfl⟩⟩
  | ok o =>
    obtain ⟨journal, hrun⟩ := run_apply_of_ok hout
    obtain ⟨hfits, hrecording⟩ := Session.fits_of_apply hout
    refine (Procedure.yields_of_run hrun).2 ⟨o.session, journal, rfl, ?_⟩
    unfold Session.Fits at hfits
    split at hfits
    next haccepted =>
      exact .inl ⟨congrArg Except.ok haccepted, hrecording haccepted, hfits⟩
    next hrefused =>
      exact .inr ⟨fun h => hrefused (Except.ok.inj h), hfits⟩

/-! ## Recorders that are not running -/

/-- A recorder that is not running ignores events. -/
lemma yields_feed_of_not_running (hr : r.running = false) (e : Event) :
    (feed e).Yields r fun _ r' => r.Unmoved r' := by
  have happly : (apply e).Yields r fun res r' => res ≠ .ok true ∧ r.Unmoved r' := by
    refine (yields_apply r e).mono fun res r' h => ?_
    obtain ⟨s, journal, rfl, ⟨-, hrecording, -⟩ | ⟨hres, rfl⟩⟩ := h
    · exact absurd hrecording (by simpa [running] using hr)
    · exact ⟨hres, journal, rfl⟩
  refine happly.bind (fun accepted r' h => ?_) fun _ _ h => h.2
  split
  next haccepted => exact absurd (congrArg Except.ok haccepted) h.1
  next => exact h.2

/-- A recorder that is not running refuses what is asked of it. -/
lemma run_requireRunning_bind {α : Type} (hr : r.running = false) (operation : String)
    (f : Unit → Procedure Recorder α) :
    (requireRunning operation >>= f).run r = (.error (.notRecording operation), r) := by
  have hrequire : (requireRunning operation).run r = (.error (.notRecording operation), r) := by
    rw [requireRunning, Procedure.run_get_bind, hr]
    rfl
  exact Procedure.run_bind_error hrequire

/-- A recorder that is running performs what is asked of it. -/
lemma yields_requireRunning_bind {α : Type} (hr : r.running = true) (operation : String)
    {f : Unit → Procedure Recorder α} {P : Except Fault α → Recorder → Prop} :
    (requireRunning operation >>= f).Yields r P ↔ (f ()).Yields r P := by
  have hrequire : (requireRunning operation).run r = (.ok (), r) := by
    rw [requireRunning, Procedure.run_get_bind, hr]
    rfl
  exact Procedure.yields_bind_of_run hrequire

/-- What is asked of a recorder is refused or performed. -/
lemma yields_requireRunning_bind_or {α : Type} (operation : String)
    {f : Unit → Procedure Recorder α} {P : Except Fault α → Recorder → Prop}
    (hrefused : P (.error (.notRecording operation)) r) (hperformed : (f ()).Yields r P) :
    (requireRunning operation >>= f).Yields r P := by
  cases hr : r.running with
  | true => exact (yields_requireRunning_bind hr operation).2 hperformed
  | false => exact (Procedure.yields_of_run (run_requireRunning_bind hr operation f)).2 hrefused

/-- **A recorder that is not running refuses every request**, and is left as it is. -/
lemma run_perform_of_operation {a : Action} {operation : String} (hr : r.running = false)
    (ha : a.operation? = some operation) :
    a.perform.run r = (.error (.notRecording operation), r) := by
  cases a with
  | recordStep name | endStep | recordComment text | recordNavigation url =>
    obtain rfl := Option.some.inj ha
    exact run_requireRunning_bind hr _ _
  | requestScreenshot image name locator region =>
    obtain rfl := Option.some.inj ha
    exact Procedure.run_bind_error (run_requireRunning_bind hr _ _)
  | _ => cases ha

/-- **A recorder that is not running is left as it is** by everything but a beginning. -/
lemma yields_perform_of_not_running (hr : r.running = false) {a : Action} (hstart : a ≠ .start)
    (hfire : ∀ i, a ≠ .fire i) : a.perform.Yields r fun _ r' => r.Unmoved r' := by
  have hfeed := yields_feed_of_not_running hr
  cases a with
  | start => exact absurd rfl hstart
  | fire i => exact absurd rfl (hfire i)
  | stop =>
    show (stop).Yields r _
    unfold stop
    rw [Procedure.yields_get_bind, hr]
    exact .refl r
  | feed e => exact (hfeed e).bind (fun _ _ h => h) fun _ _ h => h
  | feedPayload payload =>
    have hpayload : (feedPayload payload).Yields r fun _ r' => r.Unmoved r' := by
      unfold feedPayload
      cases Event.ofPayload payload with
      | ok e => exact hfeed e
      | error f =>
        dsimp only
        split
        next => exact ⟨_, rfl⟩
        next => exact .refl r
    exact hpayload.bind (fun _ _ h => h) fun _ _ h => h
  | _ => exact (Procedure.yields_of_run (run_perform_of_operation hr rfl)).2 (.refl r)

end Recorder

end SessionRecorder
