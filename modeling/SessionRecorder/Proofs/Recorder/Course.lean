import Mathlib.Logic.Relation
import SessionRecorder.Proofs.Recorder.Step
import SessionRecorder.Proofs.Snapshot.Store
import SessionRecorder.Proofs.Writer.Scope
/-!
# The course of an action

What an action can do to a recorder, in the end or until it fails: it runs through stages, each of
which changes one part of the recorder. So what every stage keeps, every action keeps, whether or
not it succeeds.

## Main definitions

* `Recorder.Action.Feeds` — the event that an action feeds.
* `Recorder.Stage` — one stage of an action.
* `Recorder.Course` — stages of an action, one after the other.

## Main results

* `Recorder.yields_start_iff`, `Recorder.yields_stop_iff` — what a beginning and an end come down
  to.
* `Recorder.course_perform` — an action runs through its stages.
-/

namespace SessionRecorder

namespace Recorder

variable {r r' : Recorder} {a : Action} {e : Event} {α : Type}

/-! ## Beginning and end -/

/-- A recorder that has switched recording on, but not written anything yet. -/
def switchedOn (r : Recorder) : Recorder :=
  { r with session := { r.session with recording := true } }

/-- A recorder that has switched recording off, but not written anything yet. -/
def switchedOff (r : Recorder) : Recorder :=
  { r with session := { r.session with recording := false, buttonDown := false } }

/-- A recorder that is running goes on as it is at another beginning. -/
lemma run_start_of_running (hr : r.running = true) :
    Action.start.perform.run r = (.ok (), r) := by
  rw [Action.perform, start, Procedure.run_get_bind, hr]
  rfl

/-- A recorder that is not running is left as it is by another end. -/
lemma run_stop_of_not_running (hr : r.running = false) : (stop).run r = (.ok (), r) := by
  rw [stop, Procedure.run_get_bind, hr]
  rfl

/-- A beginning switches recording on, starts the writer and notes it. -/
lemma yields_start_iff (hr : r.running = false) {Q : Except Fault Unit → Recorder → Prop} :
    (start).Yields r Q ↔ (do
      onDesk Desk.start
      noteRecorder ("Recorder started. Writing script to " ++
        r.writer.scriptPath.text)).Yields r.switchedOn Q := by
  unfold start
  rw [Procedure.yields_get_bind, hr, if_neg (by simp), changeSession, Procedure.yields_modify_bind,
    switchedOn]

/-- An end switches recording off, closes the writer and says farewell. -/
lemma yields_stop_iff (hr : r.running = true) {Q : Except Fault Unit → Recorder → Prop} :
    (stop).Yields r Q ↔ (do
      onDesk Desk.close
      noteRecorder (farewell (← get).session)
      attachFiles).Yields r.switchedOff Q := by
  unfold stop
  rw [Procedure.yields_get_bind, hr, if_pos rfl, changeSession, Procedure.yields_modify_bind,
    switchedOff]

/-! ## Stages -/

/-- The event that an action feeds to a recorder, of which the number of screenshots taken without
a name is given. -/
inductive Action.Feeds : Action → ℕ → Event → Prop
  | feed (e : Event) (shots : ℕ) : Feeds (.feed e) shots e
  | feedPayload {payload : Value} {e : Event} (shots : ℕ) :
      Event.ofPayload payload = .ok e → Feeds (.feedPayload payload) shots e
  | recordStep (name : Value) (shots : ℕ) : Feeds (.recordStep name) shots (.stepStart name)
  | endStep (shots : ℕ) : Feeds .endStep shots .stepEnd
  | recordComment (text : Value) (shots : ℕ) :
      Feeds (.recordComment text) shots (.comment (.str text.shown))
  | recordNavigation (url : Value) (shots : ℕ) :
      Feeds (.recordNavigation url) shots (.navigation (.str url.shown))
  | named {image name locator region : Value} {part : Region} (shots : ℕ) :
      name.truthy = true → screenshotRegion region = .ok part →
      Feeds (.requestScreenshot image name locator region) shots
        (.screenshot (.str (Snapshot.safeNameOf name)) image (locator.orElse (.str "")) part)
  | unnamed {image name locator region : Value} {part : Region} {shots : ℕ} :
      name.truthy = false → 0 < shots → screenshotRegion region = .ok part →
      Feeds (.requestScreenshot image name locator region) shots
        (.screenshot (.str (Snapshot.automaticName shots)) image (locator.orElse (.str "")) part)

/-- One stage of an action. -/
inductive Stage (a : Action) : Recorder → Recorder → Prop
  /-- The desk goes on with the same session, and writes nothing but its own files. -/
  | desk {r : Recorder} {d : Desk} : r.toDesk.Goes d → Stage a r { r with toDesk := d }
  | begin {r : Recorder} : a = .start → r.running = false → Stage a r r.switchedOn
  | finish {r : Recorder} : a = .stop → r.running = true → Stage a r r.switchedOff
  /-- An event is accepted. -/
  | accept {r : Recorder} {e : Event} {s : Session} : a.Feeds r.shots e → r.running = true →
      Session.Accepts r.config.defaultStep r.session e s → Stage a r { r with session := s }
  /-- The screenshot of an event is stored, or refused on the way. -/
  | store {r : Recorder} {name image locator : Value} {region : Region} {path : Path}
      {w : Workspace} {kept : List Path} :
      a.Feeds r.shots (.screenshot name image locator region) →
      Snapshot.pathOf r.config.snapshots name = .ok path → r.workspace.Writes [path] w →
      kept ⊆ [path] → Stage a r { r with workspace := w, snapshots := r.snapshots ++ kept }
  /-- A screenshot without a name is counted. -/
  | count {r : Recorder} {image name locator region : Value} :
      a = .requestScreenshot image name locator region → name.truthy = false →
      Stage a r { r with shots := r.shots + 1 }

/-- Stages of an action, one after the other. -/
def Course (a : Action) : Recorder → Recorder → Prop :=
  Relation.ReflTransGen (Stage a)

instance : Std.Refl (Course a) := ⟨fun _ => .refl⟩

instance : IsTrans Recorder (Course a) := ⟨fun _ _ _ h h' => Relation.ReflTransGen.trans h h'⟩

/-- One stage is a course. -/
lemma Stage.course (h : Stage a r r') : Course a r r' := .single h

/-- Whatever every stage keeps is kept in the course of an action. -/
lemma Course.keeps {P : Recorder → Prop} (h : Course a r r') (hr : P r)
    (hstage : ∀ q q', Stage a q q' → P q → P q') : P r' := by
  induction h with
  | refl => exact hr
  | tail _ hlast ih => exact hstage _ _ hlast ih

/-- A recorder is related to what it is after an action if it is to what it is after every stage. -/
lemma Course.related {R : Recorder → Recorder → Prop} [Std.Refl R] [IsTrans Recorder R]
    (h : Course a r r') (hstage : ∀ q q', Stage a q q' → R q q') : R r r' :=
  h.keeps (refl_of R r) fun q q' stage hq => trans_of R hq (hstage q q' stage)

/-- An action whose arguments are of the declared kinds feeds an event of the declared kinds. -/
lemma Action.Feeds.wellTyped {shots : ℕ} (h : a.Feeds shots e) (ha : a.WellTyped) :
    e.WellTyped := by
  cases h with
  | feed e => exact ha
  | feedPayload _ he => exact ha _ he
  | recordStep name => exact ha
  | named _ _ hregion | unnamed _ _ hregion =>
    obtain ⟨himage, hlocator, hpart⟩ := ha
    exact ⟨True.intro, himage, hlocator.isText_orElse True.intro, hpart _ hregion⟩
  | _ => exact True.intro

/-! ## Steps and their stages -/

/-- A step on the desk that lets it go on is one stage. -/
lemma course_onDesk {p : Procedure Desk α} (hp : Procedure.Keeps Desk.Goes p) :
    Procedure.Keeps (Course a) (onDesk p) :=
  hp.within fun _ _ h => (Stage.desk h).course

/-- A step on the workspace that writes to no file is one stage. -/
lemma course_onWorkspace {p : Procedure Workspace α} (hp : Workspace.Touches [] p) :
    Procedure.Keeps (Course a) (onWorkspace p) :=
  course_onDesk fun _ => Desk.yields_goes_onWorkspace hp (List.nil_subset _)

/-- Making a note is one stage. -/
lemma course_note (n : Note) : Procedure.Keeps (Course a) (onWorkspace (Workspace.note n)) :=
  course_onWorkspace (Workspace.touches_note n)

/-- What is noted is one stage. -/
lemma Unmoved.course (h : r.Unmoved r') : Course a r r' := by
  obtain ⟨journal, rfl⟩ := h
  have hgoes : r.toDesk.Goes { r.toDesk with workspace := { r.workspace with journal } } :=
    ⟨rfl, rfl, rfl, rfl, Workspace.SameFiles.writes ⟨rfl, rfl⟩⟩
  exact (Stage.desk (r := r) hgoes).course

/-- An event that is applied is accepted, or nothing happens, and what is said about it is noted. -/
lemma yields_course_apply (he : a.Feeds r.shots e) : (apply e).Yields r fun _ r' =>
    Course a r r' ∧ r'.shots = r.shots := by
  refine (yields_apply r e).mono fun _ r' h => ?_
  obtain ⟨s, journal, rfl, hs⟩ := h
  rcases hs with ⟨-, hr, step⟩ | ⟨-, rfl⟩
  · have hnoted : Unmoved { r with session := s }
        { r with session := s, workspace := { r.workspace with journal } } := ⟨journal, rfl⟩
    exact ⟨trans_of (Course a) (Stage.accept he hr step).course hnoted.course, rfl⟩
  · exact ⟨Unmoved.course ⟨journal, rfl⟩, rfl⟩

/-- The screenshot of an event is stored in one stage. -/
lemma yields_course_keepScreenshot (he : a.Feeds r.shots e) :
    (keepScreenshot e).Yields r fun _ r' => Course a r r' := by
  cases e with
  | screenshot name image locator region =>
    unfold keepScreenshot
    rw [Procedure.yields_get_bind]
    cases hpath : Snapshot.pathOf r.config.snapshots name with
    | error f =>
      have hstore : (onWorkspace (Snapshot.store r.config.snapshots name image)).run r =
          (.error f, r) := by
        show ((Snapshot.store r.config.snapshots name image).run r.workspace).map id
          (fun w => { r with workspace := w }) = _
        rw [Snapshot.run_store_of_error hpath]
        rfl
      rw [Procedure.Yields, Procedure.run_bind_error hstore]
      exact refl_of (Course a) r
    | ok path =>
      have hstored {w : Workspace} {kept : List Path} (hw : r.workspace.Writes [path] w)
          (hkept : kept ⊆ [path]) :
          Course a r { r with workspace := w, snapshots := r.snapshots ++ kept } :=
        (Stage.store he hpath hw hkept).course
      have hstore : (onWorkspace (Snapshot.store r.config.snapshots name image)).Yields r
          fun res r' => ∃ w, r' = { r with workspace := w } ∧ r.workspace.Writes [path] w ∧
            ∀ path', res = .ok (some path') → path' = path := by
        refine ⟨_, rfl, (Snapshot.touches_store (by simp [hpath]) r.workspace).1, fun path' h => ?_⟩
        exact Except.ok.inj ((Snapshot.pathOf_of_store h).symm.trans hpath)
      refine hstore.bind (fun stored r' h => ?_) fun f r' h => ?_
      · obtain ⟨w, rfl, hw, hstored'⟩ := h
        cases stored with
        | none =>
          have hrefused := hstored hw (List.nil_subset _)
          rw [List.append_nil] at hrefused
          exact hrefused
        | some path' =>
          obtain rfl := hstored' path' rfl
          exact hstored hw (List.Subset.refl _)
      · obtain ⟨w, rfl, hw, -⟩ := h
        have hrefused := hstored hw (List.nil_subset _)
        rw [List.append_nil] at hrefused
        exact hrefused
  | _ => exact refl_of (Course a) r

/-- The event that an action feeds is applied, its screenshot is stored, and a timer is made. -/
lemma yields_course_feed (he : a.Feeds r.shots e) :
    (feed e).Yields r fun _ r' => Course a r r' := by
  refine (yields_course_apply he).bind (fun accepted q h => ?_) fun _ _ h => h.1
  obtain ⟨hcourse, hshots⟩ := h
  split
  next =>
    refine (yields_course_keepScreenshot (hshots ▸ he)).bind (fun _ q' h => ?_) fun _ _ h =>
      trans_of (Course a) hcourse h
    have hschedule : Procedure.Keeps (Course a) (onDesk Desk.schedule) :=
      course_onDesk Desk.keeps_goes_schedule
    exact ((hschedule.bind fun _ => Procedure.keeps_pure true) q').mono fun _ _ h' =>
      trans_of (Course a) hcourse (trans_of (Course a) h h')
  next => exact hcourse

/-- The same if the answer is dropped. -/
lemma yields_course_feedAny (he : a.Feeds r.shots e) :
    (feedAny e).Yields r fun _ r' => Course a r r' :=
  (yields_course_feed he).bind (fun _ _ h => h) fun _ _ h => h

/-- A name that is given is made safe. -/
lemma run_screenshotName_of_named {name : Value} (h : name.truthy = true) :
    (screenshotName name).run r = (.ok (Snapshot.safeNameOf name), r) := by
  rw [screenshotName, if_pos h]
  rfl

/-- Without a name the screenshot is counted, and called by its number. -/
lemma run_screenshotName_of_unnamed {name : Value} (h : name.truthy = false) :
    (screenshotName name).run r =
      (.ok (Snapshot.automaticName ((r.shots + 1 : ℕ) : ℤ)), { r with shots := r.shots + 1 }) := by
  rw [screenshotName, if_neg (by simp [h])]
  rfl

/-- Screenshots stay counted in the course of an action. -/
lemma Course.shots_le (h : Course a r r') : r.shots ≤ r'.shots := by
  refine h.keeps (P := fun q => r.shots ≤ q.shots) le_rfl fun q q' stage hq => ?_
  cases stage with
  | count => exact hq.trans (Nat.le_succ _)
  | _ => exact hq

/-- A screenshot that has its name is fed, and the name is the answer. -/
lemma yields_course_named {image locator region : Value} {stored : String}
    (he : ∀ part, screenshotRegion region = .ok part →
      a.Feeds r.shots (.screenshot (.str stored) image (locator.orElse (.str "")) part)) :
    (do
      let part ← Procedure.ofExcept (screenshotRegion region)
      feedAny (.screenshot (.str stored) image (locator.orElse (.str "")) part)
      return stored : Procedure Recorder String).Yields r fun res r' =>
        Course a r r' ∧ ∀ name, res = .ok name → name = stored := by
  cases hregion : screenshotRegion region with
  | error f => exact ⟨refl_of (Course a) r, fun _ h => by cases h⟩
  | ok part =>
    rw [Procedure.yields_ofExcept_ok_bind]
    exact (yields_course_feedAny (he part hregion)).bind
      (fun _ _ h => ⟨h, fun _ hname => (Except.ok.inj hname).symm⟩)
      fun _ _ h => ⟨h, fun _ hname => by cases hname⟩

/-- The name that a screenshot comes to which is asked for: the given one made safe, or the next
automatic one, which is counted from then on. -/
inductive Named (r r' : Recorder) (name : Value) : String → Prop
  | given : name.truthy = true → Named r r' name (Snapshot.safeNameOf name)
  | automatic : name.truthy = false → r.shots + 1 ≤ r'.shots →
      Named r r' name (Snapshot.automaticName ((r.shots + 1 : ℕ) : ℤ))

/-- **A screenshot that is asked for runs through its stages**, and if nothing fails its name is the
answer. -/
lemma yields_course_requestScreenshot (image name locator region : Value) :
    (requestScreenshot image name locator region).Yields r fun res r' =>
      Course (.requestScreenshot image name locator region) r r' ∧
        ∀ stored, res = .ok stored → Named r r' name stored := by
  cases hr : r.running with
  | false =>
    refine (Procedure.yields_of_run (run_requireRunning_bind hr _ _)).2 ⟨refl_of (Course _) r, ?_⟩
    exact fun _ h => by cases h
  | true =>
    unfold requestScreenshot
    rw [yields_requireRunning_bind hr]
    cases hname : name.truthy with
    | true =>
      rw [Procedure.yields_bind_of_run (run_screenshotName_of_named hname)]
      refine (yields_course_named fun part hpart => .named _ hname hpart).mono fun _ _ h => ?_
      exact ⟨h.1, fun stored hstored => by rw [h.2 stored hstored]; exact .given hname⟩
    | false =>
      rw [Procedure.yields_bind_of_run (run_screenshotName_of_unnamed hname)]
      have hcounted : Stage (.requestScreenshot image name locator region) r
          { r with shots := r.shots + 1 } := .count rfl hname
      have hnamed := @yields_course_named { r with shots := r.shots + 1 }
        (.requestScreenshot image name locator region) image locator region
        (Snapshot.automaticName ((r.shots + 1 : ℕ) : ℤ))
        fun part hpart => .unnamed hname (Nat.succ_pos _) hpart
      refine hnamed.mono fun _ r' ⟨hcourse, hanswer⟩ => ?_
      refine ⟨trans_of (Course _) hcounted.course hcourse, fun stored hstored => ?_⟩
      rw [hanswer stored hstored]
      exact .automatic hname hcourse.shots_le

/-- Attaching files to the report writes none. -/
lemma course_attachFiles : Procedure.Keeps (Course a) attachFiles := by
  refine Procedure.keeps_get_bind fun r => ?_
  split
  next => exact course_onWorkspace (Report.touches_attachSession _ _)
  next => exact Procedure.keeps_pure _

/-- A beginning runs through its stages: recording is switched on, the writer starts, and the
beginning is noted. -/
lemma course_start : Procedure.Keeps (Course .start) start := by
  intro r
  cases hr : r.running with
  | true => exact (Procedure.yields_of_run (run_start_of_running hr)).2 (refl_of (Course _) r)
  | false =>
    have hrest : Procedure.Keeps (Course .start) (do
        onDesk Desk.start
        noteRecorder ("Recorder started. Writing script to " ++ r.writer.scriptPath.text)) :=
      (course_onDesk Desk.keeps_goes_start).bind fun _ => course_note _
    refine (yields_start_iff hr).2 ((hrest r.switchedOn).mono fun _ _ h => ?_)
    exact trans_of (Course .start) (Stage.begin rfl hr).course h

/-- An end runs through its stages: recording is switched off, the writer is closed, the end is
noted, and the files are attached to the report. -/
lemma course_stop : Procedure.Keeps (Course .stop) stop := by
  intro r
  cases hr : r.running with
  | false => exact (Procedure.yields_of_run (run_stop_of_not_running hr)).2 (refl_of (Course _) r)
  | true =>
    have hrest : Procedure.Keeps (Course .stop) (do
        onDesk Desk.close
        noteRecorder (farewell (← get).session)
        attachFiles) :=
      (course_onDesk Desk.keeps_goes_close).bind fun _ =>
        Procedure.keeps_get_bind fun _ => (course_note _).bind fun _ => course_attachFiles
    refine (yields_stop_iff hr).2 ((hrest r.switchedOff).mono fun _ _ h => ?_)
    exact trans_of (Course .stop) (Stage.finish rfl hr).course h

/-- A record of the page is fed if it describes an event; else no more than a note is made. -/
lemma course_feedPayload (payload : Value) :
    Procedure.Keeps (Course (.feedPayload payload)) (feedPayload payload) := by
  intro r
  unfold feedPayload
  cases he : Event.ofPayload payload with
  | ok e => exact yields_course_feed (.feedPayload _ he)
  | error f =>
    dsimp only
    split
    next => exact ((course_note _).bind fun _ => Procedure.keeps_pure false) r
    next => exact refl_of (Course _) r

/-- **Whatever is done with a recorder runs through its stages**, whether or not it succeeds.

**Proof sketch.** One case for each action. An action is a row of steps on the session, on the desk
and on the workspace, each of which is a stage even if it fails, and nothing comes after a fault: so
it does not matter after which of the steps the action ends. -/
theorem course_perform (a : Action) : Procedure.Keeps (Course a) a.perform := by
  intro r
  cases a with
  | start => exact course_start r
  | stop => exact course_stop r
  | feed e => exact yields_course_feedAny (.feed e _)
  | feedPayload payload =>
    exact (course_feedPayload payload r).bind (fun _ _ h => h) fun _ _ h => h
  | recordStep name =>
    exact yields_requireRunning_bind_or _ (refl_of (Course _) r)
      (yields_course_feedAny (.recordStep name _))
  | endStep =>
    exact yields_requireRunning_bind_or _ (refl_of (Course _) r)
      (yields_course_feedAny (.endStep _))
  | recordComment text =>
    exact yields_requireRunning_bind_or _ (refl_of (Course _) r)
      (yields_course_feedAny (.recordComment text _))
  | recordNavigation url =>
    exact yields_requireRunning_bind_or _ (refl_of (Course _) r)
      (yields_course_feedAny (.recordNavigation url _))
  | requestScreenshot image name locator region =>
    exact (yields_course_requestScreenshot image name locator region).bind (fun _ _ h => h.1)
      fun _ _ h => h.1
  | fire i => exact course_onDesk (Desk.keeps_goes_fire i) r

end Recorder

end SessionRecorder
