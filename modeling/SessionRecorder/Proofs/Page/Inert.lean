import SessionRecorder.Page
import SessionRecorder.Proofs.Recorder.Reached
/-!
# Recorders that are not running

A recorder that is not running, and listens to a page, is left as it is by everything but a
beginning: by its own operations, by the calls of the page, by pages that are shown, and by the
timers that were made while it was running.

## Main definitions

* `Tab.Action` — what is done with a recorder that listens to a page.
* `Tab.Reached` — what comes of a recorder that is installed on a page.
* `Tab.Inert` — nothing is different but what has been noted.

## Main results

* `Tab.Reached.recorder` — what comes of a tab contains what comes of a recorder.
* `Tab.inert_of_not_running` — everything but a beginning leaves a tab inert, and requests are
  refused.
-/

namespace SessionRecorder

namespace Binding

/-- What a name stands for has that name. -/
lemma name_of_ofName? {name : String} {b : Binding} (h : ofName? name = some b) : b.name = name :=
  beq_iff_eq.mp (List.find?_some (p := fun b : Binding => b.name == name) h)

/-- The name of a binding stands for it. -/
lemma ofName?_name (b : Binding) : ofName? b.name = some b := by
  cases b <;> decide

end Binding

namespace Tab

/-! ## Actions -/

/-- What is done with a recorder that listens to a page: an operation or a timer of the recorder, a
call of the page, or another page that is shown. -/
inductive Action where
  | recorder (a : Recorder.Action)
  | call (binding : String) (arguments : List Value)
  | navigate (mainFrame : Bool) (url : Value)

namespace Action

/-- What an action does. -/
def perform : Action → Procedure Tab Unit
  | .recorder a => onRecorder a.perform
  | .call binding arguments => do
    let _ ← Tab.call binding arguments
  | .navigate mainFrame url => navigated mainFrame url

/-- The actions that begin a recording. -/
inductive Starts : Action → Prop
  | recorder : Starts (.recorder .start)
  | call : Starts (.call "startRecording" [])

/-- The actions that ask for an operation that only a running recorder performs. Calls have no more
arguments than they take, and options that can be read. -/
inductive Asks : Action → String → Prop
  | recorder {a : Recorder.Action} {operation : String} :
    a.operation? = some operation → Asks (.recorder a) operation
  | step (arguments : List Value) :
    arguments.length ≤ 1 → Asks (.call "step" arguments) "record_step"
  | endStep : Asks (.call "endStep" []) "end_step"
  | comment (arguments : List Value) :
    arguments.length ≤ 1 → Asks (.call "comment" arguments) "record_comment"
  | captureScreenshot (arguments : List Value) (fields : List (String × Value)) :
    arguments.length ≤ 1 → Page.optionsOf (arguments.headD .none) = .ok fields →
    Asks (.call "captureScreenshot" arguments) "request_screenshot"

end Action

variable {c : Recorder.Config} {t t' : Tab}

/-- Nothing is different but what has been noted and, perhaps, the address of the page. -/
structure Inert (t t' : Tab) : Prop where
  recorder : t.toRecorder.Unmoved t'.toRecorder
  calls : t'.page.calls = t.page.calls

/-- A tab is the same as itself. -/
lemma Inert.refl (t : Tab) : t.Inert t := ⟨.refl _, rfl⟩

/-! ## Tabs that are reached -/

/-- What comes of a recorder of a configuration that is installed on a page: by actions in any
order, whether or not they succeed, whatever happens to the workspace and the page in the
meantime. -/
inductive Reached (c : Recorder.Config) : Tab → Prop
  | install {r : Recorder} (p : Page) :
    Recorder.Reached c r → Reached c (install.run ⟨r, p⟩).2
  | perform {t : Tab} (a : Action) : Reached c t → Reached c (a.perform.run t).2
  | outside {t : Tab} (w : Workspace) (p : Page) :
    Reached c t → Reached c { t with workspace := w, page := p }

/-- Whatever recorder is reached before, one is reached after. -/
def Follows (t t' : Tab) : Prop :=
  ∀ c, Recorder.Reached c t.toRecorder → Recorder.Reached c t'.toRecorder

instance : Std.Refl Follows := ⟨fun _ _ h => h⟩

instance : IsTrans Tab Follows := ⟨fun _ _ _ h h' c hc => h' c (h c hc)⟩

/-- Calls on the page are no matter of the recorder. -/
lemma keeps_callPage (p : PageCall) : Procedure.Keeps Follows (callPage p) := by
  refine Procedure.keeps_get_bind fun t => ?_
  refine (Procedure.keeps_modify fun _ _ h => h).bind fun _ => ?_
  cases t.page.fails t.page.calls p with
  | some f => exact Procedure.keeps_throw f
  | none => exact Procedure.keeps_pure _

/-- A picture of the page is no matter of the recorder. -/
lemma keeps_takePicture (p : PageCall) : Procedure.Keeps Follows (takePicture p) :=
  Procedure.keeps_get_bind fun _ => (keeps_callPage p).bind fun _ => Procedure.keeps_pure _

/-- Notes are no matter of the recorder. -/
lemma keeps_notePage (n : Note) : Procedure.Keeps Follows (notePage n) :=
  fun _ _ h => h.outside _

/-- What has the effect of an operation of the recorder on its state. -/
lemma keeps_onRecorder {α : Type} {p : Procedure Recorder α} (a : Recorder.Action)
    (ha : ∀ r, (a.perform.run r).2 = (p.run r).2) : Procedure.Keeps Follows (onRecorder p) := by
  intro t c h
  have hreached := h.perform a
  rw [ha] at hreached
  exact hreached

/-- A recorder that is asked whether it is running stays as it is. -/
lemma keeps_requireRunning (operation : String) :
    Procedure.Keeps Follows (onRecorder (Recorder.requireRunning operation)) := by
  intro t c h
  have hsame : ((Recorder.requireRunning operation).run t.toRecorder).2 = t.toRecorder := by
    rw [Recorder.requireRunning, Procedure.run_get_bind]
    split <;> rfl
  show Recorder.Reached c ((Recorder.requireRunning operation).run t.toRecorder).2
  rw [hsame]
  exact h

/-- The locator of a screenshot is no matter of the recorder. -/
lemma keeps_screenshotLocator (clip locator : Value) :
    Procedure.Keeps Follows (screenshotLocator clip locator) := by
  unfold screenshotLocator
  split
  next => exact Procedure.keeps_pure _
  next =>
    exact (keeps_callPage _).bind fun _ => Procedure.keeps_get_bind fun _ => Procedure.keeps_pure _

/-- A screenshot that is taken is no matter of the recorder yet. -/
lemma keeps_takeScreenshot (clip locator : Value) :
    Procedure.Keeps Follows (takeScreenshot clip locator) := by
  unfold takeScreenshot
  split
  next => exact (Procedure.keeps_ofExcept _).bind fun r => keeps_takePicture _
  next => split <;> exact keeps_takePicture _

/-- A screenshot that is taken and recorded is an operation of the recorder. -/
lemma keeps_capture (options : Value) : Procedure.Keeps Follows (capture options) := by
  refine (Procedure.keeps_ofExcept _).bind fun fields => (keeps_requireRunning _).bind fun _ => ?_
  refine (keeps_screenshotLocator _ _).bind fun locator => ?_
  refine (keeps_takeScreenshot _ _).bind fun image => ?_
  exact keeps_onRecorder (.requestScreenshot image _ _ _) (Procedure.state_bind_pure _)

/-- What a binding does is an operation of the recorder. -/
lemma keeps_perform_binding (b : Binding) (argument : Value) :
    Procedure.Keeps Follows (Tab.perform b argument) := by
  have hbind {α β : Type} {p : Procedure Tab α} {x : β} (hp : Procedure.Keeps Follows p) :
      Procedure.Keeps Follows (p >>= fun _ => pure x) := hp.bind fun _ => Procedure.keeps_pure _
  cases b with
  | event => exact hbind (keeps_onRecorder (.feedPayload _) (Procedure.state_bind_pure _))
  | startRecording => exact hbind (keeps_onRecorder .start fun _ => rfl)
  | stopRecording => exact hbind (keeps_onRecorder .stop fun _ => rfl)
  | step => exact hbind (keeps_onRecorder (.recordStep argument) fun _ => rfl)
  | endStep => exact hbind (keeps_onRecorder .endStep fun _ => rfl)
  | comment => exact hbind (keeps_onRecorder (.recordComment argument) fun _ => rfl)
  | captureScreenshot => exact (keeps_capture argument).bind fun _ => Procedure.keeps_pure _

/-- A call of the page is an operation of the recorder. -/
lemma keeps_call (name : String) (arguments : List Value) :
    Procedure.Keeps Follows (Tab.call name arguments) := by
  unfold Tab.call
  split
  next => exact Procedure.keeps_throw _
  next => exact (Procedure.keeps_ofExcept _).bind fun _ => keeps_perform_binding _ _

/-- Another page that is shown is an operation of the recorder. -/
lemma keeps_navigated (mainFrame : Bool) (url : Value) :
    Procedure.Keeps Follows (navigated mainFrame url) := by
  unfold navigated
  split
  next =>
    refine Procedure.Keeps.bind (Procedure.keeps_modify fun _ _ h => h) fun _ => ?_
    refine Procedure.keeps_get_bind fun t => ?_
    split
    next => exact keeps_onRecorder (.recordNavigation url) fun _ => rfl
    next => exact Procedure.keeps_pure _
  next => exact Procedure.keeps_pure _

/-- The page that is made to talk to the recorder is no matter of the recorder. -/
lemma keeps_install : Procedure.Keeps Follows install := by
  refine Procedure.Keeps.bind (Procedure.keeps_get_bind fun t => ?_) fun _ => ?_
  · split
    next =>
      refine (keeps_callPage _).attempt.bind fun r => ?_
      cases r with
      | ok u => exact Procedure.keeps_pure _
      | error f => exact keeps_notePage _
    next => exact keeps_notePage _
  · exact Procedure.keeps_get_bind fun t => keeps_notePage _

/-- **What is done with a tab are operations of its recorder.** -/
lemma keeps_perform (a : Action) : Procedure.Keeps Follows a.perform := by
  cases a with
  | recorder a => exact keeps_onRecorder a fun _ => rfl
  | call binding arguments =>
    exact (keeps_call binding arguments).bind fun _ => Procedure.keeps_pure _
  | navigate mainFrame url => exact keeps_navigated mainFrame url

/-- What comes of a tab contains what comes of a recorder. -/
lemma Reached.recorder (h : Reached c t) : Recorder.Reached c t.toRecorder := by
  induction h with
  | install p h => exact keeps_install _ _ h
  | perform a _ ih => exact keeps_perform a _ _ ih
  | outside w p _ ih => exact ih.outside w

/-! ## Tabs that are not running -/

/-- What leaves the recorder as it is leaves the tab inert. -/
lemma yields_onRecorder {α : Type} {p : Procedure Recorder α}
    (h : p.Yields t.toRecorder fun _ r => t.toRecorder.Unmoved r) :
    (onRecorder p).Yields t fun _ t' => t.Inert t' :=
  ⟨h, rfl⟩

/-- A recorder that is not running refuses what the page asks of it. -/
lemma run_onRecorder_bind {α β : Type} {p : Procedure Recorder α} {f : Fault}
    {g : α → Procedure Tab β} (h : p.run t.toRecorder = (.error f, t.toRecorder)) :
    (onRecorder p >>= g).run t = (.error f, t) := by
  refine Procedure.run_bind_error ?_
  show ((p.run t.toRecorder).1, { t with toRecorder := (p.run t.toRecorder).2 }) = _
  rw [h]

/-- A screenshot is refused before the page is asked for anything. -/
lemma run_capture {options : Value} {fields : List (String × Value)} (hr : t.running = false)
    (h : Page.optionsOf options = .ok fields) :
    (capture options).run t = (.error (.notRecording "request_screenshot"), t) := by
  unfold capture
  rw [h]
  have hrequire : (Recorder.requireRunning "request_screenshot").run t.toRecorder =
      (.error (.notRecording "request_screenshot"), t.toRecorder) := by
    rw [Recorder.requireRunning, Procedure.run_get_bind, hr]
    rfl
  exact run_onRecorder_bind hrequire

/-- A binding leaves a tab inert, unless it begins a recording. -/
lemma yields_perform_binding (hquiet : t.toRecorder.Quiet) (hr : t.running = false) {b : Binding}
    (hb : b ≠ .startRecording) (argument : Value) :
    (Tab.perform b argument).Yields t fun _ t' => t.Inert t' := by
  have hidle (a : Recorder.Action) (ha : a ≠ .start) :
      a.perform.Yields t.toRecorder fun _ r => t.toRecorder.Unmoved r :=
    hquiet.yields_perform hr ha
  have hbind {α β : Type} {p : Procedure Recorder α} {x : β}
      (hp : p.Yields t.toRecorder fun _ r => t.toRecorder.Unmoved r) :
      (onRecorder p >>= fun _ => pure x).Yields t fun _ t' => t.Inert t' :=
    (yields_onRecorder hp).bind (fun _ _ h => h) fun _ _ h => h
  cases b with
  | startRecording => exact absurd rfl hb
  | event =>
    refine hbind ?_
    have hpayload := hidle (.feedPayload (argument.orElse (.dict []))) (by simp)
    rw [Procedure.Yields, Recorder.Action.perform, Procedure.state_bind_pure] at hpayload
    exact hpayload
  | stopRecording => exact hbind (hidle .stop (by simp))
  | step => exact hbind (hidle (.recordStep argument) (by simp))
  | endStep => exact hbind (hidle .endStep (by simp))
  | comment => exact hbind (hidle (.recordComment argument) (by simp))
  | captureScreenshot =>
    refine Procedure.Yields.bind (P := fun _ t' => t.Inert t') ?_ (fun _ _ h => h) fun _ _ h => h
    cases hoptions : Page.optionsOf argument with
    | ok fields => exact (Procedure.yields_of_run (run_capture hr hoptions)).2 (.refl t)
    | error f =>
      unfold capture
      rw [hoptions]
      exact .refl t

/-- A call of the page leaves a tab inert, unless it begins a recording. -/
lemma yields_call (hquiet : t.toRecorder.Quiet) (hr : t.running = false) {binding : String}
    {arguments : List Value} (h : ¬Action.Starts (.call binding arguments)) :
    (Tab.call binding arguments).Yields t fun _ t' => t.Inert t' := by
  unfold Tab.call
  split
  next => exact .refl t
  next b hname =>
    cases hgiven : b.signature.bindPositions arguments with
    | error f => exact .refl t
    | ok given =>
      rw [Procedure.yields_ofExcept_ok_bind]
      refine yields_perform_binding hquiet hr ?_ _
      rintro rfl
      -- nothing can be given to a beginning
      have hnamed : binding = "startRecording" := (Binding.name_of_ofName? hname).symm
      cases arguments with
      | nil => exact h (hnamed ▸ .call)
      | cons v rest => simp [Signature.bindPositions, Binding.signature] at hgiven

/-- A call that has no more arguments than it takes does what its binding does. -/
lemma run_call {b : Binding} {arguments : List Value} (hrequired : b.signature.required = [])
    (hlength : arguments.length ≤ b.signature.optional.length) (t : Tab) :
    (Tab.call b.name arguments).run t = (Tab.perform b ((arguments ++
      (b.signature.optional.drop arguments.length).map (·.2)).headD .none)).run t := by
  have hgiven : b.signature.bindPositions arguments =
      .ok (arguments ++ (b.signature.optional.drop arguments.length).map (·.2)) := by
    simp [Signature.bindPositions, hrequired, hlength]
  unfold Tab.call
  rw [Binding.ofName?_name]
  dsimp only
  rw [hgiven]
  rfl

/-- A call that has no more arguments than it takes is refused if what it is bound to is. -/
lemma run_perform_call {b : Binding} {arguments : List Value} {f : Fault}
    (hrequired : b.signature.required = [])
    (hlength : arguments.length ≤ b.signature.optional.length)
    (h : ∀ given, given = arguments ++ (b.signature.optional.drop arguments.length).map (·.2) →
      (Tab.perform b (given.headD .none)).run t = (.error f, t)) :
    ((Action.call b.name arguments).perform.run t).1 = .error f := by
  have hcall : (Tab.call b.name arguments).run t = (.error f, t) :=
    (run_call hrequired hlength t).trans (h _ rfl)
  rw [Action.perform, Procedure.run_bind_error hcall]

/-- A recorder that is not running refuses what only a running recorder performs. -/
lemma run_perform_of_asks (hr : t.running = false) {a : Action} {operation : String}
    (h : a.Asks operation) : (a.perform.run t).1 = .error (.notRecording operation) := by
  have hrefuse (a : Recorder.Action) {operation : String} (ha : a.operation? = some operation) :
      a.perform.run t.toRecorder = (.error (.notRecording operation), t.toRecorder) :=
    Recorder.run_perform_of_operation hr ha
  cases h with
  | @recorder a _ ha =>
    show (a.perform.run t.toRecorder).1 = _
    rw [hrefuse a ha]
  | step arguments hlength =>
    exact run_perform_call (b := .step) rfl hlength fun given _ =>
      run_onRecorder_bind (hrefuse (.recordStep (given.headD .none)) rfl)
  | endStep =>
    exact run_perform_call (b := .endStep) rfl (Nat.le_refl 0) fun _ _ =>
      run_onRecorder_bind (hrefuse .endStep rfl)
  | comment arguments hlength =>
    exact run_perform_call (b := .comment) rfl hlength fun given _ =>
      run_onRecorder_bind (hrefuse (.recordComment (given.headD .none)) rfl)
  | captureScreenshot arguments fields hlength hoptions =>
    refine run_perform_call (b := .captureScreenshot) rfl hlength fun given hgiven => ?_
    have hhead : given.headD .none = arguments.headD .none := by
      subst hgiven
      cases arguments <;> rfl
    exact Procedure.run_bind_error (run_capture hr (hhead ▸ hoptions))

/-- **A tab whose recorder is not running is inert.** Everything but a beginning leaves it as it is
but for what is noted, and what only a running recorder performs is refused. -/
theorem inert_of_not_running (h : Reached c t) (hr : t.running = false) :
    (∀ a : Action, ¬a.Starts → a.perform.Yields t fun _ t' => t.Inert t') ∧
    ∀ (a : Action) (operation : String), a.Asks operation →
      (a.perform.run t).1 = .error (.notRecording operation) := by
  have hquiet : t.toRecorder.Quiet := h.recorder.quiet
  refine ⟨fun a hstarts => ?_, fun a operation hasks => ?_⟩
  · cases a with
    | recorder a =>
      refine yields_onRecorder (hquiet.yields_perform hr ?_)
      rintro rfl
      exact hstarts .recorder
    | call binding arguments =>
      exact (yields_call hquiet hr hstarts).bind (fun _ _ h => h) fun _ _ h => h
    | navigate mainFrame url =>
      show (navigated mainFrame url).Yields t _
      unfold navigated
      cases mainFrame with
      | false => exact .refl t
      | true =>
        rw [if_pos rfl, Procedure.yields_modify_bind, Procedure.yields_get_bind, if_neg]
        · exact ⟨.refl _, rfl⟩
        · rw [Bool.not_eq_true]
          exact hr
  · exact run_perform_of_asks hr hasks

/-- A tab after actions in order, whatever comes of them. -/
def performAll (t : Tab) (actions : List Action) : Tab :=
  actions.foldl (fun t a => (a.perform.run t).2) t

/-- Whatever is done with a tab that is reached leads to another one. -/
lemma Reached.performAll (h : Reached c t) (actions : List Action) :
    Reached c (t.performAll actions) := by
  induction actions generalizing t with
  | nil => exact h
  | cons a rest ih => exact ih (h.perform a)

/-- A page that is ready. -/
def emptyPage : Page where
  url := .none
  focus := .str "#name"
  ready := true
  calls := []

/-- A page begins a recording, is shown anew, adds a comment and ends the recording. -/
def shortVisit : List Action :=
  [.call "startRecording" [], .navigate true (.str "about:blank"),
    .call "comment" [.str "shown"], .call "stopRecording" []]

/-- Two timers are left over, which write nothing any more, and no screenshot is taken. -/
theorem inert_shortVisit : ∃ r t, Recorder.create .plain Recorder.emptyWorkspace = .ok r ∧
    (install.run ⟨r, emptyPage⟩).2.performAll shortVisit = t ∧ Reached .plain t ∧
    t.running = false ∧ t.writer.timers.length = 2 ∧
    (∀ i, t.Inert ((Action.recorder (.fire i)).perform.run t).2) ∧
    t.Inert ((Action.call "captureScreenshot" []).perform.run t).2 ∧
    ((Action.call "captureScreenshot" []).perform.run t).1 =
      .error (.notRecording "request_screenshot") := by
  obtain ⟨r, hr⟩ : ∃ r, Recorder.create .plain Recorder.emptyWorkspace = .ok r := ⟨_, rfl⟩
  have hreached : Reached .plain ((install.run ⟨r, emptyPage⟩).2.performAll shortVisit) :=
    (Reached.install _ (.create hr)).performAll _
  have hstate : ((install.run ⟨r, emptyPage⟩).2.performAll shortVisit).running = false ∧
      ((install.run ⟨r, emptyPage⟩).2.performAll shortVisit).writer.timers.length = 2 := by
    obtain rfl := Except.ok.inj hr
    decide +kernel
  obtain ⟨hinert, hrefused⟩ := inert_of_not_running hreached hstate.1
  have hcapture : ¬Action.Starts (.call "captureScreenshot" []) := by
    generalize hname : "captureScreenshot" = name
    rintro ⟨⟩
    exact absurd hname (by decide)
  refine ⟨r, _, hr, rfl, hreached, hstate.1, hstate.2, fun i => hinert _ ?_,
    hinert _ hcapture, ?_⟩
  · rintro ⟨⟩
  · exact hrefused _ _ (.captureScreenshot [] [] (Nat.zero_le 1) rfl)

end Tab

end SessionRecorder
