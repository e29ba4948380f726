import SessionRecorder.Proofs.Page.Inert
import SessionRecorder.Proofs.Recorder.Saved
import SessionRecorder.Proofs.Script.Literal
import SessionRecorder.Proofs.Snapshot.Store
/-!
# The screenshot that the script retakes

While a recorder is running, the page may ask for a screenshot. What it is taken of is chosen once
for the page and once for the entry of the log. The two choices agree, so the script takes the same
screenshot again, unless the clip is empty without being missing: then the page is captured as if
there was no clip, and the entry is never made.

## Main definitions

* `PageCall.IsCapture` — a call that takes a picture.
* `PageCall.Repeatable` — a capture that a script can spell.
* `Script.Retakes` — an expression of a script that takes the picture of a call again.
* `Recorder.Accepting` — a recorder whose timers can be set, with a directory for screenshots.
* `Tab.Answered` — what comes of a call for a screenshot.

## Main results

* `Script.exists_capture_of_captureCall` — the entry is rendered as the capture that was made.
* `Tab.retaken_of_call` — a capture that succeeds is recorded once, as what it was, unless its clip
  is empty and not missing, when nothing is recorded.
-/

namespace SessionRecorder

/-! ## Captures -/

namespace PageCall

/-- A call that takes a picture of the page, or of a part of it. -/
def IsCapture : PageCall → Prop
  | .screenshot _ | .locator _ => True
  | _ => False

instance : DecidablePred IsCapture
  | .screenshot _ | .locator _ => .isTrue trivial
  | .runListener | .evaluate _ | .goto _ | .waitForEvent .. => .isFalse id

/-- A capture that a script can spell: of the whole page, of a rectangle of finite numbers, or of
what a locator finds that has no characters beyond the first plane. -/
def Repeatable : PageCall → Prop
  | .screenshot none => True
  | .screenshot (some r) => r.x.IsFinite ∧ r.y.IsFinite ∧ r.width.IsFinite ∧ r.height.IsFinite
  | .locator (.str selector) => ∀ c ∈ selector.toList, c.toNat < 0x10000
  | _ => False

end PageCall

namespace Script

/-- The literal of a rectangle, given the literals of its numbers. -/
def clipLiteral (x y width height : String) : String :=
  "\x7b\"x\": " ++ x ++ ", \"y\": " ++ y ++ ", \"width\": " ++ width ++ ", \"height\": " ++ height ++
    "\x7d"

/-- An expression of a script that takes the picture of a call again: of the page, of a rectangle
with the same four numbers, or of what the same locator finds. -/
inductive Retakes : String → PageCall → Prop
  | page : Retakes "page.screenshot()" (.screenshot none)
  | clip {x y width height : String} {r : Rect} :
    Spells x r.x → Spells y r.y → Spells width r.width → Spells height r.height →
    Retakes ("page.screenshot(clip=" ++ clipLiteral x y width height ++ ")") (.screenshot (some r))
  | locator {literal selector : String} :
    readLiteral literal = some (selector.toList.map Char.toNat) →
    Retakes ("page.locator(" ++ literal ++ ").screenshot()") (.locator (.str selector))

/-- The names of the fields of a rectangle as literals. -/
lemma quote_fields : Json.quote "x" = "\"x\"" ∧ Json.quote "y" = "\"y\"" ∧
    Json.quote "width" = "\"width\"" ∧ Json.quote "height" = "\"height\"" := by
  decide +kernel

/-- The literal of a rectangle has its four numbers. -/
lemma clip_eq (r : Rect) :
    clip r = clipLiteral (number r.x) (number r.y) (number r.width) (number r.height) := by
  obtain ⟨hx, hy, hwidth, hheight⟩ := quote_fields
  simp only [clip, Rect.toFields, List.map_cons, List.map_nil, hx, hy, hwidth, hheight]
  generalize number r.x = x, number r.y = y, number r.width = width, number r.height = height
  apply String.toList_inj.1
  simp [clipLiteral]

/-- The capture of a rectangle takes it again. -/
lemma retakes_clipCapture {r : Rect} (h : (PageCall.screenshot (some r)).Repeatable) :
    Retakes (clipCapture r) (.screenshot (some r)) := by
  have hclip := Retakes.clip (spells_number h.1) (spells_number h.2.1) (spells_number h.2.2.1)
    (spells_number h.2.2.2)
  rw [← clip_eq] at hclip
  exact hclip

/-- The capture of what a locator finds takes it again. -/
lemma exists_locatorCapture {locator : Value} (ht : locator.truthy = true)
    (h : (PageCall.locator locator).Repeatable) :
    ∃ expression, capture locator .whole = .ok expression ∧
      Retakes expression (.locator locator) := by
  cases locator with
  | str selector =>
    refine ⟨_, ?_, .locator (readLiteral_quote_eq_iff.2 h)⟩
    simp only [capture, Region.whole, ht, literal_str]
    rfl
  | _ => exact h.elim

end Script

namespace Tab

/-- The call by which a screenshot is taken: of a rectangle if there is one, else of what a locator
finds if there is one, else of the whole page. -/
def captureCall (clip locator : Value) : Except Fault PageCall :=
  if clip.truthy then (Rect.ofValue clip).map fun r => .screenshot (some r)
  else .ok (if locator.truthy then .locator locator else .screenshot none)

end Tab

namespace Script

/-- **The entry is rendered as the capture that was made**, if the clip is missing or not empty.

**Proof sketch.** The call looks at whether the clip counts as true, the entry at whether it is
there, so the two agree for such a clip. Without a clip both go by the locator, which is replaced by
the empty text on its way to the entry exactly if it counts as false. -/
theorem exists_capture_of_captureCall {clip locator : Value} {c : PageCall}
    (hclip : clip = .none ∨ clip.truthy = true) (hc : Tab.captureCall clip locator = .ok c) :
    ∃ region, Recorder.screenshotRegion clip = .ok region ∧ (c.Repeatable →
      ∃ expression, capture ((locator.orElse (.str "")).orElse (.str "")) region = .ok expression ∧
        Retakes expression c) := by
  rcases hclip with rfl | hclip
  · -- without a clip, both choices look at the locator
    refine ⟨.whole, rfl, fun hrepeatable => ?_⟩
    rw [Tab.captureCall, if_neg (by simp [Value.truthy]), Except.ok.injEq] at hc
    cases hlocator : locator.truthy with
    | true =>
      rw [if_pos hlocator] at hc
      subst hc
      have hsame : (locator.orElse (.str "")).orElse (.str "") = locator := by
        simp [Value.orElse, hlocator]
      rw [hsame]
      exact exists_locatorCapture hlocator hrepeatable
    | false =>
      rw [if_neg (by simp [hlocator])] at hc
      subst hc
      have hempty : (locator.orElse (.str "")).orElse (.str "") = .str "" := by
        rw [Value.orElse.eq_def locator, if_neg (by simp [hlocator]), Value.str_orElse_empty]
      rw [hempty]
      exact ⟨pageCapture, rfl, .page⟩
  · -- with a clip that is not empty, both choices look at it alone
    rw [Tab.captureCall, if_pos hclip] at hc
    cases hrect : Rect.ofValue clip with
    | error f => simp [hrect, Except.map] at hc
    | ok r =>
      simp only [hrect, Except.map, Except.ok.injEq] at hc
      subst hc
      refine ⟨.rect r, ?_, fun hrepeatable => ⟨_, rfl, retakes_clipCapture hrepeatable⟩⟩
      cases clip with
      | none => cases hclip
      | _ => simp only [Recorder.screenshotRegion, hrect, Except.map]

end Script

/-! ## Recording a screenshot -/

namespace Recorder

variable {r r' : Recorder} {name image locator : Value} {region : Region}

/-- A recorder whose timers can be set, and whose directory for screenshots can be named. -/
structure Accepting (r : Recorder) : Prop where
  interval : ∃ seconds, r.writer.interval = .ok seconds
  directory : Workspace.hasNul r.config.snapshots = false

/-- A recorder goes on accepting screenshots if the session and the writer stay what they are. -/
lemma Accepting.moved {written : List Path} (h : r.Accepting) (hm : r.Moved written r') :
    r'.Accepting :=
  ⟨hm.writer ▸ h.interval, hm.config ▸ h.directory⟩

/-- A recorder that has taken up a screenshot, but not stored it yet. -/
def taken (r : Recorder) (name locator : Value) (region : Region) : Recorder :=
  { r with
    session := (r.session.screenshot name locator region).session
    workspace := { r.workspace with
      journal := r.workspace.journal ++ (r.session.screenshot name locator region).notes } }

/-- A running recorder takes up a screenshot, stores it and makes a timer. -/
lemma yields_feed_screenshot_iff (hr : r.session.recording = true)
    {Q : Except Fault Bool → Recorder → Prop} :
    (feed (.screenshot name image locator region)).Yields r Q ↔
      (do keepScreenshot (.screenshot name image locator region)
          onDesk Desk.schedule
          return true : Procedure Recorder Bool).Yields (r.taken name locator region) Q := by
  have happly : (apply (.screenshot name image locator region)).run r =
      (.ok true, r.taken name locator region) := by
    rw [run_apply, Session.apply, if_pos hr]
    rfl
  rw [feed, Procedure.yields_bind_of_run happly, if_pos rfl]

/-- A screenshot that is fed is one more entry of the log, whatever becomes of its picture. -/
lemma yields_feed_screenshot (hr : r.session.recording = true) :
    (feed (.screenshot name image locator region)).Yields r fun _ r' =>
      r'.session.log = r.session.log ++ [.screenshot name locator region] := by
  rw [yields_feed_screenshot_iff hr]
  have hkept : (keepScreenshot (.screenshot name image locator region)).Yields
      (r.taken name locator region) fun _ r' =>
        r'.session.log = r.session.log ++ [.screenshot name locator region] :=
    (yields_keepScreenshot _ _).mono fun _ r' h => congrArg Session.log h.1.session
  refine hkept.bind (fun _ r' h => ?_) fun _ _ h => h
  have hschedule : (onDesk Desk.schedule).Yields r' fun _ r'' => r''.session = r'.session :=
    (Desk.keeps_goes_schedule r'.toDesk).session
  exact hschedule.bind (fun _ _ hs => (congrArg Session.log hs).trans h)
    fun _ _ hs => (congrArg Session.log hs).trans h

/-- A timer is made, if it can be. -/
lemma Accepting.schedule (h : r.Accepting) :
    (onDesk Desk.schedule).Yields r fun res _ => res = .ok () := by
  obtain ⟨seconds, hseconds⟩ := h.interval
  have hdesk : Desk.schedule.Yields r.toDesk fun res _ => res = .ok () :=
    (Desk.yields_schedule_of_interval hseconds).mono fun _ _ hd => hd.1
  exact hdesk

/-- The picture of a screenshot is stored, or refused by the storage. -/
lemma Accepting.keepScreenshot (h : r.Accepting) {b : Blob} (hb : Picture.Storable b)
    {name : String} (hname : '\x00' ∉ name.toList) :
    (Recorder.keepScreenshot (.screenshot (.str name) (.bytes b) locator region)).Yields r
      fun res _ => res = .ok () := by
  have hstore : (onWorkspace (Snapshot.store r.config.snapshots (.str name) (.bytes b))).Yields r
      fun res _ => ∃ path, res = .ok path :=
    Snapshot.yields_store hb (Workspace.hasNul_child h.directory hname) r.workspace
  unfold Recorder.keepScreenshot
  rw [Procedure.yields_get_bind]
  refine hstore.bind (fun path r' _ => ?_) fun _ _ ⟨_, hf⟩ => by cases hf
  cases path <;> rfl

/-- A screenshot is fed without a fault if its picture can be stored and a timer can be made. -/
lemma Accepting.feed (h : r.Accepting) (hr : r.session.recording = true) {b : Blob}
    (hb : Picture.Storable b) {name : String} (hname : '\x00' ∉ name.toList) :
    (Recorder.feed (.screenshot (.str name) (.bytes b) locator region)).Yields r
      fun res _ => res = .ok true := by
  have htaken : (r.taken (.str name) locator region).Accepting := ⟨h.interval, h.directory⟩
  rw [yields_feed_screenshot_iff hr]
  have hkept : (Recorder.keepScreenshot (.screenshot (.str name) (.bytes b) locator region)).Yields
      (r.taken (.str name) locator region) fun res r' => res = .ok () ∧ r'.Accepting :=
    ⟨htaken.keepScreenshot hb hname, htaken.moved (yields_keepScreenshot _ _).1⟩
  refine hkept.bind (fun _ r' h => ?_) fun _ _ h => by cases h.1
  exact h.2.schedule.bind (fun _ _ _ => rfl) fun _ _ h => by cases h

/-- A screenshot is one more entry of the log, whatever comes of the request, which succeeds if the
picture can be stored and a timer can be made. -/
lemma yields_feedAny_screenshot (hr : r.session.recording = true) {name : String}
    (hname : '\x00' ∉ name.toList) :
    (feedAny (.screenshot (.str name) image locator region)).Yields r fun res r' =>
      r'.session.log = r.session.log ++ [.screenshot (.str name) locator region] ∧
      (r.Accepting → (∃ b, image = .bytes b ∧ Picture.Storable b) → res = .ok ()) := by
  have hfeed : (feed (.screenshot (.str name) image locator region)).Yields r fun res r' =>
      r'.session.log = r.session.log ++ [.screenshot (.str name) locator region] ∧
      (r.Accepting → (∃ b, image = .bytes b ∧ Picture.Storable b) → res = .ok true) := by
    refine ⟨yields_feed_screenshot hr, ?_⟩
    rintro haccepting ⟨b, rfl, hb⟩
    exact haccepting.feed hr hb hname
  exact hfeed.bind (fun _ _ h => ⟨h.1, fun _ _ => rfl⟩)
    fun _ _ h => ⟨h.1, fun haccepting himage => by cases h.2 haccepting himage⟩

/-- The name of a screenshot is made of safe characters, and costs at most the next number. -/
lemma exists_screenshotName (r : Recorder) (name : Value) : ∃ stored shots,
    (screenshotName name).run r = (.ok stored, { r with shots }) ∧ '\x00' ∉ stored.toList := by
  unfold screenshotName
  split
  next => exact ⟨_, r.shots, rfl, Snapshot.nul_not_mem_safeName _⟩
  next => exact ⟨_, r.shots + 1, rfl, Snapshot.nul_not_mem_automaticName _⟩

/-- A screenshot that is asked for is one more entry of the log, and it is taken without a fault if
it can be stored. -/
lemma yields_requestScreenshot_of_region (hr : r.running = true) {clip : Value}
    (hregion : screenshotRegion clip = .ok region) :
    (requestScreenshot image name locator clip).Yields r fun res r' => ∃ stored,
      r'.session.log =
        r.session.log ++ [.screenshot (.str stored) (locator.orElse (.str "")) region] ∧
      (r.Accepting → (∃ b, image = .bytes b ∧ Picture.Storable b) → res = .ok stored) := by
  obtain ⟨stored, shots, hname, hnul⟩ := exists_screenshotName r name
  have haccepting (h : r.Accepting) : ({ r with shots } : Recorder).Accepting :=
    ⟨h.interval, h.directory⟩
  unfold requestScreenshot
  rw [yields_requireRunning_bind hr, Procedure.yields_bind_of_run hname, hregion,
    Procedure.yields_ofExcept_ok_bind]
  have hany := @yields_feedAny_screenshot { r with shots } image (locator.orElse (.str "")) region
    hr stored hnul
  refine hany.bind (fun _ _ h => ?_) fun _ _ h => ?_
  · exact ⟨stored, h.1, fun _ _ => rfl⟩
  · exact ⟨stored, h.1, fun hr himage => by cases h.2 (haccepting hr) himage⟩

/-- A screenshot of a clip that gives no region is refused. -/
lemma yields_requestScreenshot_of_error (hr : r.running = true) {clip : Value} {f : Fault}
    (hregion : screenshotRegion clip = .error f) :
    (requestScreenshot image name locator clip).Yields r fun res r' =>
      res = .error f ∧ r'.session.log = r.session.log := by
  obtain ⟨stored, shots, hname, -⟩ := exists_screenshotName r name
  unfold requestScreenshot
  rw [yields_requireRunning_bind hr, Procedure.yields_bind_of_run hname, hregion,
    Procedure.yields_ofExcept_error_bind]
  exact ⟨rfl, rfl⟩

end Recorder

/-! ## Calls for a screenshot -/

namespace Tab

variable {t : Tab} {clip locator : Value}

/-- A clip that is empty without being missing gives no region. -/
lemma exists_error_of_falsy (hmissing : clip ≠ .none) (hempty : clip.truthy = false) :
    ∃ f, Recorder.screenshotRegion clip = .error f := by
  cases clip with
  | none => exact absurd rfl hmissing
  | dict fields =>
    have hnil : fields = [] := by simpa [Value.truthy] using hempty
    subst hnil
    exact ⟨_, rfl⟩
  | _ => exact ⟨_, rfl⟩

/-- A tab with more calls on its page. -/
def called (t : Tab) (more : List PageCall) : Tab :=
  { t with page := { t.page with calls := t.page.calls ++ more } }

/-- A call on the page is made, whether or not it fails. -/
lemma run_callPage (t : Tab) (c : PageCall) : (callPage c).run t =
    ((t.page.fails t.page.calls c).elim (.ok ()) .error, t.called [c]) := by
  rw [callPage, Procedure.run_get_bind]
  dsimp only
  cases t.page.fails t.page.calls c <;> rfl

/-- A picture is taken, unless the call fails. -/
lemma run_takePicture (t : Tab) (c : PageCall) : (takePicture c).run t =
    ((t.page.fails t.page.calls c).elim (.ok (.bytes (t.page.picture t.page.calls c))) .error,
      t.called [c]) := by
  have hcall := run_callPage t c
  unfold takePicture
  rw [Procedure.run_get_bind]
  cases hfails : t.page.fails t.page.calls c with
  | none =>
    rw [hfails] at hcall
    rw [Procedure.run_bind_ok hcall]
    rfl
  | some f =>
    rw [hfails] at hcall
    rw [Procedure.run_bind_error hcall]
    rfl

/-- The page is asked for what has the focus, if at all, before a screenshot is taken. -/
lemma screenshotLocator_cases (t : Tab) (clip locator : Value) :
    (∃ found looked, (screenshotLocator clip locator).run t = (.ok found, t.called looked) ∧
      (∀ d ∈ looked, ¬d.IsCapture) ∧ (found = locator ∨ found = t.page.focus)) ∨
    ∃ f, t.page.fails t.page.calls (.evaluate Page.focusExpression) = some f ∧
      (screenshotLocator clip locator).run t =
        (.error f, t.called [.evaluate Page.focusExpression]) := by
  unfold screenshotLocator
  split
  next =>
    refine .inl ⟨locator, [], ?_, by simp, .inl rfl⟩
    rw [called, List.append_nil]
    rfl
  next =>
    have hcall := run_callPage t (.evaluate Page.focusExpression)
    cases hfails : t.page.fails t.page.calls (.evaluate Page.focusExpression) with
    | some f =>
      rw [hfails] at hcall
      exact .inr ⟨f, rfl, Procedure.run_bind_error hcall⟩
    | none =>
      rw [hfails] at hcall
      refine .inl ⟨t.page.focus, [.evaluate Page.focusExpression], ?_, ?_, .inr rfl⟩
      · rw [Procedure.run_bind_ok hcall]
        rfl
      · simp [PageCall.IsCapture]

/-- A screenshot is a picture of what is to be captured. -/
lemma takeScreenshot_eq (clip locator : Value) :
    takeScreenshot clip locator =
      Procedure.ofExcept (captureCall clip locator) >>= takePicture := by
  unfold takeScreenshot captureCall
  split
  next => cases Rect.ofValue clip <;> rfl
  next => split <;> rfl

/-- What is to be captured is captured by a call that takes a picture. -/
lemma isCapture_of_captureCall {c : PageCall} (h : captureCall clip locator = .ok c) :
    c.IsCapture := by
  unfold captureCall at h
  split at h
  next =>
    cases hrect : Rect.ofValue clip with
    | error f => simp [hrect, Except.map] at h
    | ok r =>
      rw [hrect] at h
      obtain rfl := Except.ok.inj h
      trivial
  next =>
    obtain rfl := Except.ok.inj h
    split <;> trivial

/-- What is to be captured is missing only if a clip is no rectangle. -/
lemma rect_of_captureCall {f : Fault} (h : captureCall clip locator = .error f) :
    clip.truthy = true ∧ Rect.ofValue clip = .error f := by
  unfold captureCall at h
  split at h
  next htruthy => exact ⟨htruthy, Writer.eq_error_of_map h⟩
  next => cases h

/-! ## The same screenshot again -/

/-- A screenshot that was taken is one more entry of the log, and the script renders it as the call
that took it. The name under which it is stored is answered, if it can be stored. -/
def Retaken (t t' : Tab) (c : PageCall) (picture : Blob) (answer : Except Fault String) : Prop :=
  ∃ name locator region,
    t'.session.log = t.session.log ++ [.screenshot (.str name) locator region] ∧
    (c.Repeatable → ∃ expression, Script.capture locator region = .ok expression ∧
      Script.Retakes expression c) ∧
    (t.Accepting → Picture.Storable picture → answer = .ok name)

/-- What comes of a screenshot that was taken. With a clip that is missing or not empty it is taken
again by the script, and with any other it is lost. -/
structure Taken (t t' : Tab) (clip : Value) (c : PageCall) (picture : Blob)
    (answer : Except Fault String) : Prop where
  retaken : clip = .none ∨ clip.truthy = true → t.Retaken t' c picture answer
  lost : clip ≠ .none → clip.truthy = false →
    (∃ f, answer = .error f) ∧ t'.session.log = t.session.log

/-- What comes of a call for a screenshot: the page is looked at, and either there is a reason to
capture nothing, or a capture is made, which fails or is taken. -/
def Answered (t t' : Tab) (clip : Value) (answer : Except Fault String) : Prop :=
  ∃ looked, (∀ d ∈ looked, ¬PageCall.IsCapture d) ∧
    (t' = t.called looked ∧ (∃ f, answer = .error f ∧
        (t.page.fails t.page.calls (.evaluate Page.focusExpression) = some f ∨
          clip.truthy = true ∧ Rect.ofValue clip = .error f)) ∨
      ∃ c, c.IsCapture ∧ t'.page = (t.called (looked ++ [c])).page ∧
        ((∃ f, t.page.fails (t.page.calls ++ looked) c = some f ∧ answer = .error f ∧
            t'.toRecorder = t.toRecorder) ∨
          t.page.fails (t.page.calls ++ looked) c = none ∧
            t.Taken t' clip c (t.page.picture (t.page.calls ++ looked) c) answer))

/-- A picture that was taken is recorded. -/
lemma yields_requestScreenshot (hr : t.running = true) {c : PageCall} (name : Value)
    (hc : captureCall clip locator = .ok c) (picture : Blob) :
    (onRecorder (Recorder.requestScreenshot (.bytes picture) name (locator.orElse (.str ""))
      clip)).Yields t fun answer t' => t'.page = t.page ∧ t.Taken t' clip c picture answer := by
  refine ⟨rfl, fun hclip => ?_, fun hmissing hempty => ?_⟩
  · obtain ⟨region, hregion, hretakes⟩ := Script.exists_capture_of_captureCall hclip hc
    obtain ⟨stored, hlog, hok⟩ :=
      @Recorder.yields_requestScreenshot_of_region t.toRecorder name (.bytes picture)
        (locator.orElse (.str "")) region hr clip hregion
    exact ⟨stored, _, region, hlog, hretakes, fun haccepting hpicture =>
      hok haccepting ⟨picture, rfl, hpicture⟩⟩
  · obtain ⟨f, hregion⟩ := exists_error_of_falsy hmissing hempty
    obtain ⟨hanswer, hlog⟩ :=
      @Recorder.yields_requestScreenshot_of_error t.toRecorder name (.bytes picture)
        (locator.orElse (.str "")) hr clip f hregion
    exact ⟨⟨f, hanswer⟩, hlog⟩

/-- A screenshot is captured and recorded, unless there is a reason to capture nothing. -/
lemma yields_shoot (hr : t.running = true) {looked : List PageCall} (name clip found : Value)
    (hlooked : ∀ d ∈ looked, ¬d.IsCapture) :
    (do let image ← takeScreenshot clip found
        onRecorder (Recorder.requestScreenshot image name (found.orElse (.str "")) clip) :
      Procedure Tab String).Yields (t.called looked)
      fun answer t' => t.Answered t' clip answer := by
  have htake := takeScreenshot_eq clip found
  cases hc : captureCall clip found with
  | error f =>
    have hrun : (takeScreenshot clip found).run (t.called looked) =
        (.error f, t.called looked) := by
      rw [htake, hc]
      rfl
    rw [Procedure.Yields, Procedure.run_bind_error hrun]
    exact ⟨looked, hlooked, .inl ⟨rfl, f, rfl, .inr (rect_of_captureCall hc)⟩⟩
  | ok c =>
    have hcapture : c.IsCapture := isCapture_of_captureCall hc
    have hcalls : (t.called looked).called [c] = t.called (looked ++ [c]) := by
      simp only [called, List.append_assoc]
    have hrun : (takeScreenshot clip found).run (t.called looked) =
        (takePicture c).run (t.called looked) := by
      rw [htake, hc]
      rfl
    rw [run_takePicture, hcalls] at hrun
    cases hfails : t.page.fails (t.page.calls ++ looked) c with
    | some f =>
      have hfails' : (t.called looked).page.fails (t.called looked).page.calls c = some f := hfails
      rw [hfails'] at hrun
      rw [Procedure.Yields, Procedure.run_bind_error hrun]
      exact ⟨looked, hlooked, .inr ⟨c, hcapture, rfl, .inl ⟨f, hfails, rfl, rfl⟩⟩⟩
    | none =>
      have hfails' : (t.called looked).page.fails (t.called looked).page.calls c = none := hfails
      rw [hfails'] at hrun
      rw [Procedure.yields_bind_of_run hrun]
      refine (yields_requestScreenshot (t := t.called (looked ++ [c])) hr name hc _).mono
        fun answer t' h => ⟨looked, hlooked, .inr ⟨c, hcapture, h.1, .inr ⟨hfails, ?_, ?_⟩⟩⟩
      · exact h.2.retaken
      · exact h.2.lost

/-- A running recorder does not refuse what is asked of it. -/
lemma run_requireRunning (hr : t.running = true) (operation : String) :
    (onRecorder (Recorder.requireRunning operation)).run t = (.ok (), t) := by
  have hrecorder : (Recorder.requireRunning operation).run t.toRecorder =
      (.ok (), t.toRecorder) := by
    rw [Recorder.requireRunning, Procedure.run_get_bind, hr]
    rfl
  show (((Recorder.requireRunning operation).run t.toRecorder).1,
    { t with toRecorder := ((Recorder.requireRunning operation).run t.toRecorder).2 }) = _
  rw [hrecorder]

/-- A running recorder takes a screenshot when it is asked to. -/
lemma yields_capture (hr : t.running = true) {options : Value} {fields : List (String × Value)}
    (hoptions : Page.optionsOf options = .ok fields) :
    (capture options).Yields t
      fun answer t' => t.Answered t' (Value.fieldOr fields "clip" .none) answer := by
  unfold capture
  rw [hoptions, Procedure.yields_ofExcept_ok_bind,
    Procedure.yields_bind_of_run (run_requireRunning hr _)]
  rcases screenshotLocator_cases t (Value.fieldOr fields "clip" .none)
    (Value.fieldOr fields "locator" .none) with
    ⟨found, looked, hrun, hlooked, -⟩ | ⟨f, hfails, hrun⟩
  · rw [Procedure.yields_bind_of_run hrun]
    exact yields_shoot hr _ _ _ hlooked
  · rw [Procedure.Yields, Procedure.run_bind_error hrun]
    exact ⟨_, by simp [PageCall.IsCapture], .inl ⟨rfl, f, rfl, .inl hfails⟩⟩

/-- **A screenshot that is taken while recording is the one that the script retakes.** The page may
be asked for what has the focus, and is captured once, unless a clip is no rectangle. If the capture
succeeds, one entry is made, which is rendered as the same capture: of the page, of a rectangle with
the same four numbers, or of what the same locator finds. A clip that is empty without being missing
is the exception: the page is captured, but no entry is made and the call fails.

**Proof sketch.** The call comes down to `capture` with its options (`run_call`). A running recorder
does not refuse it, and the question for the focus, if it is asked, only decides the locator
(`screenshotLocator_cases`). From there on the picture and the entry depend on the clip and on this
locator alone (`yields_shoot`). -/
theorem retaken_of_call {arguments : List Value} {fields : List (String × Value)}
    (hr : t.running = true) (hlength : arguments.length ≤ 1)
    (hoptions : Page.optionsOf (arguments.headD .none) = .ok fields) :
    (Tab.call "captureScreenshot" arguments).Yields t fun result t' => ∃ answer,
      result = answer.map .str ∧ t.Answered t' (Value.fieldOr fields "clip" .none) answer := by
  have hhead : (arguments ++
      (Binding.captureScreenshot.signature.optional.drop arguments.length).map (·.2)).headD .none =
        arguments.headD .none := by
    cases arguments <;> rfl
  have hcall : (Tab.call "captureScreenshot" arguments).run t =
      (Tab.perform .captureScreenshot (arguments.headD .none)).run t :=
    hhead ▸ run_call (b := .captureScreenshot) rfl hlength t
  have hperform : (Tab.perform .captureScreenshot (arguments.headD .none)).Yields t
      fun result t' => ∃ answer, result = answer.map .str ∧
        t.Answered t' (Value.fieldOr fields "clip" .none) answer :=
    (yields_capture hr hoptions).bind (fun name _ h => ⟨.ok name, rfl, h⟩)
      fun f _ h => ⟨.error f, rfl, h⟩
  rw [Procedure.Yields, hcall]
  exact hperform

/-- A recording that was begun by a page on which nothing has the focus. -/
def started (r : Recorder) : Tab :=
  (install.run ⟨r, { emptyPage with focus := .none }⟩).2.performAll [.call "startRecording" []]

/-- A rectangle as options of a screenshot. -/
def rectangle : Value :=
  .dict [("clip", .dict [("x", .int 1), ("y", .int 2), ("width", .int 30), ("height", .int 40)])]

/-- A rectangle is asked for while recording. -/
theorem retaken_rectangle : ∃ r fields, Recorder.create .plain Recorder.emptyWorkspace = .ok r ∧
    (started r).running = true ∧ [rectangle].length ≤ 1 ∧
    Page.optionsOf ([rectangle].headD .none) = .ok fields ∧
    (Value.fieldOr fields "clip" .none).truthy = true ∧
    (Tab.call "captureScreenshot" [rectangle]).Yields (started r) fun result t' => ∃ answer,
      result = answer.map .str ∧
        (started r).Answered t' (Value.fieldOr fields "clip" .none) answer := by
  obtain ⟨r, hr⟩ : ∃ r, Recorder.create .plain Recorder.emptyWorkspace = .ok r := ⟨_, rfl⟩
  have hrunning : (started r).running = true := by
    obtain rfl := Except.ok.inj hr
    decide +kernel
  exact ⟨r, _, hr, hrunning, by decide, rfl, rfl, retaken_of_call hrunning (by decide) rfl⟩

/-- The name that a result misses. -/
def missing? : Except Fault Value → Option String
  | .error (.missingKey name) => some name
  | _ => none

/-- What misses a name is a fault. -/
lemma eq_of_missing? {result : Except Fault Value} {name : String}
    (h : missing? result = some name) : result = .error (.missingKey name) := by
  unfold missing? at h
  split at h
  next => rw [Option.some.inj h]
  next => cases h

/-- A clip without fields gets the page captured, but the call is refused and nothing is
recorded. -/
theorem lost_emptyClip : ∃ r, Recorder.create .plain Recorder.emptyWorkspace = .ok r ∧
    (started r).running = true ∧ (∀ c ∈ (started r).page.calls, ¬c.IsCapture) ∧
    (started r).session.log = [] ∧
    (Tab.call "captureScreenshot" [.dict [("clip", .dict [])]]).Yields (started r) fun result t =>
      (∃ c ∈ t.page.calls, c.IsCapture) ∧ result = .error (.missingKey "x") ∧
      t.session.log = [] := by
  refine ⟨_, rfl, by decide +kernel, by decide +kernel, ?_, ?_, eq_of_missing? ?_, ?_⟩
  · exact List.isEmpty_iff.1 (by decide +kernel)
  · decide +kernel
  · decide +kernel
  · exact List.isEmpty_iff.1 (by decide +kernel)

end Tab

end SessionRecorder
