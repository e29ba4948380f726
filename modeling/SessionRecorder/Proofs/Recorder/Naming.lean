import SessionRecorder.Proofs.Recorder.Confined
import SessionRecorder.Proofs.Result
/-!
# Names that are handed out

A screenshot that nobody named is called by a number that only ever grows, so no two of them share a
name or a file, whatever is done in between and whether or not it succeeds. The number is not
compared with the names that callers choose: one of them may take the name first, and then the
screenshot without a name is stored in its place.

## Main definitions

* `Recorder.History` — a recorder with all that was done with it and the names that it answered.
* `Recorder.Action.Chooses` — the name that a caller chooses for a screenshot.
* `Recorder.SharesFile` — a screenshot under one name is stored in the file of another.

## Main results

* `Recorder.History.accounted` — every name is chosen by a caller or made of a number that has been
  reached.
* `Recorder.fresh_of_unnamed` — the name of a screenshot that nobody named is new, and so is its
  file, unless a caller has chosen it.
* `Recorder.taken_of_unnamed` — a caller can choose it.
-/

namespace SessionRecorder

namespace Session

variable {d : Value} {s s' : Session} {e : Event} {name locator : Value} {region : Region}

/-- The screenshots of a log are those that were there and the one of the event. -/
lemma Accepts.screenshot_of_mem (step : Accepts d s e s')
    (h : Entry.screenshot name locator region ∈ s'.log) :
    Entry.screenshot name locator region ∈ s.log ∨
      ∃ image, e = .screenshot name image locator region := by
  have hfront {front back : List Entry} {last : Entry} (tail : s.log = front ++ back)
      (hmem : Entry.screenshot name locator region ∈ front ++ [last])
      (hlast : last.kind ≠ .screenshot) : Entry.screenshot name locator region ∈ s.log := by
    rcases List.mem_append.1 hmem with hmem | hmem
    · exact tail ▸ List.mem_append_left _ hmem
    · obtain rfl := List.mem_singleton.1 hmem
      exact absurd rfl hlast
  cases step with
  | screenshot name' image locator' region' =>
    rcases List.mem_append.1 h with h | h
    · exact .inl h
    · obtain ⟨rfl, rfl, rfl⟩ := Entry.screenshot.inj (List.mem_singleton.1 h)
      exact .inr ⟨image, rfl⟩
  | moveOn t held front x y n m tail sum => exact .inl (hfront tail h (fun hk => by cases hk))
  | click t front x y tail => exact .inl (hfront tail h (fun hk => by cases hk))
  | doubleClickMerged t front x y x' y' tail =>
    exact .inl (hfront tail h (fun hk => by cases hk))
  | wheelOn t dx dy front x y dx₀ dy₀ dx₁ dy₁ tail same_x same_y sum_x sum_y =>
    exact .inl (hfront tail h (fun hk => by cases hk))
  | keyPress key modifiers label made front l tail same =>
    exact .inl (hfront tail h (fun hk => by cases hk))
  | _ => exact .inl (hfront (List.append_nil _).symm h (fun hk => by cases hk))

end Session

namespace Recorder

variable {c : Config} {r r' : Recorder} {a : Action} {actions : List Action} {names : List String}

/-! ## Histories -/

/-- The name with which a recorder answers an action. -/
def Action.answer? (a : Action) (r : Recorder) : Option String :=
  match a with
  | .requestScreenshot image name locator region =>
    ((Recorder.requestScreenshot image name locator region).run r).1.toOption
  | _ => none

/-- A recorder that comes of one that was just made with a configuration, with all that was done
with it, whether or not it succeeded, and the names that it answered. -/
inductive History (c : Config) : List Action → List String → Recorder → Prop
  | create {w : Workspace} {r : Recorder} : Recorder.create c w = .ok r → History c [] [] r
  | perform {actions : List Action} {names : List String} {r : Recorder} (a : Action) :
      History c actions names r →
      History c (actions ++ [a]) (names ++ (a.answer? r).toList) (a.perform.run r).2
  | outside {actions : List Action} {names : List String} {r : Recorder} (w : Workspace) :
      History c actions names r → History c actions names { r with workspace := w }

/-- The names that a recorder answers to actions in order. -/
def answers (r : Recorder) : List Action → List String
  | [] => []
  | a :: rest => (a.answer? r).toList ++ answers (a.perform.run r).2 rest

/-- Actions in order are one history. -/
lemma History.performAll (h : History c actions names r) (more : List Action) :
    History c (actions ++ more) (names ++ r.answers more) (r.performAll more) := by
  induction more generalizing actions names r with
  | nil =>
    rw [List.append_nil, answers, List.append_nil]
    exact h
  | cons a rest ih =>
    rw [List.append_cons, answers, ← List.append_assoc]
    exact ih (h.perform a)

/-- Actions in order are the history of a recorder that was just made. -/
lemma history_performAll {w : Workspace} (h : Recorder.create c w = .ok r)
    (actions : List Action) :
    History c actions (r.answers actions) (r.performAll actions) := by
  have hhistory := (History.create h).performAll actions
  rw [List.nil_append, List.nil_append] at hhistory
  exact hhistory

/-- A recorder with a history is reached. -/
lemma History.reached (h : History c actions names r) : Reached c r := by
  induction h with
  | create h => exact .create h
  | perform a _ ih => exact ih.perform a
  | outside w _ ih => exact ih.outside w

/-! ## Where names come from -/

/-- The name that a caller chooses for a screenshot: it is made safe where a screenshot is asked
for, and taken as it is where the event of one is fed. -/
inductive Action.Chooses : Action → Value → Prop
  | request {image name locator region : Value} : name.truthy = true →
      Chooses (.requestScreenshot image name locator region) (.str (Snapshot.safeNameOf name))
  | feed (name image locator : Value) (region : Region) :
      Chooses (.feed (.screenshot name image locator region)) name

/-- A name that a caller has chosen, or that is made of a number up to the last one. -/
def FromCallerOr (actions : List Action) (shots : ℕ) (name : Value) : Prop :=
  (∃ a ∈ actions, a.Chooses name) ∨
    ∃ n : ℕ, 0 < n ∧ n ≤ shots ∧ name = .str (Snapshot.automaticName n)

/-- More actions and more screenshots make no difference. -/
lemma FromCallerOr.mono {more : List Action} {shots shots' : ℕ} {name : Value}
    (h : FromCallerOr actions shots name) (hactions : actions ⊆ more) (hshots : shots ≤ shots') :
    FromCallerOr more shots' name :=
  h.imp (fun ⟨a, ha, hname⟩ => ⟨a, hactions ha, hname⟩)
    fun ⟨n, hpos, hn, hname⟩ => ⟨n, hpos, hn.trans hshots, hname⟩

/-- The name of a screenshot is chosen by a caller or made of the number of the last one. -/
lemma Action.Feeds.fromCallerOr {shots : ℕ} {name image locator : Value} {region : Region}
    (h : a.Feeds shots (.screenshot name image locator region)) (ha : a ∈ actions) :
    FromCallerOr actions shots name := by
  cases h with
  | feed => exact .inl ⟨_, ha, .feed _ _ _ _⟩
  | feedPayload _ he =>
    obtain ⟨fields, -, hpage⟩ := Event.fromPage_of_ofPayload he
    cases hpage
  | named _ hname _ => exact .inl ⟨_, ha, .request hname⟩
  | unnamed _ hpos _ => exact .inr ⟨shots, hpos, le_rfl, rfl⟩

/-- The names of all screenshots are accounted for: those in the log, and those under which files
were stored. -/
structure Accounted (actions : List Action) (r : Recorder) : Prop where
  entries : ∀ name locator region, Entry.screenshot name locator region ∈ r.session.log →
    FromCallerOr actions r.shots name
  stored : ∀ path ∈ r.snapshots, ∃ name, Snapshot.pathOf r.config.snapshots name = .ok path ∧
    FromCallerOr actions r.shots name

/-- Every stage of an action keeps account of the names. -/
lemma Stage.accounted (stage : Stage a r r') (ha : a ∈ actions) (h : Accounted actions r) :
    Accounted actions r' := by
  cases stage with
  | desk hgoes =>
    refine ⟨fun name locator region hmem => h.entries name locator region ?_, h.stored⟩
    rwa [← hgoes.session]
  | begin | finish => exact ⟨h.entries, h.stored⟩
  | accept he _ step =>
    refine ⟨fun name locator region hmem => ?_, h.stored⟩
    rcases step.screenshot_of_mem hmem with hmem | ⟨image, rfl⟩
    · exact h.entries _ _ _ hmem
    · exact he.fromCallerOr ha
  | store he hpath _ hkept =>
    refine ⟨h.entries, fun path hmem => ?_⟩
    rcases List.mem_append.1 hmem with hmem | hmem
    · exact h.stored path hmem
    · obtain rfl := List.mem_singleton.1 (hkept hmem)
      exact ⟨_, hpath, he.fromCallerOr ha⟩
  | count =>
    refine ⟨fun name locator region hmem => ?_, fun path hmem => ?_⟩
    · exact (h.entries _ _ _ hmem).mono (List.Subset.refl _) (Nat.le_succ _)
    · obtain ⟨name, hpath, hname⟩ := h.stored path hmem
      exact ⟨name, hpath, hname.mono (List.Subset.refl _) (Nat.le_succ _)⟩

/-- The name of a screenshot is the answer of the call for it. -/
lemma Action.exists_of_answer {name : String} (h : a.answer? r = some name) :
    ∃ image given locator region, a = .requestScreenshot image given locator region ∧
      Named r (a.perform.run r).2 given name := by
  cases a with
  | requestScreenshot image given locator region =>
    have hstate : ((Action.requestScreenshot image given locator region).perform.run r).2 =
        ((Recorder.requestScreenshot image given locator region).run r).2 :=
      Procedure.state_bind_pure _ r
    refine ⟨image, given, locator, region, rfl, ?_⟩
    rw [hstate]
    refine (yields_course_requestScreenshot image given locator region).2 name ?_
    exact eq_ok_of_toOption h
  | _ => cases h

/-- An answer is chosen by a caller or made of a number that has been reached. -/
lemma fromCallerOr_of_answer {name : String} (h : a.answer? r = some name) (ha : a ∈ actions) :
    FromCallerOr actions (a.perform.run r).2.shots (.str name) := by
  obtain ⟨image, given, locator, region, rfl, hnamed⟩ := Action.exists_of_answer h
  cases hnamed with
  | given hgiven => exact .inl ⟨_, ha, .request hgiven⟩
  | automatic _ hshots => exact .inr ⟨r.shots + 1, Nat.succ_pos _, hshots, rfl⟩

/-- **Every name is accounted for**: a caller has chosen it, or it is made of a number up to the
last one.

**Proof sketch.** A stage adds at most one name, that of the event which the action feeds, and the
number never goes back; the last number is that of the screenshot whose name is answered. -/
lemma History.accounted (h : History c actions names r) :
    Accounted actions r ∧ ∀ name ∈ names, FromCallerOr actions r.shots (.str name) := by
  induction h with
  | create h =>
    obtain ⟨script, log, ms, -, -, rfl⟩ := exists_of_create h
    exact ⟨⟨by simp [Session.fresh], by simp⟩, by simp⟩
  | @perform actions names q a _ ih =>
    obtain ⟨haccounted, hnames⟩ := ih
    have hmore : actions ⊆ actions ++ [a] := List.subset_append_left _ _
    have hlast : a ∈ actions ++ [a] := by simp
    have hcourse : Course a q (a.perform.run q).2 := course_perform a q
    have hbefore : Accounted (actions ++ [a]) q :=
      ⟨fun name locator region hmem => (haccounted.entries _ _ _ hmem).mono hmore le_rfl,
        fun path hmem => (haccounted.stored path hmem).imp fun _ h => ⟨h.1, h.2.mono hmore le_rfl⟩⟩
    refine ⟨hcourse.keeps hbefore fun _ _ stage => stage.accounted hlast, fun name hmem => ?_⟩
    rcases List.mem_append.1 hmem with hmem | hmem
    · exact (hnames name hmem).mono hmore hcourse.shots_le
    · exact fromCallerOr_of_answer (Option.mem_toList.1 hmem) hlast
  | outside w _ ih => exact ⟨⟨ih.1.entries, ih.1.stored⟩, ih.2⟩

/-! ## Names that are new -/

/-- A screenshot under a name is stored in the file of another name. -/
def SharesFile (c : Config) (here : Location) (name : Value) (other : String) : Prop :=
  ∃ path, Snapshot.pathOf c.snapshots name = .ok path ∧
    path.location here = (c.snapshots.child other).location here

/-- The next number makes a name that shares its file with no name that is accounted for, unless a
caller has chosen it. -/
lemma FromCallerOr.not_sharesFile {shots : ℕ} {name : Value} {here : Location}
    (h : FromCallerOr actions shots name)
    (hchosen : ∀ a ∈ actions, ∀ chosen, a.Chooses chosen →
      ¬SharesFile c here chosen (Snapshot.automaticName ((shots + 1 : ℕ) : ℤ))) :
    ¬SharesFile c here name (Snapshot.automaticName ((shots + 1 : ℕ) : ℤ)) := by
  rcases h with ⟨a, ha, hname⟩ | ⟨n, hpos, hn, rfl⟩
  · exact hchosen a ha name hname
  · rintro ⟨path, hpath, hsame⟩
    obtain rfl := Except.ok.inj hpath
    rw [(Snapshot.isPictureName_automaticName _).location_child,
      (Snapshot.isPictureName_automaticName _).location_child] at hsame
    have hnames := List.singleton_inj.1 (List.append_cancel_left hsame)
    have := Snapshot.automaticName_inj hpos (Nat.succ_pos shots) hnames
    omega

/-- **The name of a screenshot that nobody named is new.** Whatever was done with the recorder
before, in any order and whether or not it succeeded, the name is none that was answered before, and
its file is neither that of a screenshot in the log nor one that was stored, unless a caller has
chosen a name for that file. -/
theorem fresh_of_unnamed (h : History c actions names r) {image name locator region : Value}
    {stored : String} (hname : name.truthy = false)
    (hanswer : (Action.requestScreenshot image name locator region).answer? r = some stored)
    (hchosen : ∀ a ∈ actions, ∀ chosen, a.Chooses chosen →
      ¬SharesFile c r.workspace.here chosen stored) :
    stored ∉ names ∧
    (∀ other locator region, Entry.screenshot other locator region ∈ r.session.log →
      ¬SharesFile c r.workspace.here other stored) ∧
    ∀ path ∈ r.snapshots,
      path.location r.workspace.here ≠ (c.snapshots.child stored).location r.workspace.here := by
  obtain ⟨haccounted, hnames⟩ := h.accounted
  obtain ⟨_, _, _, _, hrequest, hnamed⟩ := Action.exists_of_answer hanswer
  obtain ⟨-, rfl, -, -⟩ := Action.requestScreenshot.inj hrequest
  cases hnamed with
  | given hgiven =>
    rw [hname] at hgiven
    cases hgiven
  | automatic =>
    refine ⟨fun hmem => ?_, fun other locator region hmem => ?_, fun path hmem hsame => ?_⟩
    · exact (hnames _ hmem).not_sharesFile hchosen ⟨_, rfl, rfl⟩
    · exact (haccounted.entries _ _ _ hmem).not_sharesFile hchosen
    · obtain ⟨other, hpath, hother⟩ := haccounted.stored path hmem
      rw [h.reached.placed.config] at hpath
      exact hother.not_sharesFile hchosen ⟨path, hpath, hsame⟩

/-- A screenshot that is asked for, under a name or without one. -/
def shot (image : String) (name : Value) : Action :=
  .requestScreenshot (.bytes (.text image)) name .none .none

/-- One screenshot without a name and one with a name. -/
def mixedShots : List Action :=
  [.start, shot "first" .none, shot "second" (.str "chart view")]

/-- The next one without a name is the second. -/
theorem fresh_mixedShots : ∃ r, Recorder.create .plain emptyWorkspace = .ok r ∧
    History .plain mixedShots (r.answers mixedShots) (r.performAll mixedShots) ∧
    Value.none.truthy = false ∧
    (shot "third" .none).answer? (r.performAll mixedShots) = some "codegen-2.png" ∧
    (∀ a ∈ mixedShots, ∀ chosen, a.Chooses chosen →
      ¬SharesFile .plain (r.performAll mixedShots).workspace.here chosen "codegen-2.png") ∧
    r.answers mixedShots = ["codegen-1.png", "chart_view.png"] ∧
    "codegen-2.png" ∉ r.answers mixedShots ∧
    (∀ other locator region,
      Entry.screenshot other locator region ∈ (r.performAll mixedShots).session.log →
      ¬SharesFile .plain (r.performAll mixedShots).workspace.here other "codegen-2.png") ∧
    ∀ path ∈ (r.performAll mixedShots).snapshots,
      path.location (r.performAll mixedShots).workspace.here ≠
        (Config.plain.snapshots.child "codegen-2.png").location
          (r.performAll mixedShots).workspace.here := by
  obtain ⟨r, hr⟩ : ∃ r, Recorder.create .plain emptyWorkspace = .ok r := ⟨_, rfl⟩
  have hhistory := history_performAll hr mixedShots
  have hevaluated : (shot "third" .none).answer? (r.performAll mixedShots) = some "codegen-2.png" ∧
      (r.performAll mixedShots).workspace.here = [] ∧
      r.answers mixedShots = ["codegen-1.png", "chart_view.png"] := by
    obtain rfl := Except.ok.inj hr
    decide +kernel
  obtain ⟨hanswer, hhere, hanswers⟩ := hevaluated
  have hchosen : ∀ a ∈ mixedShots, ∀ chosen, a.Chooses chosen →
      ¬SharesFile .plain (r.performAll mixedShots).workspace.here chosen "codegen-2.png" := by
    rw [hhere]
    intro a ha chosen hchosen
    cases hchosen with
    | feed => simp [mixedShots, shot] at ha
    | @request image name locator region hname =>
      have hname' : name = .none ∨ name = .str "chart view" := by
        simp only [mixedShots, shot, List.mem_cons, reduceCtorEq, false_or,
          Action.requestScreenshot.injEq, List.not_mem_nil, or_false] at ha
        exact ha.imp (fun h => h.2.1) fun h => h.2.1
      rcases hname' with rfl | rfl
      · cases hname
      · rintro ⟨path, hpath, hsame⟩
        obtain rfl := Except.ok.inj hpath
        exact absurd hsame (by decide +kernel)
  exact ⟨r, hr, hhistory, rfl, hanswer, hchosen, hanswers,
    fresh_of_unnamed hhistory rfl hanswer hchosen⟩

/-- A screenshot under the name that the first one without a name will have. -/
def takenShots : List Action :=
  [.start, shot "first" (.str "codegen-1")]

/-- **A caller can take the name of a screenshot that nobody named.** The next screenshot without a
name is called by the name that was answered before; two entries of the log have that name, and the
file no longer holds the first picture. -/
theorem taken_of_unnamed : ∃ r r', Recorder.create .plain emptyWorkspace = .ok r ∧
    History .plain takenShots (r.answers takenShots) (r.performAll takenShots) ∧
    r.answers takenShots = ["codegen-1.png"] ∧
    (shot "second" .none).answer? (r.performAll takenShots) = some "codegen-1.png" ∧
    ((shot "second" .none).perform.run (r.performAll takenShots)).2 = r' ∧
    r'.session.log.map Entry.display =
      ["ScreenshotEntry(name='codegen-1.png', locator='', region=None)",
        "ScreenshotEntry(name='codegen-1.png', locator='', region=None)"] ∧
    (r.performAll takenShots).workspace.disk.content? ["out", "snapshots", "codegen-1.png"] =
      some (.text "first") ∧
    r'.workspace.disk.content? ["out", "snapshots", "codegen-1.png"] = some (.text "second") := by
  obtain ⟨r, hr⟩ : ∃ r, Recorder.create .plain emptyWorkspace = .ok r := ⟨_, rfl⟩
  have hhistory := history_performAll hr takenShots
  refine ⟨r, _, hr, hhistory, ?_, ?_, rfl, ?_, ?_, ?_⟩ <;> obtain rfl := Except.ok.inj hr
  · decide +kernel
  · decide +kernel
  · decide +kernel
  · decide +kernel
  · decide +kernel

end Recorder

end SessionRecorder
