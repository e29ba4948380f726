import SessionRecorder.Proofs.Event
import SessionRecorder.Proofs.LogText
import SessionRecorder.Proofs.Result
import SessionRecorder.Proofs.Script.Ending
import SessionRecorder.Proofs.Script.Statement
import SessionRecorder.Proofs.Session.Step
import SessionRecorder.Proofs.Value.Addition
/-!
# What the page does to a session

Whatever kinds of values the page hands over, its events are applied without a fault, and a session
that can be written down can still be written down afterwards. There is one condition, on the values
that are added up: a run of moves counts, and turns of the wheel at one place have their amounts
added, which nothing checks to be numbers.

## Main definitions

* `Session.Printable` — a session that can be written down.
* `Session.sums` — the values that an event adds up.

## Main results

* `Session.exists_apply` — an event of the page is applied without a fault.
* `Session.Printable.accept` — a session can be written down after an event of the page.
* `Session.exists_apply_iff` — both are so exactly if the values that are added up can be added.
-/

namespace SessionRecorder

open Script

/-- An entry that can be rendered and has statements is an action. -/
lemma Script.isAction_of_renderable {e : Entry} (h : e.Renderable)
    (hl : ∀ v ∈ e.literals, v.IsWritable) (hs : HasStatements e) : IsAction e :=
  (statements_of_renderable h hl hs).imp fun _ h => h.1

namespace Session

variable {d : Value} {s s' : Session} {e : Event} {fields : List (String × Value)}

/-! ## Sessions that can be written down -/

/-- A session that can be written down: it has a script, and its log has a text. -/
structure Printable (s : Session) : Prop where
  script : ∃ t, Desk.scriptText s = .ok t
  log : ∃ t, Desk.logText s = .ok t

/-- A session can be written down if its names and the fields of its entries have JSON forms and its
log can be rendered. -/
lemma printable_iff : s.Printable ↔ (∀ name ∈ s.openSteps, name.IsWritable) ∧
    (∀ e ∈ s.log, e.IsWritable) ∧ ∃ t, Script.text s.log s.openSteps = .ok t := by
  constructor
  · rintro ⟨⟨t, hscript⟩, hlog⟩
    obtain ⟨hsteps, hentries⟩ := Desk.exists_logText_iff_isWritable.1 hlog
    unfold Desk.scriptText at hscript
    split at hscript
    next => exact ⟨hsteps, hentries, t, hscript⟩
    next => cases hscript
  · rintro ⟨hsteps, hentries, t, htext⟩
    refine ⟨⟨t, ?_⟩, Desk.exists_logText_iff_isWritable.2 ⟨hsteps, hentries⟩⟩
    rw [Desk.scriptText, if_pos (List.all_eq_true.2 fun e he => (hentries e he).isShort), htext]

/-- A session can still be written down with another action at the end of its log, in the place of
actions that were there. -/
lemma Printable.concat {front back : List Entry} {last : Entry} (hs : s.Printable)
    (hlog : s.log = front ++ back) (hlog' : s'.log = front ++ [last])
    (hsteps : s'.openSteps = s.openSteps) (hback : ∀ e ∈ back, IsAction e) (hlast : IsAction last)
    (hwritable : last.IsWritable) : s'.Printable := by
  obtain ⟨hnames, hentries, htext⟩ := printable_iff.1 hs
  rw [hlog, List.forall_mem_append] at hentries
  rw [hlog] at htext
  refine printable_iff.2 ⟨hsteps ▸ hnames, ?_, ?_⟩
  · rw [hlog', List.forall_mem_append, List.forall_mem_singleton]
    exact ⟨hentries.1, hwritable⟩
  · rw [hlog', hsteps]
    exact exists_text_concat hback hlast htext

/-- A session can still be written down with one more action at the end of its log. -/
lemma Printable.append {last : Entry} (hs : s.Printable) (hlog : s'.log = s.log ++ [last])
    (hsteps : s'.openSteps = s.openSteps) (hlast : IsAction last) (hwritable : last.IsWritable) :
    s'.Printable :=
  hs.concat (List.append_nil _).symm hlog hsteps (List.forall_mem_nil _) hlast hwritable

/-! ## Sums -/

/-- The values that an event adds up: the count of a run of moves that goes on, and the amounts of
two turns of the wheel at one place. -/
def sums (s : Session) : Event → List (Value × Value)
  | .pointer .move _ =>
    match s.buttonDown, s.tail? with
    | true, some (.mouseMove _ _ steps) => [(steps, .int 1)]
    | _, _ => []
  | .wheel t dx dy =>
    match s.tail? with
    | some (.wheel x y dx₀ dy₀) =>
      if x.same t.x && y.same t.y then [(dx₀, dx), (dy₀, dy)] else []
    | _ => []
  | _ => []

/-- A run of moves that goes on is counted. -/
lemma mem_sums_move {t : Target} {p : Value × Value} : p ∈ s.sums (.pointer .move t) ↔
    s.buttonDown = true ∧ ∃ x y n, s.tail? = some (.mouseMove x y n) ∧ p = (n, .int 1) := by
  show p ∈ (match s.buttonDown, s.tail? with
    | true, some (.mouseMove _ _ steps) => [(steps, Value.int 1)]
    | _, _ => []) ↔ _
  split
  next held tail => simp [held, tail]
  next hother =>
    refine ⟨nofun, ?_⟩
    rintro ⟨held, x, y, n, tail, -⟩
    exact (hother x y n held tail).elim

/-- Two turns of the wheel at one place are added up. -/
lemma mem_sums_wheel {t : Target} {dx dy : Value} {p : Value × Value} :
    p ∈ s.sums (.wheel t dx dy) ↔ ∃ x y dx₀ dy₀, s.tail? = some (.wheel x y dx₀ dy₀) ∧
      (x.same t.x && y.same t.y) = true ∧ (p = (dx₀, dx) ∨ p = (dy₀, dy)) := by
  show p ∈ (match s.tail? with
    | some (.wheel x y dx₀ dy₀) =>
      if x.same t.x && y.same t.y then [(dx₀, dx), (dy₀, dy)] else []
    | _ => []) ↔ _
  split
  next x y dx₀ dy₀ tail =>
    simp only [tail, Option.some.injEq, Entry.wheel.injEq]
    split
    next same =>
      constructor
      · intro hp
        exact ⟨x, y, dx₀, dy₀, ⟨rfl, rfl, rfl, rfl⟩, same, by simpa using hp⟩
      · rintro ⟨_, _, _, _, ⟨rfl, rfl, rfl, rfl⟩, -, hp⟩
        simpa using hp
    next apart =>
      refine ⟨nofun, ?_⟩
      rintro ⟨_, _, _, _, ⟨rfl, rfl, rfl, rfl⟩, same, -⟩
      exact absurd same apart
  next hother =>
    refine ⟨nofun, ?_⟩
    rintro ⟨x, y, dx₀, dy₀, tail, -⟩
    exact (hother x y dx₀ dy₀ tail).elim

/-- The last entry of a session that can be written down has fields with JSON forms. -/
lemma Printable.last {last : Entry} (hs : s.Printable) (tail : s.tail? = some last) :
    last.IsWritable :=
  (printable_iff.1 hs).2.1 last (List.mem_of_getLast? tail)

/-- The sums that an event calls for are there, and have JSON forms. -/
def AddsUp (s : Session) (e : Event) : Prop :=
  ∀ p ∈ s.sums e, ∃ u, p.1.add p.2 = .ok u ∧ u.IsWritable

/-- The count of a run of moves that goes on has a JSON form. -/
lemma AddsUp.move {t : Target} {x y n m : Value} (h : s.AddsUp (.pointer .move t))
    (held : s.buttonDown = true) (tail : s.tail? = some (.mouseMove x y n))
    (sum : n.add (.int 1) = .ok m) : m.IsWritable := by
  obtain ⟨u, hu, hwritable⟩ := h _ (mem_sums_move.2 ⟨held, x, y, n, tail, rfl⟩)
  obtain rfl := Except.ok.inj (sum.symm.trans hu)
  exact hwritable

/-- The amounts of two turns of the wheel at one place have JSON forms together. -/
lemma AddsUp.wheel {t : Target} {x y dx dy dx₀ dy₀ dx₁ dy₁ : Value} (h : s.AddsUp (.wheel t dx dy))
    (tail : s.tail? = some (.wheel x y dx₀ dy₀)) (same : (x.same t.x && y.same t.y) = true)
    (sum_x : dx₀.add dx = .ok dx₁) (sum_y : dy₀.add dy = .ok dy₁) :
    dx₁.IsWritable ∧ dy₁.IsWritable := by
  obtain ⟨u, hu, hdx⟩ := h _ (mem_sums_wheel.2 ⟨x, y, dx₀, dy₀, tail, same, .inl rfl⟩)
  obtain ⟨v, hv, hdy⟩ := h _ (mem_sums_wheel.2 ⟨x, y, dx₀, dy₀, tail, same, .inr rfl⟩)
  obtain rfl := Except.ok.inj (sum_x.symm.trans hu)
  obtain rfl := Except.ok.inj (sum_y.symm.trans hv)
  exact ⟨hdx, hdy⟩

/-! ## Events of the page -/

/-- A field of a record from the page has a JSON form, or the zero that stands in its place. -/
lemma isWritable_zeroField (hfields : ∀ f ∈ fields, f.2.IsWritable) (name : String) :
    (Value.fieldOr fields name (.int 0)).IsWritable :=
  Value.isWritable_fieldOr hfields (Value.isWritable_int.2 (by decide)) name

/-- The values that an event of the page adds up have JSON forms. -/
lemma Printable.isWritable_of_mem_sums {p : Value × Value} (hs : s.Printable)
    (he : Event.FromPage fields e) (hfields : ∀ f ∈ fields, f.2.IsWritable) (hp : p ∈ s.sums e) :
    p.1.IsWritable ∧ p.2.IsWritable := by
  cases he with
  | pointer kind =>
    cases kind with
    | move =>
      obtain ⟨-, x, y, n, tail, rfl⟩ := mem_sums_move.1 hp
      exact ⟨hs.last tail ("steps", n) (by simp [Entry.fields]),
        Value.isWritable_int.2 (by decide)⟩
    | _ => cases hp
  | wheel =>
    obtain ⟨x, y, dx, dy, tail, -, rfl | rfl⟩ := mem_sums_wheel.1 hp
    · exact ⟨hs.last tail ("delta_x", dx) (by simp [Entry.fields]), isWritable_zeroField hfields _⟩
    · exact ⟨hs.last tail ("delta_y", dy) (by simp [Entry.fields]), isWritable_zeroField hfields _⟩
  | key kind => cases kind <;> cases hp
  | navigation => cases hp

/-- The sums that an event of the page calls for are there if their parts can be added. -/
lemma Printable.addsUp_iff (hs : s.Printable) (he : Event.FromPage fields e)
    (hfields : ∀ f ∈ fields, f.2.IsWritable) :
    s.AddsUp e ↔ ∀ p ∈ s.sums e, p.1.addable p.2 = true := by
  refine forall₂_congr fun p hp => ?_
  obtain ⟨hleft, hright⟩ := hs.isWritable_of_mem_sums he hfields hp
  exact (Value.addable_iff hleft hright).symm

/-- **An event of the page is applied without a fault**, if the sums that it calls for are there. -/
theorem exists_apply (he : Event.FromPage fields e) (hsums : s.AddsUp e) :
    ∃ o, s.apply d e = .ok o := by
  suffices hrecord : ∃ o, s.record d e = .ok o by
    unfold apply
    split
    · exact hrecord
    · exact ⟨_, rfl⟩
  cases he with
  | pointer kind =>
    cases kind with
    | move =>
      show ∃ o, s.move _ _ = .ok o
      unfold move moveChange
      split
      next held =>
        split
        next x y n tail =>
          obtain ⟨m, hm, -⟩ := hsums _ (mem_sums_move.2 ⟨held, x, y, n, tail, rfl⟩)
          rw [hm]
          exact ⟨_, rfl⟩
        next => exact ⟨_, rfl⟩
      next => exact ⟨_, rfl⟩
    | _ => exact ⟨_, rfl⟩
  | wheel =>
    show ∃ o, s.wheel _ _ _ _ = .ok o
    unfold wheel wheelChange
    split
    next x y dx₀ dy₀ tail =>
      split
      next same =>
        obtain ⟨dx, hdx, -⟩ :=
          hsums _ (mem_sums_wheel.2 ⟨x, y, dx₀, dy₀, tail, same, .inl rfl⟩)
        obtain ⟨dy, hdy, -⟩ :=
          hsums _ (mem_sums_wheel.2 ⟨x, y, dx₀, dy₀, tail, same, .inr rfl⟩)
        rw [hdx, hdy]
        exact ⟨_, rfl⟩
      next => exact ⟨_, rfl⟩
    next => exact ⟨_, rfl⟩
  | key kind =>
    have hmodifiers (ms : List Modifier) : (Modifier.toValue ms).IsTextList := by
      intro item hitem
      obtain ⟨m, -, rfl⟩ := List.mem_map.1 hitem
      exact True.intro
    have hkey : (Value.str (Value.fieldOr fields "key" .none).shown).IsText := True.intro
    obtain ⟨label, hlabel⟩ :=
      KeyLabel.exists_make hkey (hmodifiers (Event.payloadModifiers fields))
    cases kind <;> exact ⟨_, by rw [record, hlabel]; rfl⟩
  | navigation => exact ⟨_, rfl⟩

/-- **A session can be written down after an event of the page**, if the sums that the event called
for have JSON forms.

**Proof sketch.** One case for each rule. An action is appended, or takes the place of one or two
actions at the end of the log, so the log can still be rendered. The values of the new action are
those of the page, which have JSON forms, and sums. -/
theorem Printable.accept (hs : s.Printable) (step : Accepts d s e s')
    (he : Event.FromPage fields e) (hfields : ∀ f ∈ fields, f.2.IsWritable)
    (hsums : s.AddsUp e) : s'.Printable := by
  have hx : (Event.payloadTarget fields).x.IsWritable := isWritable_zeroField hfields _
  have hy : (Event.payloadTarget fields).y.IsWritable := isWritable_zeroField hfields _
  have htail {front : List Entry} {last : Entry} (tail : s.log = front ++ [last]) :
      s.tail? = some last := by rw [tail?, tail, List.getLast?_concat]
  have hplace {last : Entry} (hfields : last.fields = [("x", (Event.payloadTarget fields).x),
      ("y", (Event.payloadTarget fields).y)]) : last.IsWritable := by
    rw [Entry.IsWritable, hfields]
    simpa using ⟨hx, hy⟩
  have hlabel {last : Entry} {label : String} (hfields : last.fields = [("label", .str label)]) :
      last.IsWritable := by
    rw [Entry.IsWritable, hfields, List.forall_mem_singleton]
    rfl
  cases step with
  | press t =>
    cases he
    exact hs.append rfl rfl ⟨_, rfl⟩ (hplace rfl)
  | move t held first =>
    cases he
    have hzero : (Value.int 0).IsWritable := Value.isWritable_int.2 (by decide)
    exact hs.append rfl rfl ⟨_, rfl⟩
      (by simpa [Entry.IsWritable, Entry.fields] using ⟨hx, hy, hzero⟩)
  | moveOn t held front x y n m tail sum =>
    cases he
    have hm := hsums.move held (htail tail) sum
    exact hs.concat tail rfl rfl (List.forall_mem_singleton.2 ⟨_, rfl⟩) ⟨_, rfl⟩
      (by simpa [Entry.IsWritable, Entry.fields] using ⟨hx, hy, hm⟩)
  | release t apart => exact hs.append rfl rfl ⟨_, rfl⟩ (List.forall_mem_nil _)
  | click t front x y tail =>
    have hpress : (Entry.mouseDown x y).IsWritable := hs.last (htail tail)
    exact hs.concat tail rfl rfl (List.forall_mem_singleton.2 ⟨_, rfl⟩) ⟨_, rfl⟩ hpress
  | doubleClick t apart =>
    cases he
    exact hs.append rfl rfl ⟨_, rfl⟩ (hplace rfl)
  | doubleClickMerged t front x y x' y' tail =>
    cases he
    exact hs.concat tail rfl rfl (by simpa using ⟨⟨_, rfl⟩, ⟨_, rfl⟩⟩) ⟨_, rfl⟩ (hplace rfl)
  | wheel t dx dy apart =>
    cases he
    have hdx := isWritable_zeroField hfields "deltaX"
    have hdy := isWritable_zeroField hfields "deltaY"
    exact hs.append rfl rfl ⟨_, rfl⟩
      (by simpa [Entry.IsWritable, Entry.fields] using ⟨hx, hy, hdx, hdy⟩)
  | wheelOn t dx dy front x y dx₀ dy₀ dx₁ dy₁ tail same_x same_y sum_x sum_y =>
    have same : (x.same t.x && y.same t.y) = true := Bool.and_eq_true_iff.2 ⟨same_x, same_y⟩
    obtain ⟨hdx, hdy⟩ := hsums.wheel (htail tail) same sum_x sum_y
    have hentry : (Entry.wheel x y dx₀ dy₀).IsWritable := hs.last (htail tail)
    have hx₀ := hentry ("x", x) (by simp [Entry.fields])
    have hy₀ := hentry ("y", y) (by simp [Entry.fields])
    exact hs.concat tail rfl rfl (List.forall_mem_singleton.2 ⟨_, rfl⟩) ⟨_, rfl⟩
      (by simpa [Entry.IsWritable, Entry.fields] using ⟨hx₀, hy₀, hdx, hdy⟩)
  | keyDown key modifiers label made => exact hs.append rfl rfl ⟨_, rfl⟩ (hlabel rfl)
  | keyUp key modifiers label made apart => exact hs.append rfl rfl ⟨_, rfl⟩ (hlabel rfl)
  | keyPress key modifiers label made front l tail same =>
    obtain rfl : l = .str label := by
      cases l with
      | str t => exact congrArg Value.str (eq_of_beq same)
      | _ => cases same
    exact hs.concat tail rfl rfl (List.forall_mem_singleton.2 ⟨_, rfl⟩) ⟨_, rfl⟩ (hlabel rfl)
  | navigation url =>
    cases he
    refine hs.append rfl rfl (isAction_of_renderable True.intro ?_ True.intro) ?_
    · exact List.forall_mem_singleton.2 rfl
    · exact List.forall_mem_singleton.2 rfl
  | screenshot | stepStart | stepEnd | comment => cases he

/-- The sums that an event of the page called for have JSON forms, if it left a session that can be
written down. -/
lemma addsUp_of_apply {o : Outcome} (he : Event.FromPage fields e) (hr : s.recording = true)
    (hout : s.apply d e = .ok o) (ho : o.session.Printable) : s.AddsUp e := by
  have hadded {last : Entry} (hlast : o.session.log = s.log.dropLast ++ [last]) :
      last.IsWritable := ho.last (by rw [tail?, hlast, List.getLast?_concat])
  rw [apply, if_pos hr] at hout
  intro p hp
  cases he with
  | pointer kind =>
    cases kind with
    | move =>
      obtain ⟨held, x, y, n, tail, rfl⟩ := mem_sums_move.1 hp
      change s.move _ _ = .ok o at hout
      rw [move, if_pos held, tail, moveChange] at hout
      obtain ⟨c, hc, rfl⟩ := exists_of_map hout
      obtain ⟨m, hm, rfl⟩ := exists_of_map hc
      exact ⟨m, hm, hadded rfl ("steps", m) (by simp [Entry.fields])⟩
    | _ => cases hp
  | wheel =>
    obtain ⟨x, y, dx₀, dy₀, tail, same, hp⟩ := mem_sums_wheel.1 hp
    change s.wheel _ _ _ _ = .ok o at hout
    rw [wheel, tail, wheelChange, if_pos same] at hout
    obtain ⟨c, hc, rfl⟩ := exists_of_map hout
    obtain ⟨dx, hdx, hc⟩ := exists_of_bind hc
    obtain ⟨dy, hdy, hc⟩ := exists_of_bind hc
    obtain rfl := Except.ok.inj hc
    have hentry : (Entry.wheel x y dx dy).IsWritable := hadded rfl
    rcases hp with rfl | rfl
    · exact ⟨dx, hdx, hentry ("delta_x", dx) (by simp [Entry.fields])⟩
    · exact ⟨dy, hdy, hentry ("delta_y", dy) (by simp [Entry.fields])⟩
  | key kind => cases kind <;> cases hp
  | navigation => cases hp

/-- **An event of the page is applied, and leaves a session that can be written down, exactly if the
values that it adds up can be added.** -/
theorem exists_apply_iff (he : Event.FromPage fields e) (hfields : ∀ f ∈ fields, f.2.IsWritable)
    (hs : s.Printable) (hr : s.recording = true) :
    (∃ o, s.apply d e = .ok o ∧ o.session.Printable) ↔
      ∀ p ∈ s.sums e, p.1.addable p.2 = true := by
  rw [← hs.addsUp_iff he hfields]
  constructor
  · rintro ⟨o, hout, ho⟩
    exact addsUp_of_apply he hr hout ho
  · intro hsums
    obtain ⟨o, hout⟩ := exists_apply (d := d) he hsums
    refine ⟨o, hout, ?_⟩
    have hfits := (fits_of_apply hout).1
    unfold Fits at hfits
    split at hfits
    next => exact hs.accept hfits he hfields hsums
    next => exact hfits ▸ hs

end Session

end SessionRecorder
