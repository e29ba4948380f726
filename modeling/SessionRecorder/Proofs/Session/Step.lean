import Mathlib.Tactic.Common
import SessionRecorder.Proofs.WellTyped
/-!
# What an event does to a session

Every way in which an accepted event changes a session, with the condition under which it does so.
An event that is not accepted leaves the session as it is. Whatever is preserved by the rules
below is preserved by recordings of any length.

## Main definitions

* `Session.Accepts` — one rule for each way in which an event is accepted.
* `Session.Fits` — what may come of an event.

## Main results

* `Session.fits_of_apply` — an event that is applied follows a rule or leaves no mark.
* `Session.Accepts.wellTyped` — a well-typed event keeps a session well-typed.
-/

namespace SessionRecorder

namespace Session

/-! ## Ends of logs -/

/-- The last entry of a log that is divided at another one is that one, or it stands behind it. -/
lemma concat_eq_cases {before front rest : List Entry} {last next : Entry}
    (h : before ++ [last] = front ++ next :: rest) :
    rest = [] ∧ before = front ∧ last = next ∨
      ∃ between, rest = between ++ [last] ∧ before = front ++ next :: between := by
  rcases List.eq_nil_or_concat rest with rfl | ⟨between, z, rfl⟩
  · obtain ⟨hbefore, hlast⟩ := List.append_inj' h rfl
    exact .inl ⟨rfl, hbefore, List.singleton_inj.1 hlast⟩
  · rw [List.concat_eq_append, ← List.cons_append, ← List.append_assoc] at h
    obtain ⟨hbefore, hlast⟩ := List.append_inj' h rfl
    obtain rfl := List.singleton_inj.1 hlast
    exact .inr ⟨between, List.concat_eq_append, hbefore⟩

/-! ## The rules -/

/-- An event is accepted by a session and turns it into another one. A step without a name is
called `d`. -/
inductive Accepts (d : Value) (s : Session) : Event → Session → Prop
  | press (t : Target) :
    Accepts d s (.pointer .down t)
      { s with log := s.log ++ [.mouseDown t.x t.y], buttonDown := true }
  | move (t : Target) (held : s.buttonDown = true)
    (first : ∀ x y n, s.log.getLast? ≠ some (.mouseMove x y n)) :
    Accepts d s (.pointer .move t) { s with log := s.log ++ [.mouseMove t.x t.y (.int 0)] }
  | moveOn (t : Target) (held : s.buttonDown = true) (front : List Entry) (x y n m : Value)
    (tail : s.log = front ++ [.mouseMove x y n]) (sum : n.add (.int 1) = .ok m) :
    Accepts d s (.pointer .move t) { s with log := front ++ [.mouseMove t.x t.y m] }
  | release (t : Target) (apart : ∀ x y, s.log.getLast? ≠ some (.mouseDown x y)) :
    Accepts d s (.pointer .up t) { s with log := s.log ++ [.mouseUp], buttonDown := false }
  | click (t : Target) (front : List Entry) (x y : Value)
    (tail : s.log = front ++ [.mouseDown x y]) :
    Accepts d s (.pointer .up t) { s with log := front ++ [.click x y], buttonDown := false }
  | doubleClick (t : Target) (apart : endsInTwoClicks s.log = false) :
    Accepts d s (.pointer .doubleClick t) { s with log := s.log ++ [.doubleClick t.x t.y] }
  | doubleClickMerged (t : Target) (front : List Entry) (x y x' y' : Value)
    (tail : s.log = front ++ [.click x y, .click x' y']) :
    Accepts d s (.pointer .doubleClick t) { s with log := front ++ [.doubleClick t.x t.y] }
  | wheel (t : Target) (dx dy : Value)
    (apart : ∀ x y dx₀ dy₀, s.log.getLast? = some (.wheel x y dx₀ dy₀) →
      (x.same t.x && y.same t.y) = false) :
    Accepts d s (.wheel t dx dy) { s with log := s.log ++ [.wheel t.x t.y dx dy] }
  | wheelOn (t : Target) (dx dy : Value) (front : List Entry) (x y dx₀ dy₀ dx₁ dy₁ : Value)
    (tail : s.log = front ++ [.wheel x y dx₀ dy₀]) (same_x : x.same t.x = true)
    (same_y : y.same t.y = true) (sum_x : dx₀.add dx = .ok dx₁) (sum_y : dy₀.add dy = .ok dy₁) :
    Accepts d s (.wheel t dx dy) { s with log := front ++ [.wheel x y dx₁ dy₁] }
  | keyDown (key modifiers : Value) (label : String)
    (made : KeyLabel.make key modifiers = .ok label) :
    Accepts d s (.key .down key modifiers) { s with log := s.log ++ [.keyDown (.str label)] }
  | keyUp (key modifiers : Value) (label : String)
    (made : KeyLabel.make key modifiers = .ok label)
    (apart : endsInKeyDown s.log.getLast? label = false) :
    Accepts d s (.key .up key modifiers) { s with log := s.log ++ [.keyUp (.str label)] }
  | keyPress (key modifiers : Value) (label : String)
    (made : KeyLabel.make key modifiers = .ok label) (front : List Entry) (l : Value)
    (tail : s.log = front ++ [.keyDown l]) (same : l.same (.str label) = true) :
    Accepts d s (.key .up key modifiers) { s with log := front ++ [.keyPress (.str label)] }
  | screenshot (name image locator : Value) (region : Region) :
    Accepts d s (.screenshot name image locator region)
      { s with log := s.log ++ [.screenshot name locator region] }
  | stepStart (name : Value) :
    Accepts d s (.stepStart name)
      { s with
        log := s.log ++ [.step (.str "start") (name.orElse d)]
        openSteps := s.openSteps ++ [name.orElse d] }
  | stepEnd (outer : List Value) (name : Value) (inside : s.openSteps = outer ++ [name]) :
    Accepts d s .stepEnd
      { s with log := s.log ++ [.step (.str "end") name], openSteps := outer }
  | comment (text : Value) :
    Accepts d s (.comment text) { s with log := s.log ++ [.comment text] }
  | navigation (url : Value) :
    Accepts d s (.navigation url) { s with log := s.log ++ [.navigation url] }

/-- What may come of an event: it is accepted by a rule, or it leaves no mark. -/
def Fits (d : Value) (s : Session) (e : Event) (o : Outcome) : Prop :=
  if o.accepted then Accepts d s e o.session else o.session = s

/-- An event that is ignored leaves no mark. -/
lemma fits_ignore (d : Value) (s : Session) (e : Event) : Fits d s e s.ignore := rfl

/-! ## Each event follows its rules -/

section

variable {d : Value} {s : Session} {o : Outcome}

/-- A move extends the run at the end of the log, or begins one. -/
lemma fits_move {t : Target} (h : s.move t.x t.y = .ok o) : Fits d s (.pointer .move t) o := by
  unfold move at h
  split at h
  next held =>
    unfold moveChange at h
    split at h
    next x y n tail =>
      obtain ⟨front, hlog⟩ := List.getLast?_eq_some_iff.1 tail
      cases sum : n.add (.int 1) with
      | error f => simp [sum, Except.map] at h
      | ok m =>
        obtain rfl : _ = o := by simpa [sum, Except.map] using h
        simpa [Fits, change, Change.applyTo, hlog] using
          Accepts.moveOn (d := d) t held front x y n m hlog sum
    next first =>
      obtain rfl : _ = o := by simpa [Except.map] using h
      exact .move t held fun x y n tail => first x y n tail
  next =>
    obtain rfl : s.ignore = o := by simpa using h
    exact fits_ignore d s _

/-- A release makes a click of a press right before it. -/
lemma fits_release (t : Target) : Fits d s (.pointer .up t) (s.release t.x t.y) := by
  unfold release
  dsimp only
  split
  next x y tail =>
    obtain ⟨front, hlog⟩ := List.getLast?_eq_some_iff.1 tail
    have hlog : s.log = front ++ [.mouseDown x y] := hlog
    simpa [Fits, change, Change.applyTo, hlog] using Accepts.click (d := d) t front x y hlog
  next apart => exact .release t apart

/-- A log ends with two clicks if it is known to. -/
lemma exists_of_endsInTwoClicks {log : List Entry} (h : endsInTwoClicks log = true) :
    ∃ front x y x' y', log = front ++ [.click x y, .click x' y'] := by
  unfold endsInTwoClicks at h
  split at h
  next x' y' x y rest hrev =>
    refine ⟨rest.reverse, x, y, x', y', ?_⟩
    rw [← List.reverse_reverse log, hrev]
    simp
  next => cases h

/-- A double click takes the place of two clicks right before it. -/
lemma fits_doubleClick (t : Target) :
    Fits d s (.pointer .doubleClick t) (s.doubleClick t.x t.y) := by
  cases h : endsInTwoClicks s.log with
  | true =>
    obtain ⟨front, x, y, x', y', hlog⟩ := exists_of_endsInTwoClicks h
    have hdrop : s.log.dropLast.dropLast = front := by
      rw [hlog, show front ++ [Entry.click x y, .click x' y'] =
        (front ++ [.click x y]) ++ [.click x' y'] by simp, List.dropLast_concat,
        List.dropLast_concat]
    simpa [Fits, doubleClick, change, Change.applyTo, h, hdrop] using
      Accepts.doubleClickMerged (d := d) t front x y x' y' hlog
  | false =>
    simpa [Fits, doubleClick, change, Change.applyTo, h] using Accepts.doubleClick (d := d) t h

/-- A turn of the wheel is added to one at the same place right before it. -/
lemma fits_wheel {t : Target} {dx dy : Value} (h : s.wheel t.x t.y dx dy = .ok o) :
    Fits d s (.wheel t dx dy) o := by
  unfold wheel wheelChange at h
  split at h
  next x y dx₀ dy₀ tail =>
    obtain ⟨front, hlog⟩ := List.getLast?_eq_some_iff.1 tail
    split at h
    next same =>
      obtain ⟨same_x, same_y⟩ := Bool.and_eq_true_iff.1 same
      cases sum_x : dx₀.add dx with
      | error f => simp [sum_x, bind, Except.bind, Except.map] at h
      | ok dx₁ =>
        cases sum_y : dy₀.add dy with
        | error f => simp [sum_x, sum_y, bind, Except.bind, Except.map] at h
        | ok dy₁ =>
          obtain rfl : _ = o := by
            simpa [sum_x, sum_y, bind, Except.bind, Except.map, pure, Except.pure] using h
          simpa [Fits, change, Change.applyTo, hlog] using
            Accepts.wheelOn (d := d) t dx dy front x y dx₀ dy₀ dx₁ dy₁ hlog same_x same_y sum_x
              sum_y
    next apart =>
      obtain rfl : _ = o := by simpa [Except.map] using h
      refine .wheel t dx dy fun x' y' dx' dy' tail' => ?_
      rw [show s.log.getLast? = _ from tail, Option.some.injEq, Entry.wheel.injEq] at tail'
      obtain ⟨rfl, rfl, -, -⟩ := tail'
      simpa using apart
  next apart =>
    obtain rfl : _ = o := by simpa [Except.map] using h
    exact .wheel t dx dy fun x y dx₀ dy₀ tail => (apart x y dx₀ dy₀ tail).elim

/-- A key that goes up is typed if it went down right before. -/
lemma fits_keyUp {key modifiers : Value} {label : String}
    (made : KeyLabel.make key modifiers = .ok label) :
    Fits d s (.key .up key modifiers) (s.keyUp label) := by
  cases h : endsInKeyDown s.tail? label with
  | true =>
    unfold endsInKeyDown at h
    split at h
    next l tail =>
      obtain ⟨front, hlog⟩ := List.getLast?_eq_some_iff.1 tail
      have hd : endsInKeyDown s.tail? label = true := by simp [endsInKeyDown, tail, h]
      simpa [Fits, keyUp, hd, change, Change.applyTo, hlog] using
        Accepts.keyPress (d := d) key modifiers label made front l hlog h
    next => cases h
  | false =>
    simpa [Fits, keyUp, h, change, Change.applyTo] using
      Accepts.keyUp (d := d) key modifiers label made h

/-- The end of a step closes the innermost one, if one is open. -/
lemma fits_endStep : Fits d s .stepEnd s.endStep := by
  unfold endStep
  split
  next => rfl
  next name inside =>
    obtain ⟨outer, hsteps⟩ := List.getLast?_eq_some_iff.1 inside
    simpa [Fits, change, Change.applyTo, hsteps] using
      Accepts.stepEnd (d := d) (s := s) outer name hsteps

/-- An event that is recorded follows a rule or leaves no mark. -/
lemma fits_of_record {e : Event} (h : s.record d e = .ok o) : Fits d s e o := by
  cases e with
  | pointer kind t =>
    cases kind with
    | down =>
      obtain rfl := Except.ok.inj h
      exact .press t
    | move => exact fits_move h
    | up =>
      obtain rfl := Except.ok.inj h
      exact fits_release t
    | doubleClick =>
      obtain rfl := Except.ok.inj h
      exact fits_doubleClick t
  | wheel t dx dy => exact fits_wheel h
  | key kind key modifiers =>
    cases made : KeyLabel.make key modifiers with
    | error f => cases kind <;> simp [record, made, Except.map] at h
    | ok label =>
      cases kind with
      | down =>
        obtain rfl : s.keyDown label = o := by simpa [record, made, Except.map] using h
        exact .keyDown key modifiers label made
      | up =>
        obtain rfl : s.keyUp label = o := by simpa [record, made, Except.map] using h
        exact fits_keyUp made
  | screenshot name image locator region =>
    obtain rfl := Except.ok.inj h
    exact .screenshot name image locator region
  | stepStart name =>
    obtain rfl := Except.ok.inj h
    exact .stepStart name
  | stepEnd =>
    obtain rfl := Except.ok.inj h
    exact fits_endStep
  | comment text =>
    obtain rfl := Except.ok.inj h
    exact .comment text
  | navigation url =>
    obtain rfl := Except.ok.inj h
    exact .navigation url
  | unknown shown => cases h

/-- **An event that is applied follows a rule or leaves no mark.** It follows one only while the
session records. -/
theorem fits_of_apply {e : Event} (h : s.apply d e = .ok o) :
    Fits d s e o ∧ (o.accepted = true → s.recording = true) := by
  unfold apply at h
  split at h
  next hr => exact ⟨fits_of_record h, fun _ => hr⟩
  next =>
    obtain rfl := Except.ok.inj h
    exact ⟨fits_ignore d s e, fun ha => by cases ha⟩

end

/-! ## Kinds of fields -/

/-- The steps that are open and the front of the log stay well-typed with another entry at the
end. -/
lemma WellTyped.concat {s s' : Session} {front back : List Entry} {e : Entry} (hs : s.WellTyped)
    (hlog : s.log = front ++ back) (hlog' : s'.log = front ++ [e]) (he : e.WellTyped)
    (hsteps : s'.openSteps = s.openSteps) : s'.WellTyped where
  log := by
    rw [hlog', List.forall_mem_append, List.forall_mem_singleton]
    exact ⟨(List.forall_mem_append.1 (hlog ▸ hs.log)).1, he⟩
  openSteps := hsteps ▸ hs.openSteps

/-- The last entry of a well-typed session is well-typed. -/
lemma WellTyped.last {s : Session} {front : List Entry} {e : Entry} (hs : s.WellTyped)
    (hlog : s.log = front ++ [e]) : e.WellTyped :=
  hs.log e (by simp [hlog])

/-- **A well-typed event keeps a session well-typed.** -/
theorem Accepts.wellTyped {d : Value} {s s' : Session} {e : Event} (h : Accepts d s e s')
    (hd : d.IsText) (he : e.WellTyped) (hs : s.WellTyped) : s'.WellTyped := by
  have hend : s.log = s.log ++ [] := by simp
  cases h with
  | press t => exact hs.concat hend rfl ⟨he.x, he.y⟩ rfl
  | move t held first => exact hs.concat hend rfl ⟨he.x, he.y, True.intro⟩ rfl
  | moveOn t held front x y n m tail sum =>
    obtain ⟨i, rfl⟩ := (hs.last tail).2.2.exists_eq
    obtain rfl := Except.ok.inj sum
    exact hs.concat tail rfl ⟨he.x, he.y, True.intro⟩ rfl
  | release t apart => exact hs.concat hend rfl True.intro rfl
  | click t front x y tail =>
    obtain ⟨hx, hy⟩ := hs.last tail
    exact hs.concat tail rfl ⟨hx, hy⟩ rfl
  | doubleClick t apart => exact hs.concat hend rfl ⟨he.x, he.y⟩ rfl
  | doubleClickMerged t front x y x' y' tail => exact hs.concat tail rfl ⟨he.x, he.y⟩ rfl
  | wheel t dx dy apart => exact hs.concat hend rfl ⟨he.1.x, he.1.y, he.2.1, he.2.2⟩ rfl
  | wheelOn t dx dy front x y dx₀ dy₀ dx₁ dy₁ tail same_x same_y sum_x sum_y =>
    obtain ⟨hx, hy, hdx, hdy⟩ := hs.last tail
    exact hs.concat tail rfl ⟨hx, hy, hdx.add he.2.1 sum_x, hdy.add he.2.2 sum_y⟩ rfl
  | keyDown key modifiers label made => exact hs.concat hend rfl True.intro rfl
  | keyUp key modifiers label made apart => exact hs.concat hend rfl True.intro rfl
  | keyPress key modifiers label made front l tail same =>
    exact hs.concat tail rfl True.intro rfl
  | screenshot name image locator region =>
    exact hs.concat hend rfl ⟨he.1, he.2.2.1, he.2.2.2⟩ rfl
  | stepStart name =>
    have hname : (name.orElse d).IsText := Value.IsOptionalText.isText_orElse he hd
    exact ⟨List.forall_mem_append.2 ⟨hs.log, by simpa using ⟨True.intro, hname.isOptionalText⟩⟩,
      List.forall_mem_append.2 ⟨hs.openSteps, by simpa using hname⟩⟩
  | stepEnd outer name inside =>
    have hsteps := hs.openSteps
    rw [inside, List.forall_mem_append, List.forall_mem_singleton] at hsteps
    exact ⟨List.forall_mem_append.2
      ⟨hs.log, by simpa using ⟨True.intro, hsteps.2.isOptionalText⟩⟩, hsteps.1⟩
  | comment text => exact hs.concat hend rfl he rfl
  | navigation url => exact hs.concat hend rfl he rfl

end Session

end SessionRecorder
