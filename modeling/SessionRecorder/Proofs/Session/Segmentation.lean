import Mathlib.Algebra.BigOperators.Group.List.Basic
import Mathlib.Algebra.Ring.Int.Defs
import Mathlib.Data.List.Forall2
import SessionRecorder.Proofs.Session.Step
/-!
# The log as a segmentation of the accepted events

The log is an exact account of what was accepted: the accepted events, in order, fall into
consecutive blocks, one block for each entry and in the order of the log. The merges only ever join
the blocks at the end, so nothing is lost, counted twice or put under another entry.

## Main definitions

* `Entry.Covers` — the blocks of events that an entry stands for.
* `Session.Segments` — a list of events falls into blocks for the entries of a log.
* `Session.applyAll` — events applied in order, with those among them that were accepted.

## Main results

* `Session.Segments.accept` — an accepted event keeps the log a segmentation.
* `Session.segments_log_of_fresh` — the log of every recording is one.
-/

namespace SessionRecorder

/-! ## Blocks -/

/-- The blocks of events that an entry stands for, steps without a name being called `d`. -/
inductive Entry.Covers (d : Value) : Entry → List Event → Prop
  | mouseDown (t : Target) : Covers d (.mouseDown t.x t.y) [.pointer .down t]
  | mouseMove (before : List Target) (t : Target) :
    Covers d (.mouseMove t.x t.y (.int before.length))
      (before.map (.pointer .move) ++ [.pointer .move t])
  | mouseUp (t : Target) : Covers d .mouseUp [.pointer .up t]
  | click (t u : Target) : Covers d (.click t.x t.y) [.pointer .down t, .pointer .up u]
  | doubleClick (t : Target) : Covers d (.doubleClick t.x t.y) [.pointer .doubleClick t]
  | doubleClickOfClicks (t u t' u' v : Target) :
    Covers d (.doubleClick v.x v.y)
      [.pointer .down t, .pointer .up u, .pointer .down t', .pointer .up u',
        .pointer .doubleClick v]
  | wheel (t : Target) (dx dy : Int) (more : List (Target × Int × Int))
    (same : ∀ turn ∈ more, t.x.same turn.1.x = true ∧ t.y.same turn.1.y = true) :
    Covers d
      (.wheel t.x t.y (.int (dx + (more.map (·.2.1)).sum)) (.int (dy + (more.map (·.2.2)).sum)))
      (.wheel t (.int dx) (.int dy) ::
        more.map fun turn => .wheel turn.1 (.int turn.2.1) (.int turn.2.2))
  | keyDown (key modifiers : Value) (label : String)
    (made : KeyLabel.make key modifiers = .ok label) :
    Covers d (.keyDown (.str label)) [.key .down key modifiers]
  | keyUp (key modifiers : Value) (label : String)
    (made : KeyLabel.make key modifiers = .ok label) :
    Covers d (.keyUp (.str label)) [.key .up key modifiers]
  | keyPress (key modifiers key' modifiers' : Value) (label : String)
    (made : KeyLabel.make key modifiers = .ok label)
    (made' : KeyLabel.make key' modifiers' = .ok label) :
    Covers d (.keyPress (.str label)) [.key .down key modifiers, .key .up key' modifiers']
  | screenshot (name image locator : Value) (region : Region) :
    Covers d (.screenshot name locator region) [.screenshot name image locator region]
  | stepStart (name : Value) :
    Covers d (.step (.str "start") (name.orElse d)) [.stepStart name]
  | stepEnd (name : Value) : Covers d (.step (.str "end") name) [.stepEnd]
  | comment (text : Value) : Covers d (.comment text) [.comment text]
  | navigation (url : Value) : Covers d (.navigation url) [.navigation url]

namespace Session

/-- A list of events falls into consecutive blocks, one for each entry of a log. -/
def Segments (d : Value) (log : List Entry) (events : List Event) : Prop :=
  ∃ blocks, List.Forall₂ (Entry.Covers d) log blocks ∧ blocks.flatten = events

/-- The session after events in order, and those among them that were accepted. -/
def applyAll (d : Value) (s : Session) : List Event → Except Fault (Session × List Event)
  | [] => .ok (s, [])
  | e :: rest => do
    let o ← s.apply d e
    let (s, accepted) ← o.session.applyAll d rest
    return (s, if o.accepted then e :: accepted else accepted)

end Session

variable {d : Value}

/-- The block of a run of moves: as many moves as it has steps, and one more. -/
lemma Entry.Covers.of_mouseMove {x y n : Value} {block : List Event}
    (h : (Entry.mouseMove x y n).Covers d block) :
    ∃ ts : List Target, n.add (.int 1) = .ok (.int ts.length) ∧
      block = ts.map (.pointer .move) := by
  cases h with
  | mouseMove before t => exact ⟨before ++ [t], by simp, by simp⟩

/-- The block of a press. -/
lemma Entry.Covers.of_mouseDown {x y : Value} {block : List Event}
    (h : (Entry.mouseDown x y).Covers d block) :
    ∃ t : Target, x = t.x ∧ y = t.y ∧ block = [.pointer .down t] := by
  cases h with
  | mouseDown t => exact ⟨t, rfl, rfl, rfl⟩

/-- The block of a click. -/
lemma Entry.Covers.of_click {x y : Value} {block : List Event}
    (h : (Entry.click x y).Covers d block) :
    ∃ t u : Target, block = [.pointer .down t, .pointer .up u] := by
  cases h with
  | click t u => exact ⟨t, u, rfl⟩

/-- The deltas of an entry for the wheel are whole numbers. -/
lemma Entry.Covers.exists_int {x y dx dy : Value} {block : List Event}
    (h : (Entry.wheel x y dx dy).Covers d block) : ∃ i j, dx = .int i ∧ dy = .int j := by
  cases h with
  | wheel t i j more same => exact ⟨_, _, rfl, rfl⟩

/-- The block of an entry for the wheel takes one more turn at the same place. -/
lemma Entry.Covers.wheel_append {x y : Value} {i j i' j' : Int} {block : List Event}
    {t : Target} (h : (Entry.wheel x y (.int i) (.int j)).Covers d block)
    (same_x : x.same t.x = true) (same_y : y.same t.y = true) :
    (Entry.wheel x y (.int (i + i')) (.int (j + j'))).Covers d
      (block ++ [.wheel t (.int i') (.int j')]) := by
  cases h with
  | wheel u dx dy more same =>
    have hm := Entry.Covers.wheel (d := d) u dx dy (more ++ [(t, i', j')]) (by
      intro turn hturn
      rcases List.mem_append.1 hturn with hold | hnew
      · exact same turn hold
      · obtain rfl := List.mem_singleton.1 hnew
        exact ⟨same_x, same_y⟩)
    simpa [add_assoc] using hm

/-- The block of a key that went down. -/
lemma Entry.Covers.of_keyDown {l : Value} {block : List Event}
    (h : (Entry.keyDown l).Covers d block) :
    ∃ key modifiers label, l = .str label ∧ KeyLabel.make key modifiers = .ok label ∧
      block = [.key .down key modifiers] := by
  cases h with
  | keyDown key modifiers label made => exact ⟨key, modifiers, label, rfl, made, rfl⟩

namespace Session

/-! ## Segmentations at their end -/

/-- One more entry takes one more block. -/
lemma Segments.append {log : List Entry} {events block : List Event} {e : Entry}
    (h : Segments d log events) (he : e.Covers d block) :
    Segments d (log ++ [e]) (events ++ block) := by
  obtain ⟨blocks, hb, rfl⟩ := h
  exact ⟨blocks ++ [block], List.rel_append hb (.cons he .nil), by simp⟩

/-- The events of a log that ends with an entry end with a block of that entry. -/
lemma Segments.of_append {log : List Entry} {events : List Event} {e : Entry}
    (h : Segments d (log ++ [e]) events) :
    ∃ before block, Segments d log before ∧ e.Covers d block ∧ before ++ block = events := by
  obtain ⟨blocks, hb, rfl⟩ := h
  have hfront := List.forall₂_take_append _ _ _ hb.flip
  have hlast := List.forall₂_drop_append _ _ _ hb.flip
  obtain ⟨block, he, hdrop⟩ : ∃ block, e.Covers d block ∧ blocks.drop log.length = [block] := by
    cases hdrop : blocks.drop log.length with
    | nil => rw [hdrop] at hlast; cases hlast
    | cons block rest =>
      rw [hdrop] at hlast
      cases hlast with
      | cons he hrest =>
        cases hrest with
        | nil => exact ⟨block, he, rfl⟩
  refine ⟨(blocks.take log.length).flatten, block, ⟨_, hfront.flip, rfl⟩, he, ?_⟩
  conv_rhs => rw [← List.take_append_drop log.length blocks, hdrop]
  simp

/-! ## Steps -/

/-- **An accepted event keeps the log a segmentation of the accepted events.**

**Proof sketch.** One case for each rule. A rule that appends an entry appends the block of that one
event. A rule that merges takes the block of the last entry (for a double click, of the last two)
and the event as the block of the new entry. -/
lemma Segments.accept {s s' : Session} {events : List Event} {e : Event}
    (h : Segments d s.log events) (step : Accepts d s e s') (whole : e.TurnsWhole) :
    Segments d s'.log (events ++ [e]) := by
  cases step with
  | press t => exact h.append (.mouseDown t)
  | move t held first => exact h.append (.mouseMove [] t)
  | moveOn t held front x y n m tail sum =>
    rw [tail] at h
    obtain ⟨before, block, hfront, hrun, rfl⟩ := h.of_append
    obtain ⟨ts, hn, rfl⟩ := hrun.of_mouseMove
    obtain rfl : Value.int ts.length = m := by simpa [hn] using sum
    rw [List.append_assoc]
    exact hfront.append (.mouseMove ts t)
  | release t apart => exact h.append (.mouseUp t)
  | click t front x y tail =>
    rw [tail] at h
    obtain ⟨before, block, hfront, hpress, rfl⟩ := h.of_append
    obtain ⟨u, rfl, rfl, rfl⟩ := hpress.of_mouseDown
    rw [List.append_assoc]
    exact hfront.append (.click u t)
  | doubleClick t apart => exact h.append (.doubleClick t)
  | doubleClickMerged t front x y x' y' tail =>
    rw [tail, show front ++ [Entry.click x y, .click x' y'] =
      (front ++ [.click x y]) ++ [.click x' y'] by simp] at h
    obtain ⟨before', block', h', hsecond, rfl⟩ := h.of_append
    obtain ⟨before, block, hfront, hfirst, rfl⟩ := h'.of_append
    obtain ⟨t₁, u₁, rfl⟩ := hfirst.of_click
    obtain ⟨t₂, u₂, rfl⟩ := hsecond.of_click
    simpa using hfront.append (.doubleClickOfClicks t₁ u₁ t₂ u₂ t)
  | wheel t dx dy apart =>
    obtain ⟨i, rfl⟩ := whole.1.exists_eq
    obtain ⟨j, rfl⟩ := whole.2.exists_eq
    simpa using h.append (.wheel t i j [] (by simp))
  | wheelOn t dx dy front x y dx₀ dy₀ dx₁ dy₁ tail same_x same_y sum_x sum_y =>
    obtain ⟨i', rfl⟩ := whole.1.exists_eq
    obtain ⟨j', rfl⟩ := whole.2.exists_eq
    rw [tail] at h
    obtain ⟨before, block, hfront, hwheel, rfl⟩ := h.of_append
    obtain ⟨i, j, rfl, rfl⟩ := hwheel.exists_int
    obtain rfl : Value.int (i + i') = dx₁ := by simpa using sum_x
    obtain rfl : Value.int (j + j') = dy₁ := by simpa using sum_y
    rw [List.append_assoc]
    exact hfront.append (hwheel.wheel_append same_x same_y)
  | keyDown key modifiers label made => exact h.append (.keyDown key modifiers label made)
  | keyUp key modifiers label made apart => exact h.append (.keyUp key modifiers label made)
  | keyPress key modifiers label made front l tail same =>
    rw [tail] at h
    obtain ⟨before, block, hfront, hdown, rfl⟩ := h.of_append
    obtain ⟨key', modifiers', label', rfl, made', rfl⟩ := hdown.of_keyDown
    obtain rfl : label' = label := by simpa [Value.same] using same
    rw [List.append_assoc]
    exact hfront.append (.keyPress key' modifiers' key modifiers label' made' made)
  | screenshot name image locator region => exact h.append (.screenshot name image locator region)
  | stepStart name => exact h.append (.stepStart name)
  | stepEnd outer name inside => exact h.append (.stepEnd name)
  | comment text => exact h.append (.comment text)
  | navigation url => exact h.append (.navigation url)

/-- **A well-typed event is never refused with a fault** if the log is a segmentation of events:
the runs of moves then count, and the wheel turns, in whole numbers. -/
lemma Segments.exists_apply {s : Session} {events : List Event} {e : Event}
    (h : Segments d s.log events) (he : e.WellTyped) (whole : e.TurnsWhole) :
    ∃ o, s.apply d e = .ok o := by
  unfold apply
  split
  next =>
    cases e with
    | pointer kind t =>
      cases kind with
      | move =>
        simp only [record, move]
        split
        next =>
          unfold moveChange
          split
          next x y n tail =>
            obtain ⟨front, hlog⟩ := List.getLast?_eq_some_iff.1 tail
            rw [hlog] at h
            obtain ⟨before, block, -, hrun, -⟩ := h.of_append
            obtain ⟨ts, hn, -⟩ := hrun.of_mouseMove
            exact ⟨_, by rw [hn]; rfl⟩
          next => exact ⟨_, rfl⟩
        next => exact ⟨_, rfl⟩
      | _ => exact ⟨_, rfl⟩
    | wheel t dx dy =>
      obtain ⟨i', rfl⟩ := whole.1.exists_eq
      obtain ⟨j', rfl⟩ := whole.2.exists_eq
      simp only [record, wheel]
      unfold wheelChange
      split
      next x y dx₀ dy₀ tail =>
        obtain ⟨front, hlog⟩ := List.getLast?_eq_some_iff.1 tail
        rw [hlog] at h
        obtain ⟨before, block, -, hwheel, -⟩ := h.of_append
        obtain ⟨i, j, rfl, rfl⟩ := hwheel.exists_int
        split
        next => exact ⟨_, rfl⟩
        next => exact ⟨_, rfl⟩
      next => exact ⟨_, rfl⟩
    | key kind key modifiers =>
      obtain ⟨label, made⟩ := KeyLabel.exists_make he.1 he.2
      cases kind with
      | down => exact ⟨s.keyDown label, by simp only [record, made]; rfl⟩
      | up => exact ⟨s.keyUp label, by simp only [record, made]; rfl⟩
    | unknown shown => exact he.elim
    | _ => exact ⟨_, rfl⟩
  next => exact ⟨_, rfl⟩

/-! ## Runs -/

/-- Events applied to a session whose log is a segmentation of `before` leave one whose log is a
segmentation of `before` and the events that were accepted since. -/
lemma Segments.applyAll {s : Session} {before events : List Event}
    (h : Segments d s.log before) (he : ∀ e ∈ events, e.WellTyped ∧ e.TurnsWhole) :
    ∃ s' accepted, s.applyAll d events = .ok (s', accepted) ∧
      Segments d s'.log (before ++ accepted) := by
  induction events generalizing s before with
  | nil => exact ⟨s, [], rfl, by simpa using h⟩
  | cons e rest ih =>
    obtain ⟨typed, whole⟩ := he e (by simp)
    have hrest : ∀ e ∈ rest, e.WellTyped ∧ e.TurnsWhole := fun e' h' => he e' (by simp [h'])
    obtain ⟨o, ho⟩ := h.exists_apply typed whole
    obtain ⟨fits, -⟩ := fits_of_apply ho
    unfold Fits at fits
    cases ha : o.accepted with
    | true =>
      rw [ha, if_pos rfl] at fits
      obtain ⟨s', accepted, hrun, hseg⟩ := ih (h.accept fits whole) hrest
      exact ⟨s', e :: accepted,
        by simp [Session.applyAll, ho, hrun, ha, bind, Except.bind, pure, Except.pure],
        by simpa using hseg⟩
    | false =>
      rw [ha, if_neg (by simp)] at fits
      obtain ⟨s', accepted, hrun, hseg⟩ := ih (fits ▸ h) hrest
      exact ⟨s', accepted,
        by simp [Session.applyAll, ho, hrun, ha, bind, Except.bind, pure, Except.pure], hseg⟩

end Session

end SessionRecorder
