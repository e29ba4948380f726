import SessionRecorder.Proofs.Session.Step
/-!
# Sessions that are reached

The sessions that come of a fresh one, whatever happens to it: events are accepted by the rules, and
in between recording is switched on and off. What holds of a fresh session and is kept by every rule
holds of all of them.

## Main definitions

* `Session.Reached` — the sessions that come of a fresh one.
* `Session.Turn`, `Session.run` — what happens to a session, and what it leads to.

## Main results

* `Session.reached_run` — whatever happens to a fresh session leads to one that is reached.
-/

namespace SessionRecorder.Session

variable {d : Value} {s s' : Session}

/-- The sessions that come of a fresh one. In between two events they may be told to record or not,
and the button may be let go. A step without a name is called `d`. -/
inductive Reached (d : Value) : Session → Prop
  | fresh : Reached d fresh
  | accept {s s' : Session} {e : Event} : Reached d s → Accepts d s e s' → Reached d s'
  | switch {s : Session} (recording buttonDown : Bool) :
    Reached d s → Reached d { s with recording, buttonDown }

/-- Something that happens to a session. -/
inductive Turn where
  | event (e : Event)
  /-- Recording is switched on or off. -/
  | switch (recording : Bool)

/-- A session after something has happened to it. An event that ends with a fault leaves no mark. -/
def turn (d : Value) (s : Session) : Turn → Session
  | .event e =>
    match s.apply d e with
    | .ok o => o.session
    | .error _ => s
  | .switch recording => { s with recording }

/-- A session after several things have happened to it in order. -/
def run (d : Value) (s : Session) (turns : List Turn) : Session :=
  turns.foldl (turn d) s

/-- What comes of an event is reached. -/
lemma Reached.fits {e : Event} {o : Outcome} (h : Reached d s) (ho : Fits d s e o) :
    Reached d o.session := by
  unfold Fits at ho
  split at ho
  · exact h.accept ho
  · rw [ho]
    exact h

/-- Whatever happens leads from a session that is reached to another one. -/
lemma Reached.turn (h : Reached d s) (t : Turn) : Reached d (s.turn d t) := by
  cases t with
  | event e =>
    simp only [Session.turn]
    split
    next o ho => exact h.fits (fits_of_apply ho).1
    next => exact h
  | switch recording => exact h.switch recording s.buttonDown

/-- **Whatever happens to a fresh session leads to one that is reached.** -/
lemma reached_run (d : Value) (turns : List Turn) : Reached d (run d fresh turns) := by
  have hrun : ∀ s, Reached d s → Reached d (run d s turns) := by
    induction turns with
    | nil => exact fun s h => h
    | cons t rest ih => exact fun s h => ih _ (h.turn t)
  exact hrun _ .fresh

/-- An event that is accepted leaves recording switched on or off. -/
lemma Accepts.recording {e : Event} (h : Accepts d s e s') : s'.recording = s.recording := by
  cases h <;> rfl

end SessionRecorder.Session
