import SessionRecorder.Proofs.Session.Reached
/-!
# Open steps

The log tells which steps are open: each start of a step opens one, and each end closes the one that
was opened last. The log never ends a step that is not open, it ends every step under the name it
was started with, and the steps that it leaves open are those of the session.

## Main definitions

* `Nesting` — the steps that are open after part of a log, and those that were closed.
* `Nesting.scan` — what a log opens and closes.
* `Session.StepsMatch` — the log opens and closes the steps of the session.

## Main results

* `Session.Reached.stepsMatch` — the log of every session that is reached does.
-/

namespace SessionRecorder

/-- Whether a boundary of a step is its end. -/
def Entry.isEnd (which : Value) : Bool :=
  which.same (.str "end")

/-- The names of the steps that are open, the outermost first, and for each step that was closed the
names at its start and at its end. -/
structure Nesting where
  opened : List Value
  closed : List (Value × Value)

namespace Nesting

/-- What an entry opens or closes. Nothing comes of the end of a step if none is open, nor of a
boundary that is neither a start nor an end. -/
def entry (n : Nesting) : Entry → Option Nesting
  | .step which name =>
    if Entry.isStart which then some { n with opened := n.opened ++ [name] }
    else if Entry.isEnd which then
      n.opened.getLast?.map fun start => ⟨n.opened.dropLast, n.closed ++ [(start, name)]⟩
    else none
  | _ => some n

/-- What a log opens and closes, from its first entry to its last. -/
def scan (log : List Entry) : Option Nesting :=
  log.foldlM entry ⟨[], []⟩

variable {log : List Entry} {n : Nesting} {name : Value}

/-- A log with another entry. -/
lemma scan_append (log : List Entry) (e : Entry) :
    scan (log ++ [e]) = (scan log).bind fun n => n.entry e := by
  rw [scan, List.foldlM_append]
  cases h : log.foldlM entry ⟨[], []⟩ with
  | none => simp [scan, h]
  | some n => simp [scan, h]

/-- Only boundaries of steps open or close anything. -/
lemma scan_append_of_kind {e : Entry} (he : e.kind ≠ .step) : scan (log ++ [e]) = scan log := by
  rw [scan_append]
  cases e with
  | step which name => exact absurd rfl he
  | _ => cases scan log <;> rfl

/-- A start opens a step. -/
lemma scan_append_start (h : scan log = some n) :
    scan (log ++ [.step (.str "start") name]) = some { n with opened := n.opened ++ [name] } := by
  rw [scan_append, h]
  rfl

/-- An end closes the step that was opened last. -/
lemma scan_append_end {start : Value} {outer : List Value} (h : scan log = some n)
    (hopened : n.opened = outer ++ [start]) :
    scan (log ++ [.step (.str "end") name]) = some ⟨outer, n.closed ++ [(start, name)]⟩ := by
  have hentry : n.entry (.step (.str "end") name) =
      n.opened.getLast?.map fun start => ⟨n.opened.dropLast, n.closed ++ [(start, name)]⟩ := rfl
  rw [scan_append, h, Option.bind_some, hentry, hopened]
  simp

end Nesting

namespace Session

variable {d : Value} {s s' : Session}

/-- The log closes no step that is not open, closes every step under the name that it was opened
with, and leaves the open steps of the session open, in their order. -/
def StepsMatch (s : Session) : Prop :=
  ∃ closed, Nesting.scan s.log = some ⟨s.openSteps, closed⟩ ∧ ∀ step ∈ closed, step.1 = step.2

/-- The log goes on, or ends differently, without boundaries of steps. -/
lemma StepsMatch.congr (h : s.StepsMatch) (hscan : Nesting.scan s'.log = Nesting.scan s.log)
    (hsteps : s'.openSteps = s.openSteps) : s'.StepsMatch := by
  rw [StepsMatch, hscan, hsteps]
  exact h

/-- **An accepted event keeps the log and the open steps together.**

**Proof sketch.** One case for each rule. The entries that are merged are no boundaries of steps, so
only the start and the end of a step matter. The end of a step takes its name from the open steps of
the session, which are those of the log. -/
lemma StepsMatch.accept {e : Event} (h : s.StepsMatch) (step : Accepts d s e s') :
    s'.StepsMatch := by
  have hadd : ∀ e : Entry, e.kind ≠ .step → Nesting.scan (s.log ++ [e]) = Nesting.scan s.log :=
    fun e he => Nesting.scan_append_of_kind he
  have hreplace : ∀ (front : List Entry) (e e' : Entry), s.log = front ++ [e] → e.kind ≠ .step →
      e'.kind ≠ .step → Nesting.scan (front ++ [e']) = Nesting.scan s.log := by
    intro front e e' tail he he'
    rw [tail, Nesting.scan_append_of_kind he, Nesting.scan_append_of_kind he']
  cases step with
  | moveOn t held front x y n m tail sum =>
    exact h.congr (hreplace front _ _ tail nofun nofun) rfl
  | click t front x y tail =>
    exact h.congr (hreplace front _ _ tail nofun nofun) rfl
  | doubleClickMerged t front x y x' y' tail =>
    have hfront : Nesting.scan s.log = Nesting.scan front := by
      rw [tail, show front ++ [Entry.click x y, .click x' y'] =
        (front ++ [.click x y]) ++ [.click x' y'] by simp,
        Nesting.scan_append_of_kind (e := .click x' y') nofun,
        Nesting.scan_append_of_kind (e := .click x y) nofun]
    exact h.congr ((Nesting.scan_append_of_kind (e := .doubleClick t.x t.y) nofun).trans
      hfront.symm) rfl
  | wheelOn t dx dy front x y dx₀ dy₀ dx₁ dy₁ tail same_x same_y sum_x sum_y =>
    exact h.congr (hreplace front _ _ tail nofun nofun) rfl
  | keyPress key modifiers label made front l tail same =>
    exact h.congr (hreplace front _ _ tail nofun nofun) rfl
  | stepStart name =>
    obtain ⟨closed, hscan, hnames⟩ := h
    exact ⟨closed, Nesting.scan_append_start hscan, hnames⟩
  | stepEnd outer name inside =>
    obtain ⟨closed, hscan, hnames⟩ := h
    refine ⟨closed ++ [(name, name)], Nesting.scan_append_end hscan inside, ?_⟩
    rw [List.forall_mem_append, List.forall_mem_singleton]
    exact ⟨hnames, rfl⟩
  | _ => exact h.congr (hadd _ nofun) rfl

/-- The log of every session that is reached opens and closes the steps of the session. -/
lemma Reached.stepsMatch (h : Reached d s) : s.StepsMatch := by
  induction h with
  | fresh => exact ⟨[], rfl, by simp⟩
  | accept _ step ih => exact ih.accept step
  | switch recording buttonDown _ ih => exact ih

end Session

end SessionRecorder
