import SessionRecorder.Proofs.Session.Reached
/-!
# Moves within a press

Moves are recorded while the button is held down, which the session knows by a flag of its own. The
log tells it too: where the button was last said to go down or up, it went down. The converse fails,
since a session that is stopped lets go of the button without an entry, and a double click takes two
clicks out of the log.

## Main definitions

* `Session.lastButton?` — the last entry of a log that says that the button went down or up.
* `Session.MovesHeld` — a log whose moves all come after a press that has not been let go of.
* `Session.Holding` — the flag and the log agree as far as they do.

## Main results

* `Session.Holding.accept` — an event that is accepted keeps them so.
* `Session.holding_run` — so they are in every session that comes of a fresh one.
-/

namespace SessionRecorder

/-- Whether an entry says that the button went down or up. -/
def Entry.isButton : Entry → Bool
  | .mouseDown .. | .mouseUp | .click .. => true
  | _ => false

namespace Session

variable {d : Value} {s s' : Session} {log front back : List Entry} {e : Entry}

/-! ## The button in the log -/

/-- The last entry of a log that says that the button went down or up. -/
def lastButton? (log : List Entry) : Option Entry :=
  (log.filter Entry.isButton).getLast?

/-- The last such entry of a log that ends with one. -/
@[simp] lemma lastButton?_concat_of_isButton (h : e.isButton = true) :
    lastButton? (log ++ [e]) = some e := by
  simp [lastButton?, List.filter_append, h]

/-- Entries that say nothing about the button do not matter. -/
lemma lastButton?_append (h : ∀ e ∈ back, e.isButton = false) :
    lastButton? (front ++ back) = lastButton? front := by
  have hback : back.filter Entry.isButton = [] :=
    List.filter_eq_nil_iff.2 fun e he => by simp [h e he]
  rw [lastButton?, List.filter_append, hback, List.append_nil, lastButton?]

/-- In a log the button went down last. -/
def Pressed (log : List Entry) : Prop :=
  ∃ x y, lastButton? log = some (.mouseDown x y)

/-- Before every run of moves in a log, the button went down last. -/
def MovesHeld (log : List Entry) : Prop :=
  ∀ before x y n after, log = before ++ .mouseMove x y n :: after → Pressed before

/-- The front of such a log is such a log. -/
lemma MovesHeld.of_append (h : MovesHeld (front ++ back)) : MovesHeld front :=
  fun before x y n after hlog => h before x y n (after ++ back) (by simp [hlog])

/-- Such a log goes on with any entry, but with a run of moves only if the button went down last. -/
lemma MovesHeld.concat (h : MovesHeld log) (he : e.kind = .mouseMove → Pressed log) :
    MovesHeld (log ++ [e]) := by
  intro before x y n after hlog
  rcases concat_eq_cases hlog with ⟨-, rfl, rfl⟩ | ⟨between, -, rfl⟩
  · exact he rfl
  · exact h before x y n between rfl

/-! ## The button in the session -/

/-- All moves of a session come after a press, and while the button is held down, it went down last
in the log. -/
structure Holding (s : Session) : Prop where
  moves : MovesHeld s.log
  pressed : s.buttonDown = true → Pressed s.log

/-- An entry that says nothing about the button takes the place of the last ones, which say nothing
about it either. It is a run of moves only while the button is held down. -/
lemma Holding.replace (h : s.Holding) (hlog : s.log = front ++ back)
    (hback : ∀ e ∈ back, e.isButton = false) (he : e.isButton = false)
    (hmove : e.kind = .mouseMove → s.buttonDown = true) (hlog' : s'.log = front ++ [e])
    (hbutton : s'.buttonDown = s.buttonDown) : s'.Holding := by
  have hfront : s.buttonDown = true → Pressed front := fun hheld => by
    have hpressed := h.pressed hheld
    rwa [hlog, Pressed, lastButton?_append hback] at hpressed
  refine ⟨?_, fun hheld => ?_⟩
  · rw [hlog']
    exact (hlog ▸ h.moves).of_append.concat fun hkind => hfront (hmove hkind)
  · have hlast : lastButton? s'.log = lastButton? front := by
      rw [hlog', lastButton?_append (by simpa using he)]
    rw [Pressed, hlast]
    exact hfront (hbutton ▸ hheld)

/-- An entry that says nothing about the button is added. -/
lemma Holding.concat (h : s.Holding) (he : e.isButton = false)
    (hmove : e.kind = .mouseMove → s.buttonDown = true) (hlog' : s'.log = s.log ++ [e])
    (hbutton : s'.buttonDown = s.buttonDown) : s'.Holding :=
  h.replace (List.append_nil _).symm (by simp) he hmove hlog' hbutton

/-- The button goes up: the session no longer holds it. -/
lemma Holding.release (h : s.Holding) (hlog : s.log = front ++ back) (hkind : e.kind ≠ .mouseMove)
    (hlog' : s'.log = front ++ [e]) (hbutton : s'.buttonDown = false) : s'.Holding where
  moves := by
    rw [hlog']
    exact (hlog ▸ h.moves).of_append.concat fun hmove => absurd hmove hkind
  pressed hheld := by rw [hbutton] at hheld; cases hheld

/-- While the button is held down, the log does not end with a click. -/
lemma Holding.buttonDown_of_click {x y : Value} (h : s.Holding)
    (hlog : s.log = front ++ [.click x y]) : s.buttonDown = false := by
  rw [← Bool.not_eq_true]
  intro hheld
  obtain ⟨x', y', hpressed⟩ := h.pressed hheld
  rw [hlog, lastButton?_concat_of_isButton rfl] at hpressed
  cases hpressed

/-- **An event that is accepted keeps the flag and the log together.**

**Proof sketch.** One case for each rule. A press adds an entry that says so. A release adds one or
makes a click of the last one, and sets the flag back. Two clicks vanish into a double click only if
the log ends with a click, and then the button is not held down. All other rules leave the flag as
it is, and neither take away nor add an entry about the button; those for moves ask for the flag. -/
lemma Holding.accept {event : Event} (h : s.Holding) (step : Accepts d s event s') :
    s'.Holding := by
  cases step with
  | press t =>
    refine ⟨h.moves.concat fun hkind => ?_, fun _ => ⟨t.x, t.y, ?_⟩⟩
    · cases hkind
    · exact lastButton?_concat_of_isButton rfl
  | move t held first => exact h.concat rfl (fun _ => held) rfl rfl
  | moveOn t held front x y n m tail sum =>
    exact h.replace tail (by simp [Entry.isButton]) rfl (fun _ => held) rfl rfl
  | release t apart =>
    exact h.release (List.append_nil _).symm (fun hkind => by cases hkind) rfl rfl
  | click t front x y tail => exact h.release tail (fun hkind => by cases hkind) rfl rfl
  | doubleClickMerged t front x y x' y' tail =>
    have hlast : s.log = (front ++ [.click x y]) ++ [.click x' y'] := by simp [tail]
    exact h.release tail (fun hkind => by cases hkind) rfl (h.buttonDown_of_click hlast)
  | wheelOn t dx dy front x y dx₀ dy₀ dx₁ dy₁ tail same_x same_y sum_x sum_y =>
    exact h.replace tail (by simp [Entry.isButton]) rfl (fun hkind => by cases hkind) rfl rfl
  | keyPress key modifiers label made front l tail same =>
    exact h.replace tail (by simp [Entry.isButton]) rfl (fun hkind => by cases hkind) rfl rfl
  | _ => exact h.concat rfl (fun hkind => by cases hkind) rfl rfl

/-- A fresh session holds nothing. -/
lemma holding_fresh : Holding fresh :=
  ⟨fun before x y n after hlog => by simp [fresh] at hlog, nofun⟩

/-- Whatever happens to a session keeps the flag and the log together. -/
lemma Holding.turn (h : s.Holding) (t : Turn) : (s.turn d t).Holding := by
  cases t with
  | event e =>
    simp only [Session.turn]
    split
    next o ho =>
      have hfits := (fits_of_apply ho).1
      unfold Fits at hfits
      split at hfits
      next => exact h.accept hfits
      next => exact hfits ▸ h
    next => exact h
  | switch recording => exact ⟨h.moves, h.pressed⟩

/-- **The flag and the log agree in every session that comes of a fresh one.** -/
lemma holding_run (d : Value) (turns : List Turn) : (run d fresh turns).Holding := by
  have hrun : ∀ s : Session, s.Holding → (run d s turns).Holding := by
    induction turns with
    | nil => exact fun s h => h
    | cons t rest ih => exact fun s h => ih _ (h.turn t)
  exact hrun _ holding_fresh

end Session

end SessionRecorder
