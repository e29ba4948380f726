import SessionRecorder.Proofs.Session.Reached
/-!
# Entries that are settled

Events are merged with the last two entries of the log at most, and a merge is never taken back. So
an entry with two others behind it stays as and where it is, whatever happens from then on. One
event shortens the log by one entry if two clicks vanish into a double click, but events one after
the other shorten it by no more than that: a double click is not merged with anything itself, so it
stands between the entries before it and all double clicks to come.

## Main definitions

* `Entry.isOpen` — an entry that the next event may turn into another one.
* `Session.Edits` — what an accepted event does to the log.
* `Session.Settled` — what has become of a log with two entries at its end.

## Main results

* `Session.Settled.edits` — an event that is accepted keeps what is settled.
* `Session.settled_run` — so do events one after the other, whatever the log holds.
-/

namespace SessionRecorder

/-- Whether the next event may turn an entry into another one: a press becomes a click, a run of
moves goes on, a turn of the wheel adds up, and a key that went down is typed. -/
def Entry.isOpen : Entry → Bool
  | .mouseDown .. | .mouseMove .. | .wheel .. | .keyDown _ => true
  | _ => false

namespace Session

variable {d : Value} {s s' : Session} {log log' front before rest : List Entry}
  {e e' last : Entry}

/-! ## One event -/

/-- What an accepted event does to the log. -/
inductive Edits : List Entry → List Entry → Prop
  | append (log : List Entry) (e : Entry) : Edits log (log ++ [e])
  | replace (front : List Entry) {last : Entry} (e : Entry) : last.isOpen = true →
      Edits (front ++ [last]) (front ++ [e])
  | merge (front : List Entry) (x y x' y' u v : Value) :
      Edits (front ++ [.click x y, .click x' y']) (front ++ [.doubleClick u v])

/-- An accepted event adds an entry, takes the place of one that is open, or merges two clicks. -/
lemma Accepts.edits {event : Event} (h : Accepts d s event s') : Edits s.log s'.log := by
  cases h with
  | moveOn t held front x y n m tail sum => exact tail ▸ .replace front _ rfl
  | click t front x y tail => exact tail ▸ .replace front _ rfl
  | doubleClickMerged t front x y x' y' tail => exact tail ▸ .merge front x y x' y' _ _
  | wheelOn t dx dy front x y dx₀ dy₀ dx₁ dy₁ tail same_x same_y sum_x sum_y =>
    exact tail ▸ .replace front _ rfl
  | keyPress key modifiers label made front l tail same => exact tail ▸ .replace front _ rfl
  | _ => exact .append s.log _

/-! ## What is settled -/

/-- A log that comes of one with the entries `front`, then `e`, then another one: `e` is still there
with something behind it, or a double click stands in its place. -/
inductive Settled (front : List Entry) (e : Entry) : List Entry → Prop
  | kept {rest : List Entry} : rest ≠ [] → Settled front e (front ++ e :: rest)
  | merged (x y : Value) (rest : List Entry) : Settled front e (front ++ .doubleClick x y :: rest)

/-- An entry is added. -/
lemma Settled.append (h : Settled front e log) (e' : Entry) : Settled front e (log ++ [e']) := by
  cases h with
  | @kept rest hrest =>
    rw [List.append_assoc, List.cons_append]
    exact .kept (by simp)
  | merged x y rest =>
    rw [List.append_assoc, List.cons_append]
    exact .merged x y _

/-- The last entry is another one, if it was open: so it was not the double click. -/
lemma Settled.replace (h : Settled front e (before ++ [last])) (hopen : last.isOpen = true)
    (e' : Entry) : Settled front e (before ++ [e']) := by
  generalize hlog : before ++ [last] = log at h
  cases h with
  | kept hrest =>
    rcases concat_eq_cases hlog with ⟨rfl, -, -⟩ | ⟨between, -, rfl⟩
    · exact absurd rfl hrest
    · rw [List.append_assoc, List.cons_append]
      exact .kept (by simp)
  | merged x y rest =>
    rcases concat_eq_cases hlog with ⟨-, -, rfl⟩ | ⟨between, -, rfl⟩
    · cases hopen
    · rw [List.append_assoc, List.cons_append]
      exact .merged x y _

/-- Two clicks at the end vanish into a double click. Neither of them is one, so either both stand
behind what is settled, or the first is the entry whose place the double click takes. -/
lemma Settled.merge {x y x' y' : Value}
    (h : Settled front e (before ++ [.click x y, .click x' y'])) (u v : Value) :
    Settled front e (before ++ [.doubleClick u v]) := by
  generalize hlog : before ++ [Entry.click x y, .click x' y'] = log at h
  rw [List.append_cons] at hlog
  cases h with
  | kept hrest =>
    rcases concat_eq_cases hlog with ⟨rfl, -, -⟩ | ⟨between, -, hfirst⟩
    · exact absurd rfl hrest
    · rcases concat_eq_cases hfirst with ⟨-, rfl, -⟩ | ⟨between', -, rfl⟩
      · exact .merged u v []
      · rw [List.append_assoc, List.cons_append]
        exact .kept (by simp)
  | merged x₀ y₀ rest =>
    rcases concat_eq_cases hlog with ⟨-, -, hlast⟩ | ⟨between, -, hfirst⟩
    · cases hlast
    · rcases concat_eq_cases hfirst with ⟨-, -, hlast⟩ | ⟨between', -, rfl⟩
      · cases hlast
      · rw [List.append_assoc, List.cons_append]
        exact .merged x₀ y₀ _

/-- **An event that is accepted keeps what is settled.** -/
lemma Settled.edits (h : Settled front e log) (step : Edits log log') : Settled front e log' := by
  cases step with
  | append log e' => exact h.append e'
  | replace before e' hopen => exact h.replace hopen e'
  | merge before x y x' y' u v => exact h.merge u v

/-! ## One event after another -/

/-- Whatever happens to a session keeps what is settled. -/
lemma Settled.turn (h : Settled front e s.log) (t : Turn) : Settled front e (s.turn d t).log := by
  cases t with
  | event event =>
    simp only [Session.turn]
    split
    next o ho =>
      have hfits := (fits_of_apply ho).1
      unfold Fits at hfits
      split at hfits
      next => exact h.edits hfits.edits
      next => exact hfits ▸ h
    next => exact h
  | switch recording => exact h

/-- So does a row of happenings. -/
lemma Settled.run (h : Settled front e s.log) (turns : List Turn) :
    Settled front e (s.run d turns).log := by
  induction turns generalizing s with
  | nil => exact h
  | cons t rest ih => exact ih (h.turn t)

/-- The entries before the last two of a log are still there, and one more. -/
lemma Settled.keeps (h : Settled front e log) :
    front.length < log.length ∧ log.take front.length = front := by
  cases h <;> simp

/-- **Merging is irrevocable.** Whatever happens to a session with any log at all, the log gets
shorter by one entry at most, and all entries but the last two stay as and where they are: an entry
with two others behind it is never changed, moved or removed.

**Proof sketch.** Of a log with two entries or more, all but the last two and the place of the last
but one are followed through the events, one by one. In that place stands the entry itself as long
as there is another one behind it, and from the moment at which two clicks are merged there, a
double click. Nothing is merged with that, so no later event reaches what is in front of it. -/
theorem settled_run (d : Value) (s : Session) (turns : List Turn) :
    s.log.length ≤ (s.run d turns).log.length + 1 ∧
      (s.run d turns).log.take (s.log.length - 2) = s.log.take (s.log.length - 2) := by
  rcases List.eq_nil_or_concat s.log with hlog | ⟨init, last, hlog⟩
  · simp [hlog]
  rw [List.concat_eq_append] at hlog
  rcases List.eq_nil_or_concat init with rfl | ⟨front, e, rfl⟩
  · simp [hlog]
  rw [List.concat_eq_append, List.append_assoc] at hlog
  have hstart : Settled front e s.log := hlog ▸ .kept (by simp)
  obtain ⟨hlength, htake⟩ := (hstart.run (d := d) turns).keeps
  have hfront : s.log.length = front.length + 2 := by simp [hlog]
  refine ⟨by omega, ?_⟩
  rw [hfront, Nat.add_sub_cancel, htake, hlog, List.take_left]

/-- Double clicks one after the other take away one entry of a log that ends with clicks. -/
example : ((run (.str "step") ⟨true, false, [], [.click .none .none, .click (.int 1) .none,
      .click (.int 1) .none]⟩ [.event (.pointer .doubleClick ⟨.int 1, .none, .str "", .list []⟩),
      .event (.pointer .doubleClick ⟨.int 1, .none, .str "", .list []⟩)]).log.map Entry.kind) =
    [.click, .doubleClick, .doubleClick] := by
  decide

end Session

end SessionRecorder
