import Mathlib.Data.List.Chain
import SessionRecorder.Proofs.Session.Reached
/-!
# Merged logs

Entries that can be merged are merged as they come, so no two of them ever stand next to each other
in the log. A merge brings an older entry next to the new one, but never one that could be merged
with it.

## Main definitions

* `Entry.Merges` — two entries that stand for one when the second comes right after the first.
* `Session.NormalForm` — a log without such neighbours.

## Main results

* `Session.normalForm_run` — the log of every session that is reached is in normal form.
-/

namespace SessionRecorder

/-- Two entries that are merged when the second comes right after the first: two runs of moves, a
press and a release, the same key going down and up, or two turns of the wheel at one place. -/
def Entry.Merges : Entry → Entry → Prop
  | .mouseMove .., .mouseMove .. => True
  | .mouseDown .., .mouseUp => True
  | .keyDown l, .keyUp l' => l.same l' = true
  | .wheel x y _ _, .wheel x' y' _ _ => x.same x' = true ∧ y.same y' = true
  | _, _ => False

namespace Session

variable {d : Value} {s s' : Session} {log before : List Entry} {e e' : Entry}

/-- No two neighbours in a log can be merged. -/
def NormalForm (log : List Entry) : Prop :=
  log.IsChain fun e e' => ¬e.Merges e'

/-- A log goes on with an entry that cannot be merged with the last one. -/
lemma NormalForm.concat (h : NormalForm log) (he : ∀ last ∈ log.getLast?, ¬last.Merges e) :
    NormalForm (log ++ [e]) :=
  List.isChain_append.2 ⟨h, .singleton e, fun last hlast e' he' => by
    obtain rfl : e = e' := by simpa using he'
    exact he last hlast⟩

/-- The front of a log is in normal form, and its last entry cannot be merged with the next one. -/
lemma NormalForm.of_append {back : List Entry} (h : NormalForm (before ++ e :: back)) :
    NormalForm before ∧ ∀ last ∈ before.getLast?, ¬last.Merges e := by
  obtain ⟨hbefore, -, hneighbours⟩ := List.isChain_append.1 h
  exact ⟨hbefore, fun last hlast => hneighbours last hlast e (by simp)⟩

/-- An entry takes the place of the last ones if it can be merged with no more than the first of
them. -/
lemma NormalForm.replace {back : List Entry} (h : NormalForm (before ++ e :: back))
    (he : ∀ last : Entry, last.Merges e' → last.Merges e) : NormalForm (before ++ [e']) :=
  h.of_append.1.concat fun last hlast hmerges => h.of_append.2 last hlast (he last hmerges)

/-- **An accepted event keeps the log in normal form.**

**Proof sketch.** One case for each rule. A rule that appends an entry does so only if it cannot be
merged with the last one. A rule that merges puts an entry in the place of others, and the entry
before them could be merged with the new one only if it could be merged with the first of those. -/
lemma NormalForm.accept {event : Event} (h : NormalForm s.log) (step : Accepts d s event s') :
    NormalForm s'.log := by
  cases step with
  | press t => exact h.concat fun last _ hm => by cases last <;> exact hm
  | move t held first =>
    refine h.concat fun last hlast hm => ?_
    cases last with
    | mouseMove x y n => exact first x y n hlast
    | _ => exact hm
  | moveOn t held front x y n m tail sum =>
    rw [tail] at h
    exact h.replace fun last hm => by cases last <;> exact hm
  | release t apart =>
    refine h.concat fun last hlast hm => ?_
    cases last with
    | mouseDown x y => exact apart x y hlast
    | _ => exact hm
  | click t front x y tail =>
    rw [tail] at h
    exact h.replace fun last hm => by cases last <;> exact hm.elim
  | doubleClick t apart => exact h.concat fun last _ hm => by cases last <;> exact hm
  | doubleClickMerged t front x y x' y' tail =>
    rw [tail] at h
    exact h.replace fun last hm => by cases last <;> exact hm.elim
  | wheel t dx dy apart =>
    refine h.concat fun last hlast hm => ?_
    cases last with
    | wheel x y dx₀ dy₀ =>
      have hplace := apart x y dx₀ dy₀ hlast
      rw [hm.1, hm.2] at hplace
      cases hplace
    | _ => exact hm
  | wheelOn t dx dy front x y dx₀ dy₀ dx₁ dy₁ tail same_x same_y sum_x sum_y =>
    rw [tail] at h
    exact h.replace fun last hm => by cases last <;> exact hm
  | keyDown key modifiers label made =>
    exact h.concat fun last _ hm => by cases last <;> exact hm
  | keyUp key modifiers label made apart =>
    refine h.concat fun last hlast hm => ?_
    cases last with
    | keyDown l =>
      rw [Option.mem_def.1 hlast] at apart
      exact Bool.false_ne_true (apart.symm.trans hm)
    | _ => exact hm
  | keyPress key modifiers label made front l tail same =>
    rw [tail] at h
    exact h.replace fun last hm => by cases last <;> exact hm.elim
  | screenshot name image locator region =>
    exact h.concat fun last _ hm => by cases last <;> exact hm
  | stepStart name => exact h.concat fun last _ hm => by cases last <;> exact hm
  | stepEnd outer name inside => exact h.concat fun last _ hm => by cases last <;> exact hm
  | comment text => exact h.concat fun last _ hm => by cases last <;> exact hm
  | navigation url => exact h.concat fun last _ hm => by cases last <;> exact hm

/-- The log of every session that is reached is in normal form. -/
lemma Reached.normalForm (h : Reached d s) : NormalForm s.log := by
  induction h with
  | fresh => exact .nil
  | accept _ step ih => exact ih.accept step
  | switch recording buttonDown _ ih => exact ih

/-- **The log is always in merged normal form.** Whatever events come to a fresh session, while it
records and while it does not, no two neighbours in its log are two runs of moves, a press and a
release, the same key going down and up, or two turns of the wheel at one place. -/
theorem normalForm_run (d : Value) (turns : List Turn) :
    (run d fresh turns).log.IsChain fun e e' => ¬e.Merges e' :=
  (reached_run d turns).normalForm

/-- A run of moves that is interrupted by a comment goes on as another run, and a press that is held
while recording is switched off becomes a click all the same. -/
example : ((run (.str "step") fresh [.switch true,
      .event (.pointer .down ⟨.int 1, .int 2, .str "", .list []⟩),
      .event (.pointer .move ⟨.int 3, .int 4, .str "", .list []⟩),
      .event (.comment (.str "")),
      .event (.pointer .move ⟨.int 5, .int 6, .str "", .list []⟩),
      .event (.pointer .move ⟨.int 7, .int 8, .str "", .list []⟩),
      .event (.pointer .down ⟨.int 7, .int 8, .str "", .list []⟩), .switch false,
      .event (.comment (.str "")), .switch true,
      .event (.pointer .up ⟨.int 9, .int 9, .str "", .list []⟩)]).log.map Entry.kind) =
    [.mouseDown, .mouseMove, .comment, .mouseMove, .click] := by
  decide

end Session

end SessionRecorder
