import SessionRecorder.Proofs.Result
import SessionRecorder.Script
/-!
# One entry after the other

The lines of a log are written in one pass. Which blocks are open after an entry does not depend on
the lines, and the lines of an entry depend on the open blocks only through their number and, at the
end of a step, through whether the innermost one is empty. So lines and blocks can be followed
separately, and the lines of two logs are written one after the other.

## Main definitions

* `Script.andThen` — lines followed by others.
* `Script.linesAt`, `Script.headerLines`, `Script.leafLines`, `Script.passAt` — the lines at a
  depth.
* `Script.Blocks.next`, `Script.Blocks.after` — the blocks after an entry, and after a log.
* `Script.ownLines`, `Script.passLines` — the lines of an entry, and of a log.
* `Script.finishedLines` — the lines of a log, and of the ends of the blocks that are left open.

## Main results

* `Script.entryLines_eq`, `Script.logLines_eq` — lines and blocks are independent of each other.
* `Script.passLines_append` — the lines of two logs.
* `Script.finishedLines_append_ends` — the ends of steps write what would be written without them.
-/

namespace SessionRecorder.Script

variable {base : Value} {b : Blocks} {e : Entry} {log : List Entry}

/-! ## Lines that follow lines -/

/-- Lines followed by others, if both are there. -/
def andThen (first rest : Except Fault (List String)) : Except Fault (List String) := do
  let lines ← first
  let more ← rest
  return lines ++ more

section

variable {first next rest : Except Fault (List String)}

/-- No lines in front of others. -/
@[simp] lemma nil_andThen : andThen (.ok []) rest = rest := by
  cases rest <;> rfl

/-- Nothing comes after a fault. -/
@[simp] lemma error_andThen {f : Fault} : andThen (.error f) rest = .error f := rfl

/-- Three pieces, one after the other. -/
lemma andThen_assoc : andThen (andThen first next) rest = andThen first (andThen next rest) := by
  cases first with
  | error f => rfl
  | ok lines =>
    cases next with
    | error f => rfl
    | ok more =>
      cases rest with
      | error f => rfl
      | ok last => exact congrArg Except.ok (List.append_assoc lines more last)

end

/-! ## Lines at a depth -/

/-- Lines in the margin of a depth. -/
def linesAt (base : Value) (depth : ℕ) (lines : List String) : Except Fault (List String) :=
  (margin base depth).map fun m => lines.map (m ++ ·)

/-- The header of a step. -/
def headerLines (base : Value) (depth : ℕ) (name : Value) : Except Fault (List String) := do
  let l ← literal name
  linesAt base depth ["with allure.step(" ++ l ++ "):"]

/-- The text of a comment, line by line. -/
def commentText : Value → Except Fault (List String)
  | .str text => .ok (commentLines text)
  | .bytes _ => .error (.notOctets .str)
  | v => .error (.noOperation v.kind "replace")

/-- The lines of an entry that is no boundary of a step: those of a comment, or statements. -/
def leafLines (base : Value) (depth : ℕ) : Entry → Except Fault (List String)
  | .comment text => do
    let m ← margin base depth
    let lines ← commentText text
    return lines.map fun line => Text.trimEnd (m ++ "# " ++ line)
  | e => do
    let lines ← statements e
    linesAt base depth lines

/-- The statement that does nothing, for a block that has received none. -/
def passAt (base : Value) (depth : ℕ) (filled : Bool) : Except Fault (List String) :=
  if filled then .ok [] else linesAt base depth ["pass"]

/-! ## Lines and blocks -/

/-- The blocks after an entry. -/
def Blocks.next (b : Blocks) : Entry → Blocks
  | .step which _ =>
    if Entry.isStart which then ⟨false, true :: b.outer⟩
    else
      match b.outer with
      | [] => b
      | filled :: outer => ⟨filled, outer⟩
  | .comment _ => b
  | _ => b.fill

/-- The blocks after a log. -/
def Blocks.after (b : Blocks) (log : List Entry) : Blocks :=
  log.foldl Blocks.next b

/-- The lines of an entry while blocks are open. -/
def ownLines (base : Value) (b : Blocks) : Entry → Except Fault (List String)
  | .step which name =>
    if Entry.isStart which then headerLines base b.outer.length name
    else
      match b.outer with
      | [] => .ok []
      | _ :: outer => passAt base (outer.length + 1) b.innermost
  | e => leafLines base b.outer.length e

/-- The lines of a log while blocks are open. -/
def passLines (base : Value) (b : Blocks) : List Entry → Except Fault (List String)
  | [] => .ok []
  | e :: rest => andThen (ownLines base b e) (passLines base (b.next e) rest)

/-- Statements fill the innermost block. -/
lemma action_eq (e : Entry) : (do
      let lines ← statements e
      let lines ← indented base b lines
      return (lines, b.fill)) =
    Except.map (fun lines => (lines, b.fill)) (do
      let lines ← statements e
      linesAt base b.outer.length lines) := by
  unfold indented linesAt
  cases statements e with
  | error f => rfl
  | ok lines => cases margin base b.outer.length <;> rfl

/-- **The lines of an entry and the blocks after it** do not depend on each other. -/
lemma entryLines_eq (base : Value) (b : Blocks) (e : Entry) :
    entryLines base b e = (ownLines base b e).map fun lines => (lines, b.next e) := by
  cases e with
  | step which name =>
    rw [entryLines, ownLines, Blocks.next]
    split
    next =>
      unfold openBlock headerLines indented linesAt
      cases literal name with
      | error f => rfl
      | ok l => cases margin base b.outer.length <;> rfl
    next =>
      obtain ⟨innermost, outer⟩ := b
      cases outer <;> rfl
  | comment text =>
    have hown : ownLines base b (.comment text) = leafLines base b.outer.length (.comment text) :=
      rfl
    rw [entryLines, hown, leafLines, commentBlock]
    cases margin base b.outer.length with
    | error f => rfl
    | ok m => cases text <;> rfl
  | _ => exact action_eq _

/-- **The lines of a log and the blocks after it** do not depend on each other. -/
lemma logLines_eq (base : Value) (b : Blocks) (log : List Entry) :
    logLines base b log = (passLines base b log).map fun lines => (lines, b.after log) := by
  induction log generalizing b with
  | nil => rfl
  | cons e rest ih =>
    rw [logLines, passLines, entryLines_eq]
    cases ownLines base b e with
    | error f => rfl
    | ok lines =>
      simp only [Except.map, bind, Except.bind, ih]
      cases passLines base (b.next e) rest <;> rfl

/-- The blocks after two logs. -/
lemma Blocks.after_append (b : Blocks) (log more : List Entry) :
    b.after (log ++ more) = (b.after log).after more :=
  List.foldl_append

/-- **The lines of two logs**, one after the other. -/
lemma passLines_append (base : Value) (b : Blocks) (log more : List Entry) :
    passLines base b (log ++ more) =
      andThen (passLines base b log) (passLines base (b.after log) more) := by
  induction log generalizing b with
  | nil => exact nil_andThen.symm
  | cons e rest ih =>
    rw [List.cons_append, passLines, passLines, ih, andThen_assoc]
    rfl

/-! ## The end -/

/-- The lines that close all blocks. -/
def Blocks.closing (base : Value) (b : Blocks) : Except Fault (List String) :=
  closingLines base b.innermost b.outer

/-- Blocks are closed from the innermost on. -/
lemma Blocks.closing_cons {innermost filled : Bool} {outer : List Bool} :
    closing base ⟨innermost, filled :: outer⟩ =
      andThen (passAt base (outer.length + 1) innermost) (closing base ⟨filled, outer⟩) := rfl

/-- The lines of a log while blocks are open, and the lines that close all blocks after it. -/
def finishedLines (base : Value) (b : Blocks) (log : List Entry) : Except Fault (List String) :=
  andThen (passLines base b log) ((b.after log).closing base)

/-- The lines of an entry come before those of the rest. -/
lemma finishedLines_cons : finishedLines base b (e :: log) =
    andThen (ownLines base b e) (finishedLines base (b.next e) log) :=
  andThen_assoc

/-- **The lines of a log with its steps**, whether or not the blocks are closed at the end. -/
lemma render_eq (log : List Entry) (openSteps : List Value) (base : Value) (closed : Bool) :
    render log openSteps base closed =
      andThen (passLines base .start (closeSteps log openSteps))
        (if closed then (Blocks.start.after (closeSteps log openSteps)).closing base
          else .ok []) := by
  rw [render, logLines_eq]
  cases passLines base .start (closeSteps log openSteps) with
  | error f => rfl
  | ok lines =>
    cases closed with
    | true => rfl
    | false => exact congrArg Except.ok (List.append_nil lines).symm

/-- The lines of a log whose blocks are closed at the end. -/
lemma render_closed (log : List Entry) (openSteps : List Value) (base : Value) :
    render log openSteps base true =
      finishedLines base .start (closeSteps log openSteps) :=
  render_eq log openSteps base true

/-- The end of a step writes what closing its block would write. -/
lemma finishedLines_ends (names : List Value) :
    finishedLines base b (names.map fun name => .step (.str "end") name) = b.closing base := by
  have hend : Entry.isStart (.str "end") = false := by decide +revert
  induction names generalizing b with
  | nil => exact nil_andThen
  | cons name rest ih =>
    obtain ⟨innermost, outer⟩ := b
    rw [List.map_cons, finishedLines_cons, ih, ownLines, Blocks.next, hend]
    cases outer with
    | nil => exact nil_andThen
    | cons filled outer => exact Blocks.closing_cons.symm

/-- **The ends of steps after a log write what would be written without them**, however many they
are. -/
lemma finishedLines_append_ends (names : List Value) :
    finishedLines base b (log ++ names.map fun name => .step (.str "end") name) =
      finishedLines base b log := by
  have hends := @finishedLines_ends base (b.after log) names
  rw [finishedLines, passLines_append, Blocks.after_append, andThen_assoc]
  exact congrArg _ hends

end SessionRecorder.Script
