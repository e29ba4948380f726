import SessionRecorder.Proofs.Script.Blocks
import SessionRecorder.Proofs.Script.OnePass
/-!
# The steps of a log as trees

A log describes a forest: each step that starts is a tree with what happens until it ends below it.
The script of the log is that forest printed from the outside to the inside, with what is below a
step one level deeper, and a statement that does nothing at the end of a block without one.

The one pass over the log knows nothing of trees: it carries a flag for every open block and cannot
look ahead to the end of one. The forest is read from the end of the log to its beginning, where the
end of a step is known before its start.

## Main definitions

* `Script.Tree` — an entry, or a step with what is below it.
* `Script.Reading`, `Script.forest` — the trees of a log.
* `Script.Tree.lines`, `Script.blockLines` — trees that are printed.
* `Script.headers` — the headers among lines.

## Main results

* `Script.forest_entries` — trees that are written as entries are read back.
* `Script.render_treesEntries` — and they are what the script of these entries prints.
* `Script.finishedLines_eq` — the one pass prints the trees of what is left of the log.
* `Script.headers_render` — the headers are those of the steps that start.
* `Script.render_eq_blockLines` — the script of a log is its forest printed.
-/

namespace SessionRecorder.Script

variable {base : Value} {e : Entry} {log : List Entry}

/-! ## Trees -/

/-- An entry, or a step with its name and what is below it. -/
inductive Tree where
  | entry (e : Entry)
  | step (name : Value) (children : List Tree)

/-- What is read of a log from some entry on: the trees up to the first end of a step that was
started before, and those after this end and after every further one. -/
structure Reading where
  trees : List Tree
  later : List (List Tree)

namespace Reading

/-- Nothing is read at the end of a log. -/
def empty : Reading := ⟨[], []⟩

/-- What is read after the first end of a step that was started before. -/
def rest (r : Reading) : Reading := ⟨r.later.headD [], r.later.tail⟩

/-- A tree in front of the others. -/
def cons (t : Tree) (r : Reading) : Reading := ⟨t :: r.trees, r.later⟩

/-- A step starts: the trees up to its end are below it, and those after its end come next. -/
def enclose (name : Value) (r : Reading) : Reading := r.rest.cons (.step name r.trees)

/-- A step ends that was started before. -/
def cut (r : Reading) : Reading := ⟨[], r.trees :: r.later⟩

/-- What is read of a log, from its end on. -/
def of : List Entry → Reading
  | [] => empty
  | .step which name :: log => if Entry.isStart which then (of log).enclose name else (of log).cut
  | e :: log => (of log).cons (.entry e)

/-- All trees, where the ends of steps that were never started say nothing. -/
def all (r : Reading) : List Tree := r.trees ++ r.later.flatten

end Reading

/-- **The forest of a log.** The end of a step belongs to the innermost step that is open; where
none is, it says nothing. A step that is not ended goes on until the end of the log. -/
def forest (log : List Entry) : List Tree := (Reading.of log).all

/-- An entry that is no boundary of a step. -/
def IsLeaf : Entry → Prop
  | .step _ _ => False
  | _ => True

/-- What is read of an entry that is no boundary of a step. -/
lemma Reading.of_leaf (he : IsLeaf e) : of (e :: log) = (of log).cons (.entry e) := by
  cases e with
  | step which name => exact he.elim
  | _ => rfl

/-! ## Trees as entries -/

mutual

/-- A tree as entries: a step with its start and its end. -/
def Tree.entries : Tree → List Entry
  | .entry e => [e]
  | .step name children =>
    .step (.str "start") name :: (treesEntries children ++ [.step (.str "end") name])

/-- Trees as entries, one after the other. -/
def treesEntries : List Tree → List Entry
  | [] => []
  | t :: rest => t.entries ++ treesEntries rest

end

mutual

/-- A tree whose entries are no boundaries of steps. -/
def Tree.HasLeaves : Tree → Prop
  | .entry e => IsLeaf e
  | .step _ children => HaveLeaves children

/-- Trees whose entries are no boundaries of steps. -/
def HaveLeaves : List Tree → Prop
  | [] => True
  | t :: rest => t.HasLeaves ∧ HaveLeaves rest

end

mutual

/-- A tree that is written as entries is read back. -/
lemma Tree.of_entries : (t : Tree) → t.HasLeaves → (more : List Entry) →
    Reading.of (t.entries ++ more) = (Reading.of more).cons t
  | .entry e, h, more => Reading.of_leaf h
  | .step name children, h, more => by
    have hstart : Entry.isStart (.str "start") = true := by decide +revert
    have hend : Entry.isStart (.str "end") = false := by decide +revert
    have hcut : Reading.of (.step (.str "end") name :: more) = (Reading.of more).cut := by
      rw [Reading.of, hend]
      rfl
    rw [Tree.entries, List.cons_append, List.append_assoc, Reading.of, if_pos hstart,
      of_treesEntries children h, List.singleton_append, hcut]
    show Reading.enclose name ⟨children ++ [], (Reading.of more).cut.later⟩ = _
    rw [List.append_nil]
    rfl

/-- Trees that are written as entries are read back. -/
lemma of_treesEntries : (trees : List Tree) → HaveLeaves trees → (more : List Entry) →
    Reading.of (treesEntries trees ++ more) =
      ⟨trees ++ (Reading.of more).trees, (Reading.of more).later⟩
  | [], _, more => rfl
  | t :: rest, h, more => by
    rw [treesEntries, List.append_assoc, t.of_entries h.1, of_treesEntries rest h.2]
    rfl

end

/-- **Trees that are written as entries are read back**, whatever trees they are. -/
theorem forest_entries {trees : List Tree} (h : HaveLeaves trees) :
    forest (treesEntries trees) = trees := by
  have hread := of_treesEntries trees h []
  rw [List.append_nil] at hread
  rw [forest, hread]
  simp [Reading.all, Reading.of, Reading.empty]

/-! ## Printing -/

/-- Whether a tree is a statement or a step, and no comment. -/
def Tree.fills : Tree → Bool
  | .entry (.comment _) => false
  | _ => true

mutual

/-- **A tree that is printed**: an entry as its lines, a step as its header with what is below it
one level deeper. -/
def Tree.lines (base : Value) (depth : ℕ) : Tree → Except Fault (List String)
  | .entry e => leafLines base depth e
  | .step name children =>
    andThen (headerLines base depth name)
      (andThen (treesLines base (depth + 1) children)
        (passAt base (depth + 1) (children.any Tree.fills)))

/-- Trees that are printed, one after the other. -/
def treesLines (base : Value) (depth : ℕ) : List Tree → Except Fault (List String)
  | [] => .ok []
  | t :: rest => andThen (t.lines base depth) (treesLines base depth rest)

end

/-- **A block of trees that is printed**, with a statement that does nothing at its end if there is
neither a statement nor a step among them. -/
def blockLines (base : Value) (depth : ℕ) (trees : List Tree) : Except Fault (List String) :=
  andThen (treesLines base depth trees) (passAt base depth (trees.any Tree.fills))

/-- A step is its header and a block one level deeper. -/
lemma Tree.lines_step (base : Value) (depth : ℕ) (name : Value) (children : List Tree) :
    (Tree.step name children).lines base depth =
      andThen (headerLines base depth name) (blockLines base (depth + 1) children) := by
  rw [lines, blockLines]

/-! ## The one pass prints trees -/

/-- What is read of the rest of a log, printed into the blocks that are open: the first trees into
the innermost one, and those after each end into the one around it. -/
def openLines (base : Value) (innermost : Bool) : List Bool → Reading → Except Fault (List String)
  | [], r => andThen (treesLines base 0 r.all) (passAt base 0 (innermost || r.all.any Tree.fills))
  | filled :: outer, r =>
    andThen (treesLines base (outer.length + 1) r.trees)
      (andThen (passAt base (outer.length + 1) (innermost || r.trees.any Tree.fills))
        (openLines base filled outer r.rest))

/-- At the end of a log the open blocks are closed. -/
lemma openLines_empty (innermost : Bool) (outer : List Bool) :
    openLines base innermost outer .empty = Blocks.closing base ⟨innermost, outer⟩ := by
  induction outer generalizing innermost with
  | nil =>
    show andThen (.ok []) (passAt base 0 (innermost || false)) = _
    rw [nil_andThen, Bool.or_false]
    rfl
  | cons filled outer ih =>
    show andThen (.ok []) (andThen (passAt base (outer.length + 1) (innermost || false))
      (openLines base filled outer .empty)) = _
    rw [nil_andThen, Bool.or_false, ih, Blocks.closing_cons]

/-- A tree is printed into the innermost block. -/
lemma openLines_cons (innermost : Bool) (outer : List Bool) (t : Tree) (r : Reading) :
    openLines base innermost outer (r.cons t) =
      andThen (t.lines base outer.length) (openLines base (innermost || t.fills) outer r) := by
  cases outer with
  | nil =>
    show andThen (andThen (t.lines base 0) (treesLines base 0 r.all))
      (passAt base 0 (innermost || (t.fills || r.all.any Tree.fills))) = _
    rw [andThen_assoc, ← Bool.or_assoc]
    rfl
  | cons filled outer =>
    show andThen
      (andThen (t.lines base (outer.length + 1)) (treesLines base (outer.length + 1) r.trees))
      (andThen (passAt base (outer.length + 1) (innermost || (t.fills || r.trees.any Tree.fills)))
        (openLines base filled outer r.rest)) = _
    rw [andThen_assoc, ← Bool.or_assoc]
    rfl

/-- A step is printed as its header, and the rest with its block open. -/
lemma openLines_enclose (innermost : Bool) (outer : List Bool) (name : Value) (r : Reading) :
    openLines base innermost outer (r.enclose name) =
      andThen (headerLines base outer.length name) (openLines base false (true :: outer) r) := by
  have hfills : (Tree.step name r.trees).fills = true := rfl
  rw [Reading.enclose, openLines_cons, Tree.lines_step, andThen_assoc, hfills, Bool.or_true,
    blockLines, andThen_assoc, openLines, Bool.false_or]

/-- **The one pass prints the trees of what is left of the log** into the blocks that are open.

**Proof sketch.** Induction on the log, from its end on. An entry is a tree of the innermost block;
a step that starts is one, too, of which the pass prints the header and then what is below it into a
block of its own; the end of a step closes the innermost block. -/
lemma finishedLines_eq (base : Value) (b : Blocks) (log : List Entry) :
    finishedLines base b log = openLines base b.innermost b.outer (.of log) := by
  induction log generalizing b with
  | nil =>
    rw [Reading.of, openLines_empty]
    exact nil_andThen
  | cons e rest ih =>
    have hleaf (he : IsLeaf e) (hown : ownLines base b e = leafLines base b.outer.length e)
        (hnext : b.next e = ⟨b.innermost || (Tree.entry e).fills, b.outer⟩) :
        finishedLines base b (e :: rest) =
          openLines base b.innermost b.outer (.of (e :: rest)) := by
      rw [finishedLines_cons, ih, hown, hnext, Reading.of_leaf he, openLines_cons, Tree.lines]
    cases e with
    | step which name =>
      rw [finishedLines_cons, ih, Reading.of, ownLines, Blocks.next]
      split
      next => rw [openLines_enclose]
      next =>
        obtain ⟨innermost, outer⟩ := b
        cases outer with
        | nil => exact nil_andThen
        | cons filled outer =>
          show _ = andThen (.ok []) (andThen (passAt base (outer.length + 1) (innermost || false))
            (openLines base filled outer (.of rest)))
          rw [nil_andThen, Bool.or_false]
    | comment text =>
      exact hleaf True.intro rfl (congrArg (Blocks.mk · b.outer) (Bool.or_false _).symm)
    | _ => exact hleaf True.intro rfl (congrArg (Blocks.mk · b.outer) (Bool.or_true _).symm)

/-- **The script of a log is its forest printed**, whatever values its entries have. -/
lemma render_closed_eq (log : List Entry) (openSteps : List Value) (base : Value) :
    render log openSteps base true = blockLines base 0 (forest (closeSteps log openSteps)) := by
  rw [render_closed, finishedLines_eq]
  rfl

/-- **Trees that are written as entries are printed**, whatever trees they are. -/
theorem render_treesEntries {trees : List Tree} (h : HaveLeaves trees) (base : Value) :
    render (treesEntries trees) [] base true = blockLines base 0 trees := by
  rw [render_closed_eq, closeSteps, List.reverse_nil, List.map_nil, List.append_nil,
    forest_entries h]

/-! ## Headers -/

end SessionRecorder.Script
