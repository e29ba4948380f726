import SessionRecorder.Proofs.Result
import SessionRecorder.Proofs.Script.Layout
/-!
# Another end of a log

A log that can be rendered can still be rendered with one more action at its end, or with one in the
place of actions that were there: a line has been written at that depth, or would have been written
there to fill a block that is empty.

## Main definitions

* `Script.IsAction` — an entry that is rendered as statements.
* `Script.Leads`, `Script.Closes` — how entries change the blocks that are open, and that these can
  be closed.
* `Script.Blocks.Written` — a line has been written in every block but an empty one.

## Main results

* `Script.exists_text_concat` — a script with another end of its log.
-/

namespace SessionRecorder.Script

variable {base : Value} {b b' : Blocks} {e : Entry} {log : List Entry}

/-! ## Blocks along a log -/

/-- A line can be written at a depth. -/
def HasMargin (base : Value) (depth : ℕ) : Prop :=
  ∃ m, margin base depth = .ok m

/-- An entry that is rendered as statements. -/
def IsAction (e : Entry) : Prop :=
  ∃ lines, statements e = .ok lines

/-- Entries that can be rendered lead from some open blocks to others. -/
def Leads (base : Value) (b : Blocks) (log : List Entry) (b' : Blocks) : Prop :=
  ∃ lines, logLines base b log = .ok (lines, b')

/-- Open blocks that can be closed. -/
def Closes (base : Value) (b : Blocks) : Prop :=
  ∃ lines, closingLines base b.innermost b.outer = .ok lines

/-- Where lines were written a line can be written. -/
lemma hasMargin_of_indented {ss lines : List String} (h : indented base b ss = .ok lines) :
    HasMargin base b.outer.length :=
  (exists_of_map h).imp fun _ h => h.1

/-- No entries leave the blocks as they are. -/
@[simp] lemma leads_nil : Leads base b [] b' ↔ b' = b := by
  constructor
  · rintro ⟨lines, h⟩
    exact (Prod.mk.inj (Except.ok.inj h)).2.symm
  · rintro rfl
    exact ⟨[], rfl⟩

/-- An entry and then the others. -/
lemma leads_cons : Leads base b (e :: log) b' ↔
    ∃ lines mid, entryLines base b e = .ok (lines, mid) ∧ Leads base mid log b' := by
  constructor
  · rintro ⟨lines, h⟩
    obtain ⟨⟨first, mid⟩, hfirst, h⟩ := exists_of_bind h
    obtain ⟨⟨rest, last⟩, hrest, h⟩ := exists_of_bind h
    obtain ⟨-, rfl⟩ := Prod.mk.inj (Except.ok.inj h)
    exact ⟨first, mid, hfirst, rest, hrest⟩
  · rintro ⟨first, mid, hfirst, rest, hrest⟩
    refine ⟨first ++ rest, ?_⟩
    simp only [logLines, hfirst, hrest, bind, Except.bind]
    rfl

/-- Entries and then others. -/
lemma leads_append {more : List Entry} :
    Leads base b (log ++ more) b' ↔ ∃ mid, Leads base b log mid ∧ Leads base mid more b' := by
  induction log generalizing b with
  | nil => simp
  | cons e rest ih =>
    simp only [List.cons_append, leads_cons, ih]
    constructor
    · rintro ⟨lines, next, he, mid, hrest, hmore⟩
      exact ⟨mid, ⟨lines, next, he, hrest⟩, hmore⟩
    · rintro ⟨mid, ⟨lines, next, he, hrest⟩, hmore⟩
      exact ⟨lines, next, he, mid, hrest, hmore⟩

/-- There is a script if its log can be rendered and the blocks that are left can be closed. -/
lemma exists_text_iff {openSteps : List Value} : (∃ t, text log openSteps = .ok t) ↔
    ∃ b, Leads (.int 1) .start (closeSteps log openSteps) b ∧ Closes (.int 1) b := by
  constructor
  · rintro ⟨t, h⟩
    obtain ⟨lines, h, -⟩ := exists_of_map h
    obtain ⟨lines, h, -⟩ := exists_of_map h
    obtain ⟨⟨lines, b⟩, hlines, h⟩ := exists_of_bind h
    obtain ⟨more, hmore, -⟩ := exists_of_bind h
    exact ⟨b, ⟨lines, hlines⟩, more, hmore⟩
  · rintro ⟨b, ⟨lines, hlines⟩, more, hmore⟩
    have hrender : render log openSteps (.int 1) true = .ok (lines ++ more) := by
      rw [render, hlines]
      show (do let more ← closingLines (.int 1) b.innermost b.outer; return lines ++ more) = _
      rw [hmore]
      rfl
    exact ⟨_, by rw [text, scriptLines, hrender]; rfl⟩

/-! ## Actions -/

/-- The lines of an action. -/
lemma entryLines_of_isAction (h : IsAction e) : ∃ ss, entryLines base b e =
    (indented base b ss).map fun lines => (lines, b.fill) := by
  obtain ⟨ss, hss⟩ := h
  refine ⟨ss, ?_⟩
  have hdo : (do
      let lines ← statements e
      let lines ← indented base b lines
      return (lines, b.fill)) = (indented base b ss).map fun lines => (lines, b.fill) := by
    rw [hss]
    rfl
  cases e with
  | step which name => cases hss
  | comment text => cases hss
  | _ => exact hdo

/-- An action is written if a line can be written at its depth, and fills the innermost block. -/
lemma leads_of_isAction (h : IsAction e) (hb : HasMargin base b.outer.length) :
    Leads base b [e] b.fill := by
  obtain ⟨ss, hss⟩ := @entryLines_of_isAction base b e h
  obtain ⟨m, hm⟩ := hb
  refine leads_cons.2 ⟨ss.map (m ++ ·), b.fill, ?_, leads_nil.2 rfl⟩
  rw [hss, indented, hm]
  rfl

/-- Actions open no blocks and close none, and at most fill the innermost one. -/
lemma Leads.of_isAction (h : Leads base b log b') (hlog : ∀ e ∈ log, IsAction e) :
    b'.outer = b.outer ∧ b'.fill = b.fill := by
  induction log generalizing b with
  | nil =>
    obtain rfl := leads_nil.1 h
    exact ⟨rfl, rfl⟩
  | cons e rest ih =>
    rw [List.forall_mem_cons] at hlog
    obtain ⟨lines, mid, he, hrest⟩ := leads_cons.1 h
    obtain ⟨ss, hss⟩ := @entryLines_of_isAction base b e hlog.1
    obtain ⟨lines, -, hmid⟩ := exists_of_map (hss.symm.trans he)
    obtain ⟨-, rfl⟩ := Prod.mk.inj hmid
    obtain ⟨houter, hfill⟩ := ih hrest hlog.2
    exact ⟨houter, hfill⟩

/-! ## Lines that were written -/

/-- **What is open while a log is rendered**: a line has been written in every block around the
innermost one, and in that one if it is not empty. -/
structure Blocks.Written (base : Value) (b : Blocks) : Prop where
  outer : ∀ depth < b.outer.length, HasMargin base depth
  innermost : b.innermost = true → HasMargin base b.outer.length

/-- An entry that is rendered keeps the invariant. -/
lemma Blocks.Written.entryLines {lines : List String} (h : b.Written base)
    (he : entryLines base b e = .ok (lines, b')) : b'.Written base := by
  have haction (haction : IsAction e) : b'.Written base := by
    obtain ⟨ss, hss⟩ := @entryLines_of_isAction base b e haction
    obtain ⟨lines, hlines, hb'⟩ := exists_of_map (hss.symm.trans he)
    obtain ⟨-, rfl⟩ := Prod.mk.inj hb'
    exact ⟨h.outer, fun _ => hasMargin_of_indented hlines⟩
  cases e with
  | step which name =>
    rw [Script.entryLines] at he
    split at he
    next =>
      obtain ⟨l, -, he⟩ := exists_of_bind he
      obtain ⟨lines, hlines, he⟩ := exists_of_bind he
      obtain ⟨-, rfl⟩ := Prod.mk.inj (Except.ok.inj he)
      refine ⟨fun depth hdepth => ?_, nofun⟩
      rcases Nat.lt_succ_iff_lt_or_eq.1 hdepth with hdepth | rfl
      · exact h.outer depth hdepth
      · exact hasMargin_of_indented hlines
    next =>
      obtain ⟨innermost, outer⟩ := b
      cases outer with
      | nil =>
        obtain ⟨-, rfl⟩ := Prod.mk.inj (Except.ok.inj he)
        exact h
      | cons filled outer =>
        obtain ⟨lines, -, hb'⟩ := exists_of_map he
        obtain ⟨-, rfl⟩ := Prod.mk.inj hb'
        exact ⟨fun depth hdepth => h.outer depth (Nat.lt_succ_of_lt hdepth),
          fun _ => h.outer _ (Nat.lt_succ_self _)⟩
  | comment text =>
    obtain ⟨lines, -, hb'⟩ := exists_of_map he
    obtain ⟨-, rfl⟩ := Prod.mk.inj hb'
    exact h
  | _ =>
    obtain ⟨ss, hss, -⟩ := exists_of_bind he
    exact haction ⟨ss, hss⟩

/-- A log that is rendered keeps the invariant. -/
lemma Blocks.Written.leads (h : b.Written base) (hlog : Leads base b log b') : b'.Written base := by
  induction log generalizing b with
  | nil =>
    obtain rfl := leads_nil.1 hlog
    exact h
  | cons e rest ih =>
    obtain ⟨lines, mid, he, hrest⟩ := leads_cons.1 hlog
    exact ih (h.entryLines he) hrest

/-! ## Ends of steps -/

/-- Entries that are the ends of steps. -/
def AreEnds (log : List Entry) : Prop :=
  ∀ e ∈ log, ∃ name, e = .step (.str "end") name

/-- The end of a step closes a block. -/
lemma entryLines_end (name : Value) :
    entryLines base b (.step (.str "end") name) = closeBlock base b := rfl

/-- An empty block that is closed in the end has room for a line. -/
lemma hasMargin_of_closes (hends : AreEnds log) (hlog : Leads base b log b')
    (hclose : Closes base b') (hempty : b.innermost = false) : HasMargin base b.outer.length := by
  have hpadding {lines : List String} (h : padding base b = .ok lines) :
      HasMargin base b.outer.length := by
    rw [padding, hempty] at h
    exact hasMargin_of_indented h
  induction log with
  | nil =>
    obtain rfl := leads_nil.1 hlog
    obtain ⟨lines, hlines⟩ := hclose
    obtain ⟨innermost, outer⟩ := b'
    cases outer with
    | nil => exact hpadding hlines
    | cons filled outer =>
      obtain ⟨lines, hlines, -⟩ := exists_of_bind hlines
      exact hpadding hlines
  | cons e rest ih =>
    obtain ⟨⟨name, rfl⟩, hrest⟩ := List.forall_mem_cons.1 hends
    obtain ⟨lines, mid, he, hmid⟩ := leads_cons.1 hlog
    rw [entryLines_end] at he
    obtain ⟨innermost, outer⟩ := b
    cases outer with
    | nil =>
      obtain ⟨-, rfl⟩ := Prod.mk.inj (Except.ok.inj he)
      exact ih hrest hmid
    | cons filled outer =>
      obtain ⟨lines, hlines, -⟩ := exists_of_map he
      exact hpadding hlines

/-- What can be closed can be closed if the innermost block is filled. -/
lemma exists_leads_fill (hends : AreEnds log) (hlog : Leads base b log b')
    (hclose : Closes base b') : ∃ c, Leads base b.fill log c ∧ Closes base c := by
  induction log with
  | nil =>
    obtain rfl := leads_nil.1 hlog
    refine ⟨b'.fill, leads_nil.2 rfl, ?_⟩
    obtain ⟨lines, hlines⟩ := hclose
    obtain ⟨innermost, outer⟩ := b'
    cases outer with
    | nil => exact ⟨[], rfl⟩
    | cons filled outer =>
      obtain ⟨padded, -, hlines⟩ := exists_of_bind hlines
      obtain ⟨more, hmore, -⟩ := exists_of_bind hlines
      refine ⟨[] ++ more, ?_⟩
      show (do let more ← closingLines base filled outer; return [] ++ more) = _
      rw [hmore]
      rfl
  | cons e rest ih =>
    obtain ⟨⟨name, rfl⟩, hrest⟩ := List.forall_mem_cons.1 hends
    obtain ⟨lines, mid, he, hmid⟩ := leads_cons.1 hlog
    rw [entryLines_end] at he
    obtain ⟨innermost, outer⟩ := b
    cases outer with
    | nil =>
      obtain ⟨-, rfl⟩ := Prod.mk.inj (Except.ok.inj he)
      obtain ⟨c, hc, hcloses⟩ := ih hrest hmid
      exact ⟨c, leads_cons.2 ⟨[], _, rfl, hc⟩, hcloses⟩
    | cons filled outer =>
      obtain ⟨padded, -, hpadded⟩ := exists_of_map he
      obtain ⟨-, rfl⟩ := Prod.mk.inj hpadded
      exact ⟨b', leads_cons.2 ⟨[], ⟨filled, outer⟩, rfl, hmid⟩, hclose⟩

/-! ## The end of the log -/

/-- **A script with another end of its log**: if there was a script with actions at the end, or
with none, there is one with another action in their place.

**Proof sketch.** Actions open no blocks and close none, so the new one stands in the block that is
open after the old ones. If that block is not empty, a line was written in it; if it is empty, one
would have been written to close it. What comes afterwards only closes blocks, and one block that is
filled is no harder to close. -/
theorem exists_text_concat {front back : List Entry} {openSteps : List Value}
    (hback : ∀ e ∈ back, IsAction e) (he : IsAction e)
    (h : ∃ t, text (front ++ back) openSteps = .ok t) :
    ∃ t, text (front ++ [e]) openSteps = .ok t := by
  have hends : AreEnds (openSteps.reverse.map fun name => .step (.str "end") name) := by
    intro e he
    obtain ⟨name, -, rfl⟩ := List.mem_map.1 he
    exact ⟨name, rfl⟩
  obtain ⟨b, hlog, hclose⟩ := exists_text_iff.1 h
  obtain ⟨after, hlog, hsteps⟩ := leads_append.1 hlog
  obtain ⟨before, hfront, hactions⟩ := leads_append.1 hlog
  obtain ⟨houter, hfill⟩ := hactions.of_isAction hback
  have hstart : Blocks.start.Written (.int 1) := ⟨nofun, nofun⟩
  have hmargin : HasMargin (.int 1) before.outer.length := by
    rw [← houter]
    cases hinnermost : after.innermost with
    | true => exact ((hstart.leads hfront).leads hactions).innermost hinnermost
    | false => exact hasMargin_of_closes hends hsteps hclose hinnermost
  obtain ⟨c, hc, hcloses⟩ := exists_leads_fill hends hsteps hclose
  rw [hfill] at hc
  exact exists_text_iff.2 ⟨c, leads_append.2 ⟨before.fill,
    leads_append.2 ⟨before, hfront, leads_of_isAction he hmargin⟩, hc⟩, hcloses⟩

end SessionRecorder.Script
