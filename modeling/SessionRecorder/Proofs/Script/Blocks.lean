import SessionRecorder.Proofs.Script.Layout
import SessionRecorder.Proofs.Text.Lines
/-!
# Every log has a valid layout

The lines of a log are written one entry after the other. What holds of the lines written so far,
together with the blocks that are open, is an invariant of the entries: each keeps it, whatever
steps it opens or closes. Closing the blocks that are left makes the lines one block.

The invariant does not depend on what the lines of code say, so it is stated for any kind of code
`P`: that of entries with fields of the declared kinds, and that of all entries that can be
rendered.

## Main definitions

* `Script.TooWide` — a result is missing since a line would be indented beyond what can be held.
* `Script.Laid` — lines of a kind of code whose neighbours fit together.
* `Script.Renders` — an entry whose lines are of a kind of code.
* `Script.Blocks.After` — the blocks that can be open after a line of code.
* `Script.Begun` — the invariant of lines that are being written.

## Main results

* `Script.Begun.entryLines`, `Script.Begun.logLines` — an entry, and a log, keep the invariant.
* `Script.Begun.closingLines` — the lines are one block after the blocks have been closed.
* `Script.exists_render` — the lines of a log whose entries are of a kind of code are laid out.
* `Script.layout_of_wellTyped` — the lines of a log have a valid layout.
-/

namespace SessionRecorder.Script

open Text

variable {α β : Type} {P : String → Prop} {base : ℕ} {b : Blocks}

/-! ## Margins -/

/-- The faults of a margin that is too wide to be held. -/
def IsWidthFault (f : Fault) : Prop :=
  f = .countTooLarge ∨ f = .repetitionTooLong ∨ f = .memoryExhausted

/-- There is no result, since the margin of a line at `level` is too wide to be held. -/
def TooWide (level : ℕ) (r : Except Fault α) : Prop :=
  memoryLimit ≤ (level : ℤ) * indent.length ∧ ∃ f, IsWidthFault f ∧ r = .error f

/-- What is too wide is so at any deeper level. -/
lemma TooWide.mono {m n : ℕ} {r : Except Fault α} (h : TooWide m r) (hmn : m ≤ n) :
    TooWide n r := by
  have hindent : indent.length = 4 := rfl
  obtain ⟨hm, hr⟩ := h
  rw [hindent] at hm
  exact ⟨by rw [hindent]; omega, hr⟩

/-- Nothing comes of what is missing. -/
lemma TooWide.map {n : ℕ} {r : Except Fault α} (h : TooWide n r) (f : α → β) :
    TooWide n (r.map f) := by
  obtain ⟨hn, fault, hf, rfl⟩ := h
  exact ⟨hn, fault, hf, rfl⟩

/-- Nothing comes after what is missing. -/
lemma TooWide.bind {n : ℕ} {r : Except Fault α} (h : TooWide n r) (f : α → Except Fault β) :
    TooWide n (r >>= f) := by
  obtain ⟨hn, fault, hf, rfl⟩ := h
  exact ⟨hn, fault, hf, rfl⟩

/-- The margin of a level. -/
def IsMargin (level : ℕ) (m : String) : Prop :=
  m.toList = List.replicate (indent.length * level) ' '

/-- The blanks of a number of levels are a margin. -/
lemma isMargin_join (n : ℕ) : IsMargin n (String.join (List.replicate n indent)) := by
  have hindent : indent.toList = List.replicate 4 ' ' := rfl
  have hlength : indent.length = 4 := rfl
  unfold IsMargin
  rw [hlength]
  induction n with
  | zero => rfl
  | succ n ih =>
    rw [String.toList_join] at ih ⊢
    rw [List.replicate_succ, List.flatMap_cons, ih, hindent, List.replicate_append_replicate]
    congr 1
    omega

/-- A depth below a level has a margin, unless it is too wide. -/
lemma exists_margin (base depth : ℕ) :
    (∃ m, margin (.int base) depth = .ok m ∧ IsMargin (base + depth) m) ∨
      TooWide (base + depth) (margin (.int base) depth) := by
  have hsize : sizeLimit = 9223372036854775808 := rfl
  have hmemory : memoryLimit = 1073741824 := rfl
  have hindent : indent.length = 4 := rfl
  have hsum : (base : ℤ) + (depth + 1) - 1 = (base + depth : ℕ) := by omega
  have hlow : ¬((base + depth : ℕ) : ℤ) < -sizeLimit := by omega
  have hlevel : level (.int base) depth = if sizeLimit ≤ ((base + depth : ℕ) : ℤ) then
      .error .countTooLarge else .ok ((base + depth : ℕ) : ℤ) := by
    simp only [level, Value.int_add_int, bind, Except.bind, hsum, hlow, decide_false,
      Bool.or_false, decide_eq_true_eq]
    rfl
  unfold margin
  rw [hlevel]
  split
  next hlarge => exact .inr ⟨by rw [hindent]; omega, _, .inl rfl, rfl⟩
  next hsmall =>
    show (∃ m, blanks ((base + depth : ℕ) : ℤ) = .ok m ∧ _) ∨
      TooWide (base + depth) (blanks ((base + depth : ℕ) : ℤ))
    unfold blanks
    dsimp only
    split_ifs with hlong hwide
    · exact .inr ⟨by omega, _, .inr (.inl rfl), rfl⟩
    · exact .inr ⟨hwide, _, .inr (.inr rfl), rfl⟩
    · exact .inl ⟨_, rfl, isMargin_join (base + depth)⟩

/-! ## Lines in the margin -/

/-- A line of code at a level. -/
structure CodeAt (level : ℕ) (line : String) : Prop extends IsOneLine line where
  aligned : indent.length ∣ leadingSpaces line
  level_eq : lineLevel line = level
  notComment : isComment line = false

/-- What comes first after spaces. -/
lemma dropWhile_spaces {p : Char → Bool} {n : ℕ} {c : Char} {cs : List Char} (hp : p ' ' = true)
    (hc : p c = false) : (List.replicate n ' ' ++ c :: cs).dropWhile p = c :: cs := by
  induction n with
  | zero => simp [hc]
  | succ n ih => simpa [List.replicate_succ, hp] using ih

/-- The spaces in front of what is none. -/
lemma takeWhile_spaces {n : ℕ} {c : Char} {cs : List Char} (hc : c ≠ ' ') :
    (List.replicate n ' ' ++ c :: cs).takeWhile (· == ' ') = List.replicate n ' ' := by
  induction n with
  | zero => simp [hc]
  | succ n ih => simpa [List.replicate_succ] using ih

/-- A letter is no blank and no mark of a comment. -/
lemma not_isBlank_of_isAlpha {c : Char} (h : c.isAlpha = true) :
    isBlank c = false ∧ c ≠ ' ' ∧ c ≠ '#' := by
  refine ⟨?_, by rintro rfl; simp at h, by rintro rfl; simp at h⟩
  delta Char.isAlpha Char.isUpper Char.isLower at h
  simp only [Bool.or_eq_true, Bool.and_eq_true, decide_eq_true_eq, UInt32.le_iff_toNat_le] at h
  change (65 ≤ c.toNat ∧ c.toNat ≤ 90) ∨ (97 ≤ c.toNat ∧ c.toNat ≤ 122) at h
  have hout : c.toNat ∉ blankCodes := by
    simp only [blankCodes, List.mem_cons, List.not_mem_nil, or_false]
    omega
  simpa [isBlank] using hout

/-- Characters that end no line stand on one. -/
lemma isOneLine_of_inLine {line : String} (h : InLine line.toList) : IsOneLine line where
  newline hc := absurd (h _ hc) (by decide)
  carriageReturn hc := absurd (h _ hc) (by decide)
  nul hc := absurd (h _ hc) (by decide)

/-- Whether a line in a margin is a header is up to what is in it. -/
lemma isHeader_append {m s : String} (hs : IsCode s) : isHeader (m ++ s) = isHeader s := by
  have hne : s.toList ≠ [] := fun h => by simpa [h] using hs.letter
  simp [isHeader, List.getLast?_append_of_ne_nil _ hne]

/-- A margin is made of spaces, and code begins with another character. -/
lemma exists_cons_of_isCode {level : ℕ} {m s : String} (hm : IsMargin level m) (hs : IsCode s) :
    ∃ c cs, s.toList = c :: cs ∧ c.isAlpha = true ∧
      (m ++ s).toList = List.replicate (indent.length * level) ' ' ++ c :: cs := by
  obtain ⟨c, cs, hcs⟩ : ∃ c cs, s.toList = c :: cs := by
    cases hcs : s.toList with
    | nil => simpa [hcs] using hs.letter
    | cons c cs => exact ⟨c, cs, rfl⟩
  refine ⟨c, cs, hcs, by simpa [hcs] using hs.letter, ?_⟩
  rw [String.toList_append, hm, hcs]

/-- What is left of code in a margin without the spaces in front is the code. -/
lemma dropWhile_margin {level : ℕ} {m s : String} (hm : IsMargin level m) (hs : IsCode s) :
    (m ++ s).toList.dropWhile (· == ' ') = s.toList := by
  obtain ⟨c, cs, hcs, halpha, hchars⟩ := exists_cons_of_isCode hm hs
  rw [hchars, hcs]
  exact dropWhile_spaces (by decide) (by simpa using (not_isBlank_of_isAlpha halpha).2.1)

/-- Code in the margin of a level is a line of code at that level. -/
lemma codeAt_append {level : ℕ} {m s : String} (hm : IsMargin level m) (hs : IsCode s) :
    CodeAt level (m ++ s) := by
  obtain ⟨c, cs, -, halpha, hchars⟩ := exists_cons_of_isCode hm hs
  obtain ⟨hblank, hspace, hmark⟩ := not_isBlank_of_isAlpha halpha
  have hmargin : InLine m.toList := fun c hc => by
    rw [hm] at hc
    rw [List.eq_of_mem_replicate hc]
    decide
  have hlead : leadingSpaces (m ++ s) = indent.length * level := by
    rw [leadingSpaces, hchars, takeWhile_spaces hspace, List.length_replicate]
  exact {
    toIsOneLine := isOneLine_of_inLine (by simpa using ⟨hmargin, hs.inLine⟩)
    aligned := hlead ▸ Nat.dvd_mul_right _ _
    level_eq := by
      rw [lineLevel, hlead]
      exact Nat.mul_div_cancel_left _ (by decide)
    notComment := by
      rw [isComment, hchars, dropWhile_spaces (by decide) hblank]
      simpa using hmark }

/-! ## Kinds of code -/

/-- A line that is code of a kind in the margin of a level. -/
def InMargin (P : String → Prop) (line : String) : Prop :=
  ∃ level m s, IsMargin level m ∧ P s ∧ line = m ++ s

/-- **Lines that are laid out** from level `base` on: neighbours fit together, no line holds a line
end, and those that are no comments are code of a kind. -/
structure Laid (P : String → Prop) (base : ℕ) (lines : List String) : Prop
    extends Nested base (codeLines lines) where
  oneLine : ∀ line ∈ lines, IsOneLine line
  code : ∀ line ∈ codeLines lines, InMargin P line

/-- Lines that are laid out are one block of the grammar. -/
lemma Laid.suite {lines : List String} (h : Laid P base lines) : Suite base (codeLines lines) :=
  h.toNested.suite

/-- A kind of code: its lines begin with a letter, and the statement that does nothing is one. -/
structure IsKindOfCode (P : String → Prop) : Prop where
  isCode : ∀ s, P s → IsCode s
  pass : P "pass"

/-- The statement that does nothing does not end in a colon. -/
lemma isHeader_pass : isHeader "pass" = false := by decide

/-- An entry whose lines are code of a kind: the header of a step that starts, or statements. -/
def Renders (P : String → Prop) : Entry → Prop
  | .step which name =>
    Entry.isStart which = true → ∃ l, literal name = .ok l ∧ P ("with allure.step(" ++ l ++ "):")
  | .comment text => text.IsText
  | e => ∃ ss, statements e = .ok ss ∧ ss ≠ [] ∧ ∀ s ∈ ss, P s ∧ isHeader s = false

/-- A line of a comment, in the margin of a level, is one line and a comment. -/
lemma comment_line {level : ℕ} {m text line : String} (hm : IsMargin level m)
    (h : line ∈ commentLines text) :
    IsOneLine (trimEnd (m ++ "# " ++ line)) ∧ isComment (trimEnd (m ++ "# " ++ line)) = true := by
  have hchars : (trimEnd (m ++ "# " ++ line)).toList = List.replicate (indent.length * level) ' ' ++
      '#' :: dropEndWhile isBlank (' ' :: line.toList) := by
    rw [trimEnd, String.toList_ofList, String.toList_append, String.toList_append, hm]
    exact List.append_assoc _ _ _ ▸ dropEndWhile_append_cons (by decide) _ _
  have hline : ∀ c ∈ line.toList, isLineBoundary c = false ∧ c ≠ '\x00' := by
    unfold commentLines at h
    split at h
    next =>
      obtain rfl : line = "" := by simpa using h
      simp
    next =>
      intro c hc
      refine ⟨not_boundary_of_mem_splitLines h c hc, ?_⟩
      have := mem_of_mem_splitLines h c hc
      rw [String.toList_ofList, List.mem_filter] at this
      simpa using this.2
  have hout : ∀ c, (isLineBoundary c = true ∨ c = '\x00') → c ≠ ' ' → c ≠ '#' →
      c ∉ (trimEnd (m ++ "# " ++ line)).toList := by
    intro c hc hspace hmark hmem
    rw [hchars, List.mem_append, List.mem_cons] at hmem
    rcases hmem with hmem | rfl | hmem
    · exact hspace (List.eq_of_mem_replicate hmem)
    · exact hmark rfl
    · rcases List.mem_cons.1 (dropEndWhile_subset _ _ hmem) with rfl | hmem
      · exact hspace rfl
      · obtain ⟨hboundary, hnul⟩ := hline c hmem
        rcases hc with hc | hc
        · exact absurd hc (by simp [hboundary])
        · exact hnul hc
  refine ⟨⟨hout _ (.inl (by decide)) (by decide) (by decide),
    hout _ (.inl (by decide)) (by decide) (by decide),
    hout _ (.inr rfl) (by decide) (by decide)⟩, ?_⟩
  rw [isComment, hchars, dropWhile_spaces (by decide) (by decide)]
  rfl

/-! ## The invariant -/

/-- The blocks that can be open after the lines whose last line of code is given: after a header its
block is open and empty, after any other line no block is open that is deeper or empty. -/
def Blocks.After (base : ℕ) (b : Blocks) : Option String → Prop
  | none => b = .start
  | some line =>
    if isHeader line then b.innermost = false ∧ base + b.outer.length = lineLevel line + 1
    else b.innermost = true ∧ base + b.outer.length ≤ lineLevel line

/-- **The invariant of lines that are being written** with the blocks `b` open: neighbours fit
together, the first line is at the level of the body, every block around the innermost one has
received a line, and the open blocks are those that can be open after the last line. -/
structure Begun (P : String → Prop) (base : ℕ) (lines : List String) (b : Blocks) : Prop where
  oneLine : ∀ line ∈ lines, IsOneLine line
  code : ∀ line ∈ codeLines lines, InMargin P line
  first : ∀ line, (codeLines lines).head? = some line → lineLevel line = base
  chain : (codeLines lines).IsChain (Follows base)
  outer : ∀ filled ∈ b.outer, filled = true
  after : b.After base (codeLines lines).getLast?

/-- Before the first line only the body is open. -/
lemma Begun.start (base : ℕ) : Begun P base [] .start where
  oneLine := by simp
  code := by simp [codeLines]
  first := by simp [codeLines]
  chain := .nil
  outer := by simp [Blocks.start]
  after := rfl

variable {lines : List String}

/-- Code at the depth of the innermost block keeps the invariant, with any blocks open afterwards
that can be. -/
lemma Begun.emit {m s : String} {b' : Blocks} (h : Begun P base lines b)
    (hm : IsMargin (base + b.outer.length) m) (hs : P s) (hcode : IsCode s)
    (houter : ∀ filled ∈ b'.outer, filled = true) (hafter : b'.After base (some (m ++ s))) :
    Begun P base (lines ++ [m ++ s]) b' := by
  have hline := codeAt_append hm hcode
  have hlines : codeLines (lines ++ [m ++ s]) = codeLines lines ++ [m ++ s] := by
    simp [codeLines, hline.notComment]
  have hb := h.after
  refine ⟨?_, ?_, ?_, ?_, houter, ?_⟩
  · exact List.forall_mem_append.2 ⟨h.oneLine, by simpa using hline.toIsOneLine⟩
  · rw [hlines]
    exact List.forall_mem_append.2 ⟨h.code, by simpa using ⟨_, m, s, hm, hs, rfl⟩⟩
  · intro l hl
    rw [hlines] at hl
    cases hbefore : codeLines lines with
    | nil =>
      obtain rfl : m ++ s = l := by simpa [hbefore] using hl
      have hstart : b = .start := by simpa [hbefore, Blocks.After] using hb
      rw [hline.level_eq, hstart]
      rfl
    | cons f rest => exact h.first l (by simpa [hbefore] using hl)
  · rw [hlines]
    refine List.isChain_append.2 ⟨h.chain, .singleton _, fun l hl next hnext => ?_⟩
    obtain rfl : m ++ s = next := by simpa using hnext
    rw [Option.mem_def.1 hl] at hb
    rw [Follows, hline.level_eq]
    cases hh : isHeader l with
    | true =>
      rw [Blocks.After, hh] at hb
      exact hb.2
    | false =>
      rw [Blocks.After, hh] at hb
      exact ⟨Nat.le_add_right _ _, hb.2⟩
  · simpa [hlines] using hafter

/-- A statement keeps the invariant and fills the innermost block. -/
lemma Begun.statement {m s : String} (h : Begun P base lines b)
    (hm : IsMargin (base + b.outer.length) m) (hs : P s) (hcode : IsCode s)
    (hheader : isHeader s = false) : Begun P base (lines ++ [m ++ s]) b.fill := by
  refine h.emit hm hs hcode h.outer ?_
  have hh : isHeader (m ++ s) = false := (isHeader_append hcode).trans hheader
  rw [Blocks.After, hh]
  exact ⟨rfl, (codeAt_append hm hcode).level_eq.ge⟩

/-- Statements keep the invariant and fill the innermost block. -/
lemma Begun.statements {m : String} {ss : List String} (hP : IsKindOfCode P)
    (h : Begun P base lines b) (hm : IsMargin (base + b.outer.length) m) (hne : ss ≠ [])
    (hs : ∀ s ∈ ss, P s ∧ isHeader s = false) :
    Begun P base (lines ++ ss.map (m ++ ·)) b.fill := by
  induction ss generalizing lines b with
  | nil => exact absurd rfl hne
  | cons s rest ih =>
    rw [List.forall_mem_cons] at hs
    have hfirst := h.statement hm hs.1.1 (hP.isCode s hs.1.1) hs.1.2
    cases rest with
    | nil => exact hfirst
    | cons next after =>
      have hrest := ih hfirst hm (by simp) hs.2
      rw [List.append_assoc] at hrest
      exact hrest

/-- A header keeps the invariant and opens a block. -/
lemma Begun.header {m s : String} (h : Begun P base lines b)
    (hm : IsMargin (base + b.outer.length) m) (hs : P s) (hcode : IsCode s)
    (hheader : isHeader s = true) :
    Begun P base (lines ++ [m ++ s]) ⟨false, true :: b.outer⟩ := by
  refine h.emit hm hs hcode (by simpa using h.outer) ?_
  have hh : isHeader (m ++ s) = true := (isHeader_append hcode).trans hheader
  rw [Blocks.After, hh]
  exact ⟨rfl, by rw [(codeAt_append hm hcode).level_eq]; rfl⟩

/-- Comments keep the invariant. -/
lemma Begun.comments {more : List String} (h : Begun P base lines b)
    (hone : ∀ line ∈ more, IsOneLine line) (hcomment : ∀ line ∈ more, isComment line = true) :
    Begun P base (lines ++ more) b := by
  have hcode : codeLines (lines ++ more) = codeLines lines := by
    rw [codeLines_append, codeLines_eq_nil hcomment, List.append_nil]
  exact {
    oneLine := List.forall_mem_append.2 ⟨h.oneLine, hone⟩
    code := hcode ▸ h.code
    first := hcode ▸ h.first
    chain := hcode ▸ h.chain
    outer := h.outer
    after := hcode ▸ h.after }

/-- The end of a block that has received a line keeps the invariant. -/
lemma Begun.close {filled : Bool} {outer : List Bool}
    (h : Begun P base lines ⟨true, filled :: outer⟩) :
    Begun P base lines ⟨filled, outer⟩ := by
  have houter := List.forall_mem_cons.1 h.outer
  refine ⟨h.oneLine, h.code, h.first, h.chain, houter.2, ?_⟩
  have hafter := h.after
  cases hlast : (codeLines lines).getLast? with
  | none => simp [hlast, Blocks.After, Blocks.start] at hafter
  | some line =>
    cases hh : isHeader line with
    | true => simp [hlast, Blocks.After, hh] at hafter
    | false =>
      simp only [hlast, Blocks.After, hh, List.length_cons] at hafter
      rw [Blocks.After, hh]
      exact ⟨houter.1, show base + outer.length ≤ lineLevel line by have := hafter.2; omega⟩

/-! ## Entries -/

/-- Statements that are written at the depth of the innermost block fill it, unless they would be
too wide. -/
lemma Begun.indented {ss : List String} (hP : IsKindOfCode P) (h : Begun P base lines b)
    (hne : ss ≠ []) (hs : ∀ s ∈ ss, P s ∧ isHeader s = false) :
    (∃ new, indented (.int base) b ss = .ok new ∧ Begun P base (lines ++ new) b.fill) ∨
      TooWide (base + b.outer.length) (indented (.int base) b ss) := by
  rcases exists_margin base b.outer.length with ⟨m, hm, hmargin⟩ | hwide
  · refine .inl ⟨ss.map (m ++ ·), ?_, h.statements hP hmargin hne hs⟩
    rw [Script.indented, hm]
    rfl
  · exact .inr (hwide.map _)

/-- A block is filled before it ends, unless the line for that would be too wide. -/
lemma Begun.padding (hP : IsKindOfCode P) (h : Begun P base lines b) :
    (∃ new, padding (.int base) b = .ok new ∧ Begun P base (lines ++ new) b.fill) ∨
      TooWide (base + b.outer.length) (padding (.int base) b) := by
  unfold Script.padding
  split
  next hfilled =>
    refine .inl ⟨[], rfl, ?_⟩
    obtain ⟨innermost, outer⟩ := b
    obtain rfl : innermost = true := hfilled
    simpa [Blocks.fill] using h
  next => exact h.indented hP (by simp) (by simpa using ⟨hP.pass, isHeader_pass⟩)

/-- Whether an entry opens a block. -/
def opensBlock : Entry → Bool
  | .step which _ => Entry.isStart which
  | _ => false

/-- What comes of writing more lines: the invariant is kept, with blocks that are at most `deeper`
blocks deeper, unless a line at such a depth would be too wide. -/
def Keeps (P : String → Prop) (base : ℕ) (lines : List String) (b : Blocks) (deeper : ℕ)
    (r : Except Fault (List String × Blocks)) : Prop :=
  (∃ new b', r = .ok (new, b') ∧ Begun P base (lines ++ new) b' ∧
      b'.outer.length ≤ b.outer.length + deeper) ∨
    TooWide (base + b.outer.length + deeper) r

/-- An entry with statements keeps the invariant. -/
lemma Begun.action {e : Entry} (hP : IsKindOfCode P) (h : Begun P base lines b)
    (he : ∃ ss, Script.statements e = .ok ss ∧ ss ≠ [] ∧ ∀ s ∈ ss, P s ∧ isHeader s = false) :
    Keeps P base lines b 0 (do
      let ss ← Script.statements e
      let new ← Script.indented (.int base) b ss
      return (new, b.fill)) := by
  obtain ⟨ss, hss, hne, hstatement⟩ := he
  rw [hss]
  rcases h.indented hP hne hstatement with ⟨new, hnew, hbegun⟩ | hwide
  · exact .inl ⟨new, b.fill, by simp only [bind, Except.bind, hnew]; rfl, hbegun, le_rfl⟩
  · exact .inr (hwide.bind _)

/-- The start of a step keeps the invariant. -/
lemma Begun.openBlock {name : Value} {l : String} (hP : IsKindOfCode P)
    (h : Begun P base lines b) (hl : literal name = .ok l)
    (hs : P ("with allure.step(" ++ l ++ "):")) :
    Keeps P base lines b 1 (Script.openBlock (.int base) b name) := by
  have hheader : isHeader ("with allure.step(" ++ l ++ "):") = true := by
    simp [isHeader, List.getLast?_cons]
  rcases exists_margin base b.outer.length with ⟨m, hm, hmargin⟩ | hwide
  · refine .inl ⟨_, ⟨false, true :: b.outer⟩, ?_,
      h.header hmargin hs (hP.isCode _ hs) hheader, le_rfl⟩
    rw [Script.openBlock, hl]
    simp only [bind, Except.bind, Script.indented, hm]
    rfl
  · rw [Script.openBlock, hl]
    exact .inr (((hwide.map _).bind _).mono (Nat.le_add_right _ _))

/-- The end of a step keeps the invariant, whether one is open or not. -/
lemma Begun.closeBlock (hP : IsKindOfCode P) (h : Begun P base lines b) :
    Keeps P base lines b 0 (Script.closeBlock (.int base) b) := by
  obtain ⟨innermost, outer⟩ := b
  cases outer with
  | nil => exact .inl ⟨[], _, rfl, by simpa using h, le_rfl⟩
  | cons filled outer =>
    rw [Script.closeBlock]
    rcases h.padding hP with ⟨new, hnew, hfilled⟩ | hwide
    · exact .inl ⟨new, ⟨filled, outer⟩, by rw [hnew]; rfl, hfilled.close, by simp⟩
    · exact .inr (hwide.map _)

/-- A comment keeps the invariant. -/
lemma Begun.comment {text : Value} (h : Begun P base lines b) (ht : text.IsText) :
    Keeps P base lines b 0 ((commentBlock (.int base) b text).map fun new => (new, b)) := by
  obtain ⟨s, rfl⟩ := ht.exists_eq
  rcases exists_margin base b.outer.length with ⟨m, hm, hmargin⟩ | hwide
  · refine .inl ⟨_, b, by rw [commentBlock, hm]; rfl, h.comments ?_ ?_, le_rfl⟩
    · intro line hline
      obtain ⟨l, hl, rfl⟩ := List.mem_map.1 hline
      exact (comment_line hmargin hl).1
    · intro line hline
      obtain ⟨l, hl, rfl⟩ := List.mem_map.1 hline
      exact (comment_line hmargin hl).2
  · exact .inr ((hwide.bind _).map _)

/-- **An entry keeps the invariant**: only the start of a step makes the blocks deeper. -/
theorem Begun.entryLines {e : Entry} (hP : IsKindOfCode P) (h : Begun P base lines b)
    (he : Renders P e) :
    Keeps P base lines b (if opensBlock e then 1 else 0) (Script.entryLines (.int base) b e) := by
  cases e with
  | step which name =>
    rw [Script.entryLines, opensBlock]
    split
    next hstart =>
      obtain ⟨l, hl, hs⟩ := he hstart
      exact h.openBlock hP hl hs
    next => exact h.closeBlock hP
  | comment text => exact h.comment he
  | _ => exact h.action hP he

/-- **A log keeps the invariant**: the blocks are deeper by at most the number of steps that
start.

**Proof sketch.** Induction on the log; the lines of the first entry are among those written before
the rest. -/
theorem Begun.logLines {log : List Entry} (hP : IsKindOfCode P) (h : Begun P base lines b)
    (hlog : ∀ e ∈ log, Renders P e) :
    Keeps P base lines b (log.countP opensBlock) (Script.logLines (.int base) b log) := by
  induction log generalizing lines b with
  | nil => exact .inl ⟨[], b, rfl, by simpa using h, le_rfl⟩
  | cons e rest ih =>
    rw [List.forall_mem_cons] at hlog
    rw [Script.logLines, List.countP_cons]
    rcases h.entryLines hP hlog.1 with ⟨new, b', hnew, hbegun, hdepth⟩ | hwide
    · rw [hnew]
      rcases ih hbegun hlog.2 with ⟨more, b'', hmore, hall, hdeep⟩ | hwide
      · refine .inl ⟨new ++ more, b'', ?_, by rwa [← List.append_assoc], by omega⟩
        simp only [bind, Except.bind, hmore]
        rfl
      · exact .inr ((hwide.bind _).mono (by omega))
    · exact .inr ((hwide.bind _).mono (by omega))

/-! ## Whole logs -/

/-- Lines that leave only the body open, and that not empty, are laid out. -/
lemma Begun.laid (h : Begun P base lines ⟨true, []⟩) : Laid P base lines := by
  have hafter := h.after
  have hne : codeLines lines ≠ [] := fun hnil => by
    simp [hnil, Blocks.After, Blocks.start] at hafter
  obtain ⟨line, rest, hcode⟩ := List.exists_cons_of_ne_nil hne
  refine ⟨⟨⟨line, rest, hcode, h.first line (by rw [hcode]; rfl)⟩, h.chain, ?_⟩, h.oneLine, h.code⟩
  intro last hlast
  cases hh : isHeader last with
  | true => simp [hlast, Blocks.After, hh] at hafter
  | false => rfl

/-- **The lines are laid out after every open block has been closed**, unless a line for that would
be too wide. -/
theorem Begun.closingLines {innermost : Bool} {outer : List Bool} (hP : IsKindOfCode P)
    (h : Begun P base lines ⟨innermost, outer⟩) :
    (∃ new, closingLines (.int base) innermost outer = .ok new ∧ Laid P base (lines ++ new)) ∨
      TooWide (base + outer.length) (closingLines (.int base) innermost outer) := by
  induction outer generalizing lines innermost with
  | nil =>
    rcases h.padding hP with ⟨new, hnew, hfilled⟩ | hwide
    · exact .inl ⟨new, hnew, hfilled.laid⟩
    · exact .inr hwide
  | cons filled outer ih =>
    rw [Script.closingLines]
    rcases h.padding hP with ⟨new, hnew, hfilled⟩ | hwide
    · rw [hnew]
      rcases ih hfilled.close with ⟨more, hmore, hlaid⟩ | hwide
      · refine .inl ⟨new ++ more, ?_, by rwa [← List.append_assoc]⟩
        simp only [bind, Except.bind, hmore]
        rfl
      · exact .inr ((hwide.bind _).mono (by simp))
    · exact .inr (hwide.bind _)

/-- The ends of open steps open no blocks. -/
lemma countP_closeSteps (log : List Entry) (openSteps : List Value) :
    (closeSteps log openSteps).countP opensBlock = log.countP opensBlock := by
  have hend (name : Value) : opensBlock (.step (.str "end") name) = false := by rfl
  have hends : (openSteps.reverse.map fun name => Entry.step (.str "end") name).countP opensBlock
      = 0 := by
    rw [List.countP_eq_zero]
    intro e he
    obtain ⟨name, -, rfl⟩ := List.mem_map.1 he
    simp [hend]
  rw [closeSteps, List.countP_append, hends, Nat.add_zero]

/-- **The lines of a log with its steps closed are laid out**, unless one would be too wide. -/
theorem exists_render {log : List Entry} {openSteps : List Value} (hP : IsKindOfCode P)
    (hlog : ∀ e ∈ closeSteps log openSteps, Renders P e) (base : ℕ) :
    (∃ lines, render log openSteps (.int base) true = .ok lines ∧ Laid P base lines) ∨
      TooWide (base + log.countP opensBlock) (render log openSteps (.int base) true) := by
  have hrun := (Begun.start base).logLines hP hlog
  rw [countP_closeSteps] at hrun
  unfold render
  rcases hrun with ⟨lines, b, hlines, hbegun, hdepth⟩ | hwide
  · rw [hlines]
    have hdeep : b.outer.length ≤ log.countP opensBlock := by simpa [Blocks.start] using hdepth
    rcases hbegun.closingLines hP with ⟨more, hmore, hlaid⟩ | hwide
    · refine .inl ⟨lines ++ more, ?_, hlaid⟩
      simp only [bind, Except.bind, hmore]
      rfl
    · exact .inr ((hwide.bind _).mono (by omega))
  · exact .inr ((hwide.bind _).mono (by simp [Blocks.start]))

/-- A script is its header and the lines of its log at the first level, unless they are missing
since one of them would be too wide. -/
lemma exists_scriptText {log : List Entry} {openSteps : List Value} (hP : IsKindOfCode P)
    (hlog : ∀ e ∈ closeSteps log openSteps, Renders P e) :
    (∃ body, render log openSteps (.int 1) true = .ok body ∧ Laid P 1 body ∧
      text log openSteps = .ok (joinLines (header ++ body) ++ "\n")) ∨
    TooWide (1 + log.countP opensBlock) (text log openSteps) := by
  rcases exists_render hP hlog 1 with ⟨body, hbody, hlaid⟩ | hwide
  · refine .inl ⟨body, hbody, hlaid, ?_⟩
    have hcast : render log openSteps (.int 1) true = .ok body := hbody
    rw [text, scriptLines, hcast]
    rfl
  · exact .inr ((hwide.map _).map _)

/-! ## Logs that can be rendered -/

/-- A statement or the header of a step: fixed code with operands in its gaps. -/
def IsInstruction (s : String) : Prop :=
  IsStatement s ∨ IsStep s

/-- A statement is no header. -/
lemma IsStatement.isHeader {s : String} (h : IsStatement s) : isHeader s = false := by
  simpa [Script.isHeader] using h.getLast?_ne

/-- An entry that can be rendered is rendered as lines of a kind if its statements are, and if it
has a header of this kind where it begins a step. -/
lemma renders_of_statements {e : Entry} (h : e.Renderable)
    (hl : ∀ v ∈ e.literals, v.IsWritable) (hstatement : ∀ s, IsStatement s → P s)
    (hstep : ∀ which name, e = .step which name →
      ∃ l, literal name = .ok l ∧ P ("with allure.step(" ++ l ++ "):")) : Renders P e := by
  have haction (hs : HasStatements e) : ∃ ss, statements e = .ok ss ∧ ss ≠ [] ∧
      ∀ s ∈ ss, P s ∧ isHeader s = false := by
    obtain ⟨ss, hss, hne, hall⟩ := statements_of_renderable h hl hs
    exact ⟨ss, hss, hne, fun s hmem => ⟨hstatement s (hall s hmem), (hall s hmem).isHeader⟩⟩
  cases e with
  | step which name => exact fun _ => hstep which name rfl
  | comment text => exact h
  | _ => exact haction True.intro

/-- A line of code, a header being that of a step with a text for its name. -/
structure IsTextStep (s : String) : Prop extends IsCode s where
  step : isHeader s = true → ∃ name, s = "with allure.step(" ++ Json.quote name ++ "):"

/-- These lines are a kind of code. -/
lemma isKindOfCode_isTextStep : IsKindOfCode IsTextStep where
  isCode _ h := h.toIsCode
  pass := ⟨⟨by decide, by decide⟩, fun h => absurd h (by decide)⟩

/-- The lines of an entry whose fields are of the declared kinds are of this kind. -/
lemma renders_of_wellTyped {e : Entry} (h : e.WellTyped) : Renders IsTextStep e := by
  refine renders_of_statements h.renderable h.literals
    (fun _ hs => ⟨hs.isCode, by simp [hs.isHeader]⟩) ?_
  rintro which name rfl
  obtain ⟨s, hs⟩ := exists_literal_quote h.2
  have hstep : IsStep ("with allure.step(" ++ Json.quote s ++ "):") :=
    fills_one _ _ (.text (isTextLiteral_quote s))
  exact ⟨_, hs, hstep.isCode, fun _ => ⟨s, rfl⟩⟩

/-- Lines of this kind that are laid out have the layout of a script. -/
lemma Laid.layout {lines : List String} (h : Laid IsTextStep base lines) : Layout base lines where
  toNested := h.toNested
  oneLine := h.oneLine
  code := fun line hline => by
    obtain ⟨level, m, s, hm, hs, rfl⟩ := h.code line hline
    have hbody := dropWhile_margin hm hs.toIsCode
    exact {
      aligned := (codeAt_append hm hs.toIsCode).aligned
      letter := by rw [hbody]; exact hs.letter
      step := fun hheader => by
        obtain ⟨name, hname⟩ := hs.step (isHeader_append hs.toIsCode ▸ hheader)
        exact ⟨name, by rw [hbody, hname]⟩ }

/-- The lines of a log and of the ends of its open steps are of this kind. -/
lemma closeSteps_wellTyped {log : List Entry} {openSteps : List Value}
    (hlog : ∀ e ∈ log, e.WellTyped) (hopen : ∀ name ∈ openSteps, name.IsText) :
    ∀ e ∈ closeSteps log openSteps, Renders IsTextStep e := by
  refine List.forall_mem_append.2 ⟨fun e he => renders_of_wellTyped (hlog e he), fun e he => ?_⟩
  obtain ⟨name, hname, rfl⟩ := List.mem_map.1 he
  exact renders_of_wellTyped ⟨True.intro, (hopen name (List.mem_reverse.1 hname)).isOptionalText⟩

/-- A script is its header and the lines of its log at the first level, unless they are missing
since one of them would be too wide. -/
lemma exists_text {log : List Entry} {openSteps : List Value} (hlog : ∀ e ∈ log, e.WellTyped)
    (hopen : ∀ name ∈ openSteps, name.IsText) :
    (∃ body, render log openSteps (.int 1) true = .ok body ∧ Layout 1 body ∧
      text log openSteps = .ok (joinLines (header ++ body) ++ "\n")) ∨
    TooWide (1 + log.countP opensBlock) (text log openSteps) := by
  rcases exists_scriptText isKindOfCode_isTextStep (closeSteps_wellTyped hlog hopen) with
    ⟨body, hbody, hlaid, htext⟩ | hwide
  · exact .inl ⟨body, hbody, hlaid.layout, htext⟩
  · exact .inr hwide

end SessionRecorder.Script
