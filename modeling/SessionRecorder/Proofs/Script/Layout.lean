import Mathlib.Data.List.Chain
import SessionRecorder.Proofs.Script.Statement
/-!
# The layout of lines

How lines of a script fall into nested blocks. A line that ends in a colon opens a block one level
deeper; every other line is followed by one that is no deeper. Comments stand anywhere and belong to
no block.

## Main definitions

* `Script.codeLines` — lines without the comments among them.
* `Script.Layout` — the conditions on single lines and on neighbours.
* `Script.Suite` — the grammar of blocks: headers, each with the block that belongs to it.

## Main results

* `Script.Nested.suite` — lines whose neighbours fit together are one block of the grammar.
-/

namespace SessionRecorder.Script

/-! ## Single lines -/

/-- The number of spaces in front of a line. -/
def leadingSpaces (line : String) : ℕ :=
  (line.toList.takeWhile (· == ' ')).length

/-- The level of a line, each level being one indentation. -/
def lineLevel (line : String) : ℕ :=
  leadingSpaces line / indent.length

/-- Whether a line opens a block. -/
def isHeader (line : String) : Bool :=
  line.toList.getLast? == some ':'

/-- Whether the first character of a line that is no blank is the mark of a comment. -/
def isComment (line : String) : Bool :=
  (line.toList.dropWhile Text.isBlank).head? == some '#'

/-- Lines without the comments among them. -/
def codeLines (lines : List String) : List String :=
  lines.filter fun line => !isComment line

/-- Comments drop out of the lines one after the other. -/
@[simp] lemma codeLines_append (before after : List String) :
    codeLines (before ++ after) = codeLines before ++ codeLines after :=
  List.filter_append before after

/-- Comments alone are no lines of code. -/
lemma codeLines_eq_nil {lines : List String} (h : ∀ line ∈ lines, isComment line = true) :
    codeLines lines = [] := by
  simpa [codeLines] using h

/-- A line holds no character that ends a line, and none with code zero. -/
structure IsOneLine (line : String) : Prop where
  newline : '\n' ∉ line.toList
  carriageReturn : '\r' ∉ line.toList
  nul : '\x00' ∉ line.toList

/-- A line of code stands at a level and begins with a letter; a header is that of a step. -/
structure IsCodeLine (line : String) : Prop where
  aligned : indent.length ∣ leadingSpaces line
  letter : (line.toList.dropWhile (· == ' ')).head?.any Char.isAlpha = true
  step : isHeader line = true → ∃ name, line.toList.dropWhile (· == ' ') =
    ("with allure.step(" ++ Json.quote name ++ "):").toList

/-! ## Neighbours -/

/-- Whether a line of code may follow another one in a block at level `base`: what follows a header
is one level deeper, what follows any other line is no deeper. -/
def Follows (base : ℕ) (line next : String) : Prop :=
  if isHeader line then lineLevel next = lineLevel line + 1
  else base ≤ lineLevel next ∧ lineLevel next ≤ lineLevel line

/-- What follows a header. -/
lemma Follows.header {base : ℕ} {line next : String} (h : Follows base line next)
    (hl : isHeader line = true) : lineLevel next = lineLevel line + 1 := by
  simpa [Follows, hl] using h

/-- What follows a line that is no header. -/
lemma Follows.plain {base : ℕ} {line next : String} (h : Follows base line next)
    (hl : isHeader line = false) : base ≤ lineLevel next ∧ lineLevel next ≤ lineLevel line := by
  simpa [Follows, hl] using h

/-- The lines of code of a block whose first line is at level `base`. -/
structure Nested (base : ℕ) (code : List String) : Prop where
  first : ∃ line rest, code = line :: rest ∧ lineLevel line = base
  chain : code.IsChain (Follows base)
  last : ∀ line, code.getLast? = some line → isHeader line = false

/-- The layout of lines that stand at level `base`. -/
structure Layout (base : ℕ) (lines : List String) : Prop extends Nested base (codeLines lines) where
  oneLine : ∀ line ∈ lines, IsOneLine line
  code : ∀ line ∈ codeLines lines, IsCodeLine line

/-! ## Blocks -/

/-- The blocks at a level: a sequence of lines that open nothing and of headers with a block one
level deeper, not an empty one. -/
inductive Suite : ℕ → List String → Prop
  | line {level : ℕ} {line : String} (hl : lineLevel line = level)
      (hh : isHeader line = false) : Suite level [line]
  | lineThen {level : ℕ} {line : String} {rest : List String} (hl : lineLevel line = level)
      (hh : isHeader line = false) (hr : Suite level rest) : Suite level (line :: rest)
  | block {level : ℕ} {header : String} {body : List String} (hl : lineLevel header = level)
      (hh : isHeader header = true) (hb : Suite (level + 1) body) : Suite level (header :: body)
  | blockThen {level : ℕ} {header : String} {body rest : List String}
      (hl : lineLevel header = level) (hh : isHeader header = true)
      (hb : Suite (level + 1) body) (hr : Suite level rest) :
      Suite level (header :: (body ++ rest))

/-- A chain of lines that are all one level deeper is a chain of the deeper block. -/
lemma isChain_deeper {base : ℕ} {code : List String} (h : code.IsChain (Follows base))
    (hd : ∀ line ∈ code, base + 1 ≤ lineLevel line) : code.IsChain (Follows (base + 1)) := by
  induction code with
  | nil => exact .nil
  | cons line rest ih =>
    rw [List.isChain_cons] at h ⊢
    refine ⟨fun next hnext => ?_, ih h.2 fun other ho => hd other (List.mem_cons_of_mem _ ho)⟩
    have hfollow := h.1 next hnext
    have hdeep := hd next (List.mem_cons_of_mem _ (List.mem_of_mem_head? hnext))
    cases hh : isHeader line with
    | true => simpa [Follows, hh] using hfollow.header hh
    | false => simpa [Follows, hh] using ⟨hdeep, (hfollow.plain hh).2⟩

/-- What comes after the lines of a chain that are deeper than its block is at the level of the
block, and the last of the deeper ones is no header. -/
lemma shallow_after {base : ℕ} {body after : List String} {next : String}
    (h : (body ++ next :: after).IsChain (Follows base)) (hne : body ≠ [])
    (hdeep : ∀ line ∈ body, base + 1 ≤ lineLevel line) (hnext : ¬base + 1 ≤ lineLevel next) :
    lineLevel next = base ∧ ∀ line, body.getLast? = some line → isHeader line = false := by
  have hjoin := (List.isChain_append.1 h).2.2
  have hplain : ∀ line, body.getLast? = some line → isHeader line = false := by
    intro line hline
    have hfollow := hjoin line hline next rfl
    have hd := hdeep line (List.mem_of_getLast? hline)
    cases hh : isHeader line with
    | true =>
      have := hfollow.header hh
      omega
    | false => rfl
  refine ⟨?_, hplain⟩
  have hlast := List.getLast?_eq_getLast_of_ne_nil hne
  have := ((hjoin _ hlast next rfl).plain (hplain _ hlast)).1
  omega

/-- The lines that are deeper than a block, up to the first that is not. -/
lemma exists_deeper (base : ℕ) (code : List String) :
    ∃ body after, code = body ++ after ∧ (∀ line ∈ body, base + 1 ≤ lineLevel line) ∧
      ∀ line, after.head? = some line → ¬base + 1 ≤ lineLevel line := by
  induction code with
  | nil => exact ⟨[], [], rfl, by simp, by simp⟩
  | cons line rest ih =>
    by_cases hdeep : base + 1 ≤ lineLevel line
    · obtain ⟨body, after, hsplit, hbody, hafter⟩ := ih
      exact ⟨line :: body, after, by simp [hsplit], by simpa using ⟨hdeep, hbody⟩, hafter⟩
    · exact ⟨[], line :: rest, rfl, by simp, by simpa using hdeep⟩

/-- **Lines whose neighbours fit together are one block of the grammar.**

**Proof sketch.** Strong induction on the number of lines. After a line that opens nothing the next
one is at the same level, and the lines from there on are nested at it. After a header, the block
that belongs to it is the longest run of deeper lines: its first line is one level deeper, its last
line is no header, since what comes next is shallower, and what comes next is at the level of the
header. -/
theorem Nested.suite {base : ℕ} {code : List String} (h : Nested base code) : Suite base code := by
  induction hn : code.length using Nat.strong_induction_on generalizing base code with
  | _ n ih =>
    obtain ⟨line, rest, rfl, hlevel⟩ := h.first
    obtain ⟨hfollows, hrest⟩ := List.isChain_cons.1 h.chain
    cases hh : isHeader line with
    | false =>
      cases rest with
      | nil => exact .line hlevel hh
      | cons next after =>
        have hnext := (hfollows next rfl).plain hh
        have hlast : ∀ l, (next :: after).getLast? = some l → isHeader l = false := fun l hl =>
          h.last l (by rwa [List.getLast?_cons_cons])
        exact .lineThen hlevel hh
          (ih _ (by simp [← hn]) ⟨⟨next, after, rfl, by omega⟩, hrest, hlast⟩ rfl)
    | true =>
      obtain ⟨body, after, rfl, hdeep, hshallow⟩ := exists_deeper base rest
      -- A header is not the last line, and the line after it is one of the deeper ones.
      have hbody : ∃ first body', body = first :: body' ∧ lineLevel first = base + 1 := by
        cases body with
        | cons first body' => exact ⟨first, body', rfl, hlevel ▸ (hfollows first rfl).header hh⟩
        | nil =>
          cases after with
          | nil => exact absurd (h.last line rfl) (by simp [hh])
          | cons next after =>
            have hnext := (hfollows next rfl).header hh
            exact absurd (hshallow next rfl) (by omega)
      obtain ⟨first, body', rfl, hfirst⟩ := hbody
      have hchain := isChain_deeper (List.isChain_append.1 hrest).1 hdeep
      cases after with
      | nil =>
        rw [List.append_nil] at h hn ⊢
        have hlast : ∀ l, (first :: body').getLast? = some l → isHeader l = false := fun l hl =>
          h.last l (by rwa [List.getLast?_cons_cons])
        exact .block hlevel hh
          (ih _ (by simp [← hn]) ⟨⟨first, body', rfl, hfirst⟩, hchain, hlast⟩ rfl)
      | cons next after =>
        obtain ⟨hnext, hplain⟩ := shallow_after hrest (by simp) hdeep (hshallow next rfl)
        have hlast : ∀ l, (next :: after).getLast? = some l → isHeader l = false := fun l hl =>
          h.last l (by rw [List.getLast?_cons, List.getLast?_append, hl]; simp)
        exact .blockThen hlevel hh
          (ih _ (by simp only [← hn, List.length_cons, List.length_append]; omega)
            ⟨⟨first, body', rfl, hfirst⟩, hchain, hplain⟩ rfl)
          (ih _ (by simp only [← hn, List.length_cons, List.length_append]; omega)
            ⟨⟨next, after, rfl, hnext⟩, (List.isChain_append.1 hrest).2.1, hlast⟩ rfl)

end SessionRecorder.Script
