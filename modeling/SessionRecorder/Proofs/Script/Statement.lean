import Mathlib.Data.List.Basic
import SessionRecorder.Proofs.Script.Operand
import SessionRecorder.Proofs.WellTyped
/-!
# Statements are fixed code around operands

The statements that an entry is rendered as. The program has a fixed list of forms, each a row of
pieces of code with a gap between each two; a statement is a form with an operand in each gap. So
whatever an entry says stands in operands, and a statement is one line that begins with a letter
and is no header.

Two kinds of entries need a value to be of its declared kind, comments and keys, and a screenshot
needs a rectangle or nothing for its region. A run of moves must not have a text for its count: that
text would stand in the statement as it is.

## Main definitions

* `Script.Fills` — the code of a form with operands in its gaps.
* `Script.IsStatement`, `Script.IsStep` — the statements, and the headers of steps.
* `Entry.Renderable` — the entries that can be rendered without a text in the place of code.
* `Entry.literals` — the values of an entry that are written as literals.

## Main results

* `Script.statements_of_renderable` — an entry, other than a comment or the boundary of a step, has
  statements.
* `Script.exists_header` — the start of a step has a header.
-/

namespace SessionRecorder

/-! ## Entries -/

/-- A region that can be rendered: a rectangle, or nothing. -/
def Region.Renderable : Region → Prop
  | .rect _ | .other .none => True
  | .other _ => False

/-- An entry that can be rendered without a text in the place of code. -/
def Entry.Renderable : Entry → Prop
  | .mouseMove _ _ steps => steps.IsText → steps.truthy = false
  | .keyDown label | .keyUp label | .keyPress label => label.IsText
  | .screenshot _ _ region => region.Renderable
  | .comment text => text.IsText
  | _ => True

instance Value.decidableIsText : DecidablePred Value.IsText
  | .str _ => .isTrue True.intro
  | .none | .bool _ | .int _ | .float _ | .bytes _ | .list _ | .dict _ => .isFalse nofun

instance Region.decidableRenderable : DecidablePred Region.Renderable
  | .rect _ | .other .none => .isTrue True.intro
  | .other (.bool _) | .other (.int _) | .other (.float _) | .other (.str _) | .other (.bytes _)
  | .other (.list _) | .other (.dict _) => .isFalse nofun

instance Entry.decidableRenderable : DecidablePred Entry.Renderable
  | .mouseMove _ _ steps => inferInstanceAs (Decidable (steps.IsText → steps.truthy = false))
  | .keyDown label | .keyUp label | .keyPress label => inferInstanceAs (Decidable label.IsText)
  | .screenshot _ _ region => inferInstanceAs (Decidable region.Renderable)
  | .comment text => inferInstanceAs (Decidable text.IsText)
  | .mouseDown .. | .mouseUp | .click .. | .doubleClick .. | .wheel .. | .step .. | .navigation _ =>
    .isTrue True.intro

/-- The values of an entry that are written as literals. -/
def Entry.literals : Entry → List Value
  | .screenshot name locator _ => [name, locator]
  | .step _ name => [name]
  | .navigation url => [url]
  | _ => []

/-- An entry whose fields are of the declared kinds can be rendered. -/
lemma Entry.WellTyped.renderable {e : Entry} (h : e.WellTyped) : e.Renderable := by
  cases e with
  | mouseMove x y steps =>
    obtain ⟨i, rfl⟩ := h.2.2.exists_eq
    exact nofun
  | screenshot name locator region =>
    cases region with
    | rect r => exact True.intro
    | other v =>
      cases v with
      | none => exact True.intro
      | _ => exact h.2.2.elim
  | keyDown label | keyUp label | keyPress label | comment text => exact h
  | _ => exact True.intro

/-- The literals of an entry whose fields are of the declared kinds have JSON forms. -/
lemma Entry.WellTyped.literals {e : Entry} (h : e.WellTyped) :
    ∀ v ∈ e.literals, v.IsWritable := by
  cases e with
  | screenshot name locator region =>
    exact List.forall_mem_cons.2 ⟨h.1.firstUnwritable, by
      simpa [Entry.literals, Value.IsWritable] using h.2.1.firstUnwritable⟩
  | step which name =>
    simpa [Entry.literals, Value.IsWritable] using h.2.firstUnwritable
  | navigation url =>
    simpa [Entry.literals, Value.IsWritable] using Value.IsText.firstUnwritable h
  | _ => exact List.forall_mem_nil _

namespace Script

open Text

/-! ## Forms -/

/-- Code with an operand in the gap between each two of its pieces. -/
inductive Fills : List String → List Char → Prop
  | last (code : String) : Fills [code] code.toList
  | gap (code : String) {operand : List Char} {rest : List String} {cs : List Char}
      (ho : Operand operand) (h : Fills rest cs) :
      Fills (code :: rest) (code.toList ++ (operand ++ cs))

/-- The forms of the statements. -/
def statementForms : List (List String) :=
  [["pass"], ["page.mouse.down()"], ["page.mouse.up()"],
    ["page.mouse.move(", ", ", ")"], ["page.mouse.move(", ", ", ", steps=", ")"],
    ["page.mouse.click(", ", ", ")"], ["page.mouse.dblclick(", ", ", ")"],
    ["page.mouse.wheel(", ", ", ")"], ["page.keyboard.down(", ")"], ["page.keyboard.up(", ")"],
    ["page.keyboard.press(", ")"], ["page.goto(", ")"],
    ["assert_snapshot(page.screenshot(), ", ")"],
    ["assert_snapshot(page.screenshot(clip=", "), ", ")"],
    ["assert_snapshot(page.locator(", ").screenshot(), ", ")"]]

/-- The form of the header of a step. -/
def stepForm : List String :=
  ["with allure.step(", "):"]

/-- A statement: a form with operands in its gaps. -/
def IsStatement (line : String) : Prop :=
  ∃ form ∈ statementForms, Fills form line.toList

/-- The header of a step: its form with an operand for the name. -/
def IsStep (line : String) : Prop :=
  Fills stepForm line.toList

/-- A line of code without its margin: it begins with a letter and nothing in it ends a line. -/
structure IsCode (line : String) : Prop where
  inLine : InLine line.toList
  letter : line.toList.head?.any Char.isAlpha = true

variable {code : String} {form : List String} {cs : List Char}

/-- A form on one line is so with its gaps filled. -/
lemma Fills.inLine (h : Fills form cs) (hform : ∀ code ∈ form, InLine code.toList) :
    InLine cs := by
  induction h with
  | last code => exact hform code (by simp)
  | gap code ho _ ih =>
    rw [List.forall_mem_cons] at hform
    exact inLine_append.2 ⟨hform.1, inLine_append.2 ⟨ho.inLine, ih hform.2⟩⟩

/-- A filled form begins as its first piece does. -/
lemma Fills.head? (h : Fills (code :: form) cs) (hne : code.toList ≠ []) :
    cs.head? = code.toList.head? := by
  cases h with
  | last => rfl
  | gap => rw [List.head?_append, Option.or_of_isSome (by simpa using hne)]

/-- A filled form ends as its last piece does. -/
lemma Fills.getLast? (h : Fills form cs) (hlast : form.getLast? = some code)
    (hne : code.toList ≠ []) : cs.getLast? = code.toList.getLast? := by
  induction h with
  | last other =>
    obtain rfl : other = code := by simpa using hlast
    rfl
  | @gap other operand rest cs ho hrest ih =>
    have hrest' : rest ≠ [] := by rintro rfl; cases hrest
    have hcs := ih (by rwa [List.getLast?_cons_of_ne_nil hrest'] at hlast)
    have hne' : cs ≠ [] := by
      rintro rfl
      exact hne (List.getLast?_eq_none_iff.1 hcs.symm)
    rw [← hcs, List.getLast?_append_of_ne_nil _ (by simp [hne']),
      List.getLast?_append_of_ne_nil _ hne']

/-- A filled form is a line of code if its pieces are on one line and the first of them begins with
a letter. -/
lemma Fills.isCode {line : String} (h : Fills (code :: form) line.toList)
    (hform : ∀ c ∈ code :: form, InLine c.toList)
    (hletter : code.toList.head?.any Char.isAlpha = true) : IsCode line where
  inLine := h.inLine hform
  letter := by
    rwa [h.head? (by rintro hnil; simp [hnil] at hletter)]

/-- **A statement is a line of code.** -/
theorem IsStatement.isCode {line : String} (h : IsStatement line) : IsCode line := by
  have hforms : ∀ form ∈ statementForms, (∀ code ∈ form, InLine code.toList) ∧
      (form.headD "").toList.head?.any Char.isAlpha = true := by decide
  obtain ⟨form, hmem, hfills⟩ := h
  obtain ⟨hline, hletter⟩ := hforms form hmem
  cases form with
  | nil => cases hfills
  | cons code rest => exact hfills.isCode hline hletter

/-- A statement does not end in a colon. -/
lemma IsStatement.getLast?_ne {line : String} (h : IsStatement line) :
    line.toList.getLast? ≠ some ':' := by
  have hforms : ∀ form ∈ statementForms, ∃ code ∈ form.getLast?, code.toList ≠ [] ∧
      code.toList.getLast? ≠ some ':' := by decide
  obtain ⟨form, hmem, hfills⟩ := h
  obtain ⟨code, hlast, hne, hcolon⟩ := hforms form hmem
  rwa [hfills.getLast? hlast hne]

/-- The header of a step is a line of code. -/
lemma IsStep.isCode {line : String} (h : IsStep line) : IsCode line :=
  Fills.isCode h (by decide) (by decide)

/-! ## Statements -/

/-- The entries that are rendered as statements: all but comments and the boundaries of steps. -/
def HasStatements : Entry → Prop
  | .step .. | .comment _ => False
  | _ => True

/-- Code with one operand in it. -/
lemma fills_one {operand : String} (before after : String) (ho : Operand operand.toList) :
    Fills [before, after] (before ++ operand ++ after).toList := by
  simpa using Fills.gap before ho (.last after)

/-- Code with two operands in it. -/
lemma fills_two {first second : String} (before between after : String)
    (hfirst : Operand first.toList) (hsecond : Operand second.toList) :
    Fills [before, between, after] (before ++ first ++ between ++ second ++ after).toList := by
  simpa using Fills.gap before hfirst (.gap between hsecond (.last after))

/-- A call with two numbers is a statement. -/
lemma isStatement_call {f : String} (hf : [f ++ "(", ", ", ")"] ∈ statementForms) (a b : Value) :
    IsStatement (call f a b) :=
  ⟨_, hf, fills_two _ _ _ (operand_number a) (operand_number b)⟩

/-- A run of moves whose count is no text, unless it counts as nothing, is a statement. -/
lemma isStatement_moveRun (x y : Value) {steps : Value} (h : steps.IsText → steps.truthy = false) :
    IsStatement (moveRun x y steps) := by
  unfold moveRun
  split
  next htruthy =>
    have hshown : steps.shown = steps.display := by
      cases steps with
      | str s => exact absurd (h True.intro) (by simp [htruthy])
      | _ => rfl
    rw [hshown]
    refine ⟨["page.mouse.move(", ", ", ", steps=", ")"], by decide, ?_⟩
    simpa using Fills.gap "page.mouse.move(" (operand_number x)
      (.gap ", " (operand_number y) (.gap ", steps=" (operand_display steps) (.last ")")))
  next => exact isStatement_call (by decide) x y

/-- A call with a label of a key is a statement. -/
lemma exists_keyCall {f : String} (hf : [f ++ "(", ")"] ∈ statementForms) {label : Value}
    (hl : label.IsText) : ∃ line, keyCall f label = .ok [line] ∧ IsStatement line := by
  obtain ⟨s, rfl⟩ := hl.exists_eq
  exact ⟨_, rfl, _, hf, fills_one _ _ (.text (isTextLiteral_quote (KeyLabel.typed s)))⟩

/-- The expression that takes a screenshot is compared with the snapshot of its name. -/
lemma statements_screenshot {name locator : Value} {region : Region} {taken n : String}
    (ht : capture locator region = .ok taken) (hn : literal name = .ok n) :
    statements (.screenshot name locator region) =
      .ok ["assert_snapshot(" ++ taken ++ ", " ++ n ++ ")"] := by
  simp only [statements, ht, hn]
  rfl

/-- A screenshot of a rectangle, of what a locator names or of the page is a statement. -/
lemma exists_screenshot {name locator : Value} {region : Region}
    (hn : name.IsWritable) (hl : locator.IsWritable)
    (hr : region.Renderable) :
    ∃ line, statements (.screenshot name locator region) = .ok [line] ∧ IsStatement line := by
  obtain ⟨n, hname, hoperand⟩ := exists_literal hn
  obtain ⟨r, rfl⟩ | rfl : (∃ r, region = .rect r) ∨ region = .whole := by
    cases region with
    | rect r => exact .inl ⟨r, rfl⟩
    | other v =>
      cases v with
      | none => exact .inr rfl
      | _ => exact hr.elim
  · have htaken : capture locator (.rect r) = .ok ("page.screenshot(clip=" ++ clip r ++ ")") := rfl
    have hclip := operand_clip r
    generalize clip r = rectangle at hclip htaken
    refine ⟨_, statements_screenshot htaken hname,
      ["assert_snapshot(page.screenshot(clip=", "), ", ")"], by decide, ?_⟩
    simpa using fills_two "assert_snapshot(page.screenshot(clip=" "), " ")" hclip hoperand
  · cases htruthy : locator.truthy with
    | true =>
      obtain ⟨l, hlocator, hl⟩ := exists_literal hl
      have htaken : capture locator .whole = .ok ("page.locator(" ++ l ++ ").screenshot()") := by
        simp [capture, Region.whole, htruthy, hlocator, Except.map]
      refine ⟨_, statements_screenshot htaken hname,
        ["assert_snapshot(page.locator(", ").screenshot(), ", ")"], by decide, ?_⟩
      simpa using fills_two "assert_snapshot(page.locator(" ").screenshot(), " ")" hl hoperand
    | false =>
      have htaken : capture locator .whole = .ok pageCapture := by
        simp [capture, Region.whole, htruthy]
      refine ⟨_, statements_screenshot htaken hname,
        ["assert_snapshot(page.screenshot(), ", ")"], by decide, ?_⟩
      simpa [pageCapture] using fills_one "assert_snapshot(page.screenshot(), " ")" hoperand

/-- **An entry has statements**, other than a comment or the boundary of a step, if it can be
rendered and its literals have JSON forms. -/
theorem statements_of_renderable {e : Entry} (h : e.Renderable)
    (hl : ∀ v ∈ e.literals, v.IsWritable) (hs : HasStatements e) :
    ∃ lines, statements e = .ok lines ∧ lines ≠ [] ∧ ∀ line ∈ lines, IsStatement line := by
  have hone {line : String} {lines : List String} (hline : statements e = .ok lines)
      (heq : lines = [line]) (hst : IsStatement line) :
      ∃ lines, statements e = .ok lines ∧ lines ≠ [] ∧ ∀ line ∈ lines, IsStatement line :=
    ⟨lines, hline, by simp [heq], by simpa [heq] using hst⟩
  have hfixed {line : String} (hform : [line] ∈ statementForms) : IsStatement line :=
    ⟨_, hform, .last line⟩
  cases e with
  | mouseDown x y =>
    refine ⟨_, rfl, by simp, ?_⟩
    simpa using ⟨isStatement_call (by decide) x y, hfixed (by decide)⟩
  | mouseMove x y steps => exact hone rfl rfl (isStatement_moveRun x y h)
  | mouseUp => exact hone rfl rfl (hfixed (by decide))
  | click x y => exact hone rfl rfl (isStatement_call (by decide) x y)
  | doubleClick x y => exact hone rfl rfl (isStatement_call (by decide) x y)
  | wheel x y dx dy =>
    refine ⟨_, rfl, by simp, ?_⟩
    simpa using ⟨isStatement_call (by decide) x y, isStatement_call (by decide) dx dy⟩
  | keyDown label =>
    obtain ⟨line, hline, hst⟩ := exists_keyCall (f := "page.keyboard.down") (by decide) h
    exact hone hline rfl hst
  | keyUp label =>
    obtain ⟨line, hline, hst⟩ := exists_keyCall (f := "page.keyboard.up") (by decide) h
    exact hone hline rfl hst
  | keyPress label =>
    obtain ⟨line, hline, hst⟩ := exists_keyCall (f := "page.keyboard.press") (by decide) h
    exact hone hline rfl hst
  | screenshot name locator region =>
    obtain ⟨line, hline, hst⟩ := exists_screenshot (hl name (by simp [Entry.literals]))
      (hl locator (by simp [Entry.literals])) h
    exact hone hline rfl hst
  | navigation url =>
    obtain ⟨l, hliteral, hoperand⟩ := exists_literal (hl url (by simp [Entry.literals]))
    exact hone (by simp only [statements, hliteral]; rfl) rfl
      ⟨["page.goto(", ")"], by decide, fills_one _ _ hoperand⟩
  | step which name => exact hs.elim
  | comment text => exact hs.elim

/-- The name of a step that is a text, or nothing, is written as a text. -/
lemma exists_literal_quote {v : Value} (h : v.IsOptionalText) :
    ∃ s, literal v = .ok (Json.quote s) := by
  cases v with
  | none => exact ⟨"", rfl⟩
  | str s =>
    exact ⟨s, by
      simp [literal, Json.firstUnwritable?, Json.compact, Json.compactChars, Json.quote]⟩
  | _ => exact h.elim

end Script

end SessionRecorder
