import Mathlib.Tactic.Common
import SessionRecorder.Text.Blank
import SessionRecorder.Text.Lines
/-!
# Lines of a text

What the lines of a text are made of: characters of the text, none of which ends a line. Taking the
blanks off the end of a line leaves everything up to a character that is none.

## Main results

* `Text.not_boundary_of_mem_splitLines` — no line holds a character that ends one.
* `Text.mem_of_mem_splitLines` — lines are made of the characters of their text.
* `Text.dropEndWhile_append_cons` — what is left of a line that has its blanks taken off.
* `Text.unifyNewlines_of_not_mem` — a text without carriage returns is read as it was written.
-/

namespace SessionRecorder.Text

/-! ## Splitting -/

/-- No line holds a character that ends one, if the line that is being read holds none. -/
lemma not_boundary_of_mem_splitLinesFrom {line cs : List Char}
    (hline : ∀ c ∈ line, isLineBoundary c = false) :
    ∀ l ∈ splitLinesFrom line cs, ∀ c ∈ l, isLineBoundary c = false := by
  have hrev : ∀ c ∈ line.reverse, isLineBoundary c = false := by simpa using hline
  fun_induction splitLinesFrom line cs with
  | case1 line h => simp
  | case2 line h => simpa using hline
  | case3 line rest ih =>
    rw [List.forall_mem_cons]
    exact ⟨hrev, ih (by simp) (by simp)⟩
  | case4 line c rest _ h ih =>
    rw [List.forall_mem_cons]
    exact ⟨hrev, ih (by simp) (by simp)⟩
  | case5 line c rest _ h ih =>
    have hcons : ∀ d ∈ c :: line, isLineBoundary d = false :=
      List.forall_mem_cons.2 ⟨by simpa using h, hline⟩
    exact ih hcons fun d hd => hcons d (List.mem_reverse.1 hd)

/-- Lines are made of the characters of their text and of the line that is being read. -/
lemma mem_of_mem_splitLinesFrom {line cs : List Char} :
    ∀ l ∈ splitLinesFrom line cs, ∀ c ∈ l, c ∈ line ∨ c ∈ cs := by
  fun_induction splitLinesFrom line cs with
  | case1 line h => simp
  | case2 line h => simp
  | case3 line rest ih =>
    rw [List.forall_mem_cons]
    refine ⟨fun c hc => .inl (by simpa using hc), fun l hl c hc => .inr ?_⟩
    rcases ih l hl c hc with h | h
    · simp at h
    · simp [h]
  | case4 line d rest _ h ih =>
    rw [List.forall_mem_cons]
    refine ⟨fun c hc => .inl (by simpa using hc), fun l hl c hc => .inr ?_⟩
    rcases ih l hl c hc with h | h
    · simp at h
    · simp [h]
  | case5 line d rest _ h ih =>
    intro l hl c hc
    rcases ih l hl c hc with h | h
    · rcases List.mem_cons.1 h with rfl | h
      · exact .inr (by simp)
      · exact .inl h
    · exact .inr (by simp [h])

/-- No line of a text holds a character that ends one. -/
lemma not_boundary_of_mem_splitLines {s line : String} (h : line ∈ splitLines s) :
    ∀ c ∈ line.toList, isLineBoundary c = false := by
  obtain ⟨l, hl, rfl⟩ := List.mem_map.1 h
  rw [String.toList_ofList]
  exact not_boundary_of_mem_splitLinesFrom (by simp) l hl

/-- The lines of a text are made of its characters. -/
lemma mem_of_mem_splitLines {s line : String} (h : line ∈ splitLines s) :
    ∀ c ∈ line.toList, c ∈ s.toList := by
  obtain ⟨l, hl, rfl⟩ := List.mem_map.1 h
  rw [String.toList_ofList]
  intro c hc
  simpa using mem_of_mem_splitLinesFrom l hl c hc

/-! ## Blanks at the end -/

/-- Only what comes after a character that is kept can be taken off the end. -/
lemma dropEndWhile_append_cons {p : Char → Bool} {c : Char} (hc : p c = false)
    (before after : List Char) :
    dropEndWhile p (before ++ c :: after) = before ++ c :: dropEndWhile p after := by
  simp only [dropEndWhile, List.reverse_append, List.reverse_cons, List.append_assoc,
    List.dropWhile_append, List.singleton_append, List.dropWhile_cons, hc]
  split
  next h =>
    rw [List.isEmpty_iff] at h
    simp [h]
  next => simp

/-- What is left after characters have been taken off the end was there before. -/
lemma dropEndWhile_subset (p : Char → Bool) (cs : List Char) : dropEndWhile p cs ⊆ cs :=
  fun c hc => by
    simpa using (List.dropWhile_sublist p).subset (List.mem_reverse.1 hc)

/-! ## Newlines of a file -/

/-- Characters without carriage returns have no line end that is changed. -/
lemma unifyNewlineChars_of_not_mem {cs : List Char} (h : '\r' ∉ cs) :
    unifyNewlineChars cs = cs := by
  fun_induction unifyNewlineChars cs with
  | case1 => rfl
  | case2 rest ih => exact absurd (List.mem_cons_self ..) h
  | case3 rest _ ih => exact absurd (List.mem_cons_self ..) h
  | case4 c rest _ _ ih => rw [ih (List.not_mem_of_not_mem_cons h)]

/-- A text without carriage returns is read as it was written. -/
lemma unifyNewlines_of_not_mem {s : String} (h : '\r' ∉ s.toList) : unifyNewlines s = s := by
  rw [unifyNewlines, unifyNewlineChars_of_not_mem h, String.ofList_toList]

end SessionRecorder.Text
