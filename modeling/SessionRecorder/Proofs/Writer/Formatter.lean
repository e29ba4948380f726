import SessionRecorder.Proofs.Result
import SessionRecorder.Proofs.Snapshot.Store
import SessionRecorder.Proofs.Writer
/-!
# Formatters

After the last write the writer runs the formatter on the script. Whatever becomes of a command that
is run is noted, so it does no harm to the end of a session. But the command line has to be split
into words before, and if that fails the end fails, after everything has been written.

## Main definitions

* `Command.Place.next`, `Command.Place.isEnd` — where the scan of a command line stands after
  another character, and where it may stand at the end.
* `Command.Splits` — a tool that can be called.

## Main results

* `Command.exists_words_iff`, `Command.splits_of_plain` — the command lines that have words.
* `Desk.yields_runFormatter_iff` — a formatter does no harm exactly if it can be called.
* `Desk.HasTexts.yields_close_iff` — neither does it do harm to an end.
-/

namespace SessionRecorder

/-! ## Command lines -/

namespace Command

/-- Where the scan of a command stands after one more character. -/
def Place.next : Place → Char → Place
  | .outside, c | .inside, c => if isSeparator c then .outside else (enter c).1
  | .quoted quote, c =>
    if c == quote then .inside
    else if c == '\\' && quote == '"' then .escapedInQuotes
    else .quoted quote
  | .escaped, _ => .inside
  | .escapedInQuotes, _ => .quoted '"'

/-- Whether a command may end at a place: between words or in one, but neither between quotes nor
after a backslash. -/
def Place.isEnd : Place → Bool
  | .outside | .inside => true
  | .quoted _ | .escaped | .escapedInQuotes => false

/-- What a scan makes of one more character it makes of the rest from the next place on, with
another word before it perhaps. -/
lemma scan_cons (place : Place) (word : List Char) (c : Char) (rest : List Char) :
    ∃ word' f, scan place word (c :: rest) = (scan (place.next c) word' rest).map f := by
  have hsame (place' : Place) (word' : List Char) :
      ∃ word'' f, scan place' word' rest = (scan place' word'' rest).map f :=
    ⟨word', id, by cases scan place' word' rest <;> rfl⟩
  cases place with
  | outside =>
    rw [scan, Place.next]
    split <;> exact hsame _ _
  | inside =>
    rw [scan, Place.next]
    split
    next => exact ⟨_, _, rfl⟩
    next => exact hsame _ _
  | quoted quote =>
    rw [scan, Place.next]
    split
    next => exact hsame _ _
    next => split <;> exact hsame _ _
  | escaped => exact hsame _ _
  | escapedInQuotes =>
    rw [scan, Place.next]
    split <;> exact hsame _ _

/-- A command has words from a place on if the scan comes to a place where it may end. -/
lemma exists_scan_iff (place : Place) (word cs : List Char) :
    (∃ ws, scan place word cs = .ok ws) ↔ (cs.foldl Place.next place).isEnd = true := by
  induction cs generalizing place word with
  | nil => cases place <;> simp [scan, Place.isEnd]
  | cons c rest ih =>
    obtain ⟨word', f, hscan⟩ := scan_cons place word c rest
    rw [List.foldl_cons, ← ih (place.next c) word', hscan]
    exact exists_map_iff

/-- **A command line has words exactly if it leaves no quote open and no backslash ends it.** -/
lemma exists_words_iff {line : String} :
    (∃ ws, words line = .ok ws) ↔ (line.toList.foldl Place.next .outside).isEnd = true := by
  rw [← exists_scan_iff .outside [], words]
  exact exists_map_iff

/-- A tool that is not set, or whose command line is a text that can be split into words. -/
def Splits (tool : Value) : Prop :=
  tool.truthy = true → ∃ line words, tool = .str line ∧ Command.words line = .ok words

/-- A text can be called as a tool exactly if it leaves no quote open and no backslash ends it. -/
lemma splits_str_iff {line : String} :
    Splits (.str line) ↔ (line.toList.foldl Place.next .outside).isEnd = true := by
  rw [← exists_words_iff]
  constructor
  · intro h
    cases hline : (Value.str line).truthy with
    | true =>
      obtain ⟨_, words, heq, hwords⟩ := h hline
      cases heq
      exact ⟨words, hwords⟩
    | false =>
      obtain rfl : line = "" := by simpa [Value.truthy] using hline
      exact ⟨[], rfl⟩
  · rintro ⟨words, hwords⟩ -
    exact ⟨line, words, rfl, hwords⟩

/-- Neither a quote nor a backslash: a character after which a command may end if it may end before
it. -/
lemma Place.isEnd_next {place : Place} {c : Char} (hplace : place.isEnd = true)
    (hquote : isQuote c = false) (hescape : c ≠ '\\') : (place.next c).isEnd = true := by
  have henter : (enter c).1.isEnd = true := by
    simp [enter, hquote, hescape, Place.isEnd]
  cases place with
  | outside | inside =>
    rw [Place.next]
    split
    next => rfl
    next => exact henter
  | quoted | escaped | escapedInQuotes => cases hplace

/-- A text without quotes and backslashes can be called as a tool. -/
lemma splits_of_plain {line : String} (h : ∀ c ∈ line.toList, isQuote c = false ∧ c ≠ '\\') :
    Splits (.str line) := by
  have hend : ∀ (cs : List Char) (place : Place), place.isEnd = true →
      (∀ c ∈ cs, isQuote c = false ∧ c ≠ '\\') → (cs.foldl Place.next place).isEnd = true := by
    intro cs
    induction cs with
    | nil => exact fun _ hplace _ => hplace
    | cons c rest ih =>
      intro place hplace hplain
      rw [List.forall_mem_cons] at hplain
      exact ih _ (Place.isEnd_next hplace hplain.1.1 hplain.1.2) hplain.2
  exact splits_str_iff.2 (hend _ _ rfl h)

end Command

namespace Desk

open Workspace

variable {d d' : Desk} {text : String}

/-! ## Formatters -/

/-- A command that does not work is a fault that a session carries on after. -/
lemma formatterMayFail_of_commandFault {result : CommandResult} {argv : List String} {f : Fault}
    (h : Workspace.commandFault result argv = some f) : formatterMayFail f = true := by
  cases result <;> cases h <;> rfl

/-- A formatter that can be called does no harm, whatever comes of it. -/
lemma yields_runFormatter_ok (h : Command.Splits d.writer.formatter) :
    runFormatter.Yields d fun r _ => r = .ok () := by
  unfold runFormatter
  rw [Procedure.yields_get_bind]
  dsimp only
  split
  next htruthy =>
    obtain ⟨line, words, hline, hwords⟩ := h htruthy
    have hcommand : d.writer.command d.writer.formatter =
        .ok (words ++ [d.writer.scriptPath.text]) := by
      rw [hline, Writer.command, hwords]
    rw [hcommand, Procedure.yields_ofExcept_ok_bind]
    have hrun : (onWorkspace (Workspace.run (words ++ [d.writer.scriptPath.text]))).Yields d
        fun r _ => ∀ f, r = .error f → formatterMayFail f = true := by
      intro f hf
      have hfault : ((Workspace.run (words ++ [d.writer.scriptPath.text])).run d.workspace).1 =
          .error f := hf
      unfold Workspace.run at hfault
      simp only [ExceptT.run_mk] at hfault
      split at hfault
      next => cases hfault
      next f' hf' =>
        obtain rfl := Except.error.inj hfault
        exact formatterMayFail_of_commandFault hf'
    refine hrun.attempt_bind fun r d' hfault => ?_
    cases r with
    | ok u => rfl
    | error f =>
      dsimp only
      rw [if_pos (hfault f rfl)]
      rfl
  next => rfl

/-- A tool that is set has a command line only if it can be called. -/
lemma splits_of_command {w : Writer} {tool : Value} {argv : List String}
    (h : w.command tool = .ok argv) : Command.Splits tool := by
  rintro -
  unfold Writer.command at h
  split at h
  next line =>
    split at h
    next words hwords => exact ⟨line, words, rfl, hwords⟩
    next => cases h
  next => cases h

/-- **A formatter does no harm exactly if it can be called**, whatever comes of calling it. -/
lemma yields_runFormatter_iff (d : Desk) :
    runFormatter.Yields d fun r _ => r = .ok () ↔ Command.Splits d.writer.formatter := by
  by_cases h : Command.Splits d.writer.formatter
  · exact (yields_runFormatter_ok h).mono fun _ _ hr => iff_of_true hr h
  · have htruthy : d.writer.formatter.truthy = true := by
      by_contra htruthy
      exact h fun hset => absurd hset htruthy
    unfold runFormatter
    rw [Procedure.yields_get_bind]
    dsimp only
    rw [if_pos htruthy]
    cases hcommand : d.writer.command d.writer.formatter with
    | ok argv => exact absurd (splits_of_command hcommand) h
    | error f =>
      rw [Procedure.yields_ofExcept_error_bind]
      exact iff_of_false nofun h

/-! ## Ends -/

/-- A file is written, or refused by the storage, without a fault. -/
lemma yields_writeText_ok {path : Path} (h : hasNul path = false) (text : String)
    (more attempt : ℕ) (w : Workspace) :
    (writeText path text more attempt).Yields w fun r _ => ∃ written, r = .ok written := by
  have hrefusable : Snapshot.Refusable (writeOnce path text) :=
    (Snapshot.refusable_makeDirectories (hasNul_parent h)).bind fun _ =>
      Snapshot.refusable_write h _
  induction more generalizing attempt w with
  | zero =>
    rw [writeText]
    refine (hrefusable w).attempt_bind fun r t hr => ?_
    cases r with
    | ok u => exact ⟨true, rfl⟩
    | error f =>
      dsimp only
      rw [if_pos (hr f rfl)]
      exact ⟨false, rfl⟩
  | succ more ih =>
    rw [writeText]
    refine (hrefusable w).attempt_bind fun r t hr => ?_
    cases r with
    | ok u => exact ⟨true, rfl⟩
    | error f =>
      dsimp only
      rw [if_pos (hr f rfl)]
      exact ih _ _

/-- Files that have texts are written, or refused by the storage, without a fault. -/
lemma HasTexts.yields_writeAll_ok (h : d.HasTexts)
    (hnul : ∀ path ∈ d.writer.paths, hasNul path = false) :
    writeAll.Yields d fun r _ => r = .ok () := by
  obtain ⟨text, htext⟩ := h.script
  have hscript : writeScript.Yields d fun r _ => r = .ok () := by
    unfold writeScript
    rw [Procedure.yields_get_bind, htext, Procedure.yields_ofExcept_ok_bind]
    have hwrite := yields_writeText_ok (hnul _ List.mem_cons_self) text 1 1 d.workspace
    refine (yields_onWorkspace hwrite).bind (fun b t _ => ?_) fun _ _ ⟨_, _, _, h⟩ => nomatch h
    split <;> rfl
  unfold writeAll
  refine (hscript.and (keeps_writeScript d)).bind (fun _ t ht => ?_)
    fun _ _ h => nomatch h.1
  obtain ⟨n, hwriter⟩ := ht.2.writer
  unfold writeLog
  rw [Procedure.yields_get_bind, ht.2.session, hwriter]
  dsimp only
  split
  next => rfl
  next path hpath =>
    obtain ⟨saved, hsaved⟩ := h.log path hpath
    rw [hsaved, Procedure.yields_ofExcept_ok_bind]
    have hwrite := yields_writeText_ok (hnul path (by simp [Writer.paths, hpath])) saved 1 1
      t.workspace
    exact (yields_onWorkspace hwrite).bind (fun _ _ _ => rfl) fun _ _ ⟨_, _, _, h⟩ => nomatch h

/-- An end writes and then formats, with a writer that is closed. -/
lemma yields_close_iff_flush {Q : Except Fault Unit → Desk → Prop} : close.Yields d Q ↔
    (do
      writeAll
      runFormatter).Yields (d.withWriter { d.writer with closed := true }.cancel) Q := Iff.rfl

/-- **A formatter does no harm to an end exactly if it can be called.** Whether the storage refuses
the files makes no difference. -/
lemma HasTexts.yields_close_iff (h : d.HasTexts)
    (hnul : ∀ path ∈ d.writer.paths, hasNul path = false) :
    close.Yields d fun r _ => r = .ok () ↔ Command.Splits d.writer.formatter := by
  obtain ⟨q, hq⟩ : ∃ q, q = d.withWriter { d.writer with closed := true }.cancel := ⟨_, rfl⟩
  have hwritten : writeAll.Yields q fun r _ => r = .ok () :=
    HasTexts.yields_writeAll_ok (hq ▸ ⟨h.script, h.log⟩) (hq ▸ hnul)
  rw [yields_close_iff_flush, ← hq]
  refine (hwritten.and (keeps_writeAll q)).bind (fun _ t ht => ?_)
    fun _ _ h => nomatch h.1
  obtain ⟨n, hwriter⟩ := ht.2.writer
  have hformatter : t.writer.formatter = d.writer.formatter := by
    rw [hwriter, hq]
    rfl
  exact hformatter ▸ yields_runFormatter_iff t

/-- After an end the files show the session, if they have texts, even if the formatter fails. -/
lemma HasTexts.yields_close_shows (h : d.HasTexts) (hw : Writable d.workspace d.writer.paths)
    (hapart : d.Apart) : close.Yields d fun _ d' => d'.Shows d.session := by
  obtain ⟨q, hq⟩ : ∃ q, q = d.withWriter { d.writer with closed := true }.cancel := ⟨_, rfl⟩
  have hwritten : writeAll.Yields q fun r d' => r = .ok () ∧ q.Keeps d' ∧ d'.Shows q.session :=
    HasTexts.yields_writeAll (hq ▸ ⟨h.script, h.log⟩) (hq ▸ hw) (hq ▸ hapart)
  rw [yields_close_iff_flush, ← hq]
  refine hwritten.bind (fun _ t ht => ?_) fun _ _ h => nomatch h.1
  refine (yields_runFormatter t).mono fun _ d' hd' => ?_
  have hshows : t.Shows d.session := by
    rw [hq] at ht
    exact ht.2.2
  exact hshows.grows hd'.files.grows (by rw [hd'.writer]) (by rw [hd'.writer]) (by simp)

/-- What becomes of a desk at the end of a session. The writer is closed and waits for no timer, and
the files show the session if they can be written. The end is a fault exactly if the formatter
cannot be called. -/
structure Closed (d : Desk) (r : Except Fault Unit) (d' : Desk) : Prop where
  result : r = .ok () ↔ Command.Splits d.writer.formatter
  session : d'.session = d.session
  closed : d'.writer.closed = true
  idle : d'.writer.pending = false
  shows : Writable d.workspace d.writer.paths → d.Apart → d'.Shows d.session

/-- **An end closes the writer and writes the files**, whatever becomes of the formatter. -/
lemma HasTexts.yields_close (h : d.HasTexts)
    (hnul : ∀ path ∈ d.writer.paths, hasNul path = false) :
    close.Yields d fun r d' => d.Closed r d' := by
  have hrests := yields_close_rests d
  obtain ⟨n, hwriter⟩ := hrests.writer
  exact ⟨h.yields_close_iff hnul, hrests.session, by rw [hwriter]; rfl, by rw [hwriter]; rfl,
    fun hw hapart => h.yields_close_shows hw hapart⟩

end Desk

end SessionRecorder
