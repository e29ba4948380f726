import SessionRecorder.Proofs.Files
import SessionRecorder.Proofs.LogText
import SessionRecorder.Proofs.Script.Blocks
import SessionRecorder.Proofs.Writer.Frame
/-!
# What the writer leaves behind

After the writer has written, the script and the log on the disk are those of the session, whether
it wrote because it was asked to or because a timer ran out. Tools that are run afterwards leave
them as they are.

## Main definitions

* `Writer.paths` — the files of a writer.
* `Desk.Shows` — the files of a desk show a session.
* `Desk.HasTexts` — the files of a desk have texts.

## Main results

* `Desk.Shows.grows` — files that are not written go on showing the same session.
* `Desk.HasTexts.yields_writeAll`, `Desk.yields_writeAll` — the files that are written show the
  session of the desk.
* `Desk.yields_start`, `Desk.yields_close`, `Desk.yields_fire` — so they do after a beginning, after
  an end, and after a timer that was still wanted has run out.
-/

namespace SessionRecorder

namespace Desk

open Workspace

variable {w w' : Workspace} {path : Path} {paths : List Path} {text : String}

/-! ## Writing once -/

/-- Writing a file with its directory writes nothing else, and without a fault the file stands in
its directory. -/
lemma yields_writeOnce : (writeOnce path text).Yields w fun r w' =>
    w.Writes [path] w' ∧ (r = .ok () → w'.Holds path (.text text)) := by
  refine yields_makeDirectories.bind (fun _ t h => ?_) fun e t h => ?_
  · refine yields_write.mono fun r w' h' => ?_
    refine ⟨(h.1.1.mono (by simp)).trans h'.1.1, fun hr => ⟨?_, h'.2 hr⟩⟩
    exact h'.1.1.here ▸ h'.1.1.disk.isDirectory (h.2 rfl)
  · exact ⟨h.1.1.mono (by simp), fun h => by cases h⟩

/-- A file that stands in its directory can be written again. -/
lemma exists_writeOnce {content : Blob} (h : w.Holds path content) (text : String) :
    ∃ w', (writeOnce path text).run w = (.ok (), w') := by
  obtain ⟨hnul, hread⟩ := read_eq_ok_iff.1 h.content
  obtain ⟨d, hd⟩ := Disk.exists_write hread (.text text)
  have hdirectories : (makeDirectories path.parent).run w = (.ok (), w) := by
    unfold makeDirectories
    simp only [ExceptT.run_mk, hasNul_parent hnul,
      Disk.makeDirectories_of_isDirectory h.directory]
    rfl
  refine ⟨{ w with disk := d }, ?_⟩
  rw [writeOnce, Procedure.run_bind_ok hdirectories]
  unfold Workspace.write changeDisk written
  simp only [ExceptT.run_mk, hnul, hd]
  rfl

/-! ## Writing what can be written -/

/-- Files that can be written one after the other, each with its directory. -/
def Writable (w : Workspace) : List Path → Prop
  | [] => True
  | path :: rest => ∀ text, ∃ w', (writeOnce path text).run w = (.ok (), w') ∧ Writable w' rest

/-- Which files can be written is a matter of the files alone. -/
lemma Writable.of_sameFiles (h : Writable w paths) (hw : w.SameFiles w') :
    Writable w' paths := by
  induction paths generalizing w w' with
  | nil => exact True.intro
  | cons path rest ih =>
    intro text
    obtain ⟨t, hrun, ht⟩ := h text
    have hsees : SeesFiles (writeOnce path text) :=
      (seesFiles_makeDirectories _).bind fun _ => seesFiles_write _ _
    obtain ⟨hr, hfiles⟩ := hsees w w' hw
    rw [hrun] at hr hfiles
    exact ⟨((writeOnce path text).run w').2, Prod.ext hr rfl, ih ht hfiles⟩

/-- Files that stand in their directories can be written, if no two of them are the same file. -/
lemma writable_of_holds
    (hapart : paths.Pairwise fun p q => p.location w.here ≠ q.location w.here)
    (h : ∀ path ∈ paths, ∃ content, w.Holds path content) : Writable w paths := by
  induction paths generalizing w with
  | nil => exact True.intro
  | cons path rest ih =>
    intro text
    rw [List.pairwise_cons] at hapart
    rw [List.forall_mem_cons] at h
    obtain ⟨content, hcontent⟩ := h.1
    obtain ⟨t, hrun⟩ := exists_writeOnce hcontent text
    have hyields := @yields_writeOnce w path text
    rw [Procedure.yields_of_run hrun] at hyields
    refine ⟨t, hrun, ih (hyields.1.here ▸ hapart.2) fun q hq => ?_⟩
    obtain ⟨content, hcontent⟩ := h.2 q hq
    exact ⟨content, hcontent.grows hyields.1.grows (by simpa using hapart.1 q hq)⟩

/-- **A file that can be written is written** at the first attempt. -/
lemma yields_writeText (h : Writable w (path :: paths)) (text : String) (more attempt : ℕ) :
    (writeText path text more attempt).Yields w fun r w' => r = .ok true ∧ w.Grows [path] w' ∧
      w'.Holds path (.text text) ∧ Writable w' paths := by
  obtain ⟨t, hrun, ht⟩ := h text
  have hyields := @yields_writeOnce w path text
  rw [Procedure.yields_of_run hrun] at hyields
  have hattempt : (writeOnce path text).attempt.run w = (.ok (.ok ()), t) := by
    show (Except.ok ((writeOnce path text).run w).1, ((writeOnce path text).run w).2) = _
    rw [hrun]
  have hrest : (writeText path text more attempt).run w = (.ok true, t) := by
    cases more <;> rw [writeText, Procedure.run_bind_ok hattempt] <;> rfl
  exact (Procedure.yields_of_run hrest).2 ⟨rfl, hyields.1.grows, hyields.2 rfl, ht⟩

/-- What a step on the workspace yields. -/
lemma yields_onWorkspace {α : Type} {p : Procedure Workspace α} {d : Desk}
    {P : Except Fault α → Workspace → Prop} (h : p.Yields d.workspace P) :
    (onWorkspace p).Yields d fun r d' => ∃ t, d' = { d with workspace := t } ∧ P r t :=
  ⟨_, rfl, h⟩

end Desk

/-! ## Files that show a session -/

/-- The files of a writer: the script, and the log if it is to be written. -/
def Writer.paths (w : Writer) : List Path :=
  w.scriptPath :: w.logPath.toList

namespace Desk

open Workspace

variable {d d' : Desk} {s : Session}

/-- The script and the log, if it is to be written, are those of a session. -/
structure Shows (d : Desk) (s : Session) : Prop where
  script : ∃ text, scriptText s = .ok text ∧
    d.workspace.Holds d.writer.scriptPath (.text text)
  log : ∀ path, d.writer.logPath = some path →
    ∃ text, logText s = .ok text ∧ d.workspace.Holds path (.text text)

/-- The files of the writer are different files. -/
def Apart (d : Desk) : Prop :=
  d.writer.paths.Pairwise fun p q => p.location d.workspace.here ≠ q.location d.workspace.here

/-- The desk goes on with the same session and the same writer, whatever has been written. -/
structure Keeps (d d' : Desk) : Prop where
  session : d'.session = d.session
  writer : ∃ n, d'.writer = { d.writer with writes := n }
  here : d'.workspace.here = d.workspace.here

/-- The desk goes on and on. -/
lemma Keeps.trans {d'' : Desk} (h : d.Keeps d') (h' : d'.Keeps d'') : d.Keeps d'' := by
  obtain ⟨n, hn⟩ := h.writer
  obtain ⟨n', hn'⟩ := h'.writer
  exact ⟨h'.session.trans h.session, ⟨n', by rw [hn', hn]⟩, h'.here.trans h.here⟩

/-- The files of the writer stay what they are. -/
lemma Keeps.paths (h : d.Keeps d') : d'.writer.scriptPath = d.writer.scriptPath ∧
    d'.writer.logPath = d.writer.logPath := by
  obtain ⟨n, hn⟩ := h.writer
  exact ⟨by rw [hn], by rw [hn]⟩

/-- Files that are not written go on showing the same session. -/
lemma Shows.grows {written : List Path} (h : d.Shows s)
    (hg : d.workspace.Grows written d'.workspace)
    (hscript : d'.writer.scriptPath = d.writer.scriptPath)
    (hlog : d'.writer.logPath = d.writer.logPath)
    (hw : ∀ q ∈ written, ∀ p ∈ d.writer.paths,
      q.location d.workspace.here ≠ p.location d.workspace.here) : d'.Shows s := by
  constructor
  · obtain ⟨text, htext, hholds⟩ := h.script
    rw [hscript]
    exact ⟨text, htext, hholds.grows hg fun q hq => hw q hq _ (by simp [Writer.paths])⟩
  · intro path hpath
    rw [hlog] at hpath
    obtain ⟨text, htext, hholds⟩ := h.log path hpath
    exact ⟨text, htext, hholds.grows hg fun q hq => hw q hq _ (by simp [Writer.paths, hpath])⟩

/-- Files that show a session are there. -/
lemma Shows.exists_holds (h : d.Shows s) {path : Path} (hpath : path ∈ d.writer.paths) :
    ∃ content, d.workspace.Holds path content := by
  rcases List.mem_cons.1 hpath with rfl | hpath
  · obtain ⟨text, -, hholds⟩ := h.script
    exact ⟨_, hholds⟩
  · obtain ⟨text, -, hholds⟩ := h.log path (by simpa using hpath)
    exact ⟨_, hholds⟩

/-- Files that show a session can be written again. -/
lemma Shows.writable (h : d.Shows s) (hapart : d.Apart) :
    Writable d.workspace d.writer.paths :=
  writable_of_holds hapart fun _ hpath => h.exists_holds hpath

/-! ## Writing all files -/

/-- Not everything was done, since a line of the script is too wide to be held or a whole number of
the log too long to be spelled out. -/
def Oversized {α : Type} (r : Except Fault α) : Prop :=
  ∃ f, (Script.IsWidthFault f ∨ f = .notJson .int) ∧ r = .error f

/-- What was done was not too large. -/
lemma not_oversized_ok {α : Type} {a : α} : ¬Oversized (.ok a) := by
  rintro ⟨f, -, hf⟩
  cases hf

/-- Nothing comes after a fault. -/
lemma Oversized.error {α β : Type} {e : Fault} (h : Oversized (.error e : Except Fault α)) :
    Oversized (.error e : Except Fault β) := by
  obtain ⟨f, hf, he⟩ := h
  exact ⟨f, hf, congrArg _ (Except.error.inj he)⟩

/-- What is too large is no matter of the session. -/
lemma Oversized.family {α : Type} {f : Fault} (h : Oversized (.error f : Except Fault α)) :
    f.family ≠ .session := by
  obtain ⟨f', (rfl | rfl | rfl) | rfl, hf⟩ := h <;> obtain rfl := Except.error.inj hf <;>
    nofun

/-- A session has a script, unless it is too wide or a number is too long. -/
lemma exists_scriptText (hs : s.WellTyped) :
    (∃ text, scriptText s = .ok text) ∨ Oversized (scriptText s) := by
  unfold scriptText
  split
  next =>
    rcases Script.exists_text hs.log hs.openSteps with ⟨body, -, -, htext⟩ | ⟨-, f, hf, htext⟩
    · exact .inl ⟨_, htext⟩
    · exact .inr ⟨f, .inl hf, htext⟩
  next => exact .inr ⟨_, .inr rfl, rfl⟩

/-- A session with a number that is too long has no script. -/
lemma oversized_scriptText (h : s.log.all Entry.isShort = false) : Oversized (scriptText s) := by
  unfold scriptText
  rw [if_neg (by simp [h])]
  exact ⟨_, .inr rfl, rfl⟩

/-- Not everything of a session was done, since its script is too wide or a number too long. -/
structure Misses {α : Type} (s : Session) (r : Except Fault α) : Prop where
  result : Oversized r
  script : Oversized (scriptText s)

/-- Nothing comes after a fault. -/
lemma Misses.error {α β : Type} {e : Fault} (h : Misses s (.error e : Except Fault α)) :
    Misses s (.error e : Except Fault β) :=
  ⟨h.result.error, h.script⟩

/-- What was done was not missed. -/
lemma not_misses_ok {α : Type} {a : α} : ¬Misses s (.ok a) :=
  fun h => not_oversized_ok h.result

/-- The files of a desk have texts: its session has a script, and its log has a text if it is to be
written. -/
structure HasTexts (d : Desk) : Prop where
  script : ∃ text, scriptText d.session = .ok text
  log : ∀ path, d.writer.logPath = some path → ∃ text, logText d.session = .ok text

/-- The files of a desk have texts, unless the script is too wide or a number is too long. -/
lemma hasTexts_or_oversized (hs : d.session.WellTyped) :
    d.HasTexts ∨ Oversized (scriptText d.session) := by
  refine (exists_scriptText hs).imp_left fun hscript => ⟨hscript, fun path _ => ?_⟩
  rw [logText_eq hs]
  cases hshort : d.session.log.all Entry.isShort with
  | true => exact ⟨_, rfl⟩
  | false =>
    obtain ⟨text, htext⟩ := hscript
    exact absurd (htext ▸ oversized_scriptText hshort) not_oversized_ok

/-- The script of a session that has one is written. -/
lemma yields_writeScript {rest : List Path} {text : String}
    (htext : scriptText d.session = .ok text)
    (hw : Writable d.workspace (d.writer.scriptPath :: rest)) :
    writeScript.Yields d fun r d' => r = .ok () ∧ d.Keeps d' ∧ Writable d'.workspace rest ∧
      d'.workspace.Holds d.writer.scriptPath (.text text) := by
  unfold writeScript
  rw [Procedure.yields_get_bind, htext, Procedure.yields_ofExcept_ok_bind]
  refine (yields_onWorkspace (yields_writeText hw _ 1 1)).bind (fun b d' h => ?_) fun e d' h => ?_
  · obtain ⟨t, rfl, hb, hgrows, hholds, hrest⟩ := h
    obtain rfl := Except.ok.inj hb
    rw [if_pos rfl, changeWriter, Procedure.yields_modify_bind]
    refine ⟨rfl, ⟨rfl, ⟨_, rfl⟩, hgrows.here⟩, hrest.of_sameFiles ⟨rfl, rfl⟩, ?_⟩
    have hfiles : t.Grows [] { t with journal := t.journal ++ [.plain .debug .writer
        ("Wrote " ++ toString d.session.log.length ++ " action(s) to " ++
          d.writer.scriptPath.text)] } := SameFiles.grows ⟨rfl, rfl⟩
    exact hholds.grows hfiles (by simp)
  · obtain ⟨t, -, hb, -⟩ := h
    cases hb

/-- The log of a session is written, if it is to be. -/
lemma yields_writeLog
    (hlog : ∀ path, d.writer.logPath = some path → ∃ text, logText d.session = .ok text)
    (hw : Writable d.workspace d.writer.logPath.toList) :
    writeLog.Yields d fun r d' =>
      r = .ok () ∧ d.Keeps d' ∧ d.workspace.Grows d.writer.logPath.toList d'.workspace ∧
        ∀ path, d.writer.logPath = some path →
          ∃ text, logText d.session = .ok text ∧ d'.workspace.Holds path (.text text) := by
  unfold writeLog
  rw [Procedure.yields_get_bind]
  split
  next hnone =>
    rw [hnone]
    exact ⟨rfl, ⟨rfl, ⟨_, rfl⟩, rfl⟩, (SameFiles.refl _).grows, nofun⟩
  next path hpath =>
    rw [hpath] at hw ⊢
    obtain ⟨text, htext⟩ := hlog path hpath
    rw [htext, Procedure.yields_ofExcept_ok_bind]
    refine (yields_onWorkspace (yields_writeText hw _ 1 1)).bind (fun b d' h => ?_)
      fun e d' h => ?_
    · obtain ⟨t, rfl, -, hgrows, hholds, -⟩ := h
      refine ⟨rfl, ⟨rfl, ⟨_, rfl⟩, hgrows.here⟩, hgrows, fun path' hpath' => ?_⟩
      obtain rfl := Option.some.inj hpath'
      exact ⟨text, rfl, hholds⟩
    · obtain ⟨t, -, hb, -⟩ := h
      cases hb

/-- Files that have texts are written, and show the session of the desk. -/
lemma HasTexts.yields_writeAll (h : d.HasTexts) (hw : Writable d.workspace d.writer.paths)
    (hapart : d.Apart) : writeAll.Yields d fun r d' =>
      r = .ok () ∧ d.Keeps d' ∧ d'.Shows d.session := by
  obtain ⟨text, htext⟩ := h.script
  unfold writeAll
  refine (yields_writeScript htext hw).bind (fun _ d₁ h₁ => ?_) fun e d₁ h₁ => ?_
  · obtain ⟨-, hkeeps, hrest, hholds⟩ := h₁
    obtain ⟨hscript, hlog⟩ := hkeeps.paths
    have hwritten := @yields_writeLog d₁ (by rw [hlog, hkeeps.session]; exact h.log) (hlog ▸ hrest)
    rw [hlog, hkeeps.session] at hwritten
    refine hwritten.mono fun r d₂ ⟨hr, hkeeps', hgrows, hshown⟩ => ?_
    refine ⟨hr, hkeeps.trans hkeeps', ⟨text, htext, ?_⟩, fun path hpath => ?_⟩
    · rw [(hkeeps.trans hkeeps').paths.1]
      refine hholds.grows hgrows fun q hq => ?_
      rw [hkeeps.here]
      exact (List.rel_of_pairwise_cons hapart hq).symm
    · rw [(hkeeps.trans hkeeps').paths.2] at hpath
      exact hshown path hpath
  · cases h₁.1

/-- **The files that are written show the session of the desk.** Only what is too large is not
written. -/
lemma yields_writeAll (hs : d.session.WellTyped) (hw : Writable d.workspace d.writer.paths)
    (hapart : d.Apart) : writeAll.Yields d fun r d' =>
      (r = .ok () ∧ d.Keeps d' ∧ d'.Shows d.session) ∨ Misses d.session r := by
  rcases hasTexts_or_oversized hs with h | ⟨f, hf, hscript⟩
  · exact (h.yields_writeAll hw hapart).mono fun _ _ h => .inl h
  · have hrun : writeAll.run d = (.error f, d) := by
      refine Procedure.run_bind_error ?_
      rw [writeScript, Procedure.run_get_bind, hscript]
      rfl
    exact (Procedure.yields_of_run hrun).2 (.inr ⟨⟨f, hf, rfl⟩, f, hf, hscript⟩)

/-! ## Requests and timers -/

/-- The desk goes on with the same session, the same writer and the same files. -/
structure SetAside (d d' : Desk) : Prop where
  session : d'.session = d.session
  writer : d'.writer = d.writer
  files : d.workspace.Writes [] d'.workspace

/-- A desk is the same as itself. -/
lemma SetAside.refl (d : Desk) : d.SetAside d := ⟨rfl, rfl, (SameFiles.refl _).writes⟩

/-- The desk stays the same for longer. -/
lemma SetAside.trans {d'' : Desk} (h : d.SetAside d') (h' : d'.SetAside d'') : d.SetAside d'' :=
  ⟨h'.session.trans h.session, h'.writer.trans h.writer, h.files.trans h'.files⟩

/-- A step on the workspace that writes to no file. -/
lemma yields_setAside {α : Type} {p : Procedure Workspace α} (hp : Touches [] p) (d : Desk) :
    (onWorkspace p).Yields d fun _ d' => d.SetAside d' :=
  ⟨rfl, rfl, (hp d.workspace).1⟩

/-- Such a step whose faults are looked at. -/
lemma yields_attempt_setAside {α : Type} {p : Procedure Workspace α} (hp : Touches [] p)
    {g : Except Fault α → Procedure Desk Unit}
    (hg : ∀ r d, (g r).Yields d fun _ d' => d.SetAside d') (d : Desk) :
    ((onWorkspace p).attempt >>= g).Yields d fun _ d' => d.SetAside d' :=
  (yields_setAside hp d).attempt_bind fun r t h => (hg r t).mono fun _ _ h' => h.trans h'

/-- A command line that cannot be made is no matter of the session. -/
lemma touches_command (w : Writer) (tool : Value) :
    Touches [] (Procedure.ofExcept (w.command tool) : Procedure Workspace (List String)) := by
  refine touches_ofExcept fun f hf => ?_
  unfold Writer.command at hf
  split at hf
  next =>
    split at hf <;> cases hf
    exact ⟨nofun, nofun⟩
  next =>
    cases hf
    exact ⟨nofun, nofun⟩

/-- Handing the script to the editor leaves the files as they are. -/
lemma yields_launchEditor (d : Desk) : launchEditor.Yields d fun _ d' => d.SetAside d' := by
  unfold launchEditor
  rw [Procedure.yields_get_bind]
  dsimp only
  split
  next =>
    have hlaunch : Touches [] (do
        let argv ← Procedure.ofExcept (d.writer.command d.writer.editor)
        Workspace.run argv) := (touches_command _ _).bind touches_run
    refine yields_attempt_setAside hlaunch (fun r d => ?_) d
    cases r with
    | ok u => exact .refl d
    | error f =>
      dsimp only
      split
      next => exact yields_setAside (touches_note _) d
      next => exact .refl d
  next => exact .refl d

/-- Formatting the script leaves the files as they are. -/
lemma yields_runFormatter (d : Desk) : runFormatter.Yields d fun _ d' => d.SetAside d' := by
  unfold runFormatter
  rw [Procedure.yields_get_bind]
  dsimp only
  split
  next =>
    cases hargv : d.writer.command d.writer.formatter with
    | error f =>
      rw [Procedure.yields_ofExcept_error_bind]
      exact .refl d
    | ok argv =>
      rw [Procedure.yields_ofExcept_ok_bind]
      refine yields_attempt_setAside (touches_run argv) (fun r d => ?_) d
      cases r with
      | ok u => exact yields_setAside (touches_note _) d
      | error f =>
        dsimp only
        split
        next => exact yields_setAside (touches_note _) d
        next => exact .refl d
  next => exact .refl d

/-- The desk has written its session and waits for nothing; its writer may have been opened or
closed. -/
structure Written (closed : Bool) (d d' : Desk) : Prop where
  session : d'.session = d.session
  scriptPath : d'.writer.scriptPath = d.writer.scriptPath
  logPath : d'.writer.logPath = d.writer.logPath
  here : d'.workspace.here = d.workspace.here
  idle : d'.writer.current = none
  closed : d'.writer.closed = closed
  shows : d'.Shows d.session

/-- What has been written by a writer that was set to work has been written, if it is for the same
files. -/
lemma Written.of_withWriter {closed : Bool} {w : Writer}
    (h : (d.withWriter w).Written closed d') (hscript : w.scriptPath = d.writer.scriptPath)
    (hlog : w.logPath = d.writer.logPath) : d.Written closed d' where
  session := h.session
  scriptPath := h.scriptPath.trans hscript
  logPath := h.logPath.trans hlog
  here := h.here
  idle := h.idle
  closed := h.closed
  shows := h.shows

/-- What has been written stays when tools are run. -/
lemma Written.setAside {closed : Bool} {d'' : Desk} (h : d.Written closed d')
    (h' : d'.SetAside d'') : d.Written closed d'' where
  session := h'.session.trans h.session
  scriptPath := h'.writer ▸ h.scriptPath
  logPath := h'.writer ▸ h.logPath
  here := h'.files.here.trans h.here
  idle := h'.writer ▸ h.idle
  closed := h'.writer ▸ h.closed
  shows := h.shows.grows h'.files.grows (by rw [h'.writer]) (by rw [h'.writer]) (by simp)

section

variable (hs : d.session.WellTyped) (hw : Writable d.workspace d.writer.paths) (hapart : d.Apart)

include hs hw hapart

/-- All files are written by a writer that waits for nothing. -/
lemma yields_writeAll_idle (hidle : d.writer.current = none) : writeAll.Yields d fun r d' =>
    (r = .ok () ∧ d.Written d.writer.closed d') ∨ Misses d.session r := by
  refine (yields_writeAll hs hw hapart).mono fun r d' h => h.imp_left fun ⟨hr, hkeeps, hshows⟩ => ?_
  obtain ⟨n, hn⟩ := hkeeps.writer
  exact ⟨hr, ⟨hkeeps.session, hkeeps.paths.1, hkeeps.paths.2, hkeeps.here, by rw [hn, hidle],
    by rw [hn], hshows⟩⟩

/-- All files are written at once. -/
lemma yields_flush : flush.Yields d fun r d' =>
    (r = .ok () ∧ d.Written d.writer.closed d') ∨ Misses d.session r := by
  unfold flush changeWriter
  rw [Procedure.yields_modify_bind]
  refine (@yields_writeAll_idle { d with writer := d.writer.cancel } hs hw hapart rfl).mono
    fun r d' h => h.imp_left fun ⟨hr, h⟩ => ⟨hr, ?_⟩
  exact Written.of_withWriter (w := d.writer.cancel) h rfl rfl

/-- All files are written by a writer that is opened or closed, and then tools are run. -/
lemma yields_flush_setAside {closed : Bool} {tools : Procedure Desk Unit}
    (htools : ∀ d, tools.Yields d fun _ d' => d.SetAside d') :
    (do
      changeWriter fun w => { w with closed := closed }
      flush
      tools).Yields d fun r d' => d.Written closed d' ∨ Misses d.session r := by
  unfold changeWriter
  rw [Procedure.yields_modify_bind]
  refine (@yields_flush { d with writer := { d.writer with closed := closed } } hs hw hapart).bind
    (fun _ d' h => ?_) fun e d' h => ?_
  · rcases h with ⟨-, h⟩ | h
    · refine (htools d').mono fun r d'' h' => .inl ?_
      have hwritten : d.Written closed d' :=
        .of_withWriter (w := { d.writer with closed := closed }) h rfl rfl
      exact hwritten.setAside h'
    · exact absurd h not_misses_ok
  · rcases h with ⟨hr, -⟩ | h
    · cases hr
    · exact .inr h.error

/-- **After a beginning the files show the session.** -/
lemma yields_start : start.Yields d fun r d' => d.Written false d' ∨ Misses d.session r :=
  yields_flush_setAside hs hw hapart yields_launchEditor

/-- **After an end the files show the session.** -/
lemma yields_close : close.Yields d fun r d' => d.Written true d' ∨ Misses d.session r :=
  yields_flush_setAside hs hw hapart yields_runFormatter

/-- **After a timer has run out the files show the session**, unless nothing has been done. -/
lemma yields_fire {i : ℕ} (hi : i < d.writer.timers.length) : (fire i).Yields d fun r d' =>
    (r = .ok () ∧ (d' = d ∨ d.Written d.writer.closed d')) ∨ Misses d.session r := by
  unfold fire
  rw [Procedure.yields_get_bind, List.getElem?_eq_getElem hi]
  dsimp only
  unfold expire
  rw [Procedure.yields_get_bind]
  dsimp only
  split
  next => exact .inl ⟨rfl, .inl rfl⟩
  next =>
    unfold changeWriter
    rw [Procedure.yields_modify_bind]
    refine (@yields_writeAll_idle { d with writer := { d.writer with current := none } } hs hw
      hapart rfl).mono fun r d' h => h.imp_left fun ⟨hr, h⟩ => ⟨hr, .inr ?_⟩
    exact Written.of_withWriter (w := { d.writer with current := none }) h rfl rfl

end

end Desk

/-! ## New timers -/

namespace Writer

/-- A fault in the midst of a calculation is a fault of what is calculated with. -/
lemma eq_error_of_map {α β : Type} {r : Except Fault α} {g : α → β} {f : Fault}
    (h : r.map g = .error f) : r = .error f := by
  cases r with
  | ok a => cases h
  | error e => exact congrArg _ (Except.error.inj h)

/-- A whole number that is no double is too large. -/
lemma family_of_doubleOf {i : ℤ} {f : Fault} (h : Value.doubleOf i = .error f) :
    f.family ≠ .session := by
  unfold Value.doubleOf at h
  split at h
  next => cases h
  next =>
    obtain rfl := Except.error.inj h
    nofun

/-- The length of a timer is refused for its size. -/
lemma family_of_interval {w : Writer} {f : Fault} (h : w.interval = .error f) :
    f.family ≠ .session :=
  family_of_doubleOf (eq_error_of_map h)

end Writer

namespace Desk

variable {d : Desk}

/-- A writer that is not closed waits for a timer after a request. Only the length of its timers may
be refused. -/
lemma yields_schedule (hopened : d.writer.closed = false) : schedule.Yields d fun r d' =>
    (r = .ok () ∧ ∃ w, d' = { d with writer := w } ∧ w.scriptPath = d.writer.scriptPath ∧
      w.logPath = d.writer.logPath ∧ w.closed = false ∧ w.pending = true) ∨
    ∃ f, r = .error f ∧ f.family ≠ .session := by
  cases h : d.writer.interval with
  | ok seconds =>
    rw [Procedure.yields_of_run (run_schedule_of_open hopened), Writer.restart_of_ok h]
    exact .inl ⟨rfl, _, rfl, rfl, rfl, hopened, rfl⟩
  | error f =>
    rw [Procedure.yields_of_run (run_schedule_of_open hopened), Writer.restart_of_error h]
    exact .inr ⟨f, rfl, Writer.family_of_interval h⟩

end Desk

end SessionRecorder
