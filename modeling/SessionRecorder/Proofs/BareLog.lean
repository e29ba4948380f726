import SessionRecorder.Proofs.Rendering
import SessionRecorder.Proofs.Script.OnePass
/-!
# Logs without their open steps

A saved log says which steps are open at its end, but its entries say so, too. The ends of steps
that are said to be open write what would be written without them to close the blocks that are left.
So the script of a log does not depend on what is said, and a file with nothing but the entries of a
log has the same script as one that also has its open steps.

## Main results

* `Script.render_closed_congr`, `Script.text_congr` — the script of a log does not depend on what is
  said about its open steps.
* `CommandLine.renderFields_congr` — neither does what comes of rendering a saved log.
* `CommandLine.renderLog_bare` — a file with the entries of a log alone.
-/

namespace SessionRecorder

namespace Script

/-- **The lines of a log do not depend on the steps that are said to be open**, if its blocks are
closed at the end. -/
lemma render_closed_congr (log : List Entry) (openSteps openSteps' : List Value) (base : Value) :
    render log openSteps base true = render log openSteps' base true := by
  rw [render_closed, render_closed, closeSteps, closeSteps, finishedLines_append_ends,
    finishedLines_append_ends]

/-- The script of a log does not depend on the steps that are said to be open. -/
lemma text_congr (log : List Entry) (openSteps openSteps' : List Value) :
    text log openSteps = text log openSteps' := by
  rw [text, text, scriptLines, scriptLines, render_closed_congr log openSteps openSteps']

end Script

namespace CommandLine

variable {w : Workspace} {bare saved : Path} {items : List Value}
  {fields fields' : List (String × Value)}

/-- The entries of a log that lists its actions are what they describe. -/
lemma logEntries_of_actions (h : Value.fieldOr fields "actions" (.list []) = .list items) :
    logEntries fields = Entry.ofRecords items := by
  rw [logEntries, h]
  rfl

/-- Rendering a log in fields gives the same for other open steps. -/
lemma renderFields_congr {entries : List Entry} {steps steps' : List Value}
    (hentries : logEntries fields = .ok entries) (hentries' : logEntries fields' = .ok entries)
    (hsteps : logSteps fields = .ok steps) (hsteps' : logSteps fields' = .ok steps')
    (log log' : Path) (output : Destination) :
    renderFields fields log output = renderFields fields' log' output := by
  rw [renderFields, renderFields, hentries, hentries', hsteps, hsteps']
  show (Procedure.ofExcept (Script.text entries steps) >>= fun script =>
      deliver script entries.length output) =
    (Procedure.ofExcept (Script.text entries steps') >>= fun script =>
      deliver script entries.length output)
  rw [Script.text_congr entries steps steps']

/-- Rendering a file is rendering the fields of its log. -/
lemma run_renderLog_of_fields {log : Path} {v : Value} (hread : readLog w log = .ok v)
    (hfields : logFields? v = some fields) (output : Destination) :
    (renderLog log output).run w = (renderFields fields log output).run w := by
  rw [renderLog, Procedure.run_get_bind, hread]
  dsimp only
  rw [hfields]

/-- Fields that describe no entries are refused, and nothing else comes of them. -/
lemma result_renderFields_of_error {f : Fault} (hentries : logEntries fields = .error f)
    (log : Path) (output : Destination) :
    ((renderFields fields log output).run w).1 = .ok (2, "") := by
  rw [renderFields, hentries]
  dsimp only
  rw [if_pos (isInvalid_of_logEntries hentries)]
  rfl

/-- **A file with the entries of a log alone has the same script** as one that also has its open
steps, since the lines of a log whose blocks are closed do not depend on the steps that are said to
be open, whatever they are and however many. If the records in the files do not describe entries,
both are refused.

**Proof sketch.** The end of a step writes what closing its block would write, and where none is
open it writes nothing; so the ends that are put after a log make no difference to the lines
(`Script.finishedLines_append_ends`). -/
theorem renderLog_bare :
    (∀ log openSteps openSteps' base,
      Script.render log openSteps base true = Script.render log openSteps' base true) ∧
    (∀ log openSteps, Script.text log openSteps = Script.text log []) ∧
    ∀ {w : Workspace} {bare saved : Path} {items : List Value} {fields : List (String × Value)}
      {steps : List Value}, readLog w bare = .ok (.list items) →
      readLog w saved = .ok (.dict fields) →
      Value.fieldOr fields "actions" (.list []) = .list items → logSteps fields = .ok steps →
      ∀ output, ((renderLog bare output).run w).1 = ((renderLog saved output).run w).1 ∧
        ((∃ entries, Entry.ofRecords items = .ok entries) →
          (renderLog bare output).run w = (renderLog saved output).run w) := by
  refine ⟨Script.render_closed_congr, fun log openSteps => Script.text_congr log openSteps [],
    fun {w bare saved items fields steps} hbare hsaved hactions hsteps output => ?_⟩
  have hlist : logFields? (.list items) =
      some [("actions", .list items), ("open_steps", .list [])] := rfl
  have hempty : logSteps [("actions", .list items), ("open_steps", .list [])] = .ok [] := rfl
  rw [run_renderLog_of_fields hbare hlist, run_renderLog_of_fields hsaved rfl]
  cases hentries : Entry.ofRecords items with
  | error f =>
    rw [result_renderFields_of_error ((logEntries_of_actions rfl).trans hentries),
      result_renderFields_of_error ((logEntries_of_actions hactions).trans hentries)]
    exact ⟨rfl, nofun⟩
  | ok entries =>
    have hsame := renderFields_congr ((logEntries_of_actions rfl).trans hentries)
      ((logEntries_of_actions hactions).trans hentries) hempty hsteps bare saved output
    rw [hsame]
    exact ⟨rfl, fun _ => rfl⟩

/-- The entries of a session without its open steps. -/
def bareRecord (s : Session) : Value :=
  .list (s.log.map Entry.toRecord)

/-- The fields of a saved log. -/
def savedFields (s : Session) : List (String × Value) :=
  [("open_steps", .list s.openSteps), ("actions", .list (s.log.map Entry.toRecord))]

/-- A workspace with one log in two files. -/
def twoLogs (s : Session) : Workspace :=
  { workspaceWith "" with
    disk := ⟨[(["log.json"], .file (.text (Json.indented (bareRecord s)))),
      (["saved.json"], .file (.text (Json.indented (Desk.logRecord s))))]⟩ }

/-- A log in two files, one of them without its open steps: the same comes of both. -/
theorem renderLog_twoLogs :
    readLog (twoLogs manyKinds) (Path.parse "log.json") =
      .ok (.list (manyKinds.log.map Entry.toRecord)) ∧
    readLog (twoLogs manyKinds) (Path.parse "saved.json") = .ok (.dict (savedFields manyKinds)) ∧
    Value.fieldOr (savedFields manyKinds) "actions" (.list []) =
      .list (manyKinds.log.map Entry.toRecord) ∧
    logSteps (savedFields manyKinds) = .ok manyKinds.openSteps ∧
    Entry.ofRecords (manyKinds.log.map Entry.toRecord) = .ok manyKinds.log ∧
    (renderLog (Path.parse "log.json") .printed).run (twoLogs manyKinds) =
      (renderLog (Path.parse "saved.json") .printed).run (twoLogs manyKinds) := by
  have hs := wellTyped_manyKinds
  have hshort : ∀ e ∈ manyKinds.log, e.isShort = true := by
    simp only [manyKinds, List.forall_mem_cons]
    decide
  have hitems := readableItems_records hs.log hshort
  have hlist : Json.Readable (.list (manyKinds.log.map Entry.toRecord)) Json.deepest := hitems 985
  have hbare : readLog (twoLogs manyKinds) (Path.parse "log.json") =
      .ok (.list (manyKinds.log.map Entry.toRecord)) :=
    readLog_indented (Json.read_indented hlist) rfl
  have hsaved : readLog (twoLogs manyKinds) (Path.parse "saved.json") =
      .ok (.dict (savedFields manyKinds)) :=
    readLog_indented (Json.read_indented (v := .dict (savedFields manyKinds))
      ⟨by simp [savedFields], readableItems_texts hs.openSteps _, hitems 984, True.intro⟩) rfl
  have hsteps : logSteps (savedFields manyKinds) = .ok manyKinds.openSteps := rfl
  have hentries := Entry.ofRecords_toRecord hs.log
  exact ⟨hbare, hsaved, rfl, hsteps, hentries,
    (renderLog_bare.2.2 hbare hsaved rfl hsteps .printed).2 ⟨_, hentries⟩⟩

end CommandLine

end SessionRecorder
