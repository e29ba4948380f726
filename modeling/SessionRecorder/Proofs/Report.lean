import SessionRecorder.Proofs.Files
import SessionRecorder.Proofs.Writer.Frame
/-!
# What a report gets

A file is attached to a report with what it holds, and one that cannot be read is passed over. So a
report that takes attachments gets the files of a session one by one, and nothing that goes wrong on
the way is a fault, as long as the paths are no longer than the paths of files may be.

## Main definitions

* `Path.Fits` — a path that is short enough for a file.
* `Report.attachment?`, `Report.attachments` — what a report gets of a file, and of a session.
* `Report.Attaches` — attachments are made, if the report takes any.

## Main results

* `Report.yields_attachSession` — a report gets the files of a session, without a fault.
-/

namespace SessionRecorder

/-! ## Short paths -/

/-- A path that is no longer than the path of a file may be, and neither is any of its parts. -/
structure Path.Fits (p : Path) : Prop where
  whole : p.text.utf8ByteSize < Disk.pathLimit
  parts : ∀ part ∈ p.parts, part.utf8ByteSize ≤ Disk.partLimit

namespace Disk

variable {d : Disk} {here l l' : Location} {p : Path} {parts : List String}

/-- Parts that are followed to their end are short. -/
lemma le_partLimit_of_walk (h : d.walk l parts = .ok l') :
    ∀ part ∈ parts, part.utf8ByteSize ≤ partLimit := by
  induction parts generalizing l with
  | nil => nofun
  | cons part rest ih =>
    rw [List.forall_mem_cons]
    rw [walk] at h
    split at h
    next hup =>
      have hshort : "..".utf8ByteSize ≤ partLimit := by decide
      exact ⟨beq_iff_eq.1 hup ▸ hshort, ih h⟩
    next =>
      split at h
      next => cases h
      next hpart =>
        refine ⟨Nat.not_lt.1 hpart, ?_⟩
        dsimp only at h
        split at h
        next hlast =>
          rw [List.isEmpty_iff.1 hlast]
          nofun
        next =>
          split at h
          next => exact ih h
          next => cases h
          next => cases h

/-- Short parts are not refused for their length. -/
lemma walk_ne_nameTooLong (h : ∀ part ∈ parts, part.utf8ByteSize ≤ partLimit) :
    d.walk l parts ≠ .error .nameTooLong := by
  induction parts generalizing l with
  | nil => simp [walk]
  | cons part rest ih =>
    rw [List.forall_mem_cons] at h
    rw [walk]
    split
    next => exact ih h.2
    next =>
      rw [if_neg (Nat.not_lt.2 h.1)]
      dsimp only
      split
      next => simp
      next =>
        split
        next => exact ih h.2
        next => simp
        next => simp

/-- A path that leads somewhere is short. -/
lemma fits_of_follow (h : d.follow here p = .ok l) : p.Fits := by
  unfold follow at h
  split at h
  next => cases h
  next hwhole => exact ⟨Nat.not_le.1 hwhole, le_partLimit_of_walk h⟩

/-- A short path is not refused for its length. -/
lemma find_ne_nameTooLong (h : p.Fits) : d.find here p ≠ .error .nameTooLong := by
  have hfollow : d.follow here p ≠ .error .nameTooLong := by
    rw [follow, if_neg (Nat.not_le.2 h.whole)]
    exact walk_ne_nameTooLong h.parts
  intro hfind
  refine hfollow ?_
  unfold find at hfind
  split at hfind
  next hc =>
    obtain rfl := Except.error.inj hfind
    exact hc
  next => split at hfind <;> cases hfind

end Disk

namespace Workspace

variable {w : Workspace} {path : Path} {content : Blob}

/-- A file that can be read has a short path. -/
lemma fits_of_read (h : w.read path = .ok content) : path.Fits := by
  obtain ⟨l, hfollow, -⟩ := Disk.read_eq_ok_iff.1 (read_eq_ok_iff.1 h).2
  exact Disk.fits_of_follow hfollow

/-- Whether something stands at a short path can be told. -/
lemma exists_pathExists (h : path.Fits) (w : Workspace) :
    ∃ there, w.pathExists path = .ok there := by
  have hfind := @Disk.find_ne_nameTooLong w.disk w.here path h
  unfold pathExists
  split
  next => exact ⟨_, rfl⟩
  next =>
    split
    next => exact ⟨_, rfl⟩
    next hlong => exact absurd hlong hfind
    next => exact ⟨_, rfl⟩

end Workspace

namespace Report

open Workspace

variable {w w' w'' : Workspace} {made made' : List Attachment} {path script : Path}
  {paths snapshots : List Path}

/-! ## Attachments -/

/-- What a report gets of a file, if it can be read. -/
def attachment? (w : Workspace) (type : String) (path : Path) : Option Attachment :=
  match w.read path with
  | .ok content => some ⟨.str path.name, .str type, content⟩
  | .error _ => none

/-- What a report gets of a session: the script and the screenshots, as far as they can be read. -/
def attachments (w : Workspace) (script : Path) (snapshots : List Path) : List Attachment :=
  (attachment? w "text/plain" script).toList ++ snapshots.filterMap (attachment? w "image/png")

/-- Attachments are made one after the other, if the report takes any. Nothing happens to the
files. -/
structure Attaches (made : List Attachment) (w w' : Workspace) : Prop where
  files : w.SameFiles w'
  reportOpen : w'.reportOpen = w.reportOpen
  attached : w'.attached = w.attached ++ if w.reportOpen then made else []

/-- Nothing is attached. -/
lemma Attaches.refl (w : Workspace) : Attaches [] w w :=
  ⟨.refl w, rfl, by simp⟩

/-- More is attached. -/
lemma Attaches.trans (h : Attaches made w w') (h' : Attaches made' w' w'') :
    Attaches (made ++ made') w w'' := by
  refine ⟨⟨h'.files.disk.trans h.files.disk, h'.files.here.trans h.files.here⟩,
    h'.reportOpen.trans h.reportOpen, ?_⟩
  rw [h'.attached, h.attached, h.reportOpen, List.append_assoc]
  cases w.reportOpen <;> rfl

/-- A file is looked at in the same way where the files are the same. -/
lemma attachment?_of_sameFiles (h : w.SameFiles w') (type : String) :
    attachment? w' type = attachment? w type := by
  funext path
  unfold attachment? Workspace.read
  rw [h.disk, h.here]

/-- So are the files of a session. -/
lemma attachments_of_sameFiles (h : w.SameFiles w') :
    attachments w' script snapshots = attachments w script snapshots := by
  rw [attachments, attachments, attachment?_of_sameFiles h, attachment?_of_sameFiles h]

/-- What is noted is not attached. -/
lemma yields_note (n : Note) (w : Workspace) :
    (note n).Yields w fun r w' => r = .ok () ∧ Attaches [] w w' :=
  ⟨rfl, ⟨rfl, rfl⟩, rfl, (by simp : w.attached = w.attached ++ _)⟩

/-- A file that can be read is attached, unless the report takes no attachment. -/
lemma yields_attach (a : Attachment) (w : Workspace) : (attach a).Yields w fun _ w' =>
    Attaches [a] w w' := by
  unfold attach Procedure.Yields
  rw [ExceptT.run_mk]
  cases hopen : w.reportOpen with
  | true => exact ⟨⟨rfl, rfl⟩, hopen.symm, by simp [hopen]⟩
  | false => exact ⟨⟨rfl, rfl⟩, rfl, by simp [hopen]⟩

/-- A file is read and attached, or a fault comes of it, and nothing else happens. -/
lemma yields_attachContent (type : String) (path : Path) (w : Workspace) :
    (attachContent (.str path.name) path (.str type)).Yields w fun _ w' =>
      Attaches (attachment? w type path).toList w w' := by
  unfold attachContent attachment?
  rw [Procedure.yields_get_bind]
  cases w.read path with
  | ok content => exact yields_attach _ w
  | error f => exact .refl w

/-- **A report gets a file**, if it can be read, and nothing that goes wrong is a fault. -/
lemma yields_attachFile (h : path.Fits) {type : String} (htype : (Value.str type).truthy = true)
    (w : Workspace) : (attachFile (.str path.name) path (.str type)).Yields w fun r w' =>
      r = .ok () ∧ Attaches (attachment? w type path).toList w w' := by
  obtain ⟨there, hthere⟩ := exists_pathExists h w
  unfold attachFile
  rw [Procedure.yields_get_bind, hthere, Procedure.yields_ofExcept_ok_bind, Value.orElse,
    if_pos htype]
  cases there with
  | true =>
    refine (yields_attachContent type path w).attempt_bind fun r t ht => ?_
    cases r with
    | ok u => exact ⟨rfl, ht⟩
    | error f =>
      refine (yields_note _ t).mono fun r w' ⟨hr, hw'⟩ => ⟨hr, ?_⟩
      rw [← List.append_nil (attachment? w type path).toList]
      exact ht.trans hw'
  | false =>
    cases hread : w.read path with
    | ok content => cases (pathExists_of_read hread).symm.trans hthere
    | error f =>
      rw [attachment?, hread]
      exact ⟨rfl, .refl w⟩

/-- A report gets files in order. -/
lemma yields_attachFiles (h : ∀ path ∈ paths, path.Fits) {type : String}
    (htype : (Value.str type).truthy = true) (w : Workspace) :
    (attachFiles (.str type) paths).Yields w fun r w' =>
      r = .ok () ∧ Attaches (paths.filterMap (attachment? w type)) w w' := by
  induction paths generalizing w with
  | nil => exact ⟨rfl, .refl w⟩
  | cons path rest ih =>
    rw [List.forall_mem_cons] at h
    refine (yields_attachFile h.1 htype w).bind (fun _ t ht => ?_) fun _ _ h => nomatch h.1
    refine (ih h.2 t).mono fun r w' ⟨hr, hw'⟩ => ⟨hr, ?_⟩
    rw [attachment?_of_sameFiles ht.2.files] at hw'
    have hmade : (path :: rest).filterMap (attachment? w type) =
        (attachment? w type path).toList ++ rest.filterMap (attachment? w type) := by
      rw [List.filterMap_cons]
      cases attachment? w type path <;> rfl
    rw [hmade]
    exact ht.2.trans hw'

/-- **A report gets the files of a session**, without a fault. -/
lemma yields_attachSession (hscript : script.Fits) (h : ∀ path ∈ snapshots, path.Fits)
    (w : Workspace) : (attachSession script snapshots).Yields w fun r w' =>
      r = .ok () ∧ Attaches (attachments w script snapshots) w w' := by
  refine (yields_attachFile hscript (by decide) w).bind (fun _ t ht => ?_) fun _ _ h => nomatch h.1
  refine (yields_attachFiles h (by decide) t).mono fun r w' ⟨hr, hw'⟩ => ⟨hr, ?_⟩
  rw [attachment?_of_sameFiles ht.2.files] at hw'
  exact ht.2.trans hw'

end Report

/-! ## Writing -/

namespace Workspace

/-- A workspace with the same report. -/
structure SameReport (w w' : Workspace) : Prop where
  reportOpen : w'.reportOpen = w.reportOpen
  attached : w'.attached = w.attached

instance : Std.Refl SameReport := ⟨fun _ => ⟨rfl, rfl⟩⟩

instance : IsTrans Workspace SameReport where
  trans _ _ _ h h' := ⟨h'.reportOpen.trans h.reportOpen, h'.attached.trans h.attached⟩

/-- Making directories leaves the report as it is. -/
lemma keeps_sameReport_makeDirectories (path : Path) :
    Procedure.Keeps SameReport (makeDirectories path) := by
  intro w
  unfold makeDirectories Procedure.Yields
  rw [ExceptT.run_mk]
  split
  next => exact refl_of SameReport w
  next => split <;> exact ⟨rfl, rfl⟩

/-- Writing a file leaves the report as it is. -/
lemma keeps_sameReport_write (path : Path) (content : Blob) :
    Procedure.Keeps SameReport (write path content) := by
  intro w
  unfold write changeDisk Procedure.Yields
  rw [ExceptT.run_mk]
  split <;> exact ⟨rfl, rfl⟩

/-- What is noted leaves the report as it is. -/
lemma keeps_sameReport_note (n : Note) : Procedure.Keeps SameReport (note n) :=
  fun _ => ⟨rfl, rfl⟩

/-- Running a command leaves the report as it is. -/
lemma keeps_sameReport_run (argv : List String) : Procedure.Keeps SameReport (run argv) := by
  intro w
  unfold run Procedure.Yields
  rw [ExceptT.run_mk]
  dsimp only
  split <;> exact ⟨rfl, rfl⟩

end Workspace

namespace Desk

open Workspace

/-- A desk with the same report. -/
def SameReport (d d' : Desk) : Prop :=
  d.workspace.SameReport d'.workspace

instance : Std.Refl SameReport := ⟨fun d => refl_of Workspace.SameReport d.workspace⟩

instance : IsTrans Desk SameReport where
  trans _ _ _ h h' := trans_of Workspace.SameReport h h'

variable {α : Type}

/-- A step on the workspace leaves the report of a desk as it is if it does so on its own. -/
lemma keeps_sameReport_onWorkspace {p : Procedure Workspace α}
    (hp : Procedure.Keeps Workspace.SameReport p) : Procedure.Keeps SameReport (onWorkspace p) :=
  hp.within fun _ _ h => h

/-- A change of the writer leaves the report as it is. -/
lemma keeps_sameReport_changeWriter (f : Writer → Writer) :
    Procedure.Keeps SameReport (changeWriter f) :=
  Procedure.keeps_modify fun d => refl_of Workspace.SameReport d.workspace

/-- Writing a text, however often, leaves the report as it is. -/
lemma keeps_sameReport_writeText (path : Path) (text : String) (more attempt : ℕ) :
    Procedure.Keeps Workspace.SameReport (writeText path text more attempt) := by
  have honce : Procedure.Keeps Workspace.SameReport (writeOnce path text) :=
    (keeps_sameReport_makeDirectories _).bind fun _ => keeps_sameReport_write _ _
  induction more generalizing attempt with
  | zero =>
    rw [writeText]
    refine honce.attempt.bind fun r => ?_
    cases r with
    | ok u => exact Procedure.keeps_pure _
    | error f =>
      dsimp only
      split
      next => exact (keeps_sameReport_note _).bind fun _ => Procedure.keeps_pure _
      next => exact Procedure.keeps_throw _
  | succ more ih =>
    rw [writeText]
    refine honce.attempt.bind fun r => ?_
    cases r with
    | ok u => exact Procedure.keeps_pure _
    | error f =>
      dsimp only
      split
      next => exact (keeps_sameReport_note _).bind fun _ => ih _
      next => exact Procedure.keeps_throw _

/-- **An end leaves the report as it is.** -/
lemma keeps_sameReport_close : Procedure.Keeps SameReport close := by
  have hnote (n : Note) : Procedure.Keeps SameReport (onWorkspace (note n)) :=
    keeps_sameReport_onWorkspace (keeps_sameReport_note n)
  have hwritten : Procedure.Keeps SameReport writeAll :=
    keeps_writeAll_of (fun d _ => refl_of Workspace.SameReport d.workspace) hnote fun _ _ =>
      keeps_sameReport_onWorkspace (keeps_sameReport_writeText _ _ _ _)
  have hformatted : Procedure.Keeps SameReport runFormatter :=
    keeps_runFormatter_of hnote fun argv => keeps_sameReport_onWorkspace (keeps_sameReport_run argv)
  exact (keeps_sameReport_changeWriter _).bind fun _ =>
    ((keeps_sameReport_changeWriter _).bind fun _ => hwritten).bind fun _ => hformatted

end Desk

end SessionRecorder
