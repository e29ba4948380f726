import SessionRecorder.Proofs.Disk
import SessionRecorder.Proofs.Procedure
import SessionRecorder.Report
import SessionRecorder.Snapshot.Store
/-!
# Files of a workspace

What the steps on a workspace do to its files. A file that stands in its directory keeps its content
until it is written again, and nothing but the steps that are told its path writes it.

## Main definitions

* `Fault.IsForeign` — a fault that comes neither from a session nor from an assertion.
* `Workspace.Grows` — a workspace with more files, in which some of them may have been written.
* `Workspace.Writes` — a workspace in which no other files came to be or were changed.
* `Workspace.Holds` — a file that stands in its directory with a content.
* `Workspace.Touches` — a step that writes to some files only.
* `Workspace.SeesFiles` — a step that comes to the same wherever the files are the same.

## Main results

* `Workspace.Holds.grows` — a file that is not written keeps its content.
* `Snapshot.touches_store` — storing a screenshot writes to its own path only.
* `Report.touches_attachSession` — attaching files to a report writes to none.
-/

namespace SessionRecorder

/-- A fault that comes neither from a session nor from an assertion. -/
def Fault.IsForeign (f : Fault) : Prop :=
  f.family ≠ .session ∧ f.family ≠ .assertion

instance (f : Fault) : Decidable f.IsForeign :=
  inferInstanceAs (Decidable (_ ∧ _))

namespace Workspace

variable {w w' w'' : Workspace} {path : Path} {paths written : List Path} {content : Blob}

/-! ## Growing -/

/-- A workspace that starts its paths from the same place, on a disk that has grown and on which
none but some files were written. -/
structure Grows (written : List Path) (w w' : Workspace) : Prop where
  here : w'.here = w.here
  disk : w.disk.Grows (written.map (·.location w.here)) w'.disk

/-- A workspace that starts its paths from the same place, on a disk on which none but some files
were written or came to be. -/
structure Writes (written : List Path) (w w' : Workspace) : Prop where
  here : w'.here = w.here
  disk : w.disk.Writes (written.map (·.location w.here)) w'.disk

/-- Two workspaces have the same files, whatever else is different about them. -/
structure SameFiles (w w' : Workspace) : Prop where
  disk : w'.disk = w.disk
  here : w'.here = w.here

/-- A workspace has the same files as itself. -/
@[refl] lemma SameFiles.refl (w : Workspace) : w.SameFiles w := ⟨rfl, rfl⟩

/-- A workspace grows into one with the same files. -/
lemma SameFiles.grows (h : w.SameFiles w') : w.Grows written w' :=
  ⟨h.here, h.disk ▸ .refl _ _⟩

/-- A workspace in which some files were written has grown. -/
lemma Writes.grows (h : w.Writes written w') : w.Grows written w' :=
  ⟨h.here, h.disk.toGrows⟩

/-- In a workspace with the same files none was written. -/
lemma SameFiles.writes (h : w.SameFiles w') : w.Writes written w' :=
  ⟨h.here, h.disk ▸ .refl _ _⟩

/-- More is written to the same files. -/
lemma Writes.trans (h : w.Writes written w') (h' : w'.Writes written w'') :
    w.Writes written w'' :=
  ⟨h'.here.trans h.here, h.disk.trans (h.here ▸ h'.disk)⟩

/-- More files may have been written. -/
lemma Writes.mono {more : List Path} (h : w.Writes written w') (hw : written ⊆ more) :
    w.Writes more w' :=
  ⟨h.here, h.disk.mono (List.map_subset _ hw)⟩

/-- A workspace grows on. -/
lemma Grows.trans (h : w.Grows written w') (h' : w'.Grows written w'') : w.Grows written w'' :=
  ⟨h'.here.trans h.here, h.disk.trans (h.here ▸ h'.disk)⟩

/-- More files may have been written. -/
lemma Grows.mono {more : List Path} (h : w.Grows written w') (hw : written ⊆ more) :
    w.Grows more w' :=
  ⟨h.here, h.disk.mono (List.map_subset _ hw)⟩

/-! ## Contents -/

/-- A file stands in its directory and has a content. -/
structure Holds (w : Workspace) (path : Path) (content : Blob) : Prop where
  directory : w.disk.isDirectory w.here path.parent = true
  content : w.read path = .ok content

/-- A path is read if it has no character that no name can hold, and leads to a file. -/
lemma read_eq_ok_iff : w.read path = .ok content ↔
    hasNul path = false ∧ w.disk.read w.here path = .ok content := by
  unfold read
  cases hasNul path with
  | true => simp
  | false => cases w.disk.read w.here path <;> simp

/-- What can be read is there. -/
lemma pathExists_of_read (h : w.read path = .ok content) : w.pathExists path = .ok true := by
  obtain ⟨hnul, hread⟩ := read_eq_ok_iff.1 h
  obtain ⟨l, hfollow, hnode⟩ := Disk.read_eq_ok_iff.1 hread
  simp [pathExists, hnul, Disk.find, hfollow, hnode]

/-- A file that is not written is read as before. -/
lemma Grows.read (hg : w.Grows written w') (h : w.read path = .ok content)
    (hw : ∀ q ∈ written, q.location w.here ≠ path.location w.here) :
    w'.read path = .ok content := by
  obtain ⟨hnul, hread⟩ := read_eq_ok_iff.1 h
  refine read_eq_ok_iff.2 ⟨hnul, ?_⟩
  rw [hg.here]
  refine hg.disk.read hread fun hmem => ?_
  obtain ⟨q, hq, heq⟩ := List.mem_map.1 hmem
  exact hw q hq heq

/-- A file that is not written keeps its content. -/
lemma Holds.grows (h : w.Holds path content) (hg : w.Grows written w')
    (hw : ∀ q ∈ written, q.location w.here ≠ path.location w.here) : w'.Holds path content :=
  ⟨hg.here ▸ hg.disk.isDirectory h.directory, hg.read h.content hw⟩

/-- A file that stands in its directory still does, perhaps with another content. -/
lemma Holds.exists_grows (h : w.Holds path content) (hg : w.Grows written w') :
    ∃ content', w'.Holds path content' := by
  obtain ⟨hnul, hread⟩ := read_eq_ok_iff.1 h.content
  obtain ⟨content', hread'⟩ := hg.disk.exists_read hread
  exact ⟨content', hg.here ▸ hg.disk.isDirectory h.directory,
    read_eq_ok_iff.2 ⟨hnul, hg.here ▸ hread'⟩⟩

/-- The directory of a path has no character that the path does not have. -/
lemma hasNul_parent (h : hasNul path = false) : hasNul path.parent = false := by
  unfold hasNul at h ⊢
  rw [List.any_eq_false] at h ⊢
  exact fun part hpart => h part (List.dropLast_subset _ hpart)

/-! ## Steps that write to some files -/

/-- A step that writes to some files only, and does not fail as sessions and assertions do. -/
def Touches {α : Type} (written : List Path) (p : Procedure Workspace α) : Prop :=
  ∀ w, p.Yields w fun r w' => w.Writes written w' ∧ ∀ f, r = .error f → f.IsForeign

section

variable {α β : Type} {p : Procedure Workspace α}

/-- A step may be taken to write more files than it does. -/
lemma Touches.mono {more : List Path} (h : Touches written p) (hw : written ⊆ more) :
    Touches more p :=
  fun w => (h w).mono fun _ _ h => ⟨h.1.mono hw, h.2⟩

/-- A value writes nothing. -/
lemma touches_pure (a : α) : Touches written (pure a : Procedure Workspace α) :=
  fun w => ⟨(SameFiles.refl w).writes, fun _ h => by cases h⟩

/-- A fault writes nothing. -/
lemma touches_throw {f : Fault} (hf : f.IsForeign) :
    Touches written (throw f : Procedure Workspace α) :=
  fun w => ⟨(SameFiles.refl w).writes, fun _ h => by cases h; exact hf⟩

/-- What either gives a value or fails writes nothing. -/
lemma touches_ofExcept {r : Except Fault α} (hr : ∀ f, r = .error f → f.IsForeign) :
    Touches written (Procedure.ofExcept r) :=
  fun w => ⟨(SameFiles.refl w).writes, hr⟩

/-- One step after another. -/
lemma Touches.bind {f : α → Procedure Workspace β} (hp : Touches written p)
    (hf : ∀ a, Touches written (f a)) : Touches written (p >>= f) :=
  fun w => (hp w).bind (fun a t h => (hf a t).mono fun _ _ h' => ⟨h.1.trans h'.1, h'.2⟩)
    fun _ _ h => ⟨h.1, fun f hf => h.2 f (Except.error.inj hf ▸ rfl)⟩

/-- A step that looks at the workspace first. -/
lemma touches_get_bind {f : Workspace → Procedure Workspace β} (hf : ∀ w, Touches written (f w)) :
    Touches written (get >>= f) :=
  fun w => Procedure.yields_get_bind.2 (hf w w)

/-- A step that looks at the faults of another one. -/
lemma touches_attempt_bind {g : Except Fault α → Procedure Workspace β} (hp : Touches written p)
    (hok : ∀ a, Touches written (g (.ok a)))
    (herror : ∀ f, f.IsForeign → Touches written (g (.error f))) :
    Touches written (p.attempt >>= g) := by
  refine fun w => (hp w).attempt_bind fun r t ⟨hwrites, hforeign⟩ => ?_
  have hrest : Touches written (g r) := by
    cases r with
    | ok a => exact hok a
    | error f => exact herror f (hforeign f rfl)
  exact (hrest t).mono fun _ _ h' => ⟨hwrites.trans h'.1, h'.2⟩

end

/-! ## Single steps -/

/-- Making directories writes no file, and without a fault the directory is there. -/
lemma yields_makeDirectories : (makeDirectories path).Yields w fun r w' =>
    (w.Writes [] w' ∧ ∀ f, r = .error f → f.IsForeign) ∧
      (r = .ok () → w'.disk.isDirectory w'.here path = true) := by
  have hwrites := Disk.writes_makeDirectories w.disk w.here path
  have hthere := @Disk.isDirectory_makeDirectories w.disk w.here path
  unfold makeDirectories Procedure.Yields
  simp only [ExceptT.run_mk]
  split_ifs
  · exact ⟨⟨(SameFiles.refl w).writes, by rintro f ⟨⟩; decide⟩, fun h => by cases h⟩
  · split
    next d h =>
      rw [h] at hwrites hthere
      exact ⟨⟨⟨rfl, hwrites⟩, fun _ h => by cases h⟩, fun _ => hthere rfl⟩
    next d refusal h =>
      rw [h] at hwrites
      exact ⟨⟨⟨rfl, hwrites⟩, by rintro f ⟨⟩; exact ⟨nofun, nofun⟩⟩, fun h => by cases h⟩

/-- A content that cannot be written is refused as the storage does it, or for the form of its
path. -/
lemma isForeign_of_written {f : Fault} (h : Workspace.written path content w = .error f) :
    f.IsForeign := by
  unfold Workspace.written at h
  split at h
  next =>
    obtain rfl := Except.error.inj h
    decide
  next =>
    split at h
    next => cases h
    next =>
      obtain rfl := Except.error.inj h
      exact ⟨nofun, nofun⟩

/-- A path that cannot be looked at is refused as the storage does it. -/
lemma isForeign_of_pathExists {f : Fault} (h : w.pathExists path = .error f) : f.IsForeign := by
  unfold pathExists at h
  split at h
  next => cases h
  next =>
    split at h <;> cases h
    exact ⟨nofun, nofun⟩

/-- A file that cannot be read is refused in the same ways as one that cannot be written. -/
lemma isForeign_of_read {f : Fault} (h : w.read path = .error f) : f.IsForeign := by
  unfold Workspace.read at h
  split at h
  next =>
    obtain rfl := Except.error.inj h
    decide
  next =>
    split at h <;> cases h
    exact ⟨nofun, nofun⟩

/-- Writing a file writes nothing else, and without a fault the file can be read. -/
lemma yields_write : (write path content).Yields w fun r w' =>
    (w.Writes [path] w' ∧ ∀ f, r = .error f → f.IsForeign) ∧
      (r = .ok () → w'.read path = .ok content) := by
  unfold write changeDisk Procedure.Yields
  simp only [ExceptT.run_mk]
  cases hwritten : Workspace.written path content w with
  | error f =>
    refine ⟨⟨(SameFiles.refl w).writes, ?_⟩, fun h => by cases h⟩
    rintro f ⟨⟩
    exact isForeign_of_written hwritten
  | ok d =>
    unfold Workspace.written at hwritten
    split at hwritten
    next => cases hwritten
    next hnul =>
      split at hwritten
      next hw =>
        obtain rfl := Except.ok.inj hwritten
        obtain ⟨hwrites, hread⟩ := Disk.writes_write hw
        exact ⟨⟨⟨rfl, hwrites⟩, fun _ h => by cases h⟩,
          fun _ => read_eq_ok_iff.2 ⟨by simpa using hnul, hread⟩⟩
      next => cases hwritten

/-- Making directories writes no file. -/
lemma touches_makeDirectories (p : Path) : Touches written (makeDirectories p) :=
  fun _ => yields_makeDirectories.mono fun _ _ h => ⟨h.1.1.mono (by simp), h.1.2⟩

/-- Writing a file writes nothing else. -/
lemma touches_write (p : Path) (content : Blob) : Touches [p] (write p content) :=
  fun _ => yields_write.mono fun _ _ h => h.1

/-- Notes are no files. -/
lemma touches_note (n : Note) : Touches written (note n) :=
  fun _ => ⟨SameFiles.writes ⟨rfl, rfl⟩, fun _ h => by cases h⟩

/-- Commands leave the files as they are. -/
lemma touches_run (argv : List String) : Touches written (run argv) := by
  intro w
  unfold run Procedure.Yields
  simp only [ExceptT.run_mk]
  cases hfault : commandFault w.commandResult argv with
  | none => exact ⟨SameFiles.writes ⟨rfl, rfl⟩, fun _ h => by cases h⟩
  | some f =>
    refine ⟨SameFiles.writes ⟨rfl, rfl⟩, ?_⟩
    rintro f ⟨⟩
    cases hresult : w.commandResult <;> rw [hresult] at hfault <;> cases hfault <;>
      exact ⟨nofun, nofun⟩

/-- Attachments are no files. -/
lemma touches_attach (a : Attachment) : Touches written (attach a) := by
  intro w
  unfold attach Procedure.Yields
  simp only [ExceptT.run_mk]
  split_ifs
  · exact ⟨SameFiles.writes ⟨rfl, rfl⟩, fun _ h => by cases h⟩
  · exact ⟨(SameFiles.refl w).writes, by rintro f ⟨⟩; decide⟩

/-! ## What steps look at -/

/-- A step that comes to the same in all workspaces with the same files. -/
def SeesFiles {α : Type} (p : Procedure Workspace α) : Prop :=
  ∀ w w' : Workspace, w.SameFiles w' →
    (p.run w').1 = (p.run w).1 ∧ (p.run w).2.SameFiles (p.run w').2

/-- Making directories looks at the files alone. -/
lemma seesFiles_makeDirectories (p : Path) : SeesFiles (makeDirectories p) := by
  rintro ⟨disk, here, _, _, _, _, _, _, _⟩ ⟨disk', here', _, _, _, _, _, _, _⟩ ⟨hd, hh⟩
  obtain rfl : disk' = disk := hd
  obtain rfl : here' = here := hh
  unfold makeDirectories
  simp only [ExceptT.run_mk]
  split_ifs
  · exact ⟨rfl, ⟨rfl, rfl⟩⟩
  · rcases disk'.makeDirectories here' p with ⟨d, refusal | refusal⟩ <;> exact ⟨rfl, ⟨rfl, rfl⟩⟩

/-- Writing a file looks at the files alone. -/
lemma seesFiles_write (p : Path) (content : Blob) : SeesFiles (write p content) := by
  rintro ⟨disk, here, _, _, _, _, _, _, _⟩ ⟨disk', here', _, _, _, _, _, _, _⟩ ⟨hd, hh⟩
  obtain rfl : disk' = disk := hd
  obtain rfl : here' = here := hh
  unfold write changeDisk Workspace.written
  simp only [ExceptT.run_mk]
  split_ifs
  · exact ⟨rfl, ⟨rfl, rfl⟩⟩
  · cases disk'.write here' p content <;> exact ⟨rfl, ⟨rfl, rfl⟩⟩

/-- One such step after another. -/
lemma SeesFiles.bind {α β : Type} {p : Procedure Workspace α} {f : α → Procedure Workspace β}
    (hp : SeesFiles p) (hf : ∀ a, SeesFiles (f a)) : SeesFiles (p >>= f) := by
  intro w w' h
  obtain ⟨⟨r, t⟩, hrun⟩ : ∃ o, p.run w = o := ⟨_, rfl⟩
  obtain ⟨⟨r', t'⟩, hrun'⟩ : ∃ o, p.run w' = o := ⟨_, rfl⟩
  obtain ⟨hr, ht⟩ := hp w w' h
  rw [hrun, hrun'] at hr ht
  obtain rfl : r' = r := hr
  cases r' with
  | ok a =>
    rw [Procedure.run_bind_ok hrun, Procedure.run_bind_ok hrun']
    exact hf a t t' ht
  | error e =>
    rw [Procedure.run_bind_error hrun, Procedure.run_bind_error hrun']
    exact ⟨rfl, ht⟩

end Workspace

/-! ## Screenshots -/

namespace Snapshot

open Workspace

variable {written : List Path} {path : Path} {directory : Path} {name image : Value}

/-- Octets that hold no picture are refused for what they are. -/
lemma isForeign_of_ofBlob {b : Blob} {f : Fault} (h : Picture.ofBlob b = .error f) :
    f.IsForeign := by
  have hrefusal : ∀ r, (Picture.refusalFault r).IsForeign := by
    intro r
    cases r <;> exact ⟨nofun, nofun⟩
  have hundecodable : ∀ octets, (Picture.undecodable octets).IsForeign := by
    intro octets
    unfold Picture.undecodable
    split
    next => exact hrefusal _
    next =>
      dsimp only
      split
      next => exact ⟨nofun, nofun⟩
      next => exact hrefusal _
  cases b <;> cases h <;> exact hundecodable _

/-- Saving a picture writes its file only. -/
lemma touches_save (p : Picture) (path : Path) : Touches [path] (p.save path) := by
  unfold Picture.save
  split
  next =>
    refine touches_get_bind fun w => Touches.bind (touches_ofExcept fun f hf => ?_) fun _ =>
      touches_throw ⟨nofun, nofun⟩
    cases hwritten : Workspace.written path p.toBlob w with
    | ok d =>
      rw [hwritten] at hf
      cases hf
    | error e =>
      rw [hwritten] at hf
      obtain rfl := Except.error.inj hf
      exact isForeign_of_written hwritten
  next => exact touches_write path _

/-- Storing a picture writes its file only. -/
lemma touches_storePicture : Touches [path] (storePicture path image) := by
  refine Touches.bind (touches_ofExcept fun f hf => ?_) fun content =>
    Touches.bind (touches_ofExcept fun f hf => isForeign_of_ofBlob hf) fun p => touches_save p path
  cases image <;> cases hf <;> exact ⟨nofun, nofun⟩

/-- Storing octets writes their file only. -/
lemma touches_storeOctets : Touches [path] (storeOctets path image) := by
  refine Touches.bind (touches_ofExcept fun f hf => ?_) fun content => touches_write path content
  cases image <;> cases hf <;> exact ⟨nofun, nofun⟩

/-- A step whose refusal is noted writes what it writes. -/
lemma touches_noting {p : Procedure Workspace Unit} (hp : Touches written p) (n : Fault → Note) :
    Touches written (noting p n) := by
  refine touches_attempt_bind hp (fun _ => touches_pure true) fun f hf => ?_
  dsimp only
  split
  next => exact (touches_note _).bind fun _ => touches_pure false
  next => exact touches_throw hf

/-- **Storing a screenshot writes to its own path only.** -/
lemma touches_store (hw : ∀ path, pathOf directory name = .ok path → path ∈ written) :
    Touches written (store directory name image) := by
  unfold store
  cases hpath : pathOf directory name with
  | error f =>
    have hforeign : f.IsForeign := by
      cases name <;> cases hpath <;> exact ⟨nofun, nofun⟩
    intro w
    rw [Procedure.yields_ofExcept_error_bind]
    exact ⟨(SameFiles.refl w).writes, by rintro e ⟨⟩; exact hforeign⟩
  | ok path =>
    have hmem : [path] ⊆ written := by simpa using hw path hpath
    intro w
    rw [Procedure.yields_ofExcept_ok_bind]
    refine Touches.bind (touches_noting (touches_makeDirectories _) _) (fun made => ?_) w
    split
    next => exact touches_pure none
    next =>
      refine ((touches_noting touches_storePicture _).mono hmem).bind fun decoded => ?_
      split
      next => exact touches_pure (some path)
      next =>
        exact ((touches_noting touches_storeOctets _).mono hmem).bind fun _ => touches_pure _

end Snapshot

/-! ## Reports -/

namespace Report

open Workspace

variable {written : List Path}

/-- Attaching a file to a report writes no file. -/
lemma touches_attachFile (name : Value) (path : Path) (type : Value) :
    Touches written (attachFile name path type) := by
  refine touches_get_bind fun w =>
    Touches.bind (touches_ofExcept fun f => isForeign_of_pathExists) fun there => ?_
  split
  next =>
    have hattach : Touches written (attachContent name path (type.orElse defaultType)) :=
      touches_get_bind fun w => Touches.bind (touches_ofExcept fun f => isForeign_of_read) fun _ =>
        touches_attach _
    exact touches_attempt_bind hattach (fun _ => touches_pure _) fun _ _ => touches_note _
  next => exact touches_pure _

/-- Attaching files to a report writes none. -/
lemma touches_attachFiles (type : Value) (paths : List Path) :
    Touches written (attachFiles type paths) := by
  induction paths with
  | nil => exact touches_pure _
  | cons path rest ih => exact (touches_attachFile _ _ _).bind fun _ => ih

/-- **Attaching the files of a session to a report writes none.** -/
lemma touches_attachSession (script : Path) (snapshots : List Path) :
    Touches written (attachSession script snapshots) :=
  (touches_attachFile _ _ _).bind fun _ => touches_attachFiles _ _

end Report

end SessionRecorder
