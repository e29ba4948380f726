import SessionRecorder.Proofs.Files
import SessionRecorder.Proofs.Text.Lines
/-!
# Screenshots that are stored

The names of screenshots hold safe characters only, so the storage can refuse a screenshot but
nothing else can go wrong with it, unless its octets are a picture that cannot be told for what it
is.

## Main definitions

* `Picture.Storable` — octets that are stored as a picture or as they are.

## Main results

* `Snapshot.isSafe_of_mem_safeName`, `Snapshot.isSafe_of_mem_automaticName` — the characters of
  names are safe.
* `Snapshot.yields_store` — a storable screenshot with a safe name is stored, or refused by the
  storage, without a fault.
-/

namespace SessionRecorder

namespace Snapshot

/-! ## Names -/

/-- Only safe characters are left of a name. -/
lemma isSafe_of_mem_flattenFrom {c : Char} {inRun : Bool} {cs : List Char}
    (h : c ∈ flattenFrom inRun cs) : isSafe c = true := by
  induction cs generalizing inRun with
  | nil => cases h
  | cons d cs ih =>
    rw [flattenFrom] at h
    split at h
    next hd =>
      rcases List.mem_cons.1 h with rfl | h
      · exact hd
      · exact ih h
    next =>
      split at h
      next => exact ih h
      next =>
        rcases List.mem_cons.1 h with rfl | h
        · decide
        · exact ih h

/-- The characters of a name that is made safe are safe. -/
lemma isSafe_of_mem_safeName {c : Char} {name : String} (h : c ∈ (safeName name).toList) :
    isSafe c = true := by
  have hbase : ∀ c ∈ baseName name, isSafe c = true := fun c hc =>
    isSafe_of_mem_flattenFrom ((List.dropWhile_sublist _).subset (Text.dropEndWhile_subset _ _ hc))
  have hending : ∀ c ∈ ".png".toList, isSafe c = true := List.all_eq_true.1 (by decide)
  rw [safeName] at h
  split at h
  next =>
    have hdefault : ∀ c ∈ "snapshot.png".toList, isSafe c = true := List.all_eq_true.1 (by decide)
    exact hdefault c h
  next =>
    split at h
    next => exact hbase c (by simpa using h)
    next =>
      rw [String.toList_ofList, List.mem_append] at h
      exact h.elim (hbase c) (hending c)

/-- The characters of an automatic name are safe. -/
lemma isSafe_of_mem_automaticName {c : Char} {n : Int} (h : c ∈ (automaticName n).toList) :
    isSafe c = true := by
  have hfront : ∀ c ∈ "codegen-".toList, isSafe c = true := List.all_eq_true.1 (by decide)
  have hending : ∀ c ∈ ".png".toList, isSafe c = true := List.all_eq_true.1 (by decide)
  have hdigits : ∀ c ∈ (Value.showInt (max n 1)).toList, isSafe c = true := by
    intro c hc
    have hpositive : ¬max n 1 < 0 := by omega
    rw [Value.showInt, String.toList_ofList, Binary64.withSign,
      if_neg fun h => hpositive (of_decide_eq_true h)] at hc
    have hdigit : c.isDigit = true := Nat.isDigit_of_mem_toDigits (by decide) (by decide) hc
    simp [isSafe, hdigit]
  rw [automaticName, String.toList_append, String.toList_append, List.mem_append,
    List.mem_append] at h
  exact h.elim (fun h => h.elim (hfront c) (hdigits c)) (hending c)

/-- Safe characters are no end mark. -/
lemma nul_not_mem_of_isSafe {cs : List Char} (h : ∀ c ∈ cs, isSafe c = true) : '\x00' ∉ cs :=
  fun hmem => absurd (h _ hmem) (by decide)

/-- A name that is made safe has no end mark. -/
lemma nul_not_mem_safeName (name : String) : '\x00' ∉ (safeName name).toList :=
  nul_not_mem_of_isSafe fun _ => isSafe_of_mem_safeName

/-- An automatic name has no end mark. -/
lemma nul_not_mem_automaticName (n : Int) : '\x00' ∉ (automaticName n).toList :=
  nul_not_mem_of_isSafe fun _ => isSafe_of_mem_automaticName

end Snapshot

/-! ## Paths without an end mark -/

namespace Path

/-- The characters between two slashes are some of all. -/
lemma subset_of_mem_splitSlashes {piece part cs : List Char} (h : piece ∈ splitSlashes part cs) :
    piece ⊆ part ++ cs := by
  induction cs generalizing part with
  | nil =>
    obtain rfl := List.mem_singleton.1 h
    simp
  | cons c cs ih =>
    rw [splitSlashes] at h
    split at h
    next =>
      rcases List.mem_cons.1 h with rfl | h
      · exact fun d hd => List.mem_append_left _ (List.mem_reverse.1 hd)
      · exact fun d hd => List.mem_append_right _ (List.mem_cons_of_mem _ (by simpa using ih h hd))
    next =>
      intro d hd
      have hd := ih h hd
      simp only [List.mem_append, List.mem_cons] at hd ⊢
      tauto

/-- The parts of a path hold characters of its text only. -/
lemma subset_of_mem_parts {s part : String} (h : part ∈ (parse s).parts) :
    part.toList ⊆ s.toList := by
  obtain ⟨piece, hpiece, rfl⟩ := List.mem_map.1 h
  rw [String.toList_ofList]
  simpa using subset_of_mem_splitSlashes (List.mem_filter.1 hpiece).1

end Path

namespace Workspace

/-- A path goes on without an end mark if the text that is added has none. -/
lemma hasNul_child {directory : Path} {s : String} (hd : hasNul directory = false)
    (hs : '\x00' ∉ s.toList) : hasNul (directory.child s) = false := by
  have hparts : ∀ part ∈ (Path.parse s).parts, part.toList.contains '\x00' = false :=
    fun part hpart => by
      rw [← Bool.not_eq_true, List.contains_iff_mem]
      exact fun h => hs (Path.subset_of_mem_parts hpart h)
  unfold hasNul at hd ⊢
  rw [List.any_eq_false] at hd ⊢
  intro part hpart
  rw [Path.child, Path.join] at hpart
  split at hpart
  next => simpa using hparts part hpart
  next =>
    rcases List.mem_append.1 hpart with h | h
    · exact hd part h
    · simpa using hparts part h

end Workspace

/-! ## Storing -/

/-- Octets that are a picture with pixels, or that the reader of pictures refuses as it refuses what
is no picture. -/
structure Picture.Storable (b : Blob) : Prop where
  refused : ∀ f, ofBlob b = .error f → f.family = .storage
  filled : ∀ p, ofBlob b = .ok p → p.isEmpty = false

namespace Snapshot

open Workspace

/-- Nothing goes wrong but what the storage refuses. -/
def Refusable {α : Type} (p : Procedure Workspace α) : Prop :=
  ∀ w, p.Yields w fun r _ => ∀ f, r = .error f → f.family = .storage

/-- One such step after another. -/
lemma Refusable.bind {α β : Type} {p : Procedure Workspace α} {f : α → Procedure Workspace β}
    (hp : Refusable p) (hf : ∀ a, Refusable (f a)) : Refusable (p >>= f) :=
  fun w => (hp w).bind (fun a t _ => hf a t) fun _ _ h f hf => h f (Except.error.inj hf ▸ rfl)

/-- Directories are made, or refused by the storage. -/
lemma refusable_makeDirectories {path : Path} (h : hasNul path = false) :
    Refusable (makeDirectories path) := by
  intro w
  unfold makeDirectories Procedure.Yields
  simp only [ExceptT.run_mk, h]
  rcases w.disk.makeDirectories w.here path with ⟨d, refusal | refusal⟩
  · nofun
  · rintro f ⟨⟩
    rfl

/-- A file is written, or refused by the storage. -/
lemma refusable_write {path : Path} (h : hasNul path = false) (content : Blob) :
    Refusable (write path content) := by
  intro w
  unfold write changeDisk written Procedure.Yields
  simp only [ExceptT.run_mk, h]
  cases w.disk.write w.here path content with
  | ok d => nofun
  | error c =>
    rintro f ⟨⟩
    rfl

/-- A refusal that is noted is no fault. -/
lemma yields_noting {p : Procedure Workspace Unit} (hp : Refusable p) (n : Fault → Note)
    (w : Workspace) : (noting p n).Yields w fun r _ => ∃ done, r = .ok done := by
  refine (hp w).attempt_bind fun r t hfamily => ?_
  cases r with
  | ok u => exact ⟨true, rfl⟩
  | error f =>
    dsimp only
    rw [if_pos (hfamily f rfl)]
    exact ⟨false, rfl⟩

variable {directory path : Path} {name : String} {b : Blob}

/-- A picture is stored, or refused by the storage. -/
lemma refusable_storePicture (hb : Picture.Storable b) (hpath : hasNul path = false) :
    Refusable (storePicture path (.bytes b)) := by
  show Refusable (Procedure.ofExcept (Picture.ofBlob b) >>= fun p => p.save path)
  cases hpicture : Picture.ofBlob b with
  | error f =>
    rintro w e ⟨⟩
    exact hb.refused f hpicture
  | ok p =>
    show Refusable (p.save path)
    rw [Picture.save, if_neg (by simp [hb.filled p hpicture])]
    exact refusable_write hpath _

/-- Octets are stored, or refused by the storage. -/
lemma refusable_storeOctets (hpath : hasNul path = false) :
    Refusable (storeOctets path (.bytes b)) :=
  refusable_write hpath b

/-- A screenshot that has no path is not stored. -/
lemma run_store_of_error {name image : Value} {f : Fault} {w : Workspace}
    (h : pathOf directory name = .error f) :
    (store directory name image).run w = (.error f, w) := by
  rw [store, h]
  rfl

/-- A picture that is saved can be read. -/
lemma yields_save (p : Picture) (path : Path) (w : Workspace) :
    (p.save path).Yields w fun r w' => r = .ok () → w'.read path = .ok p.toBlob := by
  unfold Picture.save
  split
  next =>
    rw [Procedure.yields_get_bind]
    exact Procedure.yields_bind_of_forall (fun _ _ h => by cases h)
      fun _ _ h => by cases h
  next => exact yields_write.mono fun _ _ h => h.2

/-- A step whose refusal is noted was done if it is said to be done. -/
lemma yields_noting_done {step : Procedure Workspace Unit} {w : Workspace}
    {P : Except Fault Unit → Workspace → Prop} (h : step.Yields w P) (n : Fault → Note) :
    (noting step n).Yields w fun r w' => r = .ok true → P (.ok ()) w' := by
  refine h.attempt_bind fun r t hr => ?_
  cases r with
  | ok u => exact fun _ => hr
  | error f =>
    dsimp only
    split
    next => exact fun h => by cases h
    next => exact fun h => by cases h

/-- A screenshot that is stored is stored at its path, and what holds after its picture or its
octets are stored holds afterwards. -/
lemma yields_store_done {name image : Value} {P : Workspace → Prop}
    (hpath : pathOf directory name = .ok path)
    (hpicture : ∀ w, (storePicture path image).Yields w fun r w' => r = .ok () → P w')
    (hoctets : ∀ w, (storeOctets path image).Yields w fun r w' => r = .ok () → P w')
    (w : Workspace) : (store directory name image).Yields w fun r w' =>
      ∀ stored, r = .ok (some stored) → stored = path ∧ P w' := by
  rw [store, hpath, Procedure.yields_ofExcept_ok_bind]
  refine Procedure.yields_bind_of_forall (fun made t => ?_) fun _ _ _ h => by cases h
  split
  next => exact fun _ h => by cases h
  next =>
    refine (yields_noting_done (hpicture t) _).bind (fun decoded t' h => ?_) fun _ _ _ _ h => by
      cases h
    split
    next hdecoded =>
      intro stored hstored
      cases hstored
      exact ⟨rfl, h (congrArg Except.ok hdecoded) rfl⟩
    next =>
      refine (yields_noting_done (hoctets t') _).bind (fun written t'' h => ?_) fun _ _ _ _ h => by
        cases h
      intro stored hstored
      cases written with
      | true =>
        cases hstored
        exact ⟨rfl, h rfl rfl⟩
      | false => cases hstored

/-- A screenshot that is stored is stored at its path. -/
lemma pathOf_of_store {name image : Value} {w : Workspace}
    (h : ((store directory name image).run w).1 = .ok (some path)) :
    pathOf directory name = .ok path := by
  cases hpath : pathOf directory name with
  | error f =>
    rw [run_store_of_error hpath] at h
    cases h
  | ok stored =>
    have hstore : (store directory name image).Yields w fun r _ =>
        ∀ path, r = .ok (some path) → path = stored ∧ True :=
      yields_store_done hpath (fun _ _ => True.intro) (fun _ _ => True.intro) w
    rw [(hstore path h).1]

/-- **A storable screenshot is stored, or refused by the storage, without a fault.** -/
lemma yields_store (hb : Picture.Storable b) (hpath : hasNul (directory.child name) = false)
    (w : Workspace) :
    (store directory (.str name) (.bytes b)).Yields w fun r _ => ∃ path, r = .ok path := by
  show (noting (makeDirectories (directory.child name).parent) _ >>= _).Yields w _
  refine Procedure.yields_bind_ok
    (yields_noting (refusable_makeDirectories (hasNul_parent hpath)) _ w) fun made t => ?_
  split
  next => exact ⟨_, rfl⟩
  next =>
    refine Procedure.yields_bind_ok (yields_noting (refusable_storePicture hb hpath) _ t)
      fun decoded t => ?_
    split
    next => exact ⟨_, rfl⟩
    next =>
      exact Procedure.yields_bind_ok (yields_noting (refusable_storeOctets hpath) _ t)
        fun written t => ⟨_, rfl⟩

end Snapshot

end SessionRecorder
