import Mathlib.Tactic.Common
import SessionRecorder.Disk
/-!
# Disks that grow

What the operations on a disk leave as it is. Directories stay, and a file keeps its content unless
it is written itself, so a path that has led somewhere leads there from then on. No file comes to be
but where one is written.

## Main definitions

* `Path.location` — the location that a path leads to, if it leads anywhere.
* `Disk.Grows` — a disk with more on it, and other contents at some locations only.
* `Disk.Writes` — a disk that has grown, with new files at these locations only, too.
* `Disk.content?` — the content of the file at a location.

## Main results

* `Disk.location_of_follow` — a path leads to its location.
* `Disk.Grows.follow` — a path still leads where it led.
* `Disk.writes_write`, `Disk.writes_makeDirectories` — what operations on files leave as it is.
* `Disk.Writes.content?` — the files elsewhere are what they were.
* `Disk.isDirectory_makeDirectories` — a directory that was made is there.
-/

namespace SessionRecorder

/-- The location that a path leads to, if it leads anywhere: every double dot takes back the part
before it. -/
def Path.location (here : Location) (p : Path) : Location :=
  Path.plainParts (if p.isAbsolute then [] else here).reverse p.parts

namespace Disk

variable {d d' d'' : Disk} {here : Location} {p : Path} {written : List Location}

/-! ## Locations -/

/-- Parts lead to the location without double dots. -/
lemma location_of_walk {l l' : Location} {parts : List String} (h : d.walk l parts = .ok l') :
    l' = Path.plainParts l.reverse parts := by
  induction parts generalizing l with
  | nil =>
    obtain rfl := Except.ok.inj h
    simp [Path.plainParts]
  | cons part rest ih =>
    rw [walk] at h
    rw [Path.plainParts]
    split at h
    next hdots =>
      rw [if_pos hdots, ih h, List.tail_reverse]
    next hdots =>
      rw [if_neg hdots, show part :: l.reverse = (l ++ [part]).reverse by simp]
      split at h
      next => cases h
      next =>
        dsimp only at h
        split at h
        next hrest =>
          obtain rfl := Except.ok.inj h
          rw [List.isEmpty_iff.1 hrest, Path.plainParts, List.reverse_reverse]
        next =>
          split at h
          next => exact ih h
          next => cases h
          next => cases h

/-- A path leads to its location. -/
lemma location_of_follow {l : Location} (h : d.follow here p = .ok l) : l = p.location here := by
  unfold follow at h
  split at h
  next => cases h
  next => exact location_of_walk h

/-! ## What stands where -/

/-- What stands at the location of something that is put somewhere. -/
lemma node?_put_self {l : Location} (hl : l ≠ []) (n : Node) : (d.put l n).node? l = some n := by
  rw [node?, if_neg (by simpa using hl), put]
  split
  next hany =>
    have hkey : ((fun entry : Location × Node => entry.1 == l) ∘
        fun entry => if entry.1 == l then (l, n) else entry) = fun entry => entry.1 == l := by
      funext entry
      by_cases h : entry.1 = l <;> simp [h]
    dsimp only
    rw [List.find?_map, hkey]
    obtain ⟨entry, hentry⟩ : ∃ entry, d.nodes.find? (·.1 == l) = some entry :=
      Option.isSome_iff_exists.1 (List.find?_isSome.2 (List.any_eq_true.1 hany))
    have hfound : entry.1 = l := by simpa using List.find?_some hentry
    simp [hentry, hfound]
  next hnone =>
    have hrest : d.nodes.find? (·.1 == l) = none :=
      List.find?_eq_none.2 fun entry hentry h => hnone (List.any_eq_true.2 ⟨entry, hentry, h⟩)
    simp [List.find?_append, hrest]

/-- What stands elsewhere stays. -/
lemma node?_put_of_ne {l l' : Location} (hl : l' ≠ l) (n : Node) :
    (d.put l n).node? l' = d.node? l' := by
  have hl : ¬l = l' := fun h => hl h.symm
  unfold node? put
  split
  next => rfl
  next =>
    split
    next =>
      have hkey : ((fun entry : Location × Node => entry.1 == l') ∘
          fun entry => if entry.1 == l then (l, n) else entry) = fun entry => entry.1 == l' := by
        funext entry
        by_cases h : entry.1 = l <;> simp [h]
      dsimp only
      rw [List.find?_map, hkey]
      cases hentry : d.nodes.find? (·.1 == l') with
      | none => rfl
      | some entry =>
        have hfound : entry.1 = l' := by simpa using List.find?_some hentry
        simp [hfound, Ne.symm hl]
    next => simp [List.find?_append, hl]

/-! ## Growing -/

/-- A disk on which all directories and files are still there, and all files have their contents,
but for those at the locations that were written. -/
structure Grows (written : List Location) (d d' : Disk) : Prop where
  directories : ∀ l, d.node? l = some .directory → d'.node? l = some .directory
  files : ∀ l content, l ∉ written → d.node? l = some (.file content) →
    d'.node? l = some (.file content)
  there : ∀ l content, d.node? l = some (.file content) →
    ∃ content', d'.node? l = some (.file content')

/-- A disk grows into itself. -/
@[refl] lemma Grows.refl (written : List Location) (d : Disk) : d.Grows written d :=
  ⟨fun _ h => h, fun _ _ _ h => h, fun _ content h => ⟨content, h⟩⟩

/-- A disk grows on. -/
lemma Grows.trans (h : d.Grows written d') (h' : d'.Grows written d'') : d.Grows written d'' where
  directories l hl := h'.directories l (h.directories l hl)
  files l content hw hl := h'.files l content hw (h.files l content hw hl)
  there l content hl := by
    obtain ⟨content', hl'⟩ := h.there l content hl
    exact h'.there l content' hl'

/-- More locations may have been written. -/
lemma Grows.mono {more : List Location} (h : d.Grows written d') (hw : written ⊆ more) :
    d.Grows more d' where
  directories := h.directories
  files l content hl := h.files l content fun h => hl (hw h)
  there := h.there

/-- A disk that has grown, and on which no file came to be or was changed but at the locations that
were written. -/
structure Writes (written : List Location) (d d' : Disk) : Prop extends Grows written d d' where
  fresh : ∀ l content, l ∉ written → d'.node? l = some (.file content) →
    d.node? l = some (.file content)

/-- Nothing is written on a disk that stays the same. -/
@[refl] lemma Writes.refl (written : List Location) (d : Disk) : d.Writes written d :=
  ⟨.refl written d, fun _ _ _ h => h⟩

/-- More is written at the same locations. -/
lemma Writes.trans (h : d.Writes written d') (h' : d'.Writes written d'') : d.Writes written d'' :=
  ⟨h.toGrows.trans h'.toGrows, fun l content hl hn =>
    h.fresh l content hl (h'.fresh l content hl hn)⟩

/-- More locations may have been written. -/
lemma Writes.mono {more : List Location} (h : d.Writes written d') (hw : written ⊆ more) :
    d.Writes more d' :=
  ⟨h.toGrows.mono hw, fun l content hl => h.fresh l content fun h => hl (hw h)⟩

/-- No file is written when a directory is put where there is nothing. -/
lemma writes_put_directory {l : Location} (hnone : d.node? l = none) :
    d.Writes written (d.put l .directory) := by
  have hkept : ∀ l' n, d.node? l' = some n → (d.put l .directory).node? l' = some n := by
    intro l' n hl'
    rw [node?_put_of_ne, hl']
    rintro rfl
    rw [hnone] at hl'
    cases hl'
  refine ⟨⟨fun l' => hkept l' _, fun l' _ _ => hkept l' _,
    fun l' content h => ⟨content, hkept l' _ h⟩⟩, fun l' content _ hl' => ?_⟩
  by_cases h : l' = l
  · subst h
    have hroot : l' ≠ [] := by
      rintro rfl
      cases hnone
    rw [node?_put_self hroot] at hl'
    cases hl'
  · rwa [node?_put_of_ne h] at hl'

/-- A file is written where there is no directory, and nowhere else. -/
lemma writes_put_file {l : Location} {content : Blob} (hdir : d.node? l ≠ some .directory) :
    d.Writes [l] (d.put l (.file content)) where
  directories l' hl' := by
    rw [node?_put_of_ne, hl']
    rintro rfl
    exact hdir hl'
  files l' content' hw hl' := by
    rw [node?_put_of_ne (by simpa using hw), hl']
  there l' content' hl' := by
    by_cases h : l' = l
    · subst h
      have hroot : l' ≠ [] := by
        rintro rfl
        exact hdir rfl
      exact ⟨content, node?_put_self hroot _⟩
    · exact ⟨content', by rw [node?_put_of_ne h, hl']⟩
  fresh l' content' hw hl' := by
    rwa [node?_put_of_ne (by simpa using hw)] at hl'

/-- Parts still lead where they led. -/
lemma Grows.walk {l l' : Location} {parts : List String} (h : d.Grows written d')
    (hwalk : d.walk l parts = .ok l') : d'.walk l parts = .ok l' := by
  induction parts generalizing l with
  | nil => exact hwalk
  | cons part rest ih =>
    rw [Disk.walk] at hwalk ⊢
    split at hwalk
    next hdots =>
      rw [if_pos hdots]
      exact ih hwalk
    next hdots =>
      rw [if_neg hdots]
      split at hwalk
      next => cases hwalk
      next hshort =>
        rw [if_neg hshort]
        dsimp only at hwalk ⊢
        split at hwalk
        next hrest => rw [if_pos hrest, hwalk]
        next hrest =>
          rw [if_neg hrest]
          split at hwalk
          next hnode =>
            rw [h.directories _ hnode]
            exact ih hwalk
          next => cases hwalk
          next => cases hwalk

/-- A path still leads where it led. -/
lemma Grows.follow {l : Location} (h : d.Grows written d') (hf : d.follow here p = .ok l) :
    d'.follow here p = .ok l := by
  unfold Disk.follow at hf ⊢
  split at hf
  next => cases hf
  next hshort =>
    rw [if_neg hshort]
    exact h.walk hf

/-! ## Directories -/

/-- A path names a directory if it leads to one. -/
lemma isDirectory_iff : d.isDirectory here p = true ↔
    ∃ l, d.follow here p = .ok l ∧ d.node? l = some .directory := by
  unfold isDirectory find
  cases hf : d.follow here p with
  | error c => simp
  | ok l =>
    cases hn : d.node? l with
    | none => simp [hn]
    | some n => cases n <;> simp [hn]

/-- A directory is still there. -/
lemma Grows.isDirectory (h : d.Grows written d') (hp : d.isDirectory here p = true) :
    d'.isDirectory here p = true := by
  rw [isDirectory_iff] at hp ⊢
  obtain ⟨l, hf, hn⟩ := hp
  exact ⟨l, h.follow hf, h.directories l hn⟩

/-- Making a directory leaves everything as it is, and then the directory is there. -/
lemma writes_makeDirectory (h : d.makeDirectory here p = .ok d') :
    d.Writes [] d' ∧ d'.isDirectory here p = true := by
  unfold makeDirectory at h
  split at h
  next => cases h
  next l hf =>
    split at h
    next => cases h
    next hn =>
      obtain rfl := Except.ok.inj h
      have hwrites : d.Writes [] (d.put l .directory) := writes_put_directory hn
      have hl : l ≠ [] := by
        rintro rfl
        cases hn
      exact ⟨hwrites, isDirectory_iff.2 ⟨l, hwrites.follow hf, node?_put_self hl _⟩⟩

/-- Having a directory leaves everything as it is, and without a refusal the directory is there. -/
lemma writes_ensureDirectory (d : Disk) (here : Location) (p : Path) :
    d.Writes [] (d.ensureDirectory here p).1 ∧
      ((d.ensureDirectory here p).2 = none →
        (d.ensureDirectory here p).1.isDirectory here p = true) := by
  unfold ensureDirectory
  split
  next d' h => exact ⟨(writes_makeDirectory h).1, fun _ => (writes_makeDirectory h).2⟩
  next =>
    split
    next h => exact ⟨.refl _ _, fun _ => h⟩
    next => exact ⟨.refl _ _, fun h => by cases h⟩

/-- The same for all directories that lead to it. -/
lemma writes_ensureDirectories (d : Disk) (here : Location) (fuel : ℕ) (p : Path) :
    d.Writes [] (d.ensureDirectories here fuel p).1 ∧
      ((d.ensureDirectories here fuel p).2 = none →
        (d.ensureDirectories here fuel p).1.isDirectory here p = true) := by
  induction fuel generalizing p with
  | zero => exact writes_ensureDirectory d here p
  | succ fuel ih =>
    unfold ensureDirectories
    split
    next d' h => exact ⟨(writes_makeDirectory h).1, fun _ => (writes_makeDirectory h).2⟩
    next =>
      split
      next => exact ⟨.refl _ _, fun h => by cases h⟩
      next =>
        have hparent := ih p.parent
        split
        next d' r h =>
          rw [h] at hparent
          exact ⟨hparent.1, fun h => by cases h⟩
        next d' h =>
          rw [h] at hparent
          have hlast := writes_ensureDirectory d' here p
          exact ⟨hparent.1.trans hlast.1, hlast.2⟩
    next =>
      split
      next h => exact ⟨.refl _ _, fun _ => h⟩
      next => exact ⟨.refl _ _, fun h => by cases h⟩

/-- Making directories leaves everything as it is. -/
lemma writes_makeDirectories (d : Disk) (here : Location) (p : Path) :
    d.Writes [] (d.makeDirectories here p).1 :=
  (writes_ensureDirectories d here _ p).1

/-- A directory that was made is there. -/
lemma isDirectory_makeDirectories (h : (d.makeDirectories here p).2 = none) :
    (d.makeDirectories here p).1.isDirectory here p = true :=
  (writes_ensureDirectories d here _ p).2 h

/-- A directory that is there need not be made. -/
lemma makeDirectories_of_isDirectory (h : d.isDirectory here p = true) :
    d.makeDirectories here p = (d, none) := by
  have hexists : d.makeDirectory here p = .error .exists := by
    obtain ⟨l, hf, hn⟩ := isDirectory_iff.1 h
    simp only [makeDirectory, hf, hn]
  unfold makeDirectories
  cases p.parts.length with
  | zero =>
    rw [ensureDirectories, ensureDirectory, hexists]
    exact if_pos h
  | succ fuel =>
    rw [ensureDirectories, hexists]
    exact if_pos h

/-! ## Files -/

/-- A path can be read if it leads to a file. -/
lemma read_eq_ok_iff {content : Blob} : d.read here p = .ok content ↔
    ∃ l, d.follow here p = .ok l ∧ d.node? l = some (.file content) := by
  unfold read find
  cases hf : d.follow here p with
  | error c => simp
  | ok l =>
    cases hn : d.node? l with
    | none => simp [hn]
    | some n => cases n <;> simp [hn]

/-- A file elsewhere can still be read. -/
lemma Grows.read {content : Blob} (h : d.Grows written d') (hr : d.read here p = .ok content)
    (hw : p.location here ∉ written) : d'.read here p = .ok content := by
  rw [read_eq_ok_iff] at hr ⊢
  obtain ⟨l, hf, hn⟩ := hr
  exact ⟨l, h.follow hf, h.files l content (location_of_follow hf ▸ hw) hn⟩

/-- What was a file is still one. -/
lemma Grows.exists_read {content : Blob} (h : d.Grows written d')
    (hr : d.read here p = .ok content) : ∃ content', d'.read here p = .ok content' := by
  rw [read_eq_ok_iff] at hr
  obtain ⟨l, hf, hn⟩ := hr
  obtain ⟨content', hn'⟩ := h.there l content hn
  exact ⟨content', read_eq_ok_iff.2 ⟨l, h.follow hf, hn'⟩⟩

/-- Writing a file leaves everything else as it is, and then the file can be read. -/
lemma writes_write {content : Blob} (h : d.write here p content = .ok d') :
    d.Writes [p.location here] d' ∧ d'.read here p = .ok content := by
  unfold write at h
  split at h
  next => cases h
  next l hf =>
    split at h
    next => cases h
    next hn =>
      obtain rfl := Except.ok.inj h
      have hwrites : d.Writes [p.location here] (d.put l (.file content)) :=
        location_of_follow hf ▸ writes_put_file fun h => hn h
      have hl : l ≠ [] := by
        rintro rfl
        exact hn rfl
      exact ⟨hwrites, read_eq_ok_iff.2 ⟨l, hwrites.follow hf, node?_put_self hl _⟩⟩

/-- The content of the file at a location, if a file stands there. -/
def content? (d : Disk) (l : Location) : Option Blob :=
  match d.node? l with
  | some (.file content) => some content
  | _ => none

/-- A file stands at a location if it has a content. -/
lemma content?_eq_some_iff {l : Location} {content : Blob} :
    d.content? l = some content ↔ d.node? l = some (.file content) := by
  unfold content?
  split
  next hn => simp [hn]
  next hn => simpa using hn content

/-- The files at other locations are what they were. -/
lemma Writes.content? {l : Location} (h : d.Writes written d') (hl : l ∉ written) :
    d'.content? l = d.content? l :=
  Option.ext fun content => by
    rw [content?_eq_some_iff, content?_eq_some_iff]
    exact ⟨h.fresh l content hl, h.files l content hl⟩

/-- A file that can be read can be written. -/
lemma exists_write {content : Blob} (h : d.read here p = .ok content) (content' : Blob) :
    ∃ d', d.write here p content' = .ok d' := by
  obtain ⟨l, hf, hn⟩ := read_eq_ok_iff.1 h
  exact ⟨d.put l (.file content'), by simp only [write, hf, hn]⟩

end Disk

end SessionRecorder
