import SessionRecorder.Proofs.Snapshot.Decision
import SessionRecorder.Proofs.Snapshot.Name
/-!
# What a failing assertion leaves

An assertion that fails leaves the actual picture beside the stored one, and the picture of the
differences if there is one. Their names are made of the name of the stored picture, whatever that
is, and neither of them is that name again: so the stored picture stays what it is, and fails the
next assertion as well. An assertion that holds and stores nothing leaves nothing.

## Main definitions

* `Snapshot.artifact` — the path of a picture that is left.
* `Snapshot.Leaves` — what an assertion that fails leaves, and what it does not touch.
* `Snapshot.Spares` — what an assertion does to the files, whatever it comes to.

## Main results

* `Snapshot.artifact_ne_name` — no picture that is left has the name of the stored one.
* `Snapshot.yields_reject` — the pictures that are left, whatever else stands on the disk.
* `Snapshot.spares_of_check` — an assertion that fails leaves its own pictures only, and one that
  holds leaves none.
-/

namespace SessionRecorder

namespace Path

variable {before parts : List String} {p : Path} {here : Location}

/-! ## Names beside a name -/

/-- A name that ends in `.png` is cut in front of that. -/
lemma splitName_png {base : List Char} (h : base ≠ []) :
    splitName (String.ofList (base ++ ".png".toList)) = (base, ".png".toList) := by
  have hending : ((base ++ ".png".toList).reverse.takeWhile (· != '.')).reverse = "png".toList := by
    rw [List.reverse_append]
    rfl
  have hlength : (base ++ ".png".toList).length - "png".toList.length - 1 = base.length := by
    rw [List.length_append]
    rfl
  have hpos : 0 < base.length := List.length_pos_of_ne_nil h
  unfold splitName
  dsimp only
  rw [String.toList_ofList, hending, hlength, List.take_left, if_neg]
  · rfl
  · simp [h]

/-- A double dot takes back the part before it. -/
lemma plainParts_append_dots :
    plainParts before (parts ++ [".."]) = (plainParts before parts).dropLast := by
  induction parts generalizing before with
  | nil => simp [plainParts]
  | cons part rest ih =>
    rw [List.cons_append, plainParts, plainParts]
    split
    next => exact ih
    next => exact ih

/-- A path that has parts ends with its name. -/
lemma dropLast_append_name (h : p.parts ≠ []) : p.parts.dropLast ++ [p.name] = p.parts := by
  rw [name, List.getLastD_eq_getLast?, List.getLast?_eq_getLast_of_ne_nil h]
  exact List.dropLast_append_getLast h

/-- Where a name in the directory of a path leads: to a file there, or out of the directory. -/
lemma location_sibling (p : Path) (s : String) (here : Location) :
    ({ p with parts := p.parts.dropLast ++ [s] } : Path).location here =
      if s = ".." then (p.parent.location here).dropLast else p.parent.location here ++ [s] := by
  split
  next h =>
    rw [h]
    exact plainParts_append_dots
  next h => exact plainParts_append h

/-- Another name in the directory of a path does not lead where the path leads. -/
lemma location_sibling_ne {s : String} (hparts : p.parts ≠ []) (hdots : s ≠ "..")
    (hname : s ≠ p.name) :
    ({ p with parts := p.parts.dropLast ++ [s] } : Path).location here ≠ p.location here := by
  have hself : p.location here =
      if p.name = ".." then (p.parent.location here).dropLast else
        p.parent.location here ++ [p.name] := by
    rw [← location_sibling, dropLast_append_name hparts]
  rw [hself, location_sibling, if_neg hdots]
  split
  next =>
    -- the path leads out of its directory, the name to a file in it
    intro heq
    have hlength := congrArg List.length heq
    rw [List.length_append, List.length_dropLast, List.length_singleton] at hlength
    omega
  next =>
    intro heq
    exact hname (List.cons.inj (List.append_cancel_left heq)).1

end Path

namespace Snapshot

open Workspace Picture

variable {w w' t : Workspace} {actual : Source} {baseline : Path} {p q : Picture} {c : Comparison}
  {name : Value} {x : Binary64}

/-! ## Where pictures are left -/

/-- The path of a picture that is left beside a stored one. -/
def artifact (baseline : Path) (word : String) : Path :=
  { baseline with parts := baseline.parts.dropLast ++ [baseline.stem ++ "-" ++ word ++ ".png"] }

/-- A picture can be left beside every path that has a name. -/
lemma beside_eq (h : baseline.parts ≠ []) (word : String) :
    beside baseline word = .ok (artifact baseline word) := by
  rw [beside, Path.withName?, if_neg (by simpa using h)]
  rfl

/-- Only a path without a name has nothing beside it. -/
lemma isForeign_of_beside {word : String} {f : Fault} (h : beside baseline word = .error f) :
    f.IsForeign := by
  unfold beside at h
  split at h <;> cases h
  exact ⟨nofun, nofun⟩

/-- **No picture that is left has the name of the stored one.** The name would be its own stem with
more after it. -/
lemma artifact_ne_name (baseline : Path) (word : String) :
    baseline.stem ++ "-" ++ word ++ ".png" ≠ baseline.name := by
  intro heq
  have hbase : (baseline.stem ++ "-" ++ word).toList ≠ [] := by simp
  have hname : baseline.name = String.ofList ((baseline.stem ++ "-" ++ word).toList ++
      ".png".toList) := by
    rw [← heq, ← String.toList_append, String.ofList_toList]
  have hstem : baseline.stem.toList = (baseline.stem ++ "-" ++ word).toList := by
    conv_lhs => rw [Path.stem, hname, Path.splitName_png hbase, String.toList_ofList]
  have := congrArg List.length hstem
  simp at this

/-- A name that ends in `.png` is no double dot. -/
lemma png_ne_dots (s : String) : s ++ ".png" ≠ ".." := by
  intro heq
  have := congrArg (fun s => s.toList.length) heq
  simp at this

/-- A picture that is left does not lead where the stored one leads. -/
lemma location_artifact_ne (h : baseline.parts ≠ []) (word : String) (here : Location) :
    (artifact baseline word).location here ≠ baseline.location here :=
  Path.location_sibling_ne h (png_ne_dots _) (artifact_ne_name baseline word)

/-- The two pictures that are left lead to different places. -/
lemma location_artifact_ne_artifact (baseline : Path) (here : Location) :
    (artifact baseline "diff").location here ≠ (artifact baseline "actual").location here := by
  rw [artifact, artifact, Path.location_sibling, Path.location_sibling, if_neg (png_ne_dots _),
    if_neg (png_ne_dots _)]
  intro heq
  have hlength := congrArg (fun s : String => s.toList.length)
    (List.cons.inj (List.append_cancel_left heq)).1
  simp at hlength

/-! ## Pictures that are handed over -/

/-- A file without a picture is refused by the storage, or for what it is. -/
lemma isForeign_of_pictureAt {path : Path} {f : Fault} (h : pictureAt w path = .error f) :
    f.IsForeign := by
  unfold pictureAt at h
  split at h
  next hread =>
    obtain rfl := Except.error.inj h
    exact isForeign_of_read hread
  next => exact isForeign_of_ofBlob h

/-- What is no picture cannot be handed over, and is refused in the same way. -/
lemma isForeign_of_picture? {f : Fault} (h : actual.picture? w = .error f) : f.IsForeign := by
  unfold Source.picture? at h
  split at h
  next => cases h
  next => exact isForeign_of_pictureAt h
  next => exact isForeign_of_ofBlob h
  next =>
    split at h
    next =>
      obtain rfl := Except.error.inj h
      decide
    next =>
      unfold pictureNamed at h
      dsimp only at h
      split at h
      next =>
        obtain rfl := Except.error.inj h
        exact ⟨nofun, nofun⟩
      next => exact isForeign_of_pictureAt h
  next =>
    obtain rfl := Except.error.inj h
    exact ⟨nofun, nofun⟩

/-- The same holds of pictures that are handed over with all four channels. -/
lemma isForeign_of_load {f : Fault} (h : actual.load w = .error f) : f.IsForeign := by
  rw [Source.load] at h
  cases hpicture : actual.picture? w with
  | ok p =>
    rw [hpicture] at h
    cases h
  | error e =>
    rw [hpicture] at h
    obtain rfl := Except.error.inj h
    exact isForeign_of_picture? hpicture

/-- What is handed over does not depend on what has been noted. -/
lemma picture?_journal (actual : Source) (w : Workspace) (journal : List Note) :
    actual.picture? { w with journal } = actual.picture? w := by
  cases actual with
  | picture p => rfl
  | file path => rfl
  | value v => cases v <;> rfl

/-- A tolerance that is no number is refused for what it is. -/
lemma isForeign_of_toleranceFor {given : Value} {f : Fault}
    (h : toleranceFor w given = .error f) : f.IsForeign := by
  have hdouble {i : ℤ} {f : Fault} (h : Value.doubleOf i = .error f) : f.IsForeign := by
    unfold Value.doubleOf at h
    split at h <;> cases h
    decide
  have hnumeral {v : Value} {numeral : String} {f : Fault}
      (h : Value.parseDouble v numeral = .error f) : f.IsForeign := by
    unfold Value.parseDouble at h
    split at h <;> cases h
    exact ⟨nofun, nofun⟩
  cases given with
  | none => cases h
  | bool b => exact hdouble h
  | int i => exact hdouble h
  | float x => cases h
  | str s => exact hnumeral h
  | bytes b => exact hnumeral h
  | _ =>
    obtain rfl := Except.error.inj h
    exact ⟨nofun, nofun⟩

/-! ## Leaving pictures -/

/-- What an assertion leaves that fails on a stored picture `p` and an actual one `q`. -/
structure Leaves (w w' : Workspace) (baseline : Path) (p q : Picture) : Prop where
  /-- The stored picture stays what it is. -/
  stored : w'.read baseline = w.read baseline
  /-- The actual picture is left elsewhere, with all four channels. -/
  apart : (artifact baseline "actual").location w.here ≠ baseline.location w.here
  actual : w'.read (artifact baseline "actual") = .ok q.toRgba.toBlob
  /-- The picture of the differences is left if the sizes are equal and some pixel is not the same,
  and only then. -/
  difference : p.size = q.size → p.rgba ≠ q.rgba →
    ∃ d, Shows p q d ∧ w'.read (artifact baseline "diff") = .ok d.toBlob
  omitted : ¬(p.size = q.size ∧ p.rgba ≠ q.rgba) →
    w'.disk.content? ((artifact baseline "diff").location w.here) =
      w.disk.content? ((artifact baseline "diff").location w.here)
  /-- All other files are what they were. -/
  others : ∀ l, l ≠ (artifact baseline "actual").location w.here →
    l ≠ (artifact baseline "diff").location w.here → w'.disk.content? l = w.disk.content? l

/-- The paths that the pictures of an assertion that fails are written to. -/
def artifacts (baseline : Path) (c : Comparison) : List Path :=
  artifact baseline "actual" :: (c.difference.map fun _ => artifact baseline "diff").toList

/-- The picture of the differences is written, if there is one, or it is refused. -/
lemma yields_storeDifference (h : baseline.parts ≠ []) (c : Comparison) (t : Workspace) :
    (storeDifference baseline c).Yields t fun r t' =>
      (t.Writes (c.difference.map fun _ => artifact baseline "diff").toList t' ∧
        ∀ f, r = .error f → f.IsForeign) ∧
      (r = .ok () → ∀ d ∈ c.difference, t'.read (artifact baseline "diff") = .ok d.toBlob) := by
  unfold storeDifference
  cases hdifference : c.difference with
  | none => exact ⟨⟨(SameFiles.refl t).writes, fun f hf => by cases hf⟩, fun _ d hd => by cases hd⟩
  | some d =>
    dsimp only
    rw [beside_eq h, Procedure.yields_ofExcept_ok_bind]
    refine ((touches_save d _ t).and (yields_save d _ t)).mono fun r t' h =>
      ⟨h.1, fun hr e he => ?_⟩
    obtain rfl : d = e := Option.some.inj he
    exact h.2 hr

/-- **The pictures that a failing assertion leaves.** It writes the actual picture and that of the
differences, if there is one, and nothing else, and then it fails; unless it was refused before. -/
lemma yields_reject (hload : actual.load t = .ok q) :
    (reject name baseline actual c x).Yields t fun r t' => ∃ f, r = .error f ∧
      (f.IsForeign ∨ baseline.parts ≠ [] ∧ t.Writes (artifacts baseline c) t' ∧
        t'.read (artifact baseline "actual") = .ok q.toBlob ∧
        ∀ d ∈ c.difference, t'.read (artifact baseline "diff") = .ok d.toBlob) := by
  unfold reject
  by_cases hparts : baseline.parts = []
  · cases hbeside : beside baseline "actual" with
    | ok path => simp [beside, Path.withName?, hparts] at hbeside
    | error f => exact ⟨f, rfl, .inl (isForeign_of_beside hbeside)⟩
  · rw [beside_eq hparts, Procedure.yields_ofExcept_ok_bind, Procedure.yields_get_bind, hload,
      Procedure.yields_ofExcept_ok_bind]
    refine ((touches_save q _ t).and (yields_save q _ t)).bind (fun _ t₁ h₁ => ?_) fun f t₁ h₁ =>
      ⟨f, rfl, .inl (h₁.1.2 f rfl)⟩
    refine (yields_storeDifference hparts c t₁).bind (fun _ t₂ h₂ => ?_) fun f t₂ h₂ =>
      ⟨f, rfl, .inl (h₂.1.2 f rfl)⟩
    have hwrites : t.Writes (artifacts baseline c) t₂ :=
      (h₁.1.1.mono (by simp [artifacts])).trans (h₂.1.1.mono (by simp [artifacts]))
    refine ⟨_, rfl, .inr ⟨hparts, hwrites, ?_, h₂.2 rfl⟩⟩
    refine h₂.1.1.grows.read (h₁.2 rfl) fun path hpath => ?_
    obtain ⟨-, -, rfl⟩ : ∃ d, c.difference = some d ∧ artifact baseline "diff" = path := by
      simpa using hpath
    exact location_artifact_ne_artifact baseline _

/-- What has been written is what an assertion leaves that fails. -/
lemma leaves_of_writes (hp : (Source.file baseline).picture? w = .ok p)
    (hc : compare p q (.float x) = .ok c) (hparts : baseline.parts ≠ [])
    (hwrites : w.Writes (artifacts baseline c) w')
    (hactual : w'.read (artifact baseline "actual") = .ok q.toRgba.toBlob)
    (hdifference : ∀ d ∈ c.difference, w'.read (artifact baseline "diff") = .ok d.toBlob) :
    Leaves w w' baseline p q := by
  obtain ⟨hsome, hshows⟩ := difference_of_compare hc
  have hothers : ∀ l, l ≠ (artifact baseline "actual").location w.here →
      (c.difference.isSome = true → l ≠ (artifact baseline "diff").location w.here) →
      w'.disk.content? l = w.disk.content? l := by
    intro l hactual hdiff
    refine hwrites.disk.content? fun hmem => ?_
    rcases List.mem_cons.1 hmem with h | h
    · exact hactual h
    · cases hd : c.difference with
      | none => simp [hd] at h
      | some d =>
        rw [hd] at h hdiff
        exact hdiff rfl (List.mem_singleton.1 h)
  constructor
  case stored =>
    obtain ⟨content, hread⟩ : ∃ content, w.read baseline = .ok content := by
      cases hread : w.read baseline with
      | ok content => exact ⟨content, rfl⟩
      | error f =>
        rw [Source.picture?, pictureAt, hread] at hp
        cases hp
    rw [hread]
    refine hwrites.grows.read hread fun path hpath => ?_
    rcases List.mem_cons.1 hpath with rfl | h
    · exact location_artifact_ne hparts _ _
    · obtain ⟨-, -, rfl⟩ : ∃ d, c.difference = some d ∧ artifact baseline "diff" = path := by
        simpa using h
      exact location_artifact_ne hparts _ _
  case apart => exact location_artifact_ne hparts _ _
  case actual => exact hactual
  case difference =>
    intro hsize hpixels
    obtain ⟨d, hd⟩ := Option.isSome_iff_exists.1 (hsome.2 ⟨hsize, hpixels⟩)
    exact ⟨d, hshows d hd, hdifference d hd⟩
  case omitted =>
    exact fun h => hothers _ (location_artifact_ne_artifact _ _) fun h' => absurd (hsome.1 h') h
  case others => exact fun l hactual hdiff => hothers l hactual fun _ => hdiff

/-! ## Assertions -/

/-- An assertion that stores its picture does not fail as an assertion. -/
lemma touches_storeBaseline (baseline : Path) (actual : Source) :
    Touches [baseline] (storeBaseline baseline actual) :=
  (touches_makeDirectories _).bind fun _ => touches_get_bind fun _ =>
    (touches_ofExcept fun _ => isForeign_of_load).bind fun _ => (touches_save _ _).bind fun _ =>
      touches_note _

/-- A comparison under a number comes to a result. -/
lemma exists_compare_float (p q : Picture) (x : Binary64) :
    ∃ c, compare p q (.float x) = .ok c := by
  by_cases h : p.size = q.size
  · exact ⟨_, compare_of_eq h rfl⟩
  · exact ⟨_, compare_of_ne h⟩

/-- A comparison under a number notes something at most, and comes to a result if both pictures can
be handed over. -/
lemma yields_compareSources (a b : Source) (x : Binary64) (w : Workspace) :
    (compareSources a b (.float x)).Yields w fun r w' => (∃ journal, w' = { w with journal }) ∧
      (∀ f, r = .error f → f.IsForeign) ∧
      ∀ c, r = .ok c → ∃ p q, a.picture? w = .ok p ∧ b.picture? w = .ok q ∧
        compare p q (.float x) = .ok c := by
  have hload {s : Source} {f : Fault} (h : s.picture? w = .error f) : s.load w = .error f := by
    rw [Source.load, h]
    rfl
  cases ha : a.picture? w with
  | error f =>
    unfold compareSources
    rw [Procedure.yields_get_bind, hload ha, Procedure.yields_ofExcept_error_bind]
    refine ⟨⟨w.journal, rfl⟩, ?_, fun c h => by cases h⟩
    rintro e ⟨⟩
    exact isForeign_of_picture? ha
  | ok p =>
    cases hb : b.picture? w with
    | error f =>
      unfold compareSources
      rw [Procedure.yields_get_bind, load_of_picture? ha, Procedure.yields_ofExcept_ok_bind,
        hload hb, Procedure.yields_ofExcept_error_bind]
      refine ⟨⟨w.journal, rfl⟩, ?_, fun c h => by cases h⟩
      rintro e ⟨⟩
      exact isForeign_of_picture? hb
    | ok q =>
      obtain ⟨c, hc⟩ := exists_compare_float p q x
      rw [Procedure.yields_of_run (run_compareSources_of_pictures ha hb), hc]
      refine ⟨⟨_, rfl⟩, fun f h => (by cases h), ?_⟩
      rintro c' ⟨⟩
      exact ⟨p, q, rfl, rfl, hc⟩

/-- What an assertion does to the files. If it fails as an assertion, a picture was stored, there is
an actual one, and the pictures of the failure are left. If it holds and something was stored, no
file is changed. -/
structure Spares (w : Workspace) (baseline : Path) (actual : Source) (r : Except Fault Unit)
    (w' : Workspace) : Prop where
  failed : ∀ f, r = .error f → f.family = .assertion → ∃ p q,
    (Source.file baseline).picture? w = .ok p ∧ actual.picture? w = .ok q ∧
      Leaves w w' baseline p q
  held : r = .ok () → w.pathExists baseline = .ok true → w'.disk = w.disk

/-- Faults of other kinds say nothing about pictures. -/
lemma spares_of_isForeign {f : Fault} (h : f.IsForeign) :
    Spares w baseline actual (.error f) w' where
  failed := by
    rintro f ⟨⟩ hassertion
    exact absurd hassertion h.2
  held h := by cases h

/-- An assertion on a picture that is stored leaves its pictures if it fails, and nothing if it
holds. -/
lemma yields_compare_reject (w : Workspace) :
    (do
      let c ← compareSources (.file baseline) actual (.float x)
      if !c.passed then reject name baseline actual c x : Procedure Workspace Unit).Yields w
    fun r w' => Spares w baseline actual r w' := by
  refine (yields_compareSources _ actual x w).bind (fun c t h => ?_) fun f t h =>
    spares_of_isForeign (h.2.1 f rfl)
  obtain ⟨⟨journal, rfl⟩, -, hcompared⟩ := h
  obtain ⟨p, q, hp, hq, hc⟩ := hcompared c rfl
  split
  next =>
    have hload : actual.load { w with journal } = .ok q.toRgba :=
      load_of_picture? (by rwa [picture?_journal])
    refine (yields_reject hload).mono fun r w' h => ?_
    obtain ⟨f, rfl, hforeign | ⟨hparts, hwrites, hactual, hdifference⟩⟩ := h
    · exact spares_of_isForeign hforeign
    · have hwrites : w.Writes (artifacts baseline c) w' := ⟨hwrites.here, hwrites.disk⟩
      exact ⟨fun _ _ _ => ⟨p, q, hp, hq, leaves_of_writes hp hc hparts hwrites hactual hdifference⟩,
        fun h => by cases h⟩
  next => exact ⟨fun f h => (by cases h), fun _ _ => rfl⟩

/-- **A failing assertion only leaves its own pictures.** Let an assertion be made while stored
pictures are not to be replaced. If it fails as an assertion, then a picture was stored under its
name and there is an actual one; the stored one stays what it is; the actual one is left beside it,
under a name that is never that of the stored one; the picture of the differences is left if the
sizes are equal and some pixel is not the same, and only then; and all other files are what they
were. If the assertion holds and something was stored before, all files are what they were.

**Proof sketch.** The fault of an assertion is thrown at one place only, after both pictures have
been written. The names that these are written to end in `.png` after the stem of the stored one
with a word, and a name is not its own stem with more after it. -/
theorem spares_of_check {directory : Option Path} {text : String} {given : Value} {caller : Path}
    {r : Except Fault Unit} (hkeep : updating w = false)
    (hrun : (check actual (.str text) directory given caller).run w = (r, w')) :
    Spares w ((directoryFor w directory caller).child text) actual r w' := by
  generalize hbaseline : (directoryFor w directory caller).child text = baseline
  rw [← Procedure.yields_of_run (Q := fun r w' => Spares w baseline actual r w') hrun]
  unfold check
  rw [Procedure.yields_get_bind]
  cases hgiven : toleranceFor w given with
  | error e => exact spares_of_isForeign (isForeign_of_toleranceFor hgiven)
  | ok x =>
    rw [Procedure.yields_ofExcept_ok_bind, pathOf, hbaseline, Procedure.yields_ofExcept_ok_bind]
    cases hthere : w.pathExists baseline with
    | error e => exact spares_of_isForeign (isForeign_of_pathExists hthere)
    | ok there =>
      rw [Procedure.yields_ofExcept_ok_bind, hkeep, Bool.or_false]
      cases there with
      | true => exact yields_compare_reject w
      | false =>
        -- nothing is stored, so the actual picture is, which does not fail as assertions do
        refine (touches_storeBaseline baseline actual w).mono fun r w' h => ⟨?_, fun _ h => ?_⟩
        · exact fun f hf hassertion => absurd hassertion (h.2 f hf).2
        · rw [hthere] at h
          cases h

/-- A workspace with a picture of two pixels stored under a name with two dots, next to other
files. -/
def shelf : Workspace :=
  { emptyDirectory with
    disk := ⟨[(["tests"], .directory), (["tests", "page.v1.2"], .file (.picture .png solid)),
      (["tests", "page.v1.png"], .file (.text "notes")), (["tests", "page.v1"], .directory)]⟩ }

/-- The assertion that two pixels, one of which cannot be seen, are the stored ones. -/
def assertTranslucent (tolerance : Value) : Procedure Workspace Unit :=
  check (.picture translucent) (.str "page.v1.2") (some (Path.parse ".")) tolerance
    (Path.parse "test_page.py")

/-- The assertion fails without any tolerance, and leaves both pictures; it holds with half of the
pixels, and leaves nothing. -/
theorem spares_shelf :
    updating shelf = false ∧
    ((error? ((assertTranslucent (.int 0)).run shelf).1).map Fault.family = some .assertion ∧
      Leaves shelf ((assertTranslucent (.int 0)).run shelf).2 (Path.parse "page.v1.2") solid
        translucent) ∧
    (((assertTranslucent (.int 50)).run shelf).1.toOption = some () ∧
      ((assertTranslucent (.int 50)).run shelf).2.disk = shelf.disk) := by
  have hkeep : updating shelf = false := by decide +kernel
  have hspares (tolerance : Value) : Spares shelf (Path.parse "page.v1.2") (.picture translucent)
      ((assertTranslucent tolerance).run shelf).1 ((assertTranslucent tolerance).run shelf).2 := by
    have hrun : (check (.picture translucent) (.str "page.v1.2") (some (Path.parse ".")) tolerance
        (Path.parse "test_page.py")).run shelf = (((assertTranslucent tolerance).run shelf).1,
          ((assertTranslucent tolerance).run shelf).2) := rfl
    have hpath : (Path.parse ".").child "page.v1.2" = Path.parse "page.v1.2" := by decide
    rw [← hpath]
    exact spares_of_check hkeep hrun
  refine ⟨hkeep, ?_, ?_⟩
  · have hfamily : (error? ((assertTranslucent (.int 0)).run shelf).1).map Fault.family =
        some .assertion := by
      decide +kernel
    obtain ⟨f, hf, hassertion⟩ := Option.map_eq_some_iff.1 hfamily
    obtain ⟨p, q, hp, hq, hleaves⟩ := (hspares (.int 0)).failed f (eq_error_of_error? hf) hassertion
    obtain rfl : solid = p := Except.ok.inj hp
    obtain rfl : translucent = q := Except.ok.inj hq
    exact ⟨hfamily, hleaves⟩
  · have hheld : ((assertTranslucent (.int 50)).run shelf).1.toOption = some () := by
      decide +kernel
    exact ⟨hheld, (hspares (.int 50)).held (eq_ok_of_toOption hheld) rfl⟩

end Snapshot

end SessionRecorder
