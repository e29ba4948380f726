import SessionRecorder.Proofs.Picture.Comparison
import SessionRecorder.Proofs.Snapshot.Store
import SessionRecorder.Snapshot.Assertion
/-!
# Stored pictures and their own assertions

A picture is stored in two ways: as a screenshot of a recording, with the mode that it has, and by
an assertion that finds no picture stored, with all four channels. An assertion compares the pixels
with all four channels, and these are the same in both cases. So a picture that has been stored
passes the assertion that it is the stored one, for as long as nobody changes its file.

## Main definitions

* `Snapshot.StoredAt` — a file that holds a picture with certain pixels.
* `Snapshot.Records` — a picture is stored, in one way or the other.

## Main results

* `Snapshot.Records.storedAt` — what is stored has the pixels of the picture.
* `Snapshot.run_check_of_storedAt` — an assertion holds if the pixels are the stored ones.
* `Snapshot.passes_of_records` — a picture passes its own assertion, which changes nothing.
-/

namespace SessionRecorder

namespace Snapshot

open Workspace

variable {w w' v : Workspace} {directory path caller : Path} {name : String} {b content : Blob}
  {p q : Picture} {given : Value} {x : Binary64}

/-! ## Files with pictures -/

/-- At a path there is a file with a picture that has the pixels of `p`. -/
def StoredAt (w : Workspace) (path : Path) (p : Picture) : Prop :=
  (Source.file path).load w = .ok p.toRgba

/-- A file holds the picture that its content is. -/
lemma storedAt_of_read (hread : w.read path = .ok content)
    (hcontent : Picture.ofBlob content = .ok q) (hpixels : q.toRgba = p.toRgba) :
    StoredAt w path p := by
  rw [StoredAt, Source.load, Source.picture?, pictureAt, hread]
  dsimp only
  rw [hcontent, ← hpixels]
  rfl

/-- A file with a picture is there. -/
lemma StoredAt.pathExists (h : StoredAt w path p) : w.pathExists path = .ok true := by
  cases hread : w.read path with
  | ok content => exact pathExists_of_read hread
  | error f =>
    rw [StoredAt, Source.load, Source.picture?, pictureAt, hread] at h
    cases h

/-- It holds the picture for as long as it can be read as before. -/
lemma StoredAt.of_read_eq (h : StoredAt w path p) (hread : v.read path = w.read path) :
    StoredAt v path p := by
  rw [StoredAt, Source.load, Source.picture?, pictureAt] at h ⊢
  rw [hread]
  exact h

/-- Octets of a picture are handed over with all four channels. -/
lemma load_bytes (hb : Picture.ofBlob b = .ok p) :
    (Source.value (.bytes b)).load w = .ok p.toRgba := by
  rw [Source.load, Source.picture?, hb]
  rfl

/-! ## Storing -/

/-- **A screenshot that is stored has its pixels**, whether it was stored as a picture or octet by
octet. -/
lemma yields_store_storedAt (hb : Picture.ofBlob b = .ok p) (w : Workspace) :
    (store directory (.str name) (.bytes b)).Yields w fun r w' =>
      ∀ path, r = .ok (some path) → StoredAt w' (directory.child name) p := by
  have hpicture (t : Workspace) : (storePicture (directory.child name) (.bytes b)).Yields t
      fun r t' => r = .ok () → StoredAt t' (directory.child name) p := by
    show (Procedure.ofExcept (Picture.ofBlob b) >>= fun p => p.save _).Yields t _
    rw [hb, Procedure.yields_ofExcept_ok_bind]
    exact (yields_save p _ t).mono fun _ _ h hr => storedAt_of_read (h hr) rfl rfl
  have hoctets (t : Workspace) : (storeOctets (directory.child name) (.bytes b)).Yields t
      fun r t' => r = .ok () → StoredAt t' (directory.child name) p :=
    yields_write.mono fun _ _ h hr => storedAt_of_read (h.2 hr) hb rfl
  exact (yields_store_done rfl hpicture hoctets w).mono fun _ _ h path hpath => (h path hpath).2

/-- An assertion that stores its picture stores its pixels. -/
lemma yields_storeBaseline (hb : Picture.ofBlob b = .ok p) (w : Workspace) :
    (storeBaseline path (.value (.bytes b))).Yields w fun r w' =>
      r = .ok () → StoredAt w' path p := by
  unfold storeBaseline
  refine Procedure.yields_bind_of_forall (fun _ t => ?_) fun _ _ h => by cases h
  rw [Procedure.yields_get_bind, load_bytes hb, Procedure.yields_ofExcept_ok_bind]
  refine (yields_save p.toRgba path t).bind (fun _ t' h => ?_) fun _ _ _ h => by cases h
  have hstored : StoredAt t' path p := storedAt_of_read (h rfl) rfl p.toRgba_toRgba
  exact fun _ => hstored.of_read_eq rfl

/-- An assertion with a directory that is given, from a workspace on. -/
lemma run_check_given {actual : Source} :
    (check actual (.str name) (some directory) given caller).run w = (do
      let tolerance ← Procedure.ofExcept (toleranceFor w given)
      let there ← Procedure.ofExcept (w.pathExists (directory.child name))
      if !there || updating w then storeBaseline (directory.child name) actual
      else
        let c ← compareSources (.file (directory.child name)) actual (.float tolerance)
        if !c.passed then reject (.str name) (directory.child name) actual c tolerance).run w :=
  rfl

/-- A picture is stored under a name: as a screenshot that comes to a path, or by an assertion that
holds although nothing was stored before. -/
inductive Records (directory : Path) (name : String) (b : Blob) (w w' : Workspace) : Prop
  | screenshot {path : Path} :
      (store directory (.str name) (.bytes b)).run w = (.ok (some path), w') →
      Records directory name b w w'
  | assertion {given : Value} {caller : Path} : w.pathExists (directory.child name) = .ok false →
      (check (.value (.bytes b)) (.str name) (some directory) given caller).run w = (.ok (), w') →
      Records directory name b w w'

/-- **What is stored has the pixels of the picture.** -/
lemma Records.storedAt (h : Records directory name b w w') (hb : Picture.ofBlob b = .ok p) :
    StoredAt w' (directory.child name) p := by
  cases h with
  | @screenshot path hrun =>
    have hyields := @yields_store_storedAt directory name b p hb w
    rw [Procedure.yields_of_run hrun] at hyields
    exact hyields path rfl
  | @assertion given caller hmissing hrun =>
    have hyields : (check (.value (.bytes b)) (.str name) (some directory) given caller).Yields w
        fun r w' => r = .ok () → StoredAt w' (directory.child name) p := by
      rw [Procedure.Yields, run_check_given, hmissing]
      cases toleranceFor w given with
      | error f => exact fun h => by cases h
      | ok x => exact yields_storeBaseline hb w
    rw [Procedure.yields_of_run hrun] at hyields
    exact hyields rfl

/-! ## Assertions -/

/-- A comparison of two pictures that are handed over notes their sizes if they differ. -/
lemma run_compareSources_of_load {a b : Source} {t : Value} (ha : a.load w = .ok p)
    (hb : b.load w = .ok q) : (compareSources a b t).run w =
      (compare p q t, { w with journal := w.journal ++ sizeNotes p q }) := by
  have hnotes : (notes (sizeNotes p q)).run w =
      (.ok (), { w with journal := w.journal ++ sizeNotes p q }) := rfl
  unfold compareSources
  rw [Procedure.run_get_bind, ha, hb]
  show (notes (sizeNotes p q) >>= fun _ => Procedure.ofExcept (compare p q t)).run w = _
  rw [Procedure.run_bind_ok hnotes]
  cases compare p q t <;> rfl

/-- A picture that is compared with one that has the same pixels passes. -/
lemma run_compareSources (hstored : StoredAt v path p) (hb : Picture.ofBlob b = .ok p)
    (hx : x.IsNonneg) :
    (compareSources (.file path) (.value (.bytes b)) (.float x)).run v =
      (.ok ⟨true, .zero false, false, none⟩, v) := by
  have hcompare : compare p.toRgba p.toRgba (.float x) = .ok ⟨true, .zero false, false, none⟩ := by
    rw [compare, dif_pos rfl, Picture.difference?_self]
    dsimp only
    rw [Picture.differencePercent_self, Value.atMost_zero hx]
    rfl
  have hnotes : sizeNotes p.toRgba p.toRgba = [] := if_pos rfl
  rw [run_compareSources_of_load hstored (load_bytes hb), hcompare, hnotes, List.append_nil]

/-- **An assertion holds if the pixels are the stored ones**, and changes nothing. -/
lemma run_check_of_storedAt (hstored : StoredAt v (directory.child name) p)
    (hb : Picture.ofBlob b = .ok p) (hkeep : updating v = false)
    (hgiven : toleranceFor v given = .ok x) (hx : x.IsNonneg) :
    (check (.value (.bytes b)) (.str name) (some directory) given caller).run v = (.ok (), v) := by
  rw [run_check_given, hgiven, hstored.pathExists, hkeep]
  exact Procedure.run_bind_ok (run_compareSources hstored hb hx)

/-- **A stored picture passes its own assertion.** Let a picture have been stored under a name, as a
screenshot or by an assertion that found none. Whenever afterwards the file reads as it did then,
and stored pictures are not to be replaced, the assertion with the same octets holds, with every
tolerance that is not negative, and changes nothing at all: so it holds any number of times. -/
theorem passes_of_records (hb : Picture.ofBlob b = .ok p) (h : Records directory name b w w')
    (hread : v.read (directory.child name) = w'.read (directory.child name))
    (hkeep : updating v = false) (hgiven : toleranceFor v given = .ok x) (hx : x.IsNonneg) :
    (check (.value (.bytes b)) (.str name) (some directory) given caller).run v = (.ok (), v) :=
  run_check_of_storedAt ((h.storedAt hb).of_read_eq hread) hb hkeep hgiven hx

/-- Two grey pixels, the first of which cannot be seen. -/
def translucent : Picture :=
  ⟨.greyAlpha, 1, 2, [7, 0, 7, 255], rfl⟩

/-- A workspace with one directory, in which nothing is stored. -/
def emptyDirectory : Workspace where
  disk := ⟨[(["tests"], .directory)]⟩
  here := ["tests"]
  environment := [(toleranceVariable, " 0.5")]
  accounts := []
  commandResult := .works
  reportOpen := true
  journal := []
  ran := []
  attached := []

/-- The workspace after the two pixels have been stored as a screenshot. -/
def withScreenshot : Workspace :=
  ((store (Path.parse "../shots") (.str "page v1") (.bytes (.picture .bmp translucent))).run
    emptyDirectory).2

/-- The workspace after an assertion has stored the two pixels. -/
def withBaseline : Workspace :=
  ((check (.value (.bytes (.picture .png translucent))) (.str "page.png")
    (some (Path.parse "shots")) .none (Path.parse "test_page.py")).run emptyDirectory).2

/-- Pixels that cannot be seen are stored in both ways, and pass without any tolerance. -/
theorem passes_translucent :
    (check (.value (.bytes (.picture .bmp translucent))) (.str "page v1")
      (some (Path.parse "../shots")) (.float (.zero false)) (Path.parse "test_page.py")).run
        withScreenshot = (.ok (), withScreenshot) ∧
    (check (.value (.bytes (.picture .png translucent))) (.str "page.png")
      (some (Path.parse "shots")) (.float (.zero false)) (Path.parse "test_page.py")).run
        withBaseline = (.ok (), withBaseline) :=
  ⟨passes_of_records (w := emptyDirectory) rfl (.screenshot (Prod.ext rfl rfl)) rfl
      (by decide +kernel) rfl (Or.inl rfl),
    passes_of_records (w := emptyDirectory) rfl (.assertion rfl (Prod.ext rfl rfl)) rfl
      (by decide +kernel) rfl (Or.inl rfl)⟩

end Snapshot

end SessionRecorder
