import SessionRecorder.Proofs.Snapshot.Name
import SessionRecorder.Proofs.WellTyped
/-!
# Names that are safe already

Making a name safe is a projection: it changes nothing that it has made, and the names that it leaves
as they are can be told by their characters. They consist of safe characters, start with neither a
dot nor an underscore and end with `.png` in any case. Since none of these characters is blank and the
last of them is a letter, nothing is cut off, replaced or added.

## Main results

* `Snapshot.endsInPng_iff`, `Snapshot.isPictureName_iff` — the names of pictures by their characters.
* `Snapshot.safeName_eq_self` — the name of a picture is left as it is.
* `Snapshot.projects_safeNameOf` — which names are left as they are, and that those that are made are
  among them.
-/

namespace SessionRecorder

namespace Text

variable {p : Char → Bool} {cs : List Char}

/-- Nothing is taken off the front of a list whose first element stays. -/
lemma dropWhile_eq_self (h : ∀ c ∈ cs.head?, p c = false) : cs.dropWhile p = cs := by
  cases cs with
  | nil => rfl
  | cons c cs => exact List.dropWhile_cons_of_neg (by simp [h c rfl])

/-- Nothing is taken off the ends of a list whose first and last elements stay. -/
lemma stripWhile_eq_self (hfirst : ∀ c ∈ cs.head?, p c = false)
    (hlast : ∀ c ∈ cs.getLast?, p c = false) : stripWhile p cs = cs := by
  rw [stripWhile, dropWhile_eq_self hfirst, dropEndWhile, dropWhile_eq_self, List.reverse_reverse]
  simpa using hlast

end Text

namespace Snapshot

variable {name : String} {c : Char} {cs : List Char}

/-! ## Characters -/

/-- The characters that may stand in a name, one by one. -/
lemma isSafe_iff : isSafe c = true ↔ c ∈ safeCharacters := by
  have hall : (safeCharacters.all isSafe) = true := by decide
  exact ⟨mem_safeCharacters, List.all_eq_true.1 hall c⟩

/-- No character of a name is blank. -/
lemma isBlank_of_mem_safeCharacters (h : c ∈ safeCharacters) : Text.isBlank c = false := by
  have hall : (safeCharacters.all fun c => !Text.isBlank c) = true := by decide
  simpa using List.all_eq_true.1 hall c h

/-- Safe characters are left as they are. -/
lemma flattenFrom_eq_self {inRun : Bool} (h : ∀ c ∈ cs, c ∈ safeCharacters) :
    flattenFrom inRun cs = cs := by
  induction cs generalizing inRun with
  | nil => rfl
  | cons c cs ih =>
    rw [List.forall_mem_cons] at h
    rw [flattenFrom, if_pos (isSafe_iff.2 h.1), ih h.2]

/-! ## Endings -/

/-- **A name ends in `.png`, in any case**, if its last characters are these in lower case. -/
lemma endsInPng_iff : endsInPng cs = true ↔
    ∃ stem ending, cs = stem ++ ending ∧ ending.map Char.toLower = ".png".toList := by
  refine ⟨exists_of_endsInPng, ?_⟩
  rintro ⟨stem, ending, rfl, hending⟩
  have hrev : (stem ++ ending).reverse.map Char.toLower =
      ['g', 'n', 'p', '.'] ++ stem.reverse.map Char.toLower := by
    rw [List.reverse_append, List.map_append, List.map_reverse, hending]
    rfl
  rw [endsInPng, hrev]
  rfl

/-- The last character of a name that ends in `.png` is not taken off. -/
lemma isEdge_of_endsInPng (h : endsInPng cs = true) : ∀ c ∈ cs.getLast?, isEdge c = false := by
  intro c hc
  obtain ⟨stem, ending, rfl, hending⟩ := endsInPng_iff.1 h
  have hlast : ((stem ++ ending).map Char.toLower).getLast? = some 'g' := by
    rw [List.map_append, hending]
    simp
  rw [List.getLast?_map, Option.mem_def.1 hc, Option.map_some] at hlast
  refine isEdge_eq_false_iff.2 ⟨?_, ?_⟩
  · rintro rfl
    cases hlast
  · rintro rfl
    cases hlast

/-- **The names of pictures by their characters.** What stands before the ending need not be asked
for: it is there, since the name does not start with a dot. -/
lemma isPictureName_iff : IsPictureName name ↔
    (∀ c ∈ name.toList, c ∈ safeCharacters) ∧ (∀ c ∈ name.toList.head?, c ≠ '.' ∧ c ≠ '_') ∧
      ∃ stem ending, name.toList = stem ++ ending ∧ ending.map Char.toLower = ".png".toList := by
  constructor
  · rintro ⟨hsafe, hfirst, stem, ending, hsplit, -, hending⟩
    exact ⟨hsafe, hfirst, stem, ending, hsplit, hending⟩
  · rintro ⟨hsafe, hfirst, stem, ending, hsplit, hending⟩
    have hstem : stem ≠ [] := by
      refine stem_ne_nil (fun c hc => isSafe_iff.2 (hsafe c ?_))
        (fun c hc => isEdge_eq_false_iff.2 (hfirst c ?_)) hending
      · rwa [hsplit]
      · rwa [hsplit]
    exact ⟨hsafe, hfirst, stem, ending, hsplit, hstem, hending⟩

/-! ## Names that stay -/

/-- **The name of a picture is left as it is.** -/
lemma safeName_eq_self (h : IsPictureName name) : safeName name = name := by
  have hpng : endsInPng name.toList = true := endsInPng_iff.2 (isPictureName_iff.1 h).2.2
  have hblank : ∀ c ∈ name.toList, Text.isBlank c = false := fun c hc =>
    isBlank_of_mem_safeCharacters (h.safe c hc)
  have htrim : (Text.trim name).toList = name.toList := by
    rw [Text.trim, String.toList_ofList]
    exact Text.stripWhile_eq_self (fun c hc => hblank c (List.mem_of_mem_head? hc))
      fun c hc => hblank c (List.mem_of_mem_getLast? hc)
  have hbase : baseName name = name.toList := by
    rw [baseName, htrim, flattenFrom_eq_self h.safe]
    exact Text.stripWhile_eq_self (fun c hc => isEdge_eq_false_iff.2 (h.first c hc))
      (isEdge_of_endsInPng hpng)
  have hne : name.toList.isEmpty = false := by
    obtain ⟨stem, ending, hsplit, hstem, -⟩ := h.ending
    simp [hsplit, hstem]
  simp only [safeName, hbase, hne, hpng, if_true, Bool.false_eq_true, if_false,
    String.ofList_toList]

/-- **Making names safe is a projection onto the names of pictures.** For every value that is given as
a name, what is made of it stays as it is when it is made safe once more. A text stays as it is exactly
if it consists of the characters `0-9`, `A-Z`, `a-z`, `.`, `_` and `-`, starts with neither a dot nor
an underscore, and ends with `.png` in any case. -/
theorem projects_safeNameOf :
    (∀ name : Value, safeNameOf (.str (safeNameOf name)) = safeNameOf name) ∧
    ∀ s : String, safeNameOf (.str s) = s ↔
      (∀ c ∈ s.toList, c ∈ safeCharacters) ∧ (∀ c ∈ s.toList.head?, c ≠ '.' ∧ c ≠ '_') ∧
        ∃ stem ending, s.toList = stem ++ ending ∧ ending.map Char.toLower = ".png".toList := by
  have htext (s : String) : safeNameOf (.str s) = safeName s := by
    rw [safeNameOf, Value.str_orElse_empty, Value.shown]
  refine ⟨fun name => ?_, fun s => ?_⟩
  · rw [htext, safeName_eq_self (isPictureName_safeNameOf name)]
  · rw [htext, ← isPictureName_iff]
    exact ⟨fun h => h ▸ isPictureName_safeName s, safeName_eq_self⟩

/-- What is left of `.png` once its dot has been taken off is no ending, and a name without any safe
character gets one that is left as it is. -/
example : (safeNameOf (.str ".png"), safeNameOf (.str "_.PNG "), safeNameOf (.str "ä/ö"),
    safeNameOf (.str "a.PnG")) = ("png.png", "PNG.png", "snapshot.png", "a.PnG") := by
  decide +kernel

end Snapshot

end SessionRecorder
