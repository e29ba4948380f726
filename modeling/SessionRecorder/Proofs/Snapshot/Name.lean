import SessionRecorder.Proofs.Json.Number
import SessionRecorder.Proofs.Snapshot.Store
/-!
# Names of screenshots

A name that a caller gives, and a name that is made of a number, lead to a file in the directory of
the screenshots, whatever the caller gives: they hold no slash, they are not the dots that lead
elsewhere, and they have the ending of a picture. Names that are made of different numbers are
different.

## Main definitions

* `Snapshot.IsPictureName` — a name for the file of a picture.

## Main results

* `Snapshot.isPictureName_safeNameOf`, `Snapshot.isPictureName_automaticName` — names of
  screenshots are such names.
* `Snapshot.IsPictureName.location_child` — they lead to a file in the directory.
* `Snapshot.automaticName_inj` — numbers are told apart by their names.
-/

namespace SessionRecorder

namespace Text

variable {p : Char → Bool} {cs : List Char}

/-- What is left after characters have been taken off the end is the front. -/
lemma dropEndWhile_prefix (p : Char → Bool) (cs : List Char) : dropEndWhile p cs <+: cs := by
  rw [dropEndWhile, ← List.reverse_suffix, List.reverse_reverse]
  exact List.dropWhile_suffix p

/-- Where characters have been taken off both ends, none of them is left at the start. -/
lemma head?_stripWhile {c : Char} (h : c ∈ (stripWhile p cs).head?) : p c = false := by
  obtain ⟨taken, htaken⟩ := dropEndWhile_prefix p (cs.dropWhile p)
  have hhead : (cs.dropWhile p).head? = some c := by
    rw [← htaken, List.head?_append, ← stripWhile, Option.mem_def.1 h, Option.some_or]
  have hnot := List.head?_dropWhile_not p cs
  rw [hhead] at hnot
  exact hnot

end Text

namespace Snapshot

variable {name : String} {c : Char}

/-! ## Pictures -/

/-- The characters that may stand in a name. -/
def safeCharacters : List Char :=
  "0123456789ABCDEFGHIJKLMNOPQRSTUVWXYZabcdefghijklmnopqrstuvwxyz._-".toList

/-- A name for the file of a picture: it consists of safe characters, starts neither with a dot nor
with an underscore, and ends with `.png`, in any case, after at least one more character. -/
structure IsPictureName (name : String) : Prop where
  safe : ∀ c ∈ name.toList, c ∈ safeCharacters
  first : ∀ c ∈ name.toList.head?, c ≠ '.' ∧ c ≠ '_'
  ending : ∃ stem ending, name.toList = stem ++ ending ∧ stem ≠ [] ∧
    ending.map Char.toLower = ".png".toList

/-- The characters that are left as they are. -/
lemma mem_safeCharacters (h : isSafe c = true) : c ∈ safeCharacters := by
  have hall : ∀ n < 128, isSafe (Char.ofNat n) = true → Char.ofNat n ∈ safeCharacters := by
    decide +kernel
  have hsmall : c.toNat < 128 := by
    unfold isSafe at h
    delta Char.isAlpha Char.isUpper Char.isLower at h
    simp only [Char.isDigit, Bool.or_eq_true, Bool.and_eq_true, decide_eq_true_eq, beq_iff_eq,
      UInt32.le_iff_toNat_le, ge_iff_le] at h
    have hc : c.toNat = c.val.toNat := rfl
    have hdigit : '9'.val.toNat = 57 := rfl
    have hupper : 'Z'.val.toNat = 90 := rfl
    have hlower : 'z'.val.toNat = 122 := rfl
    rcases h with (((h | h | h) | rfl) | rfl) | rfl
    · omega
    · omega
    · omega
    all_goals decide
  have hc := hall c.toNat hsmall
  rw [Char.ofNat_toNat] at hc
  exact hc h

/-- No edge of a name stands at its start. -/
lemma isEdge_eq_false_iff : isEdge c = false ↔ c ≠ '.' ∧ c ≠ '_' := by
  simp [isEdge]

/-- Of the characters that may stand in a name, only the dot becomes a dot in lower case. -/
lemma eq_dot_of_toLower (hsafe : isSafe c = true) (h : c.toLower = '.') : c = '.' := by
  have hall : (safeCharacters.all fun c => c.toLower != '.' || c == '.') = true := by decide
  simpa [h] using List.all_eq_true.1 hall c (mem_safeCharacters hsafe)

/-- A name that is taken from a base: the base holds safe characters and starts with none that is
taken off its ends. -/
lemma isPictureName_of_base {base ending : List Char}
    (hsafe : ∀ c ∈ base ++ ending, isSafe c = true)
    (hfirst : ∀ c ∈ base.head?, isEdge c = false) (hbase : base ≠ [])
    (hending : ending.map Char.toLower = ".png".toList) :
    IsPictureName (String.ofList (base ++ ending)) where
  safe c hc := mem_safeCharacters (hsafe c (by simpa using hc))
  first c hc := by
    rw [String.toList_ofList, List.head?_append_of_ne_nil _ hbase] at hc
    exact isEdge_eq_false_iff.1 (hfirst c hc)
  ending := ⟨base, ending, String.toList_ofList, hbase, hending⟩

/-- A base that ends in `.png` is something in front of it. -/
lemma exists_of_endsInPng {base : List Char} (h : endsInPng base = true) :
    ∃ stem ending, base = stem ++ ending ∧ ending.map Char.toLower = ".png".toList := by
  unfold endsInPng at h
  split at h
  next rest hrev =>
    refine ⟨base.take (base.length - 4), base.drop (base.length - 4), ?_, ?_⟩
    · exact (List.take_append_drop _ _).symm
    · have hlast : (base.reverse.take 4).map Char.toLower = ['g', 'n', 'p', '.'] := by
        rw [List.map_take, hrev]
        rfl
      rw [← List.reverse_inj, ← List.map_reverse, ← List.take_reverse, hlast]
      rfl
  next => cases h

/-- Something stands before the ending of a name that does not start with its dot. -/
lemma stem_ne_nil {stem ending : List Char} (hsafe : ∀ c ∈ stem ++ ending, isSafe c = true)
    (hfirst : ∀ c ∈ (stem ++ ending).head?, isEdge c = false)
    (hending : ending.map Char.toLower = ".png".toList) : stem ≠ [] := by
  rintro rfl
  obtain ⟨c, rest, rfl, hlower, -⟩ := List.map_eq_cons_iff.1 hending
  have hdot : c = '.' := eq_dot_of_toLower (hsafe c (by simp)) hlower
  have hedge := hfirst c rfl
  rw [hdot] at hedge
  cases hedge

/-- **A name that is made safe is the name of a picture.** -/
lemma isPictureName_safeName (name : String) : IsPictureName (safeName name) := by
  have hfirst : ∀ c ∈ (baseName name).head?, isEdge c = false := fun _ => Text.head?_stripWhile
  have hsafe : ∀ c ∈ (safeName name).toList, isSafe c = true := fun _ => isSafe_of_mem_safeName
  rw [safeName] at hsafe ⊢
  split at hsafe
  next hempty =>
    have hname : "snapshot.png" = String.ofList ("snapshot".toList ++ ".png".toList) := by decide
    rw [if_pos hempty, hname]
    have hfirst : isEdge 's' = false := by decide
    exact isPictureName_of_base (List.all_eq_true.1 (by decide)) (by simpa using hfirst) (by decide)
      (by decide)
  next hempty =>
    rw [if_neg hempty]
    have hbase : baseName name ≠ [] := by simpa using hempty
    split at hsafe
    next hpng =>
      rw [if_pos hpng]
      obtain ⟨stem, ending, hsplit, hending⟩ := exists_of_endsInPng hpng
      rw [String.toList_ofList] at hsafe
      rw [hsplit] at hsafe hfirst ⊢
      have hstem : stem ≠ [] := stem_ne_nil hsafe hfirst hending
      rw [List.head?_append_of_ne_nil _ hstem] at hfirst
      exact isPictureName_of_base hsafe hfirst hstem hending
    next hpng =>
      rw [if_neg hpng]
      rw [String.toList_ofList] at hsafe
      exact isPictureName_of_base hsafe hfirst hbase (by decide)

/-- A name that is made of a value is the name of a picture. -/
lemma isPictureName_safeNameOf (name : Value) : IsPictureName (safeNameOf name) :=
  isPictureName_safeName _

/-- **A name that is made of a number is the name of a picture.** -/
lemma isPictureName_automaticName (n : ℤ) : IsPictureName (automaticName n) := by
  have hsafe : ∀ c ∈ (automaticName n).toList, isSafe c = true := fun _ =>
    isSafe_of_mem_automaticName
  have hname : automaticName n = String.ofList (("codegen-" ++ Value.showInt (max n 1)).toList ++
      ".png".toList) := by
    rw [← String.toList_append, String.ofList_toList, automaticName]
  rw [hname] at hsafe ⊢
  rw [String.toList_ofList] at hsafe
  refine isPictureName_of_base hsafe ?_ ?_ (by decide)
  · have hfirst : isEdge 'c' = false := by decide
    rw [String.toList_append, List.head?_append_of_ne_nil _ (by decide)]
    simpa using hfirst
  · rw [String.toList_append]
    exact List.append_ne_nil_of_left_ne_nil (by decide) _

end Snapshot

/-! ## Where the names lead -/

namespace Path

variable {here : Location} {p : Path} {s : String}

/-- Characters without a slash are one piece. -/
lemma splitSlashes_of_not_mem {part cs : List Char} (h : '/' ∉ cs) :
    splitSlashes part cs = [part.reverse ++ cs] := by
  induction cs generalizing part with
  | nil => simp [splitSlashes]
  | cons c cs ih =>
    obtain ⟨hc, hcs⟩ := List.ne_and_not_mem_of_not_mem_cons h
    rw [splitSlashes, if_neg (by simpa using hc.symm), ih hcs]
    simp

/-- A path goes on with a text that is one part. -/
lemma child_of_isSubstantial (hslash : '/' ∉ s.toList) (hs : isSubstantial s.toList = true) :
    p.child s = { p with parts := p.parts ++ [s] } := by
  have hanchor : anchorOf s.toList = .relative := by
    unfold anchorOf
    split
    next h => simp [h] at hslash
    next h => simp [h] at hslash
    next h => simp [h] at hslash
    next => rfl
  have hparts : partsOf s.toList = [s] := by
    simp [partsOf, splitSlashes_of_not_mem hslash, hs]
  rw [child, parse, hanchor, hparts]
  rfl

/-- A part that is no double dot is added to the others. -/
lemma plainParts_append {before parts : List String} (hs : s ≠ "..") :
    plainParts before (parts ++ [s]) = plainParts before parts ++ [s] := by
  induction parts generalizing before with
  | nil => simp [plainParts, hs]
  | cons part rest ih =>
    rw [List.cons_append, plainParts, plainParts]
    split
    next => exact ih
    next => exact ih

end Path

namespace Snapshot

variable {name : String}

/-- **The name of a picture leads to a file in the directory itself.** -/
lemma IsPictureName.location_child (h : IsPictureName name) (p : Path) (here : Location) :
    (p.child name).location here = p.location here ++ [name] := by
  obtain ⟨stem, ending, hsplit, hstem, -⟩ := h.ending
  obtain ⟨c, rest, hcons⟩ := List.exists_cons_of_ne_nil hstem
  have hname : name.toList = c :: (rest ++ ending) := by rw [hsplit, hcons, List.cons_append]
  have hdot : c ≠ '.' := (h.first c (by simp [hname])).1
  have hslash : '/' ∉ name.toList := fun hmem => absurd (h.safe _ hmem) (by decide)
  have hone : Path.isSubstantial name.toList = true := by simp [Path.isSubstantial, hname, hdot]
  have hdots : name ≠ ".." := by
    rintro rfl
    exact hdot (List.cons.inj hname).1.symm
  rw [Path.child_of_isSubstantial hslash hone, Path.location, Path.plainParts_append hdots]
  rfl

/-! ## Names that are different -/

/-- **Numbers are told apart by their names.** -/
lemma automaticName_inj {m n : ℕ} (hm : 0 < m) (hn : 0 < n)
    (h : automaticName m = automaticName n) : m = n := by
  have hdigits {k : ℕ} (hk : 0 < k) : (automaticName k).toList =
      "codegen-".toList ++ Binary64.digitChars k ++ ".png".toList := by
    have hmax : max (k : ℤ) 1 = k := by omega
    have hsign : decide ((k : ℤ) < 0) = false := by simp
    rw [automaticName, hmax, String.toList_append, String.toList_append, Value.showInt, hsign]
    simp [Binary64.withSign]
  have hlists := congrArg String.toList h
  rw [hdigits hm, hdigits hn] at hlists
  have hsame := List.append_cancel_left (List.append_cancel_right hlists)
  rw [← Numeral.digitsValue_digitChars m, hsame, Numeral.digitsValue_digitChars]

end Snapshot

end SessionRecorder
