import Mathlib.Data.List.Basic
import SessionRecorder.Entry
import SessionRecorder.Proofs.Json.Number
import SessionRecorder.Proofs.Result
import SessionRecorder.Proofs.Value
/-!
# Records of entries

A record describes an entry if it names a kind and has the fields that an entry of the kind must
have; nothing is asked of their values, and other fields are passed over. The record of that entry
is the same record in a fixed form: its kind, the fields of the kind and nothing else, with the
values that were given and defaults in place of those that were not. Only of a region that is a
record itself, no more than the rectangle is kept. A record of this form describes the entry that
it is the record of, so it does not change when it is loaded again.

## Main definitions

* `Region.IsLoaded`, `Entry.IsLoaded` — regions and entries as they come of records.
* `Entry.Keeps` — a value that was given for a field, and what is written for it.
* `Entry.Completes` — a record in the form of its kind.
* `Entry.rewritten` — a record that is loaded and written again.

## Main results

* `Signature.arguments_of_bind` — the arguments of a call, one by one.
* `Entry.Kind.eq_str_of_ofName?` — only a text names a kind.
* `Entry.exists_of_ofRecord` — what a record that describes an entry is made of.
* `Entry.ofRecord_toRecord` — an entry that comes of a record is what its record describes.
* `Entry.completes_of_rewritten` — what is written for a record that was loaded.
-/

namespace SessionRecorder

/-! ## Calls -/

namespace Signature

variable {sig : Signature} {given arguments : List (String × Value)} {name : String}

/-- The names of all parameters. -/
def names (sig : Signature) : List String :=
  sig.required ++ sig.optional.map (·.1)

/-- What stands for a parameter in a call: what is given, or else its default. -/
def value (sig : Signature) (given : List (String × Value)) (name : String) : Value :=
  Value.fieldOr given name (Value.fieldOr sig.optional name .none)

/-- **The arguments of a call, one by one**: all that must be given are, and for each parameter
there is what is given or its default. -/
lemma arguments_of_bind (hnames : (sig.optional.map (·.1)).Nodup)
    (h : sig.bind given = .ok arguments) :
    (∀ name ∈ sig.required, Value.lookup? name given ≠ none) ∧
      arguments = sig.names.map fun name => (name, sig.value given name) := by
  unfold bind at h
  split at h
  next => cases h
  next =>
    dsimp only at h
    split at h
    next hmissing =>
      obtain rfl := Except.ok.inj h
      have hgiven : ∀ name ∈ sig.required, Value.lookup? name given ≠ none := by
        simpa [List.filter_eq_nil_iff] using hmissing
      have hrequired : ∀ name ∈ sig.required,
          (Value.lookup? name given).map (name, ·) = some (name, sig.value given name) := by
        intro name hname
        obtain ⟨v, hv⟩ := Option.ne_none_iff_exists'.1 (hgiven name hname)
        simp [value, Value.fieldOr, hv]
      have hoptional : ∀ p ∈ sig.optional, argument given p = (p.1, sig.value given p.1) := by
        intro p hp
        simp [argument, value, Value.fieldOr, Value.lookup?_of_mem hnames hp]
      refine ⟨hgiven, ?_⟩
      rw [names, List.map_append, List.map_map,
        List.filterMap_eq_map_iff_forall_eq_some.2 hrequired, List.map_congr_left hoptional]
      rfl
    next => cases h

end Signature

/-! ## Regions -/

namespace Region

variable {r : Region} {v : Value}

/-- A region as it comes of a value: if it is a record, it is a rectangle. -/
def IsLoaded : Region → Prop
  | .other (.dict _) => False
  | _ => True

/-- What comes of a value is loaded. -/
lemma isLoaded_of_ofValue (h : ofValue v = .ok r) : r.IsLoaded := by
  cases v with
  | dict fields =>
    obtain ⟨rect, -, rfl⟩ := exists_of_map h
    exact True.intro
  | _ =>
    obtain rfl := Except.ok.inj h
    exact True.intro

/-- A value for a region, and what is written for it: of a record the members of a rectangle, and
any other value as it is. -/
inductive Keeps : Value → Value → Prop
  | rect {given : List (String × Value)} {x y width height : Value}
      (hx : Value.lookup? "x" given = some x) (hy : Value.lookup? "y" given = some y)
      (hwidth : Value.lookup? "width" given = some width)
      (hheight : Value.lookup? "height" given = some height) :
      Keeps (.dict given) (.dict [("x", x), ("y", y), ("width", width), ("height", height)])
  | other {v : Value} (h : ∀ given, v ≠ .dict given) : Keeps v v

/-- **What is written for the region that comes of a value.** -/
lemma keeps_of_ofValue (h : ofValue v = .ok r) : Keeps v r.toValue := by
  cases v with
  | dict given =>
    have hmember {name : String} {w : Value} (hw : Rect.member (.dict given) name = .ok w) :
        Value.lookup? name given = some w := by
      unfold Rect.member at hw
      dsimp only at hw
      split at hw
      next hfound => rw [hfound, Except.ok.inj hw]
      next => cases hw
    obtain ⟨rect, hrect, rfl⟩ := exists_of_map h
    obtain ⟨x, hx, hrect⟩ := exists_of_bind hrect
    obtain ⟨y, hy, hrect⟩ := exists_of_bind hrect
    obtain ⟨width, hwidth, hrect⟩ := exists_of_bind hrect
    obtain ⟨height, hheight, hrect⟩ := exists_of_bind hrect
    obtain rfl := Except.ok.inj hrect
    exact .rect (hmember hx) (hmember hy) (hmember hwidth) (hmember hheight)
  | _ =>
    obtain rfl := Except.ok.inj h
    exact .other fun _ h => by cases h

end Region

/-! ## Digits of numbers -/

namespace Binary64

/-- A natural number is spelled with a digit. -/
lemma exists_isDigit_digitChars (n : ℕ) : ∃ c ∈ digitChars n, c.isDigit = true := by
  obtain ⟨c, ds, hds, hdigit⟩ := Json.exists_digitChars n
  exact ⟨c, hds ▸ List.mem_cons_self, hdigit⟩

/-- The digits of a magnitude stand in its scientific notation. -/
lemma digitChars_subset_scientific (style : NumberStyle) (x : Decimal) :
    digitChars x.digits ⊆ scientific style x := by
  unfold scientific
  dsimp only
  split
  next hds => simp [hds]
  next d hds => simp [hds]
  next d ds _ hds =>
    rw [hds, List.cons_append]
    exact List.cons_subset_cons d (List.subset_cons_of_subset '.' (List.subset_append_left ds _))

/-- The digits of a magnitude stand in its positional notation. -/
lemma digitChars_subset_positional (x : Decimal) : digitChars x.digits ⊆ positional x := by
  unfold positional
  dsimp only
  split
  next => exact List.subset_append_right _ _
  next =>
    split
    next =>
      rw [List.append_assoc]
      exact List.subset_append_left _ _
    next =>
      -- the point stands among the digits
      intro c hc
      rw [← List.take_append_drop x.point.toNat (digitChars x.digits), List.mem_append] at hc
      simp only [List.mem_append]
      exact hc.imp_left .inl

/-- A magnitude is spelled with a digit. -/
lemma exists_isDigit_formatDecimal (style : NumberStyle) (x : Decimal) :
    ∃ c ∈ formatDecimal style x, c.isDigit = true := by
  obtain ⟨c, hc, hdigit⟩ := exists_isDigit_digitChars x.digits
  refine ⟨c, ?_, hdigit⟩
  unfold formatDecimal
  split
  next => exact digitChars_subset_scientific style x hc
  next => exact digitChars_subset_positional x hc

end Binary64

/-! ## Kinds -/

namespace Entry

namespace Kind

variable {k : Kind} {v : Value}

/-- A value that is no text is not displayed like the name of a kind: those are not words for
values, hold no digit, and do not begin like what stands in quotes or brackets. -/
lemma display_ne_name (hv : ∀ s, v ≠ .str s) (k : Kind) : v.display ≠ k.name := by
  have hdigits : (k.name.toList.all fun c => !c.isDigit) = true := by cases k <;> decide
  have hsigned {s : Bool} {cs : List Char} (hcs : ∃ c ∈ cs, c.isDigit = true) :
      String.ofList (Binary64.withSign s cs) ≠ k.name := by
    obtain ⟨c, hc, hdigit⟩ := hcs
    intro h
    have hmem : c ∈ k.name.toList := by
      rw [← h, String.toList_ofList]
      cases s <;> simp [Binary64.withSign, hc]
    simpa [hdigit] using List.all_eq_true.1 hdigits c hmem
  have hopening {s : String} (hs : s.toList.head? ∈ [some 'b', some '[', some '\x7b']) :
      s ≠ k.name := by
    rintro rfl
    revert hs
    cases k <;> decide
  cases v with
  | none => cases k <;> decide
  | bool b => cases b <;> cases k <;> decide
  | int i => exact hsigned (Binary64.exists_isDigit_digitChars _)
  | float x =>
    cases x with
    | nan => cases k <;> decide
    | infinite s => cases s <;> cases k <;> decide
    | finite s m p valid => exact hsigned (Binary64.exists_isDigit_formatDecimal _ _)
  | str s => exact absurd rfl (hv s)
  | bytes b => exact hopening (by simp [Value.display, Text.quotedOctets])
  | list items => exact hopening (by simp [Value.display])
  | dict fields => exact hopening (by simp [Value.display])

/-- **Only a text names a kind.** -/
lemma eq_str_of_ofName? (h : ofName? v.shown = some k) : v = .str k.name := by
  have hname : k.name = v.shown := by simpa using List.find?_some h
  by_cases hv : ∃ s, v = .str s
  · obtain ⟨s, rfl⟩ := hv
    rw [hname, Value.shown]
  · rw [not_exists] at hv
    cases v with
    | str s => exact absurd rfl (hv s)
    | _ => exact absurd hname.symm (display_ne_name hv k)

/-- No two fields with a default have one name. -/
lemma nodup_optional (k : Kind) : (k.signature.optional.map (·.1)).Nodup := by
  cases k <;> decide

/-- No field is called like the kind. -/
lemma kind_notMem_names (k : Kind) : "kind" ∉ k.signature.names := by
  cases k <;> decide

/-- The names of the fields of a kind are those that it has. -/
lemma has_iff_mem_names {name : String} :
    k.signature.has name = true ↔ name ∈ k.signature.names := by
  simp [Signature.has, Signature.names]

end Kind

variable {k : Kind} {d : Value} {e : Entry} {given : List (String × Value)} {name : String}
  {region : Region} {get get' : String → Value}

/-! ## Fields -/

/-- The entry with given fields is of the given kind. -/
@[simp] lemma kind_ofFields (k : Kind) (get : String → Value) (region : Region) :
    (ofFields k get region).kind = k := by
  cases k <;> rfl

/-- An entry consists of the fields of its kind. -/
lemma ofFields_congr (h : ∀ name ∈ k.signature.names, get name = get' name) (region : Region) :
    ofFields k get region = ofFields k get' region := by
  cases k <;> simp_all [ofFields, Kind.signature, Signature.names, Kind.required, Kind.optional]

/-- The fields of an entry are those of its kind, in order. -/
lemma fields_ofFields (k : Kind) (get : String → Value) (region : Region) :
    (ofFields k get region).fields = k.signature.names.map fun name =>
      (name, if name = "region" then region.toValue else get name) := by
  cases k <;>
    simp [ofFields, fields, Kind.signature, Signature.names, Kind.required, Kind.optional]

/-! ## Entries of records -/

/-- An entry as it comes of a record: its region, if it has one, is loaded. -/
def IsLoaded : Entry → Prop
  | .screenshot _ _ region => region.IsLoaded
  | _ => True

/-- **An entry that comes of a record is what its record describes.** -/
lemma ofRecord_toRecord (he : e.IsLoaded) : ofRecord e.toRecord = .ok e := by
  cases e with
  | screenshot name locator region =>
    cases region with
    | rect r => rfl
    | other v =>
      cases v with
      | dict fields => exact he.elim
      | _ => rfl
  | _ => rfl

/-- A record that names a kind has the name as a text. -/
lemma lookup?_kind (h : Kind.ofName? (Value.fieldOr given "kind" .none).shown = some k) :
    Value.lookup? "kind" given = some (.str k.name) := by
  have hkind := Kind.eq_str_of_ofName? h
  unfold Value.fieldOr at hkind
  cases hfound : Value.lookup? "kind" given with
  | none =>
    rw [hfound] at hkind
    cases hkind
  | some v =>
    rw [hfound] at hkind
    exact congrArg some hkind

/-- **What a record that describes an entry is made of**: it names the kind of the entry, it has the
fields that an entry of the kind must have, and the fields of the entry are those of the record or
defaults. -/
lemma exists_of_ofRecord (h : ofRecord d = .ok e) : ∃ given region,
    d = .dict given ∧ Value.lookup? "kind" given = some (.str e.kind.name) ∧
      (∀ name ∈ e.kind.required, Value.lookup? name given ≠ none) ∧
      regionOf e.kind given = .ok region ∧
      e = ofFields e.kind (e.kind.signature.value given) region := by
  obtain ⟨given, hgiven, h⟩ := exists_of_bind h
  have hd : d = .dict given := by
    cases d with
    | dict fields => rw [Except.ok.inj hgiven]
    | _ => cases hgiven
  dsimp only at h
  split at h
  next => cases h
  next k hkind =>
    obtain ⟨region, hregion, h⟩ := exists_of_bind h
    obtain ⟨arguments, hbind, h⟩ := exists_of_bind h
    obtain rfl := Except.ok.inj h
    obtain ⟨hrequired, harguments⟩ := Signature.arguments_of_bind k.nodup_optional hbind
    have hfound : ∀ name ∈ k.signature.names, Value.lookup? name
        (given.filter fun field => k.signature.has field.1) = Value.lookup? name given :=
      fun name hname => Value.lookup?_filter fun _ => Kind.has_iff_mem_names.2 hname
    have hvalue : ∀ name ∈ k.signature.names,
        Value.fieldOr arguments name .none = k.signature.value given name := by
      intro name hname
      rw [harguments, Value.fieldOr, Value.lookup?_map _ hname, Signature.value, Value.fieldOr,
        hfound name hname]
      rfl
    refine ⟨given, region, hd, ?_⟩
    simp only [kind_ofFields]
    refine ⟨lookup?_kind hkind, fun name hname => ?_, hregion, ofFields_congr hvalue region⟩
    rw [← hfound name (List.mem_append_left _ hname)]
    exact hrequired name hname

/-- **An entry that a record describes is loaded.** -/
lemma isLoaded_of_ofRecord (h : ofRecord d = .ok e) : e.IsLoaded := by
  obtain ⟨given, region, -, -, -, hregion, he⟩ := exists_of_ofRecord h
  rw [he]
  cases hk : e.kind with
  | screenshot =>
    rw [hk] at hregion
    exact Region.isLoaded_of_ofValue hregion
  | _ => exact True.intro

/-! ## Records in the form of their kind -/

/-- A value that was given for a field, and what is written for it: of a region what is kept of it,
and of any other field the value itself. -/
def Keeps (name : String) (v w : Value) : Prop :=
  if name = "region" then Region.Keeps v w else w = v

/-- A record in the form of its kind, next to one that describes an entry of that kind. -/
structure Completes (kind : Kind) (given written : List (String × Value)) : Prop where
  names : written.map (·.1) = "kind" :: kind.signature.names
  kind_given : Value.lookup? "kind" given = some (.str kind.name)
  kind_written : Value.lookup? "kind" written = some (.str kind.name)
  kept : ∀ name ∈ kind.signature.names, ∀ v, Value.lookup? name given = some v →
    ∃ w, Value.lookup? name written = some w ∧ Keeps name v w
  filled : ∀ name ∈ kind.signature.names, Value.lookup? name given = none →
    ∃ w, (name, w) ∈ kind.optional ∧ Value.lookup? name written = some w

namespace Kind

/-- Only a screenshot has a region. -/
lemma eq_screenshot (h : "region" ∈ k.signature.names) : k = .screenshot := by
  revert h
  cases k <;> decide

/-- What stands in the place of a field is kept as it is. -/
lemma eq_of_keeps_optional {v w : Value} (h : (name, v) ∈ k.optional) (hw : Keeps name v w) :
    w = v := by
  unfold Keeps at hw
  split at hw
  next hregion =>
    subst hregion
    have hv : v = .none := by
      revert h
      cases k <;> simp [optional]
    subst hv
    cases hw
    rfl
  next => exact hw

end Kind

/-- What is written for the fields of an entry that comes of a record. -/
lemma keeps_value (hregion : regionOf k given = .ok region) (hname : name ∈ k.signature.names) :
    Keeps name (k.signature.value given name)
      (if name = "region" then region.toValue else k.signature.value given name) := by
  unfold Keeps
  split
  next hr =>
    subst hr
    obtain rfl := Kind.eq_screenshot hname
    exact Region.keeps_of_ofValue hregion
  next => rfl

/-- **The record of an entry that comes of a record has the form of its kind.** -/
lemma completes_of_ofRecord (h : ofRecord d = .ok e) : ∃ given written,
    d = .dict given ∧ e.toRecord = .dict written ∧ Completes e.kind given written := by
  obtain ⟨given, region, hd, hkind, hrequired, hregion, he⟩ := exists_of_ofRecord h
  refine ⟨given, _, hd, rfl, ?_⟩
  generalize e.kind = k at *
  subst he
  rw [fields_ofFields]
  have hwritten {name : String} (hname : name ∈ k.signature.names) : ∃ w,
      Value.lookup? name (("kind", .str k.name) :: k.signature.names.map fun name =>
        (name, if name = "region" then region.toValue else k.signature.value given name)) =
          some w ∧
      Keeps name (k.signature.value given name) w := by
    have hne : "kind" ≠ name := by
      rintro rfl
      exact k.kind_notMem_names hname
    refine ⟨_, ?_, keeps_value hregion hname⟩
    rw [Value.lookup?, if_neg (by simpa using hne), Value.lookup?_map _ hname]
  refine ⟨by simp [Function.comp_def], hkind, rfl, fun name hname v hv => ?_,
    fun name hname hv => ?_⟩
  · have hvalue : k.signature.value given name = v := by
      rw [Signature.value, Value.fieldOr, hv, Option.getD_some]
    exact hvalue ▸ hwritten hname
  · have hoptional : name ∈ k.optional.map (·.1) :=
      (List.mem_append.1 hname).resolve_left fun h => hrequired name h hv
    obtain ⟨default, hmem⟩ : ∃ default, (name, default) ∈ k.optional := by simpa using hoptional
    have hvalue : k.signature.value given name = default := by
      rw [Signature.value, Value.fieldOr, hv, Option.getD_none, Value.fieldOr,
        Value.lookup?_of_mem k.nodup_optional hmem, Option.getD_some]
    obtain ⟨w, hw, hkeeps⟩ := hwritten hname
    rw [hvalue] at hkeeps
    obtain rfl := Kind.eq_of_keeps_optional hmem hkeeps
    exact ⟨w, hmem, hw⟩

/-- A record that is loaded and written again. -/
def rewritten (d : Value) : Except Fault Value :=
  (ofRecord d).map toRecord

/-- **What is written for a record that was loaded.** Whatever the record holds, what is written is
loaded again and written as it is. It has the name of its kind and the fields of the kind and no
others. A field that was given keeps its value, or of a record for a region the members of the
rectangle, and one that was not has its default.

What is loaded describes an entry whose region is a rectangle or no record, and of such an entry
nothing is lost in its record. That the fields are those of the kind is seen once for all kinds,
from the call that makes the entry. -/
theorem completes_of_rewritten {r : Value} (h : rewritten d = .ok r) :
    rewritten r = .ok r ∧ ∃ kind given written,
      d = .dict given ∧ r = .dict written ∧ Completes kind given written := by
  obtain ⟨e, he, rfl⟩ := exists_of_map h
  refine ⟨?_, e.kind, completes_of_ofRecord he⟩
  rw [rewritten, ofRecord_toRecord (isLoaded_of_ofRecord he)]
  rfl

/-- A record of a screenshot with fields that no screenshot has, without a locator, and with a
record for its region whose members are not all numbers. -/
def crowded : List (String × Value) :=
  [("region", .dict [("width", .str "wide"), ("x", .none), ("depth", .int 3), ("y", .list [.int 1]),
      ("height", .bool true)]),
    ("kind", .str "screenshot"), ("steps", .int 2), ("name", .dict [("x", .int 0)])]

/-- The record of the screenshot alone. -/
def uncrowded : List (String × Value) :=
  [("kind", .str "screenshot"), ("name", .dict [("x", .int 0)]), ("locator", .str ""),
    ("region", .dict [("x", .none), ("y", .list [.int 1]), ("width", .str "wide"),
      ("height", .bool true)])]

theorem completes_crowded : rewritten (.dict crowded) = .ok (.dict uncrowded) ∧
    rewritten (.dict uncrowded) = .ok (.dict uncrowded) ∧ ∃ kind given written,
      Value.dict crowded = .dict given ∧ Value.dict uncrowded = .dict written ∧
        Completes kind given written :=
  ⟨rfl, completes_of_rewritten rfl⟩

end Entry

end SessionRecorder
