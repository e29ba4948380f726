import SessionRecorder.Proofs.KeyLabel
import SessionRecorder.Proofs.Session.Reached
/-!
# Keys that are typed

A key that goes up is typed if the log ends with its going down, and the session knows that by the
label alone. The last entry of the log is a key going down exactly if the last event that was
accepted is, and it has the label of that event. Since labels can be read in one way only, a key is
typed exactly if it was the last thing to go down, with the same modifiers that count.

## Main definitions

* `Session.acceptedOf` — the events that a session accepts while things happen to it.
* `Session.Tells` — a log whose last entry tells whether a key went down last.
* `Session.EndsWithPress` — a log that ends with a certain key going down.
* `KeyLabel.Sound` — a label that can be merged by.

## Main results

* `Session.tells_run` — the log of every session tells which key went down last.
* `KeyLabel.exists_sound` — labels are sound for merging.
-/

namespace SessionRecorder

/-- A key that goes down is called as keys are, with a collection of modifiers. -/
def Event.NamesKey : Event → Prop
  | .key .down k modifiers =>
    (∃ name, k = .str name ∧ KeyLabel.IsKey name) ∧ Modifier.IsCollection modifiers
  | _ => True

namespace Session

variable {d : Value} {s s' : Session} {turns : List Turn} {events : List Event}

/-! ## What was accepted -/

/-- The event that a session accepts when something happens to it, if it does. -/
def accepted? (d : Value) (s : Session) : Turn → Option Event
  | .event e =>
    match s.apply d e with
    | .ok o => if o.accepted then some e else none
    | .error _ => none
  | .switch _ => none

/-- The events that a session accepts while several things happen to it, in their order. -/
def acceptedOf (d : Value) (s : Session) : List Turn → List Event
  | [] => []
  | t :: rest => (s.accepted? d t).toList ++ (s.turn d t).acceptedOf d rest

/-- An event that is accepted has happened. -/
lemma mem_of_mem_acceptedOf {e : Event} (h : e ∈ s.acceptedOf d turns) : .event e ∈ turns := by
  induction turns generalizing s with
  | nil => cases h
  | cons t rest ih =>
    rcases List.mem_append.1 h with h | h
    · cases t with
      | event e' =>
        simp only [accepted?, Option.mem_toList] at h
        split at h
        next => simp_all
        next => cases h
      | switch => cases h
    · exact List.mem_cons_of_mem _ (ih h)

/-! ## The end of the log -/

/-- A log and the events that were accepted for it: the log ends with a key going down exactly if
the events do, and then with the label of that event. -/
structure Tells (log : List Entry) (events : List Event) : Prop where
  event : ∀ l, log.getLast? = some (.keyDown l) → ∃ key modifiers label,
    events.getLast? = some (.key .down key modifiers) ∧
      KeyLabel.make key modifiers = .ok label ∧ l = .str label
  entry : ∀ key modifiers, events.getLast? = some (.key .down key modifiers) →
    ∃ l, log.getLast? = some (.keyDown l)

/-- Whatever was accepted before, an event that is accepted is told by the log.

**Proof sketch.** One case for each rule: only that for a key going down leaves such an entry at the
end of the log. -/
lemma Accepts.tells {e : Event} (step : Accepts d s e s') (events : List Event) :
    Tells s'.log (events ++ [e]) := by
  cases step with
  | keyDown key modifiers label made =>
    refine ⟨fun l hl => ⟨key, modifiers, label, by simp, made, ?_⟩,
      fun _ _ _ => ⟨.str label, by simp⟩⟩
    simpa using hl.symm
  | _ => exact ⟨fun l hl => by simp at hl, fun key modifiers h => by simp at h⟩

/-- Something that happens to a session is told by the log, if it is accepted. -/
lemma Tells.turn (h : Tells s.log events) (t : Turn) :
    Tells (s.turn d t).log (events ++ (s.accepted? d t).toList) := by
  cases t with
  | event e =>
    cases happly : s.apply d e with
    | ok o =>
      simp only [Session.turn, accepted?, happly]
      have hfits := (fits_of_apply happly).1
      unfold Fits at hfits
      split at hfits
      next ha =>
        rw [if_pos ha]
        exact hfits.tells events
      next ha =>
        rw [if_neg ha, hfits]
        simpa using h
    | error f => simpa [Session.turn, accepted?, happly] using h
  | switch recording => simpa [Session.turn, accepted?] using h

/-- **The log of every session tells which key went down last**, if a key did. -/
lemma tells_run (d : Value) (turns : List Turn) :
    Tells (run d fresh turns).log (fresh.acceptedOf d turns) := by
  have hrun : ∀ s events, Tells s.log events →
      Tells (run d s turns).log (events ++ s.acceptedOf d turns) := by
    induction turns with
    | nil => exact fun s events h => by simpa [run, acceptedOf] using h
    | cons t rest ih =>
      intro s events h
      simpa [run, acceptedOf] using ih (s.turn d t) _ (h.turn t)
  exact hrun fresh [] ⟨fun l hl => by simp [fresh] at hl, fun key modifiers h => by simp at h⟩

/-- The log of a session ends with a key going down, which was recorded when a certain key went down
with certain modifiers. -/
def EndsWithPress (d : Value) (turns : List Turn) (key modifiers : Value) : Prop :=
  (∃ l, (run d fresh turns).log.getLast? = some (.keyDown l)) ∧
    (fresh.acceptedOf d turns).getLast? = some (.key .down key modifiers)

/-- The log ends with a key going down under a label if a key went down that has the label. -/
lemma endsInKeyDown_iff {label : String} :
    endsInKeyDown (run d fresh turns).log.getLast? label = true ↔
      ∃ key modifiers, EndsWithPress d turns key modifiers ∧
        KeyLabel.make key modifiers = .ok label := by
  have htells := tells_run d turns
  constructor
  · intro h
    unfold endsInKeyDown at h
    split at h
    next l hl =>
      obtain ⟨key, modifiers, label', hlast, made, rfl⟩ := htells.event l hl
      obtain rfl : label' = label := by simpa [Value.same] using h
      exact ⟨key, modifiers, ⟨⟨_, hl⟩, hlast⟩, made⟩
    next => cases h
  · rintro ⟨key, modifiers, ⟨⟨l, hl⟩, hlast⟩, made⟩
    obtain ⟨key', modifiers', label', hlast', made', rfl⟩ := htells.event l hl
    obtain ⟨-, rfl, rfl⟩ : KeyKind.down = .down ∧ key = key' ∧ modifiers = modifiers' := by
      simpa [hlast] using hlast'
    obtain rfl : label = label' := Except.ok.inj (made.symm.trans made')
    simp [hl, endsInKeyDown, Value.same]

/-- The log after a key has gone up, in a session that records. -/
lemma log_run_keyUp {key modifiers : Value} {label : String}
    (made : KeyLabel.make key modifiers = .ok label)
    (hrecording : (run d fresh turns).recording = true) :
    (run d fresh (turns ++ [.event (.key .up key modifiers)])).log =
      if endsInKeyDown (run d fresh turns).log.getLast? label then
        (run d fresh turns).log.dropLast ++ [.keyPress (.str label)]
      else (run d fresh turns).log ++ [.keyUp (.str label)] := by
  have hrun : run d fresh (turns ++ [.event (.key .up key modifiers)]) =
      (run d fresh turns).turn d (.event (.key .up key modifiers)) := by
    simp [run]
  have happly : (run d fresh turns).apply d (.key .up key modifiers) =
      .ok ((run d fresh turns).keyUp label) := by
    rw [Session.apply, if_pos hrecording, record, made]
    rfl
  rw [hrun, Session.turn, happly]
  dsimp only
  rw [keyUp, tail?]
  split <;> rfl

end Session

namespace KeyLabel

open Session

/-- A label of a key with modifiers that can be merged by. -/
structure Sound (key : String) (modifiers : Value) (label : String) : Prop where
  made : make (.str key) modifiers = .ok label
  /-- It lists the modifiers that count, in this order, before the key. -/
  spelled : ∃ ms : List Modifier, ms.Sublist [.alt, .ctrl, .metaKey, .shift] ∧
    (∀ m, m ∈ ms ↔ Effective key modifiers m) ∧
    label = "+".intercalate (ms.map Modifier.label ++ [key])
  /-- It is the label of this key with these modifiers that count, and of nothing else. -/
  apart : ∀ key' modifiers', IsKey key' → Modifier.IsCollection modifiers' →
    (make (.str key') modifiers' = .ok label ↔
      key' = key ∧ ∀ m, Effective key' modifiers' m ↔ Effective key modifiers m)
  /-- When the key goes up in a session that records, it is typed exactly if the log ends with its
  going down, with the same modifiers that count. -/
  typed : ∀ (d : Value) (turns : List Turn), (run d fresh turns).recording = true →
    (∀ e, .event e ∈ turns → e.NamesKey) →
    ((∃ modifiers', EndsWithPress d turns (.str key) modifiers' ∧
        ∀ m, Effective key modifiers' m ↔ Effective key modifiers m) ∧
      (run d fresh (turns ++ [.event (.key .up (.str key) modifiers)])).log =
        (run d fresh turns).log.dropLast ++ [.keyPress (.str label)]) ∨
    ((¬∃ modifiers', EndsWithPress d turns (.str key) modifiers' ∧
        ∀ m, Effective key modifiers' m ↔ Effective key modifiers m) ∧
      (run d fresh (turns ++ [.event (.key .up (.str key) modifiers)])).log =
        (run d fresh turns).log ++ [.keyUp (.str label)])

variable {key : String} {modifiers : Value} {label : String}

/-- A key that has the label and went down last is the key, with the same modifiers that count. -/
lemma exists_endsWithPress_iff {d : Value} {turns : List Turn} (hkey : IsKey key)
    (hmodifiers : Modifier.IsCollection modifiers) (made : make (.str key) modifiers = .ok label)
    (hturns : ∀ e, .event e ∈ turns → e.NamesKey) :
    (∃ key' modifiers', EndsWithPress d turns key' modifiers' ∧ make key' modifiers' = .ok label) ↔
      ∃ modifiers', EndsWithPress d turns (.str key) modifiers' ∧
        ∀ m, Effective key modifiers' m ↔ Effective key modifiers m := by
  have hnamed {key' modifiers'} (h : EndsWithPress d turns key' modifiers') :
      (Event.key .down key' modifiers').NamesKey :=
    hturns _ (mem_of_mem_acceptedOf (List.mem_of_getLast? h.2))
  constructor
  · rintro ⟨key', modifiers', hpress, made'⟩
    obtain ⟨⟨name, rfl, hname⟩, hcollection⟩ := hnamed hpress
    obtain ⟨rfl, hsame⟩ := (make_eq_ok_iff hkey hname hmodifiers hcollection made).1 made'
    exact ⟨modifiers', hpress, hsame⟩
  · rintro ⟨modifiers', hpress, hsame⟩
    refine ⟨.str key, modifiers', hpress, ?_⟩
    exact (make_eq_ok_iff hkey hkey hmodifiers (hnamed hpress).2 made).2 ⟨rfl, hsame⟩

/-- **Key labels are sound for merging.** A key, which is a plus sign or a text without any, has a
label with whatever modifiers it is pressed, however these are ordered, repeated and spelled: the
modifiers that count and are not the key itself, in a fixed order, and the key. Two labels are equal
exactly if the keys are, and the modifiers that count are the same; so a key that goes up is typed
exactly if the log ends with the same key going down with the same modifiers.

**Proof sketch.** The names of modifiers hold no plus sign, so the first one in a label ends such a
name, or it is the key; by induction on the modifiers, a label can be read in one way only. The last
entry of the log is a key going down exactly if the last accepted event is, whatever has happened
to the session, and then it has the label of that event. -/
theorem exists_sound (hkey : IsKey key) (hmodifiers : Modifier.IsCollection modifiers) :
    ∃ label, Sound key modifiers label := by
  obtain ⟨ms, hms, hmem, made⟩ := make_eq key hmodifiers
  refine ⟨joined ms key, made, ⟨ms, hms, hmem, rfl⟩, ?_, ?_⟩
  · exact fun key' modifiers' hkey' hmodifiers' =>
      make_eq_ok_iff hkey hkey' hmodifiers hmodifiers' made
  · intro d turns hrecording hturns
    rw [log_run_keyUp made hrecording,
      ← exists_endsWithPress_iff hkey hmodifiers made hturns, ← endsInKeyDown_iff]
    cases endsInKeyDown (run d fresh turns).log.getLast? (joined ms key) <;> simp

/-- Modifiers that are spelled in various ways, with a name that stands for none. -/
def heldLoosely : Value :=
  .list [.str " ShiftKey", .str "hyper", .str "CONTROL ", .str "shift"]

/-- The plus sign, pressed with them. -/
theorem sound_plusSign : IsKey "+" ∧ Modifier.IsCollection heldLoosely ∧
    make (.str "+") heldLoosely = .ok "Ctrl+Shift++" ∧ Sound "+" heldLoosely "Ctrl+Shift++" := by
  have hkey : IsKey "+" := .inl rfl
  have hmodifiers : Modifier.IsCollection heldLoosely := .inr rfl
  have made : make (.str "+") heldLoosely = .ok "Ctrl+Shift++" := rfl
  obtain ⟨label, hsound⟩ := exists_sound hkey hmodifiers
  obtain rfl : label = "Ctrl+Shift++" := Except.ok.inj (hsound.made.symm.trans made)
  exact ⟨hkey, hmodifiers, made, hsound⟩

example : make (.str "Control") heldLoosely = .ok "Shift+Control" := rfl

end KeyLabel

end SessionRecorder
