import Mathlib.Order.Defs.Unbundled
import Mathlib.Tactic.Common
import SessionRecorder.Workspace
/-!
# What procedures yield

A procedure from a state on yields a result, or a fault, and a state. What holds of these follows
the way in which the procedure is put together.

## Main definitions

* `Procedure.Yields` — what holds of the result of a procedure and of the state after it.
* `Procedure.Keeps` — what holds between the states before and after it, whatever the result is.

## Main results

* `Procedure.Yields.bind` — one procedure after another.
* `Procedure.yields_attempt` — a procedure whose faults are looked at.
* `Procedure.Keeps.bind`, `Procedure.Keeps.within` — one procedure after another, and a procedure on
  a part of a state.
-/

namespace SessionRecorder.Procedure

variable {σ τ α β : Type}

/-- A property of the result of a procedure from a state on, and of the state after it. -/
def Yields (p : Procedure σ α) (s : σ) (Q : Except Fault α → σ → Prop) : Prop :=
  Q (p.run s).1 (p.run s).2

variable {p : Procedure σ α} {f : α → Procedure σ β} {s : σ} {P Q : Except Fault α → σ → Prop}
  {R : Except Fault β → σ → Prop}

/-- What follows from a property that is yielded is yielded. -/
lemma Yields.mono (h : p.Yields s P) (hPQ : ∀ r t, P r t → Q r t) : p.Yields s Q :=
  hPQ _ _ h

/-- Two properties that are yielded are yielded together. -/
lemma Yields.and (h : p.Yields s P) (h' : p.Yields s Q) : p.Yields s fun r t => P r t ∧ Q r t :=
  ⟨h, h'⟩

/-- A result and a state that are known. -/
lemma yields_of_run {r : Except Fault α} {t : σ} (h : p.run s = (r, t)) :
    p.Yields s Q ↔ Q r t := by
  rw [Yields, h]

/-- A procedure after one that came to a result. -/
lemma run_bind_ok {a : α} {t : σ} (h : p.run s = (.ok a, t)) : (p >>= f).run s = (f a).run t := by
  show ExceptT.bindCont f (p.run s).1 (p.run s).2 = _
  rw [h]
  rfl

/-- Nothing comes after a fault. -/
lemma run_bind_error {e : Fault} {t : σ} (h : p.run s = (.error e, t)) :
    (p >>= f).run s = (.error e, t) := by
  show ExceptT.bindCont f (p.run s).1 (p.run s).2 = _
  rw [h]
  rfl

/-- What comes after a procedure that came to a result. -/
lemma yields_bind_of_run {a : α} {t : σ} (h : p.run s = (.ok a, t)) :
    (p >>= f).Yields s R ↔ (f a).Yields t R := by
  rw [Yields, Yields, run_bind_ok h]

/-- What is made of a result does not matter for the state. -/
lemma state_bind_pure {g : α → β} (p : Procedure σ α) (s : σ) :
    ((p >>= fun a => pure (g a)).run s).2 = (p.run s).2 := by
  obtain ⟨⟨r, t⟩, hrun⟩ : ∃ o, p.run s = o := ⟨_, rfl⟩
  cases r with
  | ok a =>
    rw [run_bind_ok hrun, hrun]
    rfl
  | error e => rw [run_bind_error hrun, hrun]

/-- One procedure after another: the second one starts where the first one came to a result, and a
fault of the first one is the end. -/
lemma Yields.bind (h : p.Yields s P) (hok : ∀ a t, P (.ok a) t → (f a).Yields t R)
    (herror : ∀ e t, P (.error e) t → R (.error e) t) : (p >>= f).Yields s R := by
  obtain ⟨⟨r, t⟩, hrun⟩ : ∃ o, p.run s = o := ⟨_, rfl⟩
  rw [yields_of_run hrun] at h
  cases r with
  | ok a =>
    rw [Yields, run_bind_ok hrun]
    exact hok a t h
  | error e =>
    rw [Yields, run_bind_error hrun]
    exact herror e t h

/-- One procedure after another, if it does not matter what the first one comes to. -/
lemma yields_bind_of_forall (hok : ∀ a t, (f a).Yields t R) (herror : ∀ e t, R (.error e) t) :
    (p >>= f).Yields s R :=
  Yields.bind (P := fun _ _ => True) trivial (fun a t _ => hok a t) fun e t _ => herror e t

/-- Procedures that come to a result, one after the other. -/
lemma yields_bind_ok (h : p.Yields s fun r _ => ∃ a, r = .ok a)
    (hf : ∀ a t, (f a).Yields t fun r _ => ∃ b, r = .ok b) :
    (p >>= f).Yields s fun r _ => ∃ b, r = .ok b :=
  h.bind (fun a t _ => hf a t) fun _ _ ⟨_, h⟩ => by cases h

/-! ## Single steps -/

/-- What depends on the state is run from it. -/
lemma run_get_bind {g : σ → Procedure σ β} : (get >>= g).run s = (g s).run s := rfl

/-- What depends on the state starts from it. -/
@[simp] lemma yields_get_bind {g : σ → Procedure σ β} :
    (get >>= g).Yields s R ↔ (g s).Yields s R := Iff.rfl

/-- What comes after a change of the state. -/
@[simp] lemma yields_modify_bind {g : σ → σ} {f : PUnit → Procedure σ β} :
    ((modify g : Procedure σ PUnit) >>= f).Yields s R ↔ (f ()).Yields (g s) R := Iff.rfl

/-- What comes after a value that there is. -/
@[simp] lemma yields_ofExcept_ok_bind {a : α} :
    ((ofExcept (.ok a) : Procedure σ α) >>= f).Yields s R ↔ (f a).Yields s R := Iff.rfl

/-- What comes after a value that is missing. -/
@[simp] lemma yields_ofExcept_error_bind {e : Fault} :
    ((ofExcept (.error e) : Procedure σ α) >>= f).Yields s R ↔ R (.error e) s := Iff.rfl

/-- A procedure whose faults are looked at. -/
@[simp] lemma yields_attempt {Q : Except Fault (Except Fault α) → σ → Prop} :
    p.attempt.Yields s Q ↔ p.Yields s fun r => Q (.ok r) := Iff.rfl

/-- What comes after a procedure whose faults are looked at. -/
lemma Yields.attempt_bind {f : Except Fault α → Procedure σ β} (h : p.Yields s P)
    (hf : ∀ r t, P r t → (f r).Yields t R) : (p.attempt >>= f).Yields s R :=
  hf _ _ h

/-! ## What is kept -/

/-- Whatever comes of a procedure, the state before it is related to the state after it. -/
def Keeps (R : σ → σ → Prop) (p : Procedure σ α) : Prop :=
  ∀ s, p.Yields s fun _ t => R s t

section

variable {R : σ → σ → Prop} [Std.Refl R]

/-- A value keeps the state. -/
lemma keeps_pure (a : α) : Keeps R (pure a) := fun s => refl_of R s

/-- A fault keeps the state. -/
lemma keeps_throw (e : Fault) : Keeps R (throw e : Procedure σ α) := fun s => refl_of R s

/-- What either gives a value or fails keeps the state. -/
lemma keeps_ofExcept (r : Except Fault α) : Keeps R (ofExcept r) := fun s => refl_of R s

end

/-- A change of the state. -/
lemma keeps_modify {R : σ → σ → Prop} {g : σ → σ} (h : ∀ s, R s (g s)) :
    Keeps R (modify g : Procedure σ PUnit) := h

/-- What depends on the state. -/
lemma keeps_get_bind {R : σ → σ → Prop} {g : σ → Procedure σ β} (h : ∀ s, Keeps R (g s)) :
    Keeps R (get >>= g) := fun s => h s s

/-- One procedure after another. -/
lemma Keeps.bind {R : σ → σ → Prop} [IsTrans σ R] (hp : Keeps R p) (hf : ∀ a, Keeps R (f a)) :
    Keeps R (p >>= f) :=
  fun s => (hp s).bind (fun a t h => (hf a t).mono fun _ _ h' => trans_of R h h') fun _ _ h => h

/-- A procedure whose faults are looked at. -/
lemma Keeps.attempt {R : σ → σ → Prop} (hp : Keeps R p) : Keeps R p.attempt := hp

/-- A procedure on a part of a state. -/
lemma Keeps.within {R : σ → σ → Prop} {S : τ → τ → Prop} {get : σ → τ} {set : τ → σ → σ}
    {p : Procedure τ α} (hp : Keeps S p) (h : ∀ s t, S (get s) t → R s (set t s)) :
    Keeps R (p.within get set) := fun s => h s _ (hp (get s))

end SessionRecorder.Procedure
