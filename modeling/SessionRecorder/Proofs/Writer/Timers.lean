import Mathlib.Data.List.Nodup
import SessionRecorder.Proofs.Writer.Frame
/-!
# Timers of the writer

Every request to write later makes a timer, and a timer may run out at any time after that, even if
it was cancelled. Of all the timers that were ever made at most one is waited for: the newest,
unless something was written at once since it was made. When it runs out the script is written; all
others come to nothing.

## Main definitions

* `Desk.Request` — what happens to a desk; `Desk.after` — the desk after a history of requests.
* `Desk.Allowed` — a history in which only timers that were made run out.
* `Desk.Wanted` — the newest timer, if nothing was written at once since it was made.
* `Writer.Timed` — the invariant of the timers of a writer.

## Main results

* `Desk.timed_after` — every history keeps the invariant.
* `Desk.wanted_iff` — a timer is wanted if and only if it is of the generation of the writer.
* `Desk.after_fires` — the timers of a burst of requests run out, in any order.
* `Desk.timers_after` — what becomes of the timers of a writer.
-/

namespace SessionRecorder

namespace Desk

/-! ## Histories -/

/-- What happens to a desk: a request, a timer that runs out, or a change of the session and of the
workspace that has nothing to do with the writer. -/
inductive Request where
  | start
  | schedule
  | flush
  | close
  | fire (i : ℕ)
  | change (s : Session) (w : Workspace)

namespace Request

/-- What a request does. -/
def perform : Request → Procedure Desk Unit
  | .start => Desk.start
  | .schedule => Desk.schedule
  | .flush => Desk.flush
  | .close => Desk.close
  | .fire i => Desk.fire i
  | .change s w => modify fun d => { d with session := s, workspace := w }

/-- The requests that write at once. -/
inductive WritesAtOnce : Request → Prop
  | start : WritesAtOnce .start
  | flush : WritesAtOnce .flush
  | close : WritesAtOnce .close

/-- The requests that make up a burst: to write later, while the session goes on. -/
inductive Postpones : Request → Prop
  | schedule : Postpones .schedule
  | change (s : Session) (w : Workspace) : Postpones (.change s w)

end Request

/-- A desk after a history of requests, the latest of them first, whatever comes of them. -/
def after (d : Desk) (history : List Request) : Desk :=
  history.foldr (fun a d => (a.perform.run d).2) d

/-- A desk to which nothing happened. -/
@[simp] lemma after_nil (d : Desk) : d.after [] = d := rfl

/-- A desk after one more request. -/
@[simp] lemma after_cons (d : Desk) (a : Request) (history : List Request) :
    d.after (a :: history) = (a.perform.run (d.after history)).2 := rfl

/-- A history after another one. -/
lemma after_append (d : Desk) (later earlier : List Request) :
    d.after (later ++ earlier) = (d.after earlier).after later :=
  List.foldr_append

/-- A desk whose writer waits for no timer any more. -/
def released (d : Desk) : Desk :=
  d.withWriter { d.writer with current := none }

/-- How many timers were made. -/
def made (d : Desk) : ℕ :=
  d.writer.timers.length

/-- A history in which only timers that were made run out, whether or not they did before. -/
def Allowed (d : Desk) : List Request → Prop
  | [] => True
  | a :: history => d.Allowed history ∧ ∀ i, a = .fire i → i < (d.after history).made

/-- The `i`-th timer was made by a request of the history, and nothing was written at once since. -/
def Postponed (d : Desk) (history : List Request) (i : ℕ) : Prop :=
  ∃ later earlier, history = later ++ .schedule :: earlier ∧ (d.after earlier).made = i ∧
    (d.after (.schedule :: earlier)).made = i + 1 ∧ ∀ a ∈ later, ¬a.WritesAtOnce

/-- The `i`-th timer is the newest, and nothing was written at once since it was made. -/
def Wanted (d : Desk) (history : List Request) (i : ℕ) : Prop :=
  d.Postponed history i ∧ (d.after history).made = i + 1

/-- The writer was closed and has not been started since. -/
def Ended (history : List Request) : Prop :=
  ∃ later earlier, history = later ++ .close :: earlier ∧ Request.start ∉ later

end Desk

namespace Writer

/-! ## The invariant -/

variable {w : Writer} {fired : ℕ → Prop}

/-- The `i`-th timer is of the generation of the writer. -/
def OfGeneration (w : Writer) (i : ℕ) : Prop :=
  ∃ t, w.timers[i]? = some t ∧ t.generation = w.generation

/-- The timers of a writer, of which some have run out. Their generations grow, and a timer that is
of the generation of the writer is the one that is waited for unless it has run out. All others have
run out or are cancelled. -/
structure Timed (w : Writer) (fired : ℕ → Prop) : Prop where
  increasing : (w.timers.map Timer.generation).Pairwise (· < ·)
  bounded : ∀ (i : ℕ) (t : Timer), w.timers[i]? = some t → t.generation ≤ w.generation
  started : ∀ (i : ℕ) (t : Timer), w.timers[i]? = some t → t.started = true
  made : ∀ i, fired i → i < w.timers.length
  current : ∀ i, w.current = some i ↔ w.OfGeneration i ∧ ¬fired i
  live : ∀ (i : ℕ) (t : Timer), w.timers[i]? = some t → t.generation = w.generation →
    t.cancelled = false
  past : ∀ (i : ℕ) (t : Timer), w.timers[i]? = some t → t.generation ≠ w.generation →
    t.cancelled = true ∨ fired i
  closed : w.closed = true → ∀ i, ¬w.OfGeneration i
  interval : ∀ f, w.interval = .error f → w.timers = []

/-- A writer that was just made has no timers. -/
lemma timed_of_create {script : Path} {log : Option Path} {debounce formatter editor : Value}
    (h : create script log debounce formatter editor = .ok w) :
    w.timers = [] ∧ w.Timed fun _ => False := by
  cases hms : debounce.toInteger with
  | error f => simp [create, hms, Except.map] at h
  | ok ms =>
    simp only [create, hms, Except.map, Except.ok.injEq] at h
    subst h
    refine ⟨rfl, ?_⟩
    constructor <;> simp [OfGeneration]

/-- A timer of the generation of the writer is the newest one. -/
lemma Timed.newest (h : w.Timed fired) {i : ℕ} (hi : w.OfGeneration i) :
    i + 1 = w.timers.length := by
  obtain ⟨t, ht, hgeneration⟩ := hi
  obtain ⟨hlt, hget⟩ := List.getElem?_eq_some_iff.mp ht
  by_contra hne
  -- a newer one would be of a later generation than the writer
  have hnext : i + 1 < w.timers.length := by omega
  have hlater := List.pairwise_iff_getElem.mp h.increasing i (i + 1) (by simpa) (by simpa)
    (by omega)
  have hbounded := h.bounded (i + 1) _ (List.getElem?_eq_getElem hnext)
  simp only [List.getElem_map, hget] at hlater
  omega

/-- Writing is no matter of the timers. -/
lemma Timed.writes (h : w.Timed fired) (n : ℕ) : Timed { w with writes := n } fired :=
  ⟨h.increasing, h.bounded, h.started, h.made, h.current, h.live, h.past, h.closed, h.interval⟩

/-! ## Timers that are cancelled -/

/-- The timers are as many as before when one is cancelled. -/
lemma length_timersCancelled (w : Writer) : w.timersCancelled.length = w.timers.length := by
  unfold timersCancelled
  cases w.current <;> simp [cancelAt]

/-- A timer that is cancelled keeps its generation. -/
lemma map_generation_timersCancelled (w : Writer) :
    w.timersCancelled.map Timer.generation = w.timers.map Timer.generation := by
  unfold timersCancelled
  cases w.current with
  | none => rfl
  | some i =>
    refine List.ext_getElem? fun j => ?_
    simp only [cancelAt, List.getElem?_map, List.getElem?_modify]
    cases w.timers[j]? with
    | none => rfl
    | some t => by_cases hij : i = j <;> simp [hij]

/-- The timers when the one that is waited for is cancelled. -/
lemma getElem?_timersCancelled (w : Writer) (i : ℕ) : w.timersCancelled[i]? =
    w.timers[i]?.map fun t => if w.current = some i then { t with cancelled := true } else t := by
  unfold timersCancelled
  cases hcurrent : w.current with
  | none => simp
  | some j =>
    simp only [cancelAt, List.getElem?_modify, Option.some.injEq]
    cases w.timers[i]? <;> rfl

/-- When the timer that is waited for is cancelled, every timer is cancelled or has run out. -/
lemma Timed.past_of_timersCancelled (h : w.Timed fired) {i : ℕ} {t : Timer}
    (ht : w.timersCancelled[i]? = some t) :
    t.generation ≤ w.generation ∧ t.started = true ∧ (t.cancelled = true ∨ fired i) := by
  rw [getElem?_timersCancelled] at ht
  obtain ⟨u, hu, rfl⟩ := Option.map_eq_some_iff.mp ht
  by_cases hcurrent : w.current = some i
  · rw [if_pos hcurrent]
    exact ⟨h.bounded i u hu, h.started i u hu, .inl rfl⟩
  · rw [if_neg hcurrent]
    refine ⟨h.bounded i u hu, h.started i u hu, ?_⟩
    by_cases hgeneration : u.generation = w.generation
    · have hfired : ¬¬fired i := fun hf => hcurrent ((h.current i).mpr ⟨⟨u, hu, hgeneration⟩, hf⟩)
      exact .inr (not_not.mp hfired)
    · exact h.past i u hu hgeneration

/-- No timer is of the generation that begins when timers are cancelled. -/
lemma Timed.not_ofGeneration_cancel (h : w.Timed fired) (closed : Bool) (i : ℕ) :
    ¬OfGeneration { w with closed := closed }.cancel i := by
  rintro ⟨t, ht, hgeneration⟩
  have hbounded := (h.past_of_timersCancelled ht).1
  have hnew : t.generation = w.generation + 1 := hgeneration
  omega

/-- A new generation begins with all timers cancelled. -/
lemma Timed.cancel (h : w.Timed fired) (closed : Bool) :
    Timed { w with closed := closed }.cancel fired := by
  have hpast {i : ℕ} {t : Timer} (ht : w.timersCancelled[i]? = some t) :=
    h.past_of_timersCancelled ht
  have hnone := h.not_ofGeneration_cancel closed
  constructor
  case increasing => exact (map_generation_timersCancelled w).symm ▸ h.increasing
  case bounded => exact fun i t ht => Nat.le_succ_of_le (hpast ht).1
  case started => exact fun i t ht => (hpast ht).2.1
  case made => exact fun i hi => (length_timersCancelled w).symm ▸ h.made i hi
  case current =>
    intro i
    constructor
    · rintro ⟨⟩
    · exact fun hi => absurd hi.1 (hnone i)
  case live => exact fun i t ht hgeneration => absurd ⟨t, ht, hgeneration⟩ (hnone i)
  case past => exact fun i t ht _ => (hpast ht).2.2
  case closed => exact fun _ => hnone
  case interval =>
    intro f hf
    have hlength := length_timersCancelled w
    rw [h.interval f hf] at hlength
    exact List.eq_nil_of_length_eq_zero hlength

/-- If no timer can be made, none ever was. -/
lemma Timed.restart_refused (h : w.Timed fired) {f : Fault} (hinterval : w.interval = .error f) :
    Timed w.restart.2 fired := by
  have htimers := h.interval f hinterval
  have hnone : w.timersCancelled = [] :=
    List.eq_nil_of_length_eq_zero (by rw [length_timersCancelled, htimers]; rfl)
  have hcurrent (i : ℕ) : w.current ≠ some i := by
    rw [Ne, h.current]
    rintro ⟨⟨t, ht, -⟩, -⟩
    simp [htimers] at ht
  rw [restart_of_error hinterval]
  constructor
  case made =>
    intro i hi
    have hlt := h.made i hi
    simp [htimers] at hlt
  all_goals simp [OfGeneration, hnone, hcurrent]

/-- A timer among some and one more is one of them or the one more. -/
lemma getElem?_concat_cases {timers : List Timer} {new t : Timer} {i : ℕ}
    (ht : (timers ++ [new])[i]? = some t) :
    timers[i]? = some t ∨ i = timers.length ∧ t = new := by
  by_cases hi : i < timers.length
  · exact .inl (List.getElem?_append_left hi ▸ ht)
  · rw [List.getElem?_append_right (Nat.le_of_not_lt hi)] at ht
    obtain ⟨hlt, rfl⟩ := List.getElem?_eq_some_iff.mp ht
    rw [List.length_singleton] at hlt
    exact .inr ⟨by omega, by simp⟩

/-- A timer that is made is waited for, and all others are cancelled. -/
lemma Timed.restart_made (h : w.Timed fired) (hopen : w.closed = false) {seconds : Binary64}
    (hinterval : w.interval = .ok seconds) : Timed w.restart.2 fired := by
  -- the new timer is the only one of the new generation
  have hgeneration {i : ℕ} {t : Timer} (ht : w.timersCancelled[i]? = some t) :
      t.generation ≠ w.generation + 1 :=
    Nat.ne_of_lt (Nat.lt_succ_of_le (h.past_of_timersCancelled ht).1)
  rw [restart_of_ok hinterval]
  constructor
  case increasing =>
    rw [List.map_append, map_generation_timersCancelled, List.map_singleton]
    refine List.pairwise_append.mpr ⟨h.increasing, List.pairwise_singleton _ _, ?_⟩
    intro g hg g' hg'
    obtain ⟨t, ht, rfl⟩ := List.mem_map.mp hg
    obtain ⟨i, hi⟩ := List.mem_iff_getElem?.mp ht
    rw [List.mem_singleton.mp hg']
    exact Nat.lt_succ_of_le (h.bounded i t hi)
  case bounded =>
    intro i t ht
    rcases getElem?_concat_cases ht with ht | ⟨-, rfl⟩
    · exact Nat.le_succ_of_le (h.past_of_timersCancelled ht).1
    · exact Nat.le_refl _
  case started =>
    intro i t ht
    rcases getElem?_concat_cases ht with ht | ⟨-, rfl⟩
    · exact (h.past_of_timersCancelled ht).2.1
    · rfl
  case made =>
    intro i hi
    have hlt := h.made i hi
    rw [← length_timersCancelled] at hlt
    simp; omega
  case current =>
    intro i
    constructor
    · rintro ⟨⟩
      refine ⟨⟨_, List.getElem?_concat_length, rfl⟩, fun hfired => ?_⟩
      exact Nat.lt_irrefl _ (length_timersCancelled w ▸ h.made _ hfired)
    · rintro ⟨⟨t, ht, hnew⟩, -⟩
      rcases getElem?_concat_cases ht with ht | ⟨rfl, -⟩
      · exact absurd hnew (hgeneration ht)
      · rfl
  case live =>
    intro i t ht hlive
    rcases getElem?_concat_cases ht with ht | ⟨-, rfl⟩
    · exact absurd hlive (hgeneration ht)
    · rfl
  case past =>
    intro i t ht hpast
    rcases getElem?_concat_cases ht with ht | ⟨-, rfl⟩
    · exact (h.past_of_timersCancelled ht).2.2
    · exact absurd rfl hpast
  case closed => simp [hopen]
  case interval =>
    intro f hf
    have hok : w.interval = .error f := hf
    rw [hinterval] at hok
    cases hok

/-- A request to write later keeps the invariant while the writer is not closed. -/
lemma Timed.restart (h : w.Timed fired) (hopen : w.closed = false) :
    Timed w.restart.2 fired := by
  cases hinterval : w.interval with
  | error f => exact h.restart_refused hinterval
  | ok seconds => exact h.restart_made hopen hinterval

/-! ## Timers that run out -/

/-- A timer that runs out while it is not of the generation of the writer. -/
lemma Timed.fire_stale (h : w.Timed fired) {i : ℕ} (hlt : i < w.timers.length)
    (hi : ¬w.OfGeneration i) : w.Timed fun j => j = i ∨ fired j where
  increasing := h.increasing
  bounded := h.bounded
  started := h.started
  made j hj := by
    rcases hj with rfl | hj
    · exact hlt
    · exact h.made j hj
  current j := by
    rw [h.current j]
    refine and_congr_right fun hj => not_congr ⟨.inr, fun h => h.resolve_left ?_⟩
    rintro rfl
    exact hi hj
  live := h.live
  past j t ht hpast := (h.past j t ht hpast).imp_right .inr
  closed := h.closed
  interval := h.interval

/-- The timer of the generation of the writer runs out. -/
lemma Timed.fire_current (h : w.Timed fired) {i : ℕ} (hi : w.OfGeneration i) :
    Timed { w with current := none } fun j => j = i ∨ fired j where
  increasing := h.increasing
  bounded := h.bounded
  started := h.started
  made j hj := by
    rcases hj with rfl | hj
    · exact Nat.lt_of_succ_le (Nat.le_of_eq (h.newest hi))
    · exact h.made j hj
  current j := by
    constructor
    · rintro ⟨⟩
    · rintro ⟨hj, hnot⟩
      have hnewest : j + 1 = i + 1 := (h.newest hj).trans (h.newest hi).symm
      exact absurd (.inl (Nat.succ.inj hnewest)) hnot
  live := h.live
  past j t ht hpast := (h.past j t ht hpast).imp_right .inr
  closed := h.closed
  interval := h.interval

/-! ## Requests -/

/-- What a request does to a writer: what writes at once cancels the timer that is waited for, and
only a beginning opens a writer that is closed. A request to write later begins a timer anew unless
the writer is closed, and a timer that runs out is no longer waited for. Anything else is no matter
of the timers. -/
inductive Steps (w : Writer) : Desk.Request → Writer → Prop
  | atOnce {a : Desk.Request} (closed : Bool) (n : ℕ) :
    a.WritesAtOnce → (w.closed = true → a = .start ∨ closed = true) →
    w.Steps a { ({ w with closed := closed } : Writer).cancel with writes := n }
  | restart : w.closed = false → w.Steps .schedule w.restart.2
  | expire {i : ℕ} (n : ℕ) :
    w.OfGeneration i → w.Steps (.fire i) { w with current := none, writes := n }
  | rest {a : Desk.Request} :
    ¬a.WritesAtOnce → (a = .schedule → w.closed = true) →
    (∀ i, a = .fire i → ¬w.OfGeneration i) → w.Steps a w

variable {w' : Writer} {a : Desk.Request}

/-- Requests keep the invariant of the timers. -/
lemma Timed.step (h : w.Timed fired) (step : w.Steps a w')
    (hfire : ∀ i, a = .fire i → i < w.timers.length) :
    w'.Timed fun i => a = .fire i ∨ fired i := by
  have hsame (hnot : ∀ i, a ≠ .fire i) : (fun i => a = .fire i ∨ fired i) = fired :=
    funext fun i => propext (or_iff_right (hnot i))
  cases step with
  | atOnce closed n ha _ =>
    rw [hsame (by rintro i rfl; cases ha)]
    exact (h.cancel closed).writes n
  | restart hopen =>
    rw [hsame (by simp)]
    exact h.restart hopen
  | @expire i n hi =>
    have hcurrent := (h.fire_current hi).writes n
    simpa [eq_comm] using hcurrent
  | rest ha _ hstale =>
    by_cases hnot : ∀ i, a ≠ .fire i
    · rw [hsame hnot]
      exact h
    · obtain ⟨i, hi⟩ := not_forall_not.mp hnot
      subst hi
      simpa [eq_comm] using h.fire_stale (hfire i rfl) (hstale i rfl)

/-- At most one timer is made by a request. -/
lemma Steps.length (step : w.Steps a w') : w'.timers.length = w.timers.length ∨
    a = .schedule ∧ w'.timers.length = w.timers.length + 1 := by
  cases step with
  | atOnce closed n ha _ => exact .inl (length_timersCancelled w)
  | restart hopen =>
    cases hinterval : w.interval with
    | error f =>
      rw [restart_of_error hinterval]
      exact .inl (length_timersCancelled w)
    | ok seconds =>
      rw [restart_of_ok hinterval]
      exact .inr ⟨rfl, by simp [length_timersCancelled]⟩
  | expire n hi => exact .inl rfl
  | rest ha _ _ => exact .inl rfl

/-- A closed writer stays closed, unless it is started. -/
lemma Steps.closed (step : w.Steps a w') (ha : a ≠ .start) (h : w.closed = true) :
    w'.closed = true := by
  cases step with
  | atOnce closed n _ hclosed => exact (hclosed h).resolve_left ha
  | restart hopen => simp [hopen] at h
  | expire n hi => exact h
  | rest _ _ _ => exact h

/-- A timer is of the generation of the writer if it was just made, or if it was before and nothing
was made or written at once. -/
lemma Timed.ofGeneration_step (h : w.Timed fired) (step : w.Steps a w') (i : ℕ) :
    w'.OfGeneration i ↔
      a = .schedule ∧ w.timers.length = i ∧ w'.timers.length = i + 1 ∨
      ¬a.WritesAtOnce ∧ w'.timers.length = w.timers.length ∧ w.OfGeneration i := by
  cases step with
  | atOnce closed n ha _ =>
    refine iff_of_false (h.not_ofGeneration_cancel closed i) ?_
    rintro (⟨rfl, -⟩ | ⟨hnot, -⟩)
    · cases ha
    · exact hnot ha
  | restart hopen =>
    cases hinterval : w.interval with
    | error f =>
      have htimers := h.interval f hinterval
      have hlength := length_timersCancelled w
      rw [htimers] at hlength
      rw [restart_of_error hinterval]
      simp [OfGeneration, htimers, List.eq_nil_of_length_eq_zero hlength]
    | ok seconds =>
      have hrestart := h.restart hopen
      have hlength : w.restart.2.timers.length = w.timers.length + 1 := by
        rw [restart_of_ok hinterval]
        simp [length_timersCancelled]
      have hcurrent : w.restart.2.OfGeneration w.timers.length := by
        refine ((hrestart.current _).mp ?_).1
        rw [restart_of_ok hinterval, length_timersCancelled]
      constructor
      · intro hi
        have hnewest := hrestart.newest hi
        exact .inl ⟨rfl, by omega, by omega⟩
      · rintro (⟨-, rfl, -⟩ | ⟨-, hsame, -⟩)
        · exact hcurrent
        · omega
  | expire n hi =>
    constructor
    · exact fun h => .inr ⟨by rintro ⟨⟩, rfl, h⟩
    · rintro (⟨⟨⟩, -⟩ | ⟨-, -, h⟩)
      exact h
  | rest ha hclosed hstale =>
    constructor
    · exact fun h => .inr ⟨ha, rfl, h⟩
    · rintro (⟨-, hi, hnext⟩ | ⟨-, -, h⟩)
      · omega
      · exact h

end Writer

namespace Desk

variable {d d₀ : Desk} {a : Request} {history : List Request} {fired : ℕ → Prop} {i : ℕ}

/-- A timer of the generation of the writer writes when it runs out. -/
lemma run_fire_of_ofGeneration (h : d.writer.Timed fired) (hi : d.writer.OfGeneration i) :
    (fire i).run d = writeAll.run d.released := by
  obtain ⟨t, ht, hgeneration⟩ := hi
  refine run_fire_of_current ht hgeneration ?_
  rw [← Bool.not_eq_true]
  exact fun hclosed => h.closed hclosed i ⟨t, ht, hgeneration⟩

/-- A timer of any other generation does nothing when it runs out. -/
lemma run_fire_of_not_ofGeneration (hlt : i < d.made) (hi : ¬d.writer.OfGeneration i) :
    (fire i).run d = (.ok (), d) :=
  run_fire_of_stale (List.getElem?_eq_getElem hlt)
    (.inl fun hgeneration => hi ⟨_, List.getElem?_eq_getElem hlt, hgeneration⟩)

/-! ## What a request does to the timers -/

/-- What is done to the timers of a writer counts whatever is written after that. -/
lemma Rests.steps {d' : Desk} {w : Writer} (h : (d.withWriter w).Rests d')
    (step : ∀ n, d.writer.Steps a { w with writes := n }) : d.writer.Steps a d'.writer := by
  obtain ⟨n, hn⟩ := h.writer
  rw [hn]
  exact step n

/-- **What a request does to the writer of a desk.** -/
lemma yields_perform (h : d.writer.Timed fired) (hfire : ∀ i, a = .fire i → i < d.made) :
    a.perform.Yields d fun _ d' => d.writer.Steps a d'.writer := by
  cases a with
  | start =>
    exact (yields_start_rests d).mono fun _ _ h => h.steps fun n =>
      .atOnce false n .start fun _ => .inl rfl
  | flush =>
    exact (yields_flush_rests d).mono fun _ _ h => h.steps fun n =>
      .atOnce _ n .flush .inr
  | close =>
    exact (yields_close_rests d).mono fun _ _ h => h.steps fun n =>
      .atOnce true n .close fun _ => .inr rfl
  | schedule =>
    cases hclosed : d.writer.closed with
    | true =>
      refine (Procedure.yields_of_run (run_schedule_of_closed hclosed)).2 ?_
      exact .rest (by rintro ⟨⟩) (fun _ => hclosed) (by simp)
    | false =>
      refine (Procedure.yields_of_run (run_schedule_of_open hclosed)).2 ?_
      exact .restart hclosed
  | fire i =>
    by_cases hi : d.writer.OfGeneration i
    · rw [Request.perform, Procedure.Yields, run_fire_of_ofGeneration h hi]
      exact (keeps_writeAll _).steps fun n => .expire n hi
    · refine (Procedure.yields_of_run (run_fire_of_not_ofGeneration (hfire i rfl) hi)).2 ?_
      exact .rest (by rintro ⟨⟩) (by simp) (by rintro _ ⟨⟩; exact hi)
  | change s w => exact .rest (by rintro ⟨⟩) (by simp) (by simp)

/-! ## Histories keep the invariant -/

/-- **Every history keeps the invariant of the timers.** -/
lemma timed_after (h : d.writer.Timed fired) (hallowed : d.Allowed history) :
    (d.after history).writer.Timed fun i => .fire i ∈ history ∨ fired i := by
  induction history with
  | nil => simpa using h
  | cons a history ih =>
    have hearlier := ih hallowed.1
    have hstep := hearlier.step (yields_perform hearlier hallowed.2) hallowed.2
    simpa [or_assoc, eq_comm] using hstep

/-- What the last request of a history does. -/
lemma steps_after (h : d.writer.Timed fired) (hallowed : d.Allowed (a :: history)) :
    (d.after history).writer.Steps a (d.after (a :: history)).writer :=
  yields_perform (timed_after h hallowed.1) hallowed.2

/-- No timer disappears. -/
lemma made_le_after (h : d.writer.Timed fired) (later : List Request)
    (hallowed : d.Allowed (later ++ history)) :
    (d.after history).made ≤ (d.after (later ++ history)).made := by
  induction later with
  | nil => exact Nat.le_refl _
  | cons a later ih =>
    have hle := ih hallowed.1
    unfold made at hle ⊢
    rcases (steps_after h hallowed).length with hlength | ⟨-, hlength⟩
    · exact hlength ▸ hle
    · exact hlength ▸ Nat.le_succ_of_le hle

/-- A timer is wanted after a request if it was just made, or if it was wanted before and nothing
was made or written at once. -/
lemma wanted_cons (h : d.writer.Timed fired) (hallowed : d.Allowed (a :: history)) :
    d.Wanted (a :: history) i ↔
      a = .schedule ∧ (d.after history).made = i ∧ (d.after (a :: history)).made = i + 1 ∨
      ¬a.WritesAtOnce ∧ (d.after (a :: history)).made = (d.after history).made ∧
        d.Wanted history i := by
  constructor
  · rintro ⟨⟨later, earlier, hhistory, hbefore, hmade, hlater⟩, hnewest⟩
    cases later with
    | nil =>
      obtain ⟨rfl, rfl⟩ := List.cons.inj hhistory
      exact .inl ⟨rfl, hbefore, hmade⟩
    | cons b later =>
      rw [List.cons_append, List.cons.injEq] at hhistory
      obtain ⟨rfl, rfl⟩ := hhistory
      -- the timer was there before, and is still the newest
      have hle := made_le_after h _ hallowed.1
      have hle' : (d.after (later ++ .schedule :: earlier)).made ≤
          (d.after (a :: (later ++ .schedule :: earlier))).made :=
        made_le_after h [a] hallowed
      have hsame : (d.after (later ++ .schedule :: earlier)).made = i + 1 := by omega
      refine .inr ⟨hlater a List.mem_cons_self, hnewest.trans hsame.symm, ?_, hsame⟩
      exact ⟨later, earlier, rfl, hbefore, hmade, fun b hb => hlater b (List.mem_cons_of_mem _ hb)⟩
  · rintro (⟨rfl, hbefore, hmade⟩ | ⟨hnot, hsame, ⟨later, earlier, rfl, hbefore, hmade, hlater⟩,
      hnewest⟩)
    · exact ⟨⟨[], history, rfl, hbefore, hmade, by simp⟩, hmade⟩
    · refine ⟨⟨a :: later, earlier, rfl, hbefore, hmade, ?_⟩, hsame.trans hnewest⟩
      exact List.forall_mem_cons.mpr ⟨hnot, hlater⟩

/-- **A timer is wanted if and only if it is of the generation of the writer.** -/
lemma wanted_iff (h : d.writer.Timed fired) (hnone : d.writer.timers = [])
    (hallowed : d.Allowed history) :
    d.Wanted history i ↔ (d.after history).writer.OfGeneration i := by
  induction history with
  | nil => simp [Wanted, Postponed, Writer.OfGeneration, after, hnone]
  | cons a history ih =>
    rw [wanted_cons h hallowed, ih hallowed.1,
      (timed_after h hallowed.1).ofGeneration_step (steps_after h hallowed)]
    rfl

/-! ## Bursts -/

/-- No timer runs out in a burst. -/
lemma allowed_of_burst {burst : List Request} (hburst : ∀ a ∈ burst, a.Postpones) :
    d.Allowed burst := by
  induction burst with
  | nil => trivial
  | cons a burst ih =>
    obtain ⟨ha, hburst⟩ := List.forall_mem_cons.mp hburst
    refine ⟨ih hburst, ?_⟩
    rintro i rfl
    cases ha

/-- The newest timer of a burst is of the generation of the writer. -/
lemma ofGeneration_of_burst (h : d.writer.Timed fired) {burst : List Request}
    (hburst : ∀ a ∈ burst, a.Postpones) (hmade : d.made < (d.after burst).made) :
    (d.after burst).writer.OfGeneration ((d.after burst).made - 1) := by
  induction burst with
  | nil => exact absurd hmade (Nat.lt_irrefl _)
  | cons a burst ih =>
    have hallowed := allowed_of_burst (d := d) hburst
    obtain ⟨ha, hburst⟩ := List.forall_mem_cons.mp hburst
    have hstep := steps_after h hallowed
    rw [(timed_after h hallowed.1).ofGeneration_step hstep]
    rcases hstep.length with hsame | ⟨rfl, hnext⟩
    · refine .inr ⟨?_, hsame, ?_⟩
      · rintro ⟨⟩ <;> cases ha
      · have hmade' : (d.after (a :: burst)).made = (d.after burst).made := hsame
        rw [hmade'] at hmade ⊢
        exact ih hburst hmade
    · have hmade' : (d.after (.schedule :: burst)).made = (d.after burst).made + 1 := hnext
      rw [hmade']
      exact .inl ⟨rfl, rfl, hnext⟩

/-- A burst neither closes the writer nor changes how long its timers run. -/
lemma closed_after_burst {burst : List Request} (hburst : ∀ a ∈ burst, a.Postpones) :
    (d.after burst).writer.closed = d.writer.closed ∧
      (d.after burst).writer.interval = d.writer.interval := by
  induction burst with
  | nil => exact ⟨rfl, rfl⟩
  | cons a burst ih =>
    obtain ⟨ha, hburst⟩ := List.forall_mem_cons.mp hburst
    rw [← (ih hburst).1, ← (ih hburst).2, after_cons]
    cases ha with
    | change s w => exact ⟨rfl, rfl⟩
    | schedule =>
      cases hclosed : (d.after burst).writer.closed with
      | true => rw [Request.perform, run_schedule_of_closed hclosed, hclosed]; exact ⟨rfl, rfl⟩
      | false =>
        rw [Request.perform, run_schedule_of_open hclosed]
        show (d.after burst).writer.restart.2.closed = false ∧
          (d.after burst).writer.restart.2.interval = (d.after burst).writer.interval
        cases hinterval : (d.after burst).writer.interval with
        | error f => rw [Writer.restart_of_error hinterval]; exact ⟨hclosed, hinterval⟩
        | ok seconds => rw [Writer.restart_of_ok hinterval]; exact ⟨hclosed, hinterval⟩

/-- A burst makes a timer, unless the writer is closed or no timer can run as long as it should. -/
lemma made_lt_of_burst (h : d.writer.Timed fired) {burst : List Request} {seconds : Binary64}
    (hburst : ∀ a ∈ burst, a.Postpones) (hopen : d.writer.closed = false)
    (hinterval : d.writer.interval = .ok seconds) (hschedule : .schedule ∈ burst) :
    d.made < (d.after burst).made := by
  obtain ⟨later, earlier, rfl⟩ := List.append_of_mem hschedule
  have hearlier : ∀ a ∈ earlier, a.Postpones := fun a ha => hburst a (by simp [ha])
  obtain ⟨hclosed, hseconds⟩ := closed_after_burst (d := d) hearlier
  have hnext : (d.after (.schedule :: earlier)).made = (d.after earlier).made + 1 := by
    rw [after_cons, Request.perform, run_schedule_of_open (hclosed.trans hopen)]
    show (d.after earlier).writer.restart.2.timers.length = _
    rw [Writer.restart_of_ok (hseconds.trans hinterval)]
    simp [Writer.length_timersCancelled, made]
  have hle := made_le_after h later (allowed_of_burst hburst)
  have hle' : d.made ≤ (d.after earlier).made := by
    have hallowed : d.Allowed (earlier ++ []) := by
      rw [List.append_nil]
      exact allowed_of_burst hearlier
    simpa using made_le_after h earlier hallowed
  omega

/-- Timers of other generations run out, in any order. -/
lemma after_fires_of_not_ofGeneration {order : List ℕ} (hmade : ∀ i ∈ order, i < d.made)
    (hstale : ∀ i ∈ order, ¬d.writer.OfGeneration i) : d.after (order.map .fire) = d := by
  induction order with
  | nil => rfl
  | cons i order ih =>
    obtain ⟨hi, hmade⟩ := List.forall_mem_cons.mp hmade
    obtain ⟨hi', hstale⟩ := List.forall_mem_cons.mp hstale
    rw [List.map_cons, after_cons, ih hmade hstale, Request.perform,
      run_fire_of_not_ofGeneration hi hi']

/-- **Timers run out, in any order, among them the one of the generation of the writer.** That one
writes, and the others do nothing. -/
lemma after_fires (h : d.writer.Timed fired) {order : List ℕ} (hnodup : order.Nodup)
    (hmade : ∀ i ∈ order, i < d.made) (hi : d.writer.OfGeneration i) (hmem : i ∈ order) :
    d.after (order.map .fire) = (writeAll.run d.released).2 := by
  obtain ⟨later, earlier, rfl⟩ := List.append_of_mem hmem
  have hstale (j : ℕ) (hj : j ≠ i) : ¬d.writer.OfGeneration j := fun hgeneration => by
    have hnewest := (h.newest hgeneration).trans (h.newest hi).symm
    omega
  rw [List.nodup_middle, List.nodup_cons, List.mem_append, not_or] at hnodup
  obtain ⟨⟨hlater, hearlier⟩, -⟩ := hnodup
  rw [List.map_append, List.map_cons, after_append, after_cons,
    after_fires_of_not_ofGeneration (fun j hj => hmade j (by simp [hj]))
      (fun j hj => hstale j (by rintro rfl; exact hearlier hj)),
    Request.perform, run_fire_of_ofGeneration h hi]
  -- what is written changes neither the timers nor their generation
  obtain ⟨-, n, hn⟩ := keeps_writeAll d.released
  refine after_fires_of_not_ofGeneration (fun j hj => ?_) fun j hj => ?_
  · rw [made, hn]
    exact hmade j (by simp [hj])
  · rw [hn]
    exact hstale j (by rintro rfl; exact hlater hj)

/-! ## All histories -/

/-- A writer that was closed, and was not started since, is closed. -/
lemma closed_of_ended (h : d.writer.Timed fired) (hallowed : d.Allowed history)
    (hended : Ended history) : (d.after history).writer.closed = true := by
  obtain ⟨later, earlier, rfl, hlater⟩ := hended
  induction later with
  | nil =>
    obtain ⟨-, n, hn⟩ := yields_close_rests (d.after earlier)
    show (close.run (d.after earlier)).2.writer.closed = true
    rw [hn]
    rfl
  | cons a later ih =>
    rw [List.mem_cons, not_or] at hlater
    exact (steps_after h hallowed).closed (Ne.symm hlater.1) (ih hlater.2 hallowed.1)

/-- What becomes of the timers of a writer after a history. A timer that has not run out yet writes,
when it does, if and only if it is wanted. -/
structure Disciplined (d₀ : Desk) (history : List Request) (d : Desk) : Prop where
  /-- A wanted timer writes. -/
  wanted : ∀ i < d.made, .fire i ∉ history → d₀.Wanted history i →
    (fire i).run d = writeAll.run d.released
  /-- Any other timer does nothing. -/
  unwanted : ∀ i < d.made, .fire i ∉ history → ¬d₀.Wanted history i →
    (fire i).run d = (.ok (), d)
  /-- The writer waits for a timer if and only if there is one that would write. -/
  pending : d.writer.pending = true ↔ ∃ i, d₀.Wanted history i ∧ .fire i ∉ history
  /-- The timer that would write runs. -/
  live : ∀ i (t : Timer), d.writer.timers[i]? = some t → d₀.Wanted history i →
    .fire i ∉ history → t.started = true ∧ t.cancelled = false
  /-- All others have run out or are cancelled. -/
  past : ∀ i (t : Timer), d.writer.timers[i]? = some t →
    ¬(d₀.Wanted history i ∧ .fire i ∉ history) → t.cancelled = true ∨ .fire i ∈ history
  /-- From an end to the next beginning no timer is made. -/
  noTimer : Ended history → schedule.run d = (.ok (), d)
  /-- From an end to the next beginning no timer writes. -/
  noWrite : Ended history → ∀ i < d.made, (fire i).run d = (.ok (), d)
  /-- A burst makes a timer, unless the writer is closed or no timer can run as long as it
  should. -/
  burst : ∀ (burst : List Request) (seconds : Binary64), (∀ a ∈ burst, a.Postpones) →
    .schedule ∈ burst → d.writer.closed = false → d.writer.interval = .ok seconds →
    d.made < (d.after burst).made
  /-- When the timers of a burst have run out, in any order, the script was written once. -/
  once : ∀ (burst : List Request) (order : List ℕ), (∀ a ∈ burst, a.Postpones) → order.Nodup →
    (∀ i, i ∈ order ↔ d.made ≤ i ∧ i < (d.after burst).made) →
    d.made < (d.after burst).made →
    d.after (order.map .fire ++ burst) = (writeAll.run (d.after burst).released).2

/-- **A timer writes if and only if it is the newest and nothing was written at once since it was
made**, whatever happened to a writer that was just made. The writer waits for a timer if and only
if there is one that would write; all others have run out or are cancelled. After an end nothing is
written, and after a burst the script is written once. -/
theorem disciplined_after {script : Path} {log : Option Path} {debounce formatter editor : Value}
    {d₀ : Desk} {history : List Request}
    (hfresh : Writer.create script log debounce formatter editor = .ok d₀.writer)
    (hallowed : d₀.Allowed history) : d₀.Disciplined history (d₀.after history) := by
  obtain ⟨hnone, hstart⟩ := Writer.timed_of_create hfresh
  have htimed : (d₀.after history).writer.Timed fun i => .fire i ∈ history := by
    simpa using timed_after hstart hallowed
  have hwanted (i : ℕ) : d₀.Wanted history i ↔ (d₀.after history).writer.OfGeneration i :=
    wanted_iff hstart hnone hallowed
  have hstale (i : ℕ) (hlt : i < (d₀.after history).made)
      (hi : ¬(d₀.after history).writer.OfGeneration i) :
      (fire i).run (d₀.after history) = (.ok (), d₀.after history) :=
    run_fire_of_not_ofGeneration hlt hi
  constructor
  case wanted => exact fun i _ _ hi => run_fire_of_ofGeneration htimed ((hwanted i).mp hi)
  case unwanted => exact fun i hlt _ hi => hstale i hlt (mt (hwanted i).mpr hi)
  case pending =>
    rw [Writer.pending, Option.isSome_iff_exists]
    exact exists_congr fun i => by rw [htimed.current, hwanted]
  case live =>
    intro i t ht hi _
    obtain ⟨u, hu, hgeneration⟩ := (hwanted i).mp hi
    obtain rfl := Option.some.inj (ht.symm.trans hu)
    exact ⟨htimed.started i t ht, htimed.live i t ht hgeneration⟩
  case past =>
    intro i t ht hi
    rw [hwanted, not_and_not_right] at hi
    by_cases hgeneration : t.generation = (d₀.after history).writer.generation
    · exact .inr (hi ⟨t, ht, hgeneration⟩)
    · exact htimed.past i t ht hgeneration
  case noTimer =>
    exact fun hended => run_schedule_of_closed (closed_of_ended hstart hallowed hended)
  case noWrite =>
    intro hended i hlt
    exact hstale i hlt (htimed.closed (closed_of_ended hstart hallowed hended) i)
  case burst =>
    intro burst seconds hburst hmem hopen hinterval
    exact made_lt_of_burst htimed hburst hopen hinterval hmem
  case once =>
    intro burst order hburst hnodup horder hmade
    rw [after_append]
    refine after_fires (timed_after htimed (allowed_of_burst hburst)) hnodup
      (fun i hi => ((horder i).mp hi).2) (ofGeneration_of_burst htimed hburst hmade) ?_
    exact (horder _).mpr ⟨by omega, by omega⟩

/-- A desk with a writer that was just made. -/
def emptyDesk : Desk where
  session := .fresh
  writer := {
    scriptPath := Path.parse "out/codegen.py"
    logPath := none
    debounce := 250
    formatter := .none
    editor := .none
    timers := []
    current := none
    generation := 0
    closed := false
    writes := 0 }
  workspace := {
    disk := ⟨[]⟩
    here := []
    environment := []
    accounts := []
    commandResult := .works
    reportOpen := false
    journal := []
    ran := []
    attached := [] }

/-- Two timers are made after a beginning, and the one that was cancelled runs out. -/
def lateTimer : List Request :=
  [.fire 0, .schedule, .schedule, .start]

/-- The other one is waited for. -/
theorem disciplined_lateTimer :
    Writer.create (Path.parse "out/codegen.py") none (.int 250) .none .none = .ok emptyDesk.writer ∧
    emptyDesk.Allowed lateTimer ∧ emptyDesk.Disciplined lateTimer (emptyDesk.after lateTimer) ∧
    (emptyDesk.after lateTimer).made = 2 ∧ (emptyDesk.after lateTimer).writer.pending = true := by
  have hfresh : Writer.create (Path.parse "out/codegen.py") none (.int 250) .none .none =
      .ok emptyDesk.writer := rfl
  have hmade : (emptyDesk.after [.schedule, .schedule, .start]).made = 2 := by decide +kernel
  have hallowed : emptyDesk.Allowed lateTimer := by
    refine ⟨⟨⟨⟨trivial, by simp⟩, by simp⟩, by simp⟩, ?_⟩
    rintro _ ⟨⟩
    rw [hmade]
    decide
  refine ⟨hfresh, hallowed, disciplined_after hfresh hallowed, ?_, ?_⟩ <;> decide +kernel

end Desk

end SessionRecorder
