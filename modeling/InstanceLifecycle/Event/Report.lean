import InstanceLifecycle.Event.Basic
import InstanceLifecycle.Log.Entry

/-!
# Reporting events

A reporter takes an event or refuses it at once; a batch that cannot be delivered is given up. A
refusal never stops what the event is about: it is only logged.
-/

namespace InstanceLifecycle

/-- Why events are not reported. -/
inductive ReportError
  | queueFull (reporter : String) (capacity : Nat) (kind : EventKind)
  | closed (reporter : String) (kind : EventKind)
  | delivery (attempts : Nat) (reason : String)
  deriving DecidableEq, Repr

/-- The text of a refusal. -/
def ReportError.message : ReportError → String
  | queueFull r n k =>
    s!"event queue of reporter `{r}` is full ({n} pending), dropped {k.name}"
  | closed r k => s!"reporter `{r}` is shut down, dropped {k.name}"
  | delivery n reason => s!"event batch delivery failed after {n} attempt(s): {reason}"

/-- The entry about an event that a reporter refused (`EventChain.report`). -/
def ReportError.entry (e : ReportError) (reporter : String) (k : EventKind) : Log.Entry :=
  ⟨.warn, "lossless::events::chain", some "lifecycle event not reported",
    [("reporter", reporter), ("event", k.name), ("error", e.message)], []⟩

end InstanceLifecycle
