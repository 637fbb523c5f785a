import InstanceLifecycle.Event.Report
import InstanceLifecycle.Gate.Basic
import InstanceLifecycle.Probe.Server
import InstanceLifecycle.Registration.State
import InstanceLifecycle.Rule.Document
import InstanceLifecycle.Settings.Resolve

/-!
# Failures

What a collaborator answers when it fails can be anything; all that is kept of it is its text and
the texts of its causes, the nearest first. An error of one part becomes a failure under the name of
that part. Bringing an instance up or taking it down has errors of its own.

Results:

* `Failure.chain_contexts`: contexts come before the chain of what they wrap, the last one first.
-/

namespace InstanceLifecycle

/-! ## Failures -/

/-- Something that went wrong: its text and the texts of its causes, the nearest first. -/
structure Failure where
  text : String
  causes : List String := []
  deriving DecidableEq, Repr

namespace Failure

/-- The text of a failure and then those of its causes. -/
def chain (f : Failure) : List String := f.text :: f.causes

/-- A failure that is only a text (`Error.msg`). -/
def message (text : String) : Failure := ⟨text, []⟩

/-- The failure of a part, under its name. -/
def within (part : String) (chain : List String) : Failure :=
  ⟨part ++ " error: " ++ chain.headD "", chain⟩

/-- A failure under a text that says what was attempted (`with_context`). -/
def context (text : String) (f : Failure) : Failure := ⟨text, f.chain⟩

/-- A failure to read or write. -/
def io (text : String) : Failure := within "I/O" [text]

theorem chain_context (text : String) (f : Failure) : (context text f).chain = text :: f.chain :=
  rfl

/-- Contexts come before the chain of what they wrap, the last one first. -/
theorem chain_contexts (f : Failure) (texts : List String) :
    (texts.foldl (fun g s => context s g) f).chain = texts.reverse ++ f.chain := by
  induction texts generalizing f with
  | nil => rfl
  | cons s r ih => simp [ih, chain_context]

end Failure

/-! ## The failures of parts -/

/-- The text of what kept the probe server from what it was asked, and of its cause. -/
def ProbeError.chain (e : ProbeError) : List String :=
  e.message ::
    match e with
    | .bind _ reason => [reason]
    | .invalidPath _ => []

/-- The text of what is wrong with settings, and of its cause. -/
def SettingsError.chain (e : SettingsError) : List String :=
  e.message ::
    match e with
    | .unreadable reason => [reason]
    | .severalDocuments => ["multiple YAML documents are not supported"]
    | _ => []

namespace Failure

/-- What a rejected rule fails with. -/
def ofRule (e : RuleError) : Failure := within "JSON" [e.message]

/-- What rejected settings fail with. -/
def ofSettings (e : SettingsError) : Failure := within "config" e.chain

/-- What a refusing gate fails with. -/
def ofGate (e : GateError) : Failure := within "delay register gate" [e.message]

/-- What the probe server fails with. -/
def ofProbe (e : ProbeError) : Failure := within "probe server" e.chain

/-- What a refused event fails with. -/
def ofReport (e : ReportError) : Failure := within "event report" [e.message]

end Failure

/-! ## Errors of the lifecycle -/

/-- Why an instance was not brought up or taken down. -/
inductive LifecycleError
  | gate (instanceText : String) (error : GateError)
  | registration (instanceText : String) (cause : Failure)
  | deregistration (instanceText : String) (cause : Failure)
  | unknownInstance (instanceText : String)
  | transition (error : TransitionError)
  | probe (error : ProbeError)
  deriving DecidableEq, Repr

namespace LifecycleError

/-- The text of an error. -/
def text : LifecycleError → String
  | gate i e => s!"delay register gate stopped {i}: {e.message}"
  | registration i cause => s!"registration of {i} failed: {cause.text}"
  | deregistration i cause => s!"deregistration of {i} failed: {cause.text}"
  | unknownInstance i => s!"instance {i} is not managed by this controller"
  | transition e => e.message
  | probe e => s!"probe server unavailable: {e.message}"

/-- The texts of the causes of an error, the nearest first. A refused transition is no cause of
another error but the error itself. -/
def causes : LifecycleError → List String
  | gate _ e => [e.message]
  | registration _ cause => cause.chain
  | deregistration _ cause => cause.chain
  | unknownInstance _ => []
  | transition _ => []
  | probe e => e.chain

end LifecycleError

/-- What an error of the lifecycle makes what asked for it fail with. -/
def Failure.ofLifecycle (e : LifecycleError) : Failure :=
  .within "lifecycle" (e.text :: e.causes)

end InstanceLifecycle
