import InstanceLifecycle.Failure

/-!
# Installing the log

A process has one log. It can be installed once; whoever comes later is refused.
-/

namespace InstanceLifecycle.Log

/-- Installs the log of the process, unless it has one (`init_tracing`). -/
def install (hasLog : Bool) : Except Failure Unit :=
  if hasLog then
    .error <| .message <|
      "failed to initialise tracing subscriber: " ++
        "a global default trace dispatcher has already been set"
  else .ok ()

end InstanceLifecycle.Log
