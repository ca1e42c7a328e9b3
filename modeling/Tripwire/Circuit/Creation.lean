/-
Making a circuit.

A circuit needs settings with nothing wrong in them and something that runs its
timers.  If both are missing, the second is what is reported.
-/
import Tripwire.Circuit.Basic
import Tripwire.Settings.Problem

namespace Tripwire

/-- Why no circuit could be made. -/
inductive CreationError where
  /-- Nothing is there to run the timers. -/
  | noRuntime
  | problems (ps : List Problem)

/-- The error in words. -/
def CreationError.message : CreationError → String
  | noRuntime => "no Tokio runtime available; use with_handle from outside a runtime"
  | problems ps => "invalid breaker configuration: " ++ Problem.joined ps

/-- A circuit with an inactive breaker. -/
def Circuit.create {α : Type} (hasRuntime : Bool) (settings : BreakerSettings) (sink : Sink α) :
    Except CreationError (Circuit α) :=
  if !hasRuntime then .error .noRuntime
  else if settings.problems = [] then .ok { settings, sink }
  else .error (.problems settings.problems)

end Tripwire
