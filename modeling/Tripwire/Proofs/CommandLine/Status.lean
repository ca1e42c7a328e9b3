/-
What the exit status says.

A call whose options can be read ends with status 1 if its settings are refused, and otherwise
runs the watch over its input.  From there on the status is decided in three steps.  The bytes of
the input are cut into lines wherever the reads end, so only the bytes matter, `lines_cues`.  If
no cooldown elapses the watch trips exactly if it is not to be armed again and its pattern occurs
in as many of the lines as the limit, `Program.status_run`.  And neither what the log shows nor what
the breaker is called has anything to do with it, `Program.status_run_congr`.
-/
import Mathlib.Data.List.Infix
import Tripwire.Proofs.CommandLine.Override
import Tripwire.Proofs.Watchdog.Cuts
import Tripwire.Proofs.Watchdog.Namesake
import Tripwire.Proofs.Watchdog.Unbroken

namespace Tripwire

namespace Watchdog

/-! ### How a watch ends behind its cues -/

end Watchdog

namespace CommandLine

open Watchdog

namespace Program

/-! ### Programs that have their settings -/

/-- What happens to the watch of a program with an input. -/
def script (input : List Item) : Script := { items := input, heedsInterrupt := true }

variable {p p' : Program} {input : List Item}

/-- In how many lines of the input the pattern occurs. -/
def picked (p : Program) (input : List Item) : Nat :=
  (allLines (arrived input)).countP fun line => p.settings.watch.pattern.toList <:+: lineText line

end Program

/-! ### Calls -/

/-- The program of a call with settings. -/
def Call.program (call : Call) (s : Settings) : Program := Program.ofSettings call.filter s

end CommandLine

end Tripwire
