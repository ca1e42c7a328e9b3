/-
What happens to a watch while it runs, as data.

A script says what the input does each time it is asked for more, and what others
do in the meantime: they may use the same breaker or ask for a shutdown.
-/
import Tripwire.Breaker.State

namespace Tripwire.Watchdog

/-- Why input could not be read. -/
structure ReadError where
  kind : String
  message : String
  deriving DecidableEq, Repr

/-- Reading was only interrupted, so it can be tried again. -/
def ReadError.isInterruption (e : ReadError) : Bool := e.kind = "Interrupted"

/-- One thing that happens. -/
inductive Item where
  /-- Some bytes arrive. -/
  | data (bytes : List UInt8)
  /-- The input says once that it has ended. -/
  | endOfInput
  /-- Nothing arrives for so many milliseconds. -/
  | sleep (ms : Nat)
  /-- Reading fails. -/
  | failure (e : ReadError)
  /-- A shutdown is asked for so many times, and nothing arrives any more. -/
  | shutdown (times : Nat)
  /-- Nobody is left who could ask for a shutdown, and nothing arrives any more. -/
  | dropShutdown
  /-- The user interrupts the program, and nothing arrives any more. -/
  | interrupt
  /-- Somebody else reports an error. -/
  | report (text : String)
  /-- Somebody else activates the breaker. -/
  | activate
  /-- Somebody else deactivates the breaker. -/
  | deactivate
  /-- Somebody looks at the breaker. -/
  | glance
  deriving DecidableEq, Repr

/-- A script; behind its last item the input has ended for good. -/
structure Script where
  items : List Item
  /-- How often a shutdown has been asked for before the start. -/
  requests : Nat := 0
  /-- An interruption by the user asks for a shutdown. -/
  heedsInterrupt : Bool := false
  deriving DecidableEq, Repr

/-- Why a watch has ended. -/
inductive Reason where
  /-- The breaker has tripped and is not to be armed again. -/
  | tripped
  /-- The input has ended. -/
  | inputClosed
  /-- Somebody has asked for a shutdown, or nobody is left who could. -/
  | shutdown
  deriving DecidableEq, Repr

/-- The name of the reason. -/
def Reason.name : Reason → String
  | tripped => "Tripped"
  | inputClosed => "InputClosed"
  | shutdown => "Shutdown"

/-- What a watch has come to. -/
structure Summary where
  reason : Reason
  /-- The lines that were reported to the breaker. -/
  reported : Nat
  trips : Nat
  deriving DecidableEq, Repr

end Tripwire.Watchdog
