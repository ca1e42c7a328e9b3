/-
Phases: many threads call the same operation at once.

A call is one step of the breaker, so calls that come at once are calls in some
order, and as they are all the same one order is as good as another.  A phase is
thus its calls in a row, and shows what has come of them.
-/
import Tripwire.Circuit.Basic

namespace Tripwire

/-- Calls of one operation: so many threads with so many calls each. -/
structure Phase (α : Type) where
  op : Operation α
  threads : Nat
  times : Nat

/-- What has come of a phase. -/
structure PhaseSummary where
  status : Status
  text : String
  notices : List Notice
  errors : Nat
  trips : Nat

namespace Event

variable {α : Type}

/-- The line for the log, if the event is one. -/
def notice? : Event α → Option Notice
  | notice n => some n
  | _ => none

/-- The event is that the counter has gone up. -/
def isCounter (k : Counter) : Event α → Bool
  | counter c => c = k
  | _ => false

end Event

namespace Circuit

variable {α : Type}

/-- Does an operation so many times. -/
def repeatOp (op : Operation α) : Nat → Circuit α → Circuit α
  | 0, c => c
  | n + 1, c => repeatOp op n (c.perform op).1

/-- What has come of a phase, by the events since the last one. -/
def summary (c : Circuit α) : PhaseSummary :=
  let events := c.events.toList
  { status := c.breaker.status
    text := c.breaker.text c.settings
    notices := events.filterMap Event.notice?
    errors := events.countP (Event.isCounter .errors)
    trips := events.countP (Event.isCounter .trips) }

/-- Runs phases one after the other. -/
def runPhases (c : Circuit α) : List (Phase α) → List PhaseSummary
  | [] => []
  | phase :: phases =>
      let c := repeatOp phase.op (phase.threads * phase.times) c
      c.summary :: { c with events := #[] }.runPhases phases

end Circuit

end Tripwire
