/-
The breaker itself.

While a breaker is active it counts errors.  An error that does not reach the limit
starts a timer, in place of the one that runs; a timer that runs out clears the
count.  The error that reaches the limit trips the breaker: the cycle's signal
fires and the cycle is over.  A cycle also ends when the breaker is deactivated, or
activated once more, and then its signal closes without having fired.

A timer is stopped when another takes its place, but it may be too late for that,
so it also carries the stamp the breaker had when it was started.  The stamp
changes with each error and at the end of each cycle, and a timer with an old stamp
does nothing.

Each operation is one step from a breaker to an `Effect`: the breaker afterwards,
what it tells the outside, in order, and the fault if it broke off.
-/
import Tripwire.Alarm
import Tripwire.Breaker.Notice
import Tripwire.Breaker.Report

namespace Tripwire

/-- A timer that has been started. -/
structure Timer where
  id : Nat
  /-- The alarm for the time when it runs out. -/
  alarm : Alarm
  /-- The breaker's stamp when it was started. -/
  stamp : UInt64
  deriving DecidableEq, Repr

/-- What has become of the signal of a cycle. -/
inductive Fate where
  /-- The cycle goes on. -/
  | pending
  /-- The cycle has tripped. -/
  | fired
  /-- The cycle has ended without a trip. -/
  | closed
  deriving DecidableEq, Repr

/-- The state of a breaker. -/
structure Breaker where
  active : Bool := false
  /-- The errors that count, oldest first. -/
  errors : List Report := []
  stamp : UInt64 := 0
  /-- How many cycles have begun. -/
  cycle : Nat := 0
  /-- The signal of the last cycle can still fire. -/
  sender : Bool := false
  /-- The cycles that have tripped, last first. -/
  fired : List Nat := []
  /-- The timer that was started last and has neither cleared the count nor been stopped. -/
  armed : Option Nat := none
  /-- The timers that run. -/
  timers : List Timer := []
  /-- How many timers have ever been started. -/
  spawned : Nat := 0
  deriving Repr

/-- What an operation does. -/
structure Effect where
  breaker : Breaker
  emissions : List Emission := []
  fault : Option Fault := none

/-- What can be seen of a breaker at a glance. -/
structure Status where
  active : Bool
  current : Nat
  tripped : Bool
  deriving DecidableEq, Repr

namespace Breaker

/-- The number of errors that count. -/
def current (b : Breaker) : Nat := b.errors.length

/-- What has become of the signal of a cycle; the one before the first has always been closed. -/
def fate (b : Breaker) (cycle : Nat) : Fate :=
  if cycle ∈ b.fired then .fired
  else if b.sender ∧ cycle = b.cycle then .pending
  else .closed

/-- The cycle has tripped. -/
def isTripped (b : Breaker) (cycle : Nat) : Bool := b.fate cycle = .fired

/-- What can be seen of the breaker and of its last cycle. -/
def status (b : Breaker) : Status := ⟨b.active, b.current, b.isTripped b.cycle⟩

/-- What a breaker shows of itself: each part with its name. -/
def parts (s : BreakerSettings) (b : Breaker) : List (String × String) :=
  [("name", Text.quote s.name), ("limit", toString s.limit.toNat), ("cooldown", s.cooldownText),
   ("active", toString b.active), ("current", toString b.current), ("cycle", toString b.cycle)]

/-- The breaker on one line. -/
def text (s : BreakerSettings) (b : Breaker) : String :=
  Text.recordLine "RateCircuitBreaker" (b.parts s)

/-- The breaker with a line for each part. -/
def block (s : BreakerSettings) (b : Breaker) : String :=
  Text.recordBlock "RateCircuitBreaker" (b.parts s)

/-- The timers that run, without the armed one. -/
def otherTimers (b : Breaker) : List Timer := b.timers.filter fun t => b.armed ≠ some t.id

/-- Ends the cycle: nothing counts any more, the armed timer is stopped, and a signal that has not
fired closes. -/
def endCycle (b : Breaker) : Breaker :=
  { b with
    active := false, errors := [], stamp := b.stamp + 1, sender := false
    armed := none, timers := b.otherTimers }

/-- Starts a timer in place of the armed one. -/
def arm (s : BreakerSettings) (now : Nat) (b : Breaker) : Breaker :=
  { b with
    armed := some b.spawned, spawned := b.spawned + 1
    timers := b.otherTimers ++ [⟨b.spawned, .set now s.cooldownMs.toNat, b.stamp⟩] }

/-- Fires the signal of the cycle. -/
def fire (b : Breaker) : Breaker :=
  if b.sender then { b with sender := false, fired := b.cycle :: b.fired } else b

/-- Begins a cycle; one that goes on is ended first. -/
def activate (b : Breaker) : Effect :=
  let ended := if b.active then b.endCycle else b
  { breaker := { ended with active := true, sender := true, cycle := b.cycle + 1 }
    emissions := .gauge 0 :: (if b.active then [.notice (.superseded b.cycle)] else [])
      ++ [.notice (.started (b.cycle + 1))] }

/-- Ends the cycle, if one goes on. -/
def deactivate (b : Breaker) : Effect :=
  if b.active then
    { breaker := b.endCycle, emissions := [.gauge 0, .notice (.deactivated b.cycle)] }
  else { breaker := b }

/-- The breaker with one more error counted and nothing else done about it yet. -/
def count (e : Report) (b : Breaker) : Breaker :=
  { b with errors := b.errors ++ [e], stamp := b.stamp + 1 }

/-- Trips the breaker; it breaks off before that if the errors cannot be written. -/
def trip (b : Breaker) : Effect :=
  match Report.printList b.errors with
  | .error fault => { breaker := b, fault }
  | .ok errors =>
      { breaker := b.fire.endCycle
        emissions := [.counter .trips, .gauge 0, .notice (.tripped b.cycle errors)] }

/-- Counts an error, and trips the breaker or arms a timer; an inactive breaker ignores it. -/
def addError (s : BreakerSettings) (now : Nat) (e : Report) (b : Breaker) : Effect :=
  if b.active then
    let counted := b.count e
    let effect : Effect :=
      if s.limit.toNat ≤ counted.current then counted.trip else { breaker := counted.arm s now }
    { effect with
      emissions := .counter .errors :: .gauge counted.current :: effect.emissions }
  else { breaker := b }

/-- The breaker without a timer that has run out. -/
def finish (t : Timer) (b : Breaker) : Breaker :=
  { b with timers := b.timers.filter fun other => other.id ≠ t.id }

/-- The timer still has a count to clear. -/
def heeds (b : Breaker) (t : Timer) : Bool :=
  b.active && b.stamp = t.stamp && !b.errors.isEmpty

/-- A timer runs out: if nothing has happened since it was started, the count is cleared. -/
def expire (t : Timer) (b : Breaker) : Effect :=
  let b := b.finish t
  if b.heeds t then
    { breaker := { b with errors := [], armed := none }
      emissions := [.counter .resets, .gauge 0, .notice (.cleared b.current)] }
  else { breaker := b }

/-- Lets go of the breaker: no timer runs on, and a signal that has not fired closes. -/
def release (b : Breaker) : Breaker :=
  { b with sender := false, armed := none, timers := [] }

end Breaker

end Tripwire
