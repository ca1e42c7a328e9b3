/-
Time passes.

Whoever lets time pass sets an alarm and sleeps until it rings.  The timers of the
breaker have alarms of the same kind.  Those that ring by then do so in the order in
which they are due, and each time the timer runs out, with all its reactions, before
time goes on.  Reactions may start timers, and these run out in the same stretch of
time if they are due in it.

The fuel of the loops counts the timers that can run out.  A timer that runs out is
gone, and what it sets off can start at most one new timer for each reaction it uses
up.
-/
import Tripwire.Circuit.Basic

namespace Tripwire

/-- What a settled signal tells those who wait for it: whether the cycle tripped. -/
def Fate.verdict? : Fate → Option Bool
  | .pending => none
  | .fired => some true
  | .closed => some false

namespace Circuit

variable {α : Type}

/-- The timer that is due first. -/
def next? (c : Circuit α) : Option Timer :=
  c.breaker.timers.find? fun t => c.breaker.timers.all fun other => t.alarm.due ≤ other.alarm.due

/-- The timer that is due first, if that is by a time. -/
def dueBy? (c : Circuit α) (time : Nat) : Option Timer := c.next?.filter (·.alarm.due ≤ time)

/-- The timer that is due first, if that is before a time. -/
def dueBefore? (c : Circuit α) (time : Nat) : Option Timer := c.next?.filter (·.alarm.due < time)

/-- The circuit once a time has come. -/
def reach (c : Circuit α) (time : Nat) : Circuit α := { c with now := max c.now time }

/-- A timer runs out when it is due. -/
def ring (c : Circuit α) (t : Timer) : Circuit α := (c.reach t.alarm.due).expire t

/-- How many more timers can run out. -/
def outlook (c : Circuit α) : Nat := c.breaker.timers.length + c.sink.queued

/-- How many steps a sleep can take: one for each timer, and one to its end. -/
def patience (c : Circuit α) : Nat := c.outlook + 1

/-- Goes on to a time, in at most so many steps; what is due by then runs out on the way. -/
def passTo (time : Nat) : Nat → Circuit α → Circuit α
  | 0, c => c
  | fuel + 1, c =>
      match c.dueBy? time with
      | some t => passTo time fuel (c.ring t)
      | none => c.reach time

/-- Lets so many milliseconds pass. -/
def pass (c : Circuit α) (ms : Nat) : Circuit α := passTo (Alarm.set c.now ms).due c.patience c

/-- Goes on until a signal is settled, and to a time at most, in at most so many steps. -/
def awaitTo (cycle time : Nat) : Nat → Circuit α → Circuit α × Option Bool
  | 0, c => (c, none)
  | fuel + 1, c =>
      match (c.breaker.fate cycle).verdict? with
      | some v => (c, some v)
      | none =>
          match c.dueBefore? time with
          | some t => awaitTo cycle time fuel (c.ring t)
          | none => (c.reach time, none)

/-- Waits for the signal of a cycle, for so many milliseconds at most.  The wait is over as soon as
the signal is settled; its own alarm comes before all timers that are due at the same time. -/
def await (c : Circuit α) (cycle ms : Nat) : Circuit α × Option Bool :=
  awaitTo cycle (Alarm.set c.now ms).due c.patience c

end Circuit

end Tripwire
