/-
What a breaker tells the outside: lines for its log, and metrics.

There are three counters and a gauge.  The gauge shows how many errors count at
the moment and is set anew at each change.  A line for the log is kept as what it
says, and becomes text only with the breaker's settings.
-/
import Tripwire.Settings.Basic

namespace Tripwire

/-- A line for the log. -/
inductive Notice where
  /-- A cycle has begun. -/
  | started (cycle : Nat)
  /-- A cycle has ended because the next one begins. -/
  | superseded (cycle : Nat)
  /-- A cycle has been ended. -/
  | deactivated (cycle : Nat)
  /-- A cycle has tripped over the errors written here. -/
  | tripped (cycle : Nat) (errors : String)
  /-- A quiet period has cleared so many errors. -/
  | cleared (count : Nat)
  deriving DecidableEq, Repr

namespace Notice

/-- Only a trip is worth a warning. -/
def isWarning : Notice → Bool
  | tripped .. => true
  | _ => false

/-- The line in words. -/
def text (s : BreakerSettings) : Notice → String
  | started cycle =>
      "cycle " ++ toString cycle ++ " started (limit " ++ toString s.limit.toNat
        ++ ", cooldown " ++ s.cooldownText ++ ")"
  | superseded cycle => "cycle " ++ toString cycle ++ " ended by reactivation"
  | deactivated cycle => "cycle " ++ toString cycle ++ " deactivated"
  | tripped cycle errors =>
      "tripped: " ++ toString s.limit.toNat ++ " errors within " ++ s.cooldownText
        ++ " of each other in cycle " ++ toString cycle ++ ": " ++ errors
  | cleared count =>
      "cooldown of " ++ s.cooldownText ++ " elapsed, cleared " ++ toString count ++ " error(s)"

end Notice

/-- Something that is counted from the start of the program on. -/
inductive Counter where
  | errors
  | trips
  | resets
  deriving DecidableEq, Repr

/-- The name of the counter. -/
def Counter.name : Counter → String
  | errors => "rate_breaker_errors_total"
  | trips => "rate_breaker_trips_total"
  | resets => "rate_breaker_resets_total"

/-- The name of the gauge. -/
def gaugeName : String := "rate_breaker_error_count"

/-- One thing that a breaker tells the outside. -/
inductive Emission where
  /-- A counter goes up by one. -/
  | counter (c : Counter)
  /-- The gauge is set. -/
  | gauge (count : Nat)
  | notice (n : Notice)
  deriving DecidableEq, Repr

end Tripwire
