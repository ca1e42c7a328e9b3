/-
What can be asked of a breaker, as data.

Scripts and log sinks name operations rather than run them.  An operation has an
effect on the breaker and an answer; the answer is of use only if the operation
did not break off.  `observe` hands its outcome back as it came, whatever type it
has on success, so operations have that type as a parameter.
-/
import Tripwire.Breaker.State

namespace Tripwire

/-- An operation on a breaker. -/
inductive Operation (α : Type) where
  | activate
  | deactivate
  | addError (e : Report)
  /-- Reports the error of an outcome, if it is one. -/
  | observe (outcome : Except Report α)
  | isActive
  | current
  | name
  | settings
  /-- The breaker on one line. -/
  | text
  /-- The breaker with a line for each part. -/
  | block
  /-- Breaks off. -/
  | fail (fault : Fault)

/-- What an operation answers. -/
inductive Answer (α : Type) where
  | done
  | truth (b : Bool)
  | number (n : Nat)
  | text (s : String)
  | settings (s : BreakerSettings)
  | outcome (o : Except Report α)

namespace Operation

variable {α : Type}

/-- What the operation does to a breaker. -/
def effect (s : BreakerSettings) (now : Nat) (b : Breaker) : Operation α → Effect
  | activate => b.activate
  | deactivate => b.deactivate
  | addError e => b.addError s now e
  | observe (.error e) => b.addError s now e
  | fail fault => { breaker := b, fault }
  | observe (.ok _) | isActive | current | name | settings | text | block => { breaker := b }

/-- What the operation answers on a breaker. -/
def answer (s : BreakerSettings) (b : Breaker) : Operation α → Answer α
  | activate | deactivate | addError _ | fail _ => .done
  | observe outcome => .outcome outcome
  | isActive => .truth b.active
  | current => .number b.current
  | name => .text s.name
  | settings => .settings s
  | text => .text (b.text s)
  | block => .text (b.block s)

end Operation

end Tripwire
