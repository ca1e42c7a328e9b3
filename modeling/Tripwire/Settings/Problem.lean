/-
What can be wrong with settings.

The check looks at everything and reports all it finds, the name first, then the
limit, then the cooldown.  Only the breaker's settings can be wrong.
-/
import Tripwire.Settings.Basic
import Tripwire.Text.Blank

namespace Tripwire

/-- One thing that is wrong with the settings of a breaker. -/
inductive Problem where
  | emptyName
  | zeroLimit (name : String)
  | zeroCooldown (name : String)
  deriving DecidableEq, Repr

namespace Problem

/-- The problem in words. -/
def message : Problem → String
  | emptyName => "breaker name must not be empty"
  | zeroLimit name => "breaker '" ++ name ++ "': limit must be greater than zero"
  | zeroCooldown name => "breaker '" ++ name ++ "': cooldown_ms must be greater than zero"

/-- The problem as a constructor with its argument. -/
def text : Problem → String
  | emptyName => "EmptyName"
  | zeroLimit name => "ZeroLimit(" ++ Text.quote name ++ ")"
  | zeroCooldown name => "ZeroCooldown(" ++ Text.quote name ++ ")"

/-- All problems in words, in a row. -/
def joined (problems : List Problem) : String :=
  ", ".intercalate (problems.map message)

/-- All problems as constructors, in brackets. -/
def listText (problems : List Problem) : String :=
  Text.bracketed (problems.map text)

end Problem

/-- All that is wrong with the settings of a breaker. -/
def BreakerSettings.problems (s : BreakerSettings) : List Problem :=
  (if Text.allBlank s.name then [.emptyName] else [])
    ++ (if s.limit = 0 then [.zeroLimit s.name] else [])
    ++ (if s.cooldownMs = 0 then [.zeroCooldown s.name] else [])

/-- All that is wrong with settings. -/
def Settings.problems (s : Settings) : List Problem := s.breaker.problems

/-- A name that is not blank, a limit and a cooldown above zero: nothing is wrong then, and only
then. -/
theorem BreakerSettings.problems_eq_nil_iff (s : BreakerSettings) :
    s.problems = [] ↔ Text.allBlank s.name = false ∧ s.limit ≠ 0 ∧ s.cooldownMs ≠ 0 := by
  unfold problems
  by_cases hn : Text.allBlank s.name <;> by_cases hl : s.limit = 0 <;>
    by_cases hc : s.cooldownMs = 0 <;> simp [hn, hl, hc]

end Tripwire
