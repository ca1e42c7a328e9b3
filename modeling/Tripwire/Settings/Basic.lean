/-
What can be set: the breaker, the watch over the input, and the log.

Every setting has a default, so a program without any setting at all is a
complete one.
-/
import Tripwire.Duration
import Tripwire.Text.Occurrence
import Tripwire.Text.Quoted
import Tripwire.Text.Record

namespace Tripwire

/-- The settings of a breaker. -/
structure BreakerSettings where
  /-- Tells the breaker from others in logs and metrics. -/
  name : String := "default"
  /-- How many errors in one window trip the breaker. -/
  limit : UInt64 := 5
  /-- The quiet time, in milliseconds, after which the window starts afresh. -/
  cooldownMs : UInt64 := 30000
  deriving DecidableEq, Repr

namespace BreakerSettings

/-- Settings with a cooldown of any precision, rounded up to whole milliseconds. -/
def ofCooldown (name : String) (limit : UInt64) (cooldown : Duration) : BreakerSettings :=
  { name, limit, cooldownMs := cooldown.ceilMillis }

/-- The cooldown as a length of time. -/
def cooldown (s : BreakerSettings) : Duration := .ofMillis s.cooldownMs

/-- The cooldown as messages show it. -/
def cooldownText (s : BreakerSettings) : String := Duration.millisText s.cooldownMs

/-- The settings on one line. -/
def text (s : BreakerSettings) : String :=
  Text.recordLine "BreakerConfig"
    [("name", Text.quote s.name), ("limit", toString s.limit.toNat),
     ("cooldown_ms", toString s.cooldownMs.toNat)]

end BreakerSettings

/-- The settings of the watch over the input. -/
structure WatchSettings where
  /-- What a line has to contain to count as an error; every line contains the empty pattern. -/
  pattern : String := ""
  /-- A trip starts the next cycle rather than ending the watch. -/
  rearm : Bool := false
  deriving DecidableEq, Repr

namespace WatchSettings

/-- The line counts as an error. -/
def picks (w : WatchSettings) (line : List Char) : Bool :=
  Text.occursIn w.pattern.toList line

/-- The settings on one line. -/
def text (w : WatchSettings) : String :=
  Text.recordLine "WatchConfig" [("pattern", Text.quote w.pattern), ("rearm", toString w.rearm)]

/-- The empty pattern picks every line. -/
theorem picks_of_pattern_empty {w : WatchSettings} (h : w.pattern = "") (line : List Char) :
    w.picks line = true := by
  simp [picks, h]

end WatchSettings

/-- The settings of the log. -/
structure LogSettings where
  /-- The filter used when the environment does not name one. -/
  level : String := "info"
  deriving DecidableEq, Repr

/-- Everything that can be set. -/
structure Settings where
  breaker : BreakerSettings := {}
  watch : WatchSettings := {}
  log : LogSettings := {}
  deriving DecidableEq, Repr

end Tripwire
