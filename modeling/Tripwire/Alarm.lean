/-
Alarms.

An alarm is set for a number of milliseconds and rings when they are over.  It can be
set for thirty years at most: one that is to ring later than that rings after thirty
years all the same.
-/
namespace Tripwire

/-- An alarm that has been set. -/
structure Alarm where
  /-- When it rings, in milliseconds. -/
  due : Nat
  deriving DecidableEq, Repr

namespace Alarm

/-- For how many milliseconds an alarm can be set: thirty years. -/
def farthest : Nat := 30 * 365 * 24 * 60 * 60 * 1000

/-- An alarm that is set for so many milliseconds, or else for as many as it can be. -/
def set (now ms : Nat) : Alarm := { due := now + min ms farthest }

theorem due_set (now ms : Nat) : (set now ms).due = now + min ms farthest := rfl

/-- An alarm that is set for some time rings later. -/
theorem lt_due_set {ms : Nat} (now : Nat) (positive : 0 < ms) : now < (set now ms).due :=
  Nat.lt_add_of_pos_right (Nat.lt_min.mpr ⟨positive, by decide⟩)

end Alarm

end Tripwire
