/-
Lengths of time.

Cooldowns are kept as whole milliseconds in 64 bits.  A finer length is rounded
up when it becomes a cooldown, so that a quiet period is never cut short, and a
length no 64-bit number of milliseconds reaches becomes the longest cooldown
there is.
-/
namespace Tripwire

/-- A length of time in nanoseconds. -/
structure Duration where
  nanos : Nat
  deriving DecidableEq, Repr

namespace Duration

/-- So many seconds and nanoseconds; a thousand million nanoseconds or more carry over. -/
def ofParts (seconds nanos : Nat) : Duration := ⟨seconds * 1000000000 + nanos⟩

/-- So many whole milliseconds. -/
def ofMillis (ms : UInt64) : Duration := ⟨ms.toNat * 1000000⟩

/-- The least number of milliseconds that is no shorter, or the greatest there is. -/
def ceilMillis (d : Duration) : UInt64 :=
  UInt64.ofNat (min ((d.nanos + 999999) / 1000000) (UInt64.size - 1))

/-- The digits of a number of thousandths after the point, without the zeros at their end. -/
def thousandths (n : Nat) : String :=
  let digits := [n / 100 % 10, n / 10 % 10, n % 10]
  let kept := (digits.reverse.dropWhile (· = 0)).reverse
  String.ofList (kept.map Nat.digitChar)

/-- A whole number of milliseconds as text: nothing is `0ns`, less than a second is given in
milliseconds, and anything longer in seconds with as many decimals as it takes. -/
def millisText (ms : UInt64) : String :=
  let n := ms.toNat
  if n = 0 then "0ns"
  else if n < 1000 then toString n ++ "ms"
  else if n % 1000 = 0 then toString (n / 1000) ++ "s"
  else toString (n / 1000) ++ "." ++ thousandths (n % 1000) ++ "s"

/-- Fitting milliseconds come back from the length they make. -/
theorem ceilMillis_ofMillis (ms : UInt64) : (ofMillis ms).ceilMillis = ms := by
  have h := ms.toNat_lt
  have hdiv : (ms.toNat * 1000000 + 999999) / 1000000 = ms.toNat := by omega
  simp only [ceilMillis, ofMillis, hdiv]
  have hfits : ms.toNat ≤ UInt64.size - 1 := Nat.le_sub_one_of_lt h
  rw [Nat.min_eq_left hfits, UInt64.ofNat_toNat]

end Duration

end Tripwire
