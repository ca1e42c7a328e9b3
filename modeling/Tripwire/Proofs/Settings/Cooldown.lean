/-
How a cooldown of any precision is kept.

A length of time becomes a number of milliseconds, rounded up, and a number that has no room in
64 bits becomes the greatest one that has.  One equivalence says both, `ceilMillis_le_iff`: the
number is at most n iff n milliseconds are long enough, or there is no greater n.  All else about
the conversion follows from it.

The numbers here are unbounded, whereas a machine has words.  `millisByWords?` takes every step in
words and gives up where a result has no room in its word.  It never does, unless the nanoseconds
carry over into more seconds than a word of 64 bits can count, and so there is no such length:
`millisByWords?_eq`.
-/
import Mathlib.Order.Bounds.Defs
import Tripwire.Settings.Problem

namespace Tripwire

namespace Duration

instance : LE Duration := ⟨fun d e => d.nanos ≤ e.nanos⟩

instance : LT Duration := ⟨fun d e => d.nanos < e.nanos⟩

theorem le_iff {d e : Duration} : d ≤ e ↔ d.nanos ≤ e.nanos := Iff.rfl

theorem nanos_ofMillis (n : UInt64) : (ofMillis n).nanos = n.toNat * 1000000 := rfl

/-- The greatest number of milliseconds there is. -/
def maxMillis : UInt64 := .ofNat (UInt64.size - 1)

theorem toNat_maxMillis : maxMillis.toNat = 18446744073709551615 := rfl

theorem le_maxMillis (n : UInt64) : n ≤ maxMillis := by
  have bound := n.toNat_lt
  rw [UInt64.le_iff_toNat_le, toNat_maxMillis]
  omega

theorem toNat_ceilMillis (d : Duration) :
    d.ceilMillis.toNat = min ((d.nanos + 999999) / 1000000) 18446744073709551615 := by
  have fits : min ((d.nanos + 999999) / 1000000) (UInt64.size - 1) < UInt64.size :=
    Nat.lt_of_le_of_lt (Nat.min_le_right _ _) (by decide)
  exact UInt64.toNat_ofNat_of_lt' fits

/-- The number is the least one that is long enough, up to the greatest there is. -/
theorem ceilMillis_le_iff {d : Duration} {n : UInt64} :
    d.ceilMillis ≤ n ↔ d ≤ ofMillis n ∨ n = maxMillis := by
  have bound := n.toNat_lt
  rw [UInt64.le_iff_toNat_le, toNat_ceilMillis, le_iff, nanos_ofMillis, ← UInt64.toNat_inj,
    toNat_maxMillis]
  omega

theorem ofMillis_le_ofMillis {m n : UInt64} : ofMillis m ≤ ofMillis n ↔ m ≤ n := by
  rw [le_iff, nanos_ofMillis, nanos_ofMillis, UInt64.le_iff_toNat_le]
  omega

/-- A length that some number of milliseconds reaches is not cut short. -/
theorem le_ofMillis_ceilMillis {d : Duration} (reached : d ≤ ofMillis maxMillis) :
    d ≤ ofMillis d.ceilMillis := by
  rcases ceilMillis_le_iff.mp (UInt64.le_refl d.ceilMillis) with h | h
  · exact h
  · rwa [h]

/-- Nothing is added but what makes up whole milliseconds. -/
theorem ofMillis_ceilMillis_lt (d : Duration) :
    (ofMillis d.ceilMillis).nanos < d.nanos + 1000000 := by
  rw [nanos_ofMillis, toNat_ceilMillis]
  omega

/-- Only a length that is out of reach is cut short. -/
theorem ofMillis_ceilMillis_lt_iff {d : Duration} :
    ofMillis d.ceilMillis < d ↔ ofMillis maxMillis < d := by
  have greatest : ofMillis d.ceilMillis ≤ ofMillis maxMillis :=
    ofMillis_le_ofMillis.mpr (le_maxMillis _)
  constructor
  · intro short
    refine Nat.not_le.mp fun within => ?_
    exact absurd short (Nat.not_lt.mpr (le_ofMillis_ceilMillis within))
  · exact fun beyond => Nat.lt_of_le_of_lt greatest beyond

theorem ceilMillis_mono {d e : Duration} (h : d ≤ e) : d.ceilMillis ≤ e.ceilMillis := by
  rw [ceilMillis_le_iff]
  rcases ceilMillis_le_iff.mp (UInt64.le_refl e.ceilMillis) with long | greatest
  · exact .inl (Nat.le_trans h long)
  · exact .inr greatest

theorem ceilMillis_eq_zero_iff {d : Duration} : d.ceilMillis = 0 ↔ d.nanos = 0 := by
  rw [← UInt64.toNat_inj, toNat_ceilMillis, UInt64.toNat_zero]
  omega

/-! ### In words -/

/-- How many numbers there are in 128 bits. -/
def doubleSize : Nat := UInt64.size * UInt64.size

/-- The number, if it is one of so many. -/
def fit? (size n : Nat) : Option Nat := if n < size then some n else none

/-- Seconds and nanoseconds as nanoseconds: those of whole seconds carry over, and the rest is added
to the nanoseconds of all seconds. -/
def nanosByWords? (seconds nanos : Nat) : Option Nat := do
  let seconds ← fit? UInt64.size (seconds + nanos / 1000000000)
  let whole ← fit? doubleSize (seconds * 1000000000)
  fit? doubleSize (whole + nanos % 1000000000)

/-- Nanoseconds in milliseconds, where a remainder counts as one more. -/
def ceilByWords? (nanos : Nat) : Option Nat :=
  if 0 < nanos % 1000000 then fit? doubleSize (nanos / 1000000 + 1) else some (nanos / 1000000)

/-- Seconds and nanoseconds in milliseconds, cut off at the most there is. -/
def millisByWords? (seconds nanos : Nat) : Option UInt64 := do
  let nanos ← nanosByWords? seconds nanos
  let ms ← ceilByWords? nanos
  some (if ms < UInt64.size then .ofNat ms else maxMillis)

theorem fit?_of_lt {size n : Nat} (h : n < size) : fit? size n = some n := if_pos h

theorem size_eq : UInt64.size = 18446744073709551616 := rfl

theorem doubleSize_eq : doubleSize = 340282366920938463463374607431768211456 := by
  rw [doubleSize, size_eq]

variable {seconds nanos : Nat}

theorem nanos_ofParts : (ofParts seconds nanos).nanos = seconds * 1000000000 + nanos := rfl

theorem nanos_lt_of_carries (carries : seconds + nanos / 1000000000 < UInt64.size) :
    (ofParts seconds nanos).nanos < UInt64.size * 1000000000 := by
  rw [size_eq] at carries ⊢
  rw [nanos_ofParts]
  omega

theorem nanosByWords?_eq (carries : seconds + nanos / 1000000000 < UInt64.size) :
    nanosByWords? seconds nanos = some (ofParts seconds nanos).nanos := by
  have bound := nanos_lt_of_carries carries
  have total : (seconds + nanos / 1000000000) * 1000000000 + nanos % 1000000000
      = (ofParts seconds nanos).nanos := by
    rw [nanos_ofParts]
    omega
  have whole_fits : (seconds + nanos / 1000000000) * 1000000000 < doubleSize := by
    rw [size_eq] at carries
    rw [doubleSize_eq]
    omega
  have total_fits : (ofParts seconds nanos).nanos < doubleSize := by
    rw [size_eq] at bound
    rw [doubleSize_eq]
    omega
  rw [nanosByWords?, fit?_of_lt carries, Option.bind_eq_bind, Option.bind_some,
    fit?_of_lt whole_fits, Option.bind_some, total, fit?_of_lt total_fits]

theorem ceilByWords?_eq {n : Nat} (h : n < UInt64.size * 1000000000) :
    ceilByWords? n = some ((n + 999999) / 1000000) := by
  have more_fits : n / 1000000 + 1 < doubleSize := by
    rw [size_eq] at h
    rw [doubleSize_eq]
    omega
  unfold ceilByWords?
  split
  · rw [fit?_of_lt more_fits]
    exact congrArg some (by omega)
  · exact congrArg some (by omega)

/-- No step in words leaves its word. -/
theorem millisByWords?_eq (carries : seconds + nanos / 1000000000 < UInt64.size) :
    millisByWords? seconds nanos = some (ofParts seconds nanos).ceilMillis := by
  have size := size_eq
  rw [millisByWords?, nanosByWords?_eq carries, Option.bind_eq_bind, Option.bind_some,
    ceilByWords?_eq (nanos_lt_of_carries carries), Option.bind_some]
  refine congrArg some (UInt64.toNat_inj.mp ?_)
  rw [toNat_ceilMillis]
  split
  · rename_i fits
    rw [UInt64.toNat_ofNat_of_lt' fits]
    omega
  · rw [toNat_maxMillis]
    omega

end Duration

namespace BreakerSettings

open Duration (maxMillis)

/-- **A cooldown is rounded up to whole milliseconds, and cut off at the most there is.**

It is the least number that is long enough if there is one, and no step of its calculation in words
overflows.  So it is less than a millisecond too long, and too short only if it is cut off.  A
cooldown of whole milliseconds is kept as it is, and only one of nothing at all is a problem. -/
theorem keeps_cooldown (name : String) (limit : UInt64) {seconds : UInt64} {nanos : UInt32}
    (carries : seconds.toNat + nanos.toNat / 1000000000 < UInt64.size) :
    let d := Duration.ofParts seconds.toNat nanos.toNat
    let s := ofCooldown name limit d
    ((∃ n, d ≤ .ofMillis n) → IsLeast {n | d ≤ .ofMillis n} s.cooldownMs) ∧
      ((¬ ∃ n, d ≤ .ofMillis n) → s.cooldownMs = maxMillis) ∧
      Duration.millisByWords? seconds.toNat nanos.toNat = some s.cooldownMs ∧
      (d ≤ .ofMillis maxMillis → d ≤ s.cooldown ∧ s.cooldown.nanos - d.nanos < 1000000) ∧
      (s.cooldown < d ↔ .ofMillis maxMillis < d) ∧
      (∀ d', d ≤ d' → s.cooldownMs ≤ (ofCooldown name limit d').cooldownMs) ∧
      (∀ c : BreakerSettings, c.name = name → c.limit = limit →
        ofCooldown name limit c.cooldown = c) ∧
      (s.problems = [] ↔ Text.allBlank name = false ∧ 0 < limit ∧ 0 < d.nanos) := by
  intro d s
  have cooldown_eq : s.cooldown = .ofMillis d.ceilMillis := rfl
  have reached {n : UInt64} (h : d ≤ .ofMillis n) : d ≤ .ofMillis maxMillis :=
    Nat.le_trans h (Duration.ofMillis_le_ofMillis.mpr (Duration.le_maxMillis n))
  refine ⟨?_, fun out => ?_, Duration.millisByWords?_eq carries, fun within => ?_,
    Duration.ofMillis_ceilMillis_lt_iff, fun _ => Duration.ceilMillis_mono, ?_, ?_⟩
  · rintro ⟨n, h⟩
    exact ⟨Duration.le_ofMillis_ceilMillis (reached h), fun m hm =>
      Duration.ceilMillis_le_iff.mpr (.inl hm)⟩
  · exact (Duration.ceilMillis_le_iff.mp (UInt64.le_refl s.cooldownMs)).resolve_left
      fun h => out ⟨_, h⟩
  · have long := Duration.le_ofMillis_ceilMillis within
    have close := Duration.ofMillis_ceilMillis_lt d
    rw [cooldown_eq]
    exact ⟨long, by omega⟩
  · rintro ⟨_, _, ms⟩ rfl rfl
    rw [ofCooldown, cooldown, Duration.ceilMillis_ofMillis]
  · rw [problems_eq_nil_iff, UInt64.pos_iff_ne_zero, Nat.pos_iff_ne_zero]
    exact and_congr_right' (and_congr_right' (not_congr Duration.ceilMillis_eq_zero_iff))

/-- One nanosecond more than the most there is, with a second of it among the nanoseconds. -/
theorem keeps_cooldown_beyond_longest :
    let seconds : UInt64 := 18446744073709550
    let nanos : UInt32 := 1615000001
    let d := Duration.ofParts seconds.toNat nanos.toNat
    seconds.toNat + nanos.toNat / 1000000000 < UInt64.size ∧
      Duration.millisByWords? seconds.toNat nanos.toNat = some 18446744073709551615 ∧
      (ofCooldown "mail" 3 d).cooldown < d ∧ (ofCooldown "mail" 3 d).problems = [] := by
  intro seconds nanos d
  have carries : seconds.toNat + nanos.toNat / 1000000000 < UInt64.size := by decide
  have beyond : .ofMillis maxMillis < d := by
    show _ < d.nanos
    decide
  obtain ⟨-, greatest, words, -, short, -, -, sound⟩ := keeps_cooldown "mail" 3 carries
  have out : ¬ ∃ n, d ≤ .ofMillis n := by
    rintro ⟨n, h⟩
    exact absurd (Nat.lt_of_lt_of_le beyond (Nat.le_trans h
      (Duration.ofMillis_le_ofMillis.mpr (Duration.le_maxMillis n)))) (Nat.lt_irrefl _)
  rw [greatest out] at words
  exact ⟨carries, words, short.mpr beyond, sound.mpr ⟨by decide, by decide, by decide⟩⟩

end BreakerSettings

end Tripwire
