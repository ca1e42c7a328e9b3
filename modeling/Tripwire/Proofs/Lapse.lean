/-
How the count lapses while somebody sleeps.

A circuit without reactions has one timer at most, and that timer clears the count when it
runs out.  It is due when the quiet period after the last error is over, and no sleep passes
by that time.  So the count is cleared exactly when the quiet period is over,
`Circuit.Lapses`, and whether it has been can be read off the clock.
-/
import Tripwire.Proofs.Quiet

namespace Tripwire

/-- The settings with the part of the cooldown that an alarm can be set for. -/
def BreakerSettings.capped (s : BreakerSettings) : BreakerSettings :=
  { s with cooldownMs := .ofNat (min s.cooldownMs.toNat Alarm.farthest) }

theorem BreakerSettings.cooldown_capped (s : BreakerSettings) :
    s.capped.cooldownMs.toNat = min s.cooldownMs.toNat Alarm.farthest :=
  UInt64.toNat_ofNat_of_lt'
    (Nat.lt_of_le_of_lt (Nat.min_le_left _ _) (UInt64.toNat_lt s.cooldownMs))

theorem BreakerSettings.capped_pos {s : BreakerSettings} (positive : 0 < s.cooldownMs.toNat) :
    0 < s.capped.cooldownMs.toNat := by
  rw [s.cooldown_capped]
  exact Nat.lt_min.mpr ⟨positive, by decide⟩

/-- A cooldown of at most thirty years is not cut off. -/
theorem BreakerSettings.capped_eq {s : BreakerSettings} (h : s.cooldownMs.toNat ≤ Alarm.farthest) :
    s.capped = s := by
  rw [capped, Nat.min_eq_left h, UInt64.ofNat_toNat]

/-- A quiet period is as long as the part of the cooldown that an alarm can be set for. -/
theorem Breaker.quietEnd_capped (s : BreakerSettings) (last : Nat) :
    quietEnd s last = last + s.capped.cooldownMs.toNat := by
  rw [quietEnd, s.cooldown_capped]

/-- With a cooldown of at most thirty years the quiet period is as long as that. -/
theorem Breaker.quietEnd_eq {s : BreakerSettings} (h : s.cooldownMs.toNat ≤ Alarm.farthest)
    (last : Nat) : quietEnd s last = last + s.cooldownMs.toNat := by
  rw [quietEnd_capped, BreakerSettings.capped_eq h]

namespace Circuit

variable {α : Type} {c c' : Circuit α} {last time : Nat}

/-- A tame circuit whose timer clears the count when the quiet period is over that begins with an
error at a time. -/
structure Ticking (last : Nat) (c : Circuit α) : Prop extends Tame c where
  calm : c.breaker.active = true → Breaker.Calm c.settings last c.breaker

namespace Ticking

/-- Errors count only until their timer is due. -/
theorem waits (ticking : Ticking last c) (counts : c.breaker.errors ≠ []) :
    ∃ t, c.breaker.timers = [t] ∧ t.alarm.due = Breaker.quietEnd c.settings last := by
  have active := ticking.sound.active_of_errors counts
  obtain ⟨t, htimers, -, -, hdue⟩ := (ticking.calm active).waits counts
  exact ⟨t, htimers, hdue⟩

/-- A timer that runs out clears the count. -/
theorem ring (ticking : Ticking last c) {t : Timer} (ht : t ∈ c.breaker.timers) :
    Ticking last (c.ring t) ∧ (c.ring t).breaker.errors = [] := by
  have active := ticking.sound.active_of_timer ht
  have tame := ticking.toTame.ring ht
  rw [ring_of_quiet ticking.quiet] at tame ⊢
  exact ⟨⟨tame, fun _ => (ticking.calm active).expire ticking.valid active ht⟩,
    (ticking.calm active).errors_expire active ht⟩

/-- A breaker that has just been activated counts no errors yet. -/
theorem ofActivate (tame : c.Tame) (last : Nat) :
    Ticking last (c.undergo c.breaker.activate) where
  toTame := perform_of_quiet tame.quiet .activate ▸ tame.perform .activate
  calm := fun _ => tame.sound.calm_activate tame.valid last

/-- An error that does not reach the limit is the last one from then on. -/
theorem report (ticking : Ticking last c) (active : c.breaker.active = true) {e : Report}
    (below : c.breaker.current + 1 < c.settings.limit.toNat) :
    Ticking c.now (c.undergo (c.breaker.addError c.settings c.now e)) where
  toTame := perform_of_quiet ticking.quiet (.addError e) ▸ ticking.toTame.perform (.addError e)
  calm := by
    rw [Breaker.addError_of_lt active below]
    exact fun _ => .arm ticking.sound c.now e below

end Ticking

/-- While nobody acts, all that happens to the breaker is that its count is cleared as soon as the
quiet period is over. -/
structure Lapses (last : Nat) (c c' : Circuit α) : Prop where
  ticking : Ticking last c'
  later : c.now ≤ c'.now
  settings : c'.settings = c.settings
  active : c'.breaker.active = c.breaker.active
  cycle : c'.breaker.cycle = c.breaker.cycle
  fired : c'.breaker.fired = c.breaker.fired
  errors : c'.breaker.errors
    = if Breaker.quietEnd c.settings last ≤ c'.now then [] else c.breaker.errors

namespace Lapses

/-- As long as the timer is not due the quiet period is not over. -/
theorem reach (ticking : Ticking last c) (ahead : c.now ≤ time) (none : c.dueBy? time = none) :
    Lapses last c (c.reach time) where
  ticking := ⟨ticking.toTame.reach time, ticking.calm⟩
  later := Nat.le_max_left _ _
  settings := rfl
  active := rfl
  cycle := rfl
  fired := rfl
  errors := by
    rw [breaker_reach, now_reach, Nat.max_eq_right ahead]
    by_cases counts : c.breaker.errors = []
    · rw [counts, ite_self]
    · obtain ⟨t, htimers, hdue⟩ := ticking.waits counts
      have hlt := dueBy?_eq_none_iff.mp none t (by simp [htimers])
      rw [if_neg (by omega)]

/-- The timer that runs out was due when the quiet period was over. -/
theorem afterRing (ticking : Ticking last c) {t : Timer} (ht : t ∈ c.breaker.timers)
    (lapses : Lapses last (c.ring t) c') : Lapses last c c' := by
  have cleared := (ticking.ring ht).2
  have hnow := (ring_spec ht).1
  obtain ⟨ticking', later, settings, active, cycle, fired, errors⟩ := lapses
  rw [cleared, ite_self] at errors
  rw [hnow] at later
  rw [ring_of_quiet ticking.quiet] at settings active cycle fired
  refine ⟨ticking', (Nat.le_max_left _ _).trans later, settings,
    active.trans (Breaker.active_expire _ t), cycle.trans (Breaker.cycle_expire _ t),
    fired.trans (Breaker.fired_expire _ t), ?_⟩
  rw [errors]
  by_cases counts : c.breaker.errors = []
  · rw [counts, ite_self]
  · obtain ⟨only, htimers, hdue⟩ := ticking.waits counts
    obtain rfl : t = only := by simpa [htimers] using ht
    rw [if_pos (hdue ▸ (Nat.le_max_right _ _).trans later)]

end Lapses

theorem lapses_passTo (fuel : Nat) : ∀ c : Circuit α, Ticking last c → c.now ≤ time →
    c.outlook < fuel → Lapses last c (passTo time fuel c) := by
  induction fuel with
  | zero => intro c _ _ hfuel; exact absurd hfuel (Nat.not_lt_zero _)
  | succ fuel ih =>
      intro c ticking ahead hfuel
      rw [passTo]
      cases hd : c.dueBy? time with
      | some t =>
          obtain ⟨hnext, hdue⟩ := dueBy?_eq_some.mp hd
          have ht := mem_of_next? hnext
          obtain ⟨hnow, hless⟩ := ring_spec ht
          exact (ih (c.ring t) (ticking.ring ht).1 (hnow ▸ Nat.max_le.mpr ⟨ahead, hdue⟩)
            (by omega)).afterRing ticking ht
      | none => exact .reach ticking ahead hd

/-- **While somebody sleeps the count lapses exactly when it is meant to.** -/
theorem lapses_pass (ticking : Ticking last c) (ms : Nat) : Lapses last c (c.pass ms) :=
  lapses_passTo _ c ticking (Nat.le_add_right _ _) (Nat.lt_succ_self _)

end Circuit

end Tripwire
