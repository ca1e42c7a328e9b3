/-
Timers that were stopped too late.

A timer is stopped when another takes its place and when its cycle ends.  That can come
too late: the timer may have rung by then and be about to do its work, and nobody knows
when it gets to it.  `Straggles` is a breaker on which this goes as badly as it can.  No
timer is ever stopped there, and each one runs out once, at any moment from the time on
when it is due, between any two of the moves that others make.

All that keeps such a straggler from doing harm is its stamp.  A deed moves the stamp of
the breaker on by `Deed.bumps`, once for an error that counts and once for a cycle that
ends.  Below 2^64 of these the stamp of a timer tells how many there had been when it was
started.  `Breaker.Traced` carries this through a run, together with what the breaker
looks like while there are no others: then the errors are those that counted when the
timer was started, and the armed timer is this one.
-/
import Mathlib.Algebra.Order.BigOperators.Group.List
import Mathlib.Algebra.Order.Ring.Nat
import Mathlib.Data.List.Nodup
import Tripwire.Proofs.Breaker.Shape

namespace Tripwire

namespace Deed

variable {s : BreakerSettings} {d : Deed}

/-! ### How deeds move the stamp -/

/-- The deed ends a cycle: an active breaker trips, is deactivated or is activated anew. -/
def ends (s : BreakerSettings) (d : Deed) : Bool :=
  d.before.active && (d.begins || !(d.after s).active)

/-- How often the deed moves the stamp on. -/
def bumps (s : BreakerSettings) (d : Deed) : Nat :=
  (if d.counts then 1 else 0) + if d.ends s then 1 else 0

/-- The timers that the deed starts: those whose numbers are new. -/
def started (s : BreakerSettings) (d : Deed) : List Timer :=
  (d.after s).timers.filter fun t => d.before.spawned ≤ t.id

theorem bumps_eq_zero_iff : d.bumps s = 0 ↔ d.counts = false ∧ d.ends s = false := by
  rw [bumps]
  cases d.counts <;> cases d.ends s <;> simp

theorem bumps_of_inactive (h : d.before.active = false) : d.bumps s = 0 :=
  bumps_eq_zero_iff.mpr ⟨by simp [counts, h], by simp [ends, h]⟩

theorem ends_expire (time : Nat) (b : Breaker) (t : Timer) :
    ends s ⟨time, b, .expire t⟩ = false := by
  have hactive : (after s ⟨time, b, .expire t⟩).active = b.active := Breaker.active_expire b t
  rw [ends, hactive]
  cases b.active <;> rfl

theorem bumps_expire (time : Nat) (b : Breaker) (t : Timer) : bumps s ⟨time, b, .expire t⟩ = 0 :=
  bumps_eq_zero_iff.mpr ⟨rfl, ends_expire time b t⟩

/-- Whoever steers an active breaker ends its cycle. -/
theorem bumps_of_steers (hd : d.steers = true) (active : d.before.active = true) :
    d.bumps s = 1 := by
  obtain ⟨time, b, move⟩ := d
  have hends : ends s ⟨time, b, move⟩ = true := by
    cases move with
    | activate => simp [ends, begins, show b.active = true from active]
    | deactivate =>
        have hidle : (after s ⟨time, b, .deactivate⟩).active = false := Breaker.active_deactivate b
        simp [ends, hidle, show b.active = true from active]
    | _ => exact absurd hd (by simp [steers])
  have hcounts : counts ⟨time, b, move⟩ = false := by
    refine counts_of_not_report ?_
    rintro e rfl
    exact absurd hd (by simp [steers])
  simp [bumps, hends, hcounts]

/-- A deed moves the stamp on as often as it is said to. -/
theorem stamp_after (s : BreakerSettings) (d : Deed) :
    (d.after s).stamp = d.before.stamp + UInt64.ofNat (d.bumps s) := by
  obtain ⟨time, b, move⟩ := d
  cases move with
  | activate =>
      cases ha : b.active with
      | true =>
          rw [bumps_of_steers rfl ha]
          simp [after, effect, Move.effect, Breaker.activate, Breaker.endCycle, ha]
      | false =>
          rw [bumps_of_inactive ha]
          simp [after, effect, Move.effect, Breaker.activate, ha]
  | deactivate =>
      cases ha : b.active with
      | true =>
          rw [bumps_of_steers rfl ha]
          simp [after, effect, Move.effect, Breaker.deactivate, Breaker.endCycle, ha]
      | false =>
          rw [bumps_of_inactive ha]
          simp [after, effect, Move.effect, Breaker.deactivate, ha]
  | report e =>
      have hafter : after s ⟨time, b, .report e⟩ = (b.addError s time e).breaker := rfl
      have hcounts : counts ⟨time, b, .report e⟩ = b.active := counts_of_report rfl
      rcases Breaker.addError_cases s time e b with ⟨ha, heq⟩ | ⟨ha, -, heq, -⟩ |
        ⟨ha, -, f, -, heq, -⟩ | ⟨ha, -, errors, -, heq, -⟩
      · rw [bumps_of_inactive ha, hafter, heq]
        exact (UInt64.add_zero _).symm
      · rw [bumps, hcounts, ends, hafter, heq]
        simp [begins, Breaker.arm, Breaker.count, ha]
      · rw [bumps, hcounts, ends, hafter, heq]
        simp [begins, Breaker.count, ha]
      · have hfire : (b.count e).fire.stamp = b.stamp + 1 := by
          unfold Breaker.fire
          split <;> rfl
        rw [bumps, hcounts, ends, hafter, heq]
        simp [begins, Breaker.endCycle, hfire, ha, UInt64.add_assoc]
  | expire t =>
      rw [bumps_expire]
      show (b.expire t).breaker.stamp = b.stamp + 0
      rw [UInt64.add_zero]
      unfold Breaker.expire
      dsimp only
      split <;> rfl
  | release =>
      have hends : ends s ⟨time, b, .release⟩ = false := by
        show (b.active && (false || !b.active)) = false
        cases b.active <;> rfl
      rw [bumps_eq_zero_iff.mpr ⟨rfl, hends⟩]
      exact (UInt64.add_zero _).symm

theorem spawned_le_after (s : BreakerSettings) (d : Deed) :
    d.before.spawned ≤ (d.after s).spawned := by
  obtain ⟨time, b, move⟩ := d
  show b.spawned ≤ (move.effect s time b).breaker.spawned
  cases move with
  | activate => cases ha : b.active <;> simp [Move.effect, Breaker.activate, Breaker.endCycle, ha]
  | deactivate =>
      cases ha : b.active <;> simp [Move.effect, Breaker.deactivate, Breaker.endCycle, ha]
  | report e =>
      rw [Move.effect]
      rcases Breaker.addError_cases s time e b with ⟨-, heq⟩ | ⟨-, -, heq, -⟩ |
        ⟨-, -, f, -, heq, -⟩ | ⟨-, -, errors, -, heq, -⟩
      · rw [heq]
      · rw [heq]
        exact Nat.le_succ b.spawned
      · rw [heq]
        exact Nat.le_refl b.spawned
      · rw [heq]
        unfold Breaker.fire
        split <;> exact Nat.le_refl b.spawned
  | expire t =>
      show b.spawned ≤ (b.expire t).breaker.spawned
      unfold Breaker.expire
      dsimp only
      split <;> exact Nat.le_refl b.spawned
  | release => exact Nat.le_refl b.spawned

/-- A timer is started only by a report that counts and stays below the limit. -/
theorem started_cases (numbered : ∀ t ∈ d.before.timers, t.id < d.before.spawned) :
    d.started s = [] ∨ ∃ e, d.move = .report e ∧ d.before.active = true ∧
      d.after s = (d.before.count e).arm s d.time ∧
      d.started s = [⟨d.before.spawned, .set d.time s.cooldownMs.toNat, d.before.stamp + 1⟩] := by
  -- A deed that starts no timer keeps some of those that are there, and their numbers are old.
  have old : ∀ timers, timers ⊆ d.before.timers →
      timers.filter (fun t => decide (d.before.spawned ≤ t.id)) = [] := by
    intro timers hsub
    rw [List.filter_eq_nil_iff]
    intro t ht
    have := numbered t (hsub ht)
    simp only [decide_eq_true_eq]
    omega
  obtain ⟨time, b, move⟩ := d
  have others : b.otherTimers ⊆ b.timers := List.filter_sublist.subset
  cases move with
  | activate =>
      refine .inl (old _ ?_)
      show b.activate.breaker.timers ⊆ b.timers
      cases ha : b.active with
      | true => simpa [Breaker.activate, Breaker.endCycle, ha] using others
      | false => simp [Breaker.activate, ha]
  | deactivate =>
      refine .inl (old _ ?_)
      show b.deactivate.breaker.timers ⊆ b.timers
      cases ha : b.active with
      | true => simpa [Breaker.deactivate, Breaker.endCycle, ha] using others
      | false => simp [Breaker.deactivate, ha]
  | report e =>
      have hafter : after s ⟨time, b, .report e⟩ = (b.addError s time e).breaker := rfl
      rcases Breaker.addError_cases s time e b with ⟨-, heq⟩ | ⟨ha, -, heq, -⟩ |
        ⟨-, -, f, -, heq, -⟩ | ⟨-, -, errors, -, heq, -⟩
      · exact .inl (old _ (by rw [hafter, heq]; exact List.Subset.refl _))
      · refine .inr ⟨e, rfl, ha, by rw [hafter, heq], ?_⟩
        rw [started, hafter, heq]
        show (b.otherTimers ++ [_]).filter _ = _
        rw [List.filter_append, old _ others, List.nil_append]
        simp [Breaker.count]
      · exact .inl (old _ (by rw [hafter, heq]; exact List.Subset.refl _))
      · refine .inl (old _ ?_)
        rw [hafter, heq]
        show (b.count e).fire.otherTimers ⊆ b.timers
        unfold Breaker.fire
        split <;> exact others
  | expire t =>
      refine .inl (old _ ?_)
      show (b.expire t).breaker.timers ⊆ b.timers
      rw [Breaker.timers_expire]
      exact List.filter_sublist.subset
  | release => exact .inl rfl

/-- A deed keeps the numbers of the timers below the next one. -/
theorem numbered_after (numbered : ∀ t ∈ d.before.timers, t.id < d.before.spawned) :
    ∀ t ∈ (d.after s).timers, t.id < (d.after s).spawned := by
  intro t ht
  have hgrows := spawned_le_after s d
  by_cases hnew : d.before.spawned ≤ t.id
  · have hstarted : t ∈ d.started s := List.mem_filter.mpr ⟨ht, decide_eq_true hnew⟩
    rcases started_cases numbered with hnil | ⟨e, -, -, hafter, hone⟩
    · rw [hnil] at hstarted
      simp at hstarted
    · rw [hone, List.mem_singleton] at hstarted
      rw [hafter, hstarted]
      exact Nat.lt_succ_self d.before.spawned
  · omega

end Deed

/-- How often the deeds move the stamp on. -/
def bumps (s : BreakerSettings) (h : List Deed) : Nat := (h.map (Deed.bumps s)).sum

theorem bumps_append (s : BreakerSettings) (h h' : List Deed) :
    bumps s (h ++ h') = bumps s h + bumps s h' := by
  simp [bumps]

theorem bumps_singleton (s : BreakerSettings) (d : Deed) : bumps s [d] = d.bumps s := by
  simp [bumps]

theorem bumps_eq_zero_iff {s : BreakerSettings} {h : List Deed} :
    bumps s h = 0 ↔ ∀ d ∈ h, d.counts = false ∧ d.ends s = false := by
  simp only [bumps, List.sum_eq_zero_iff, List.mem_map, forall_exists_index, and_imp,
    forall_apply_eq_imp_iff₂, Deed.bumps_eq_zero_iff]

/-! ### Runs with stragglers -/

/-- What can happen to a breaker, at a time, while some timers have not yet run out.  No timer is
stopped: each runs out once, when it is due or at any later moment. -/
inductive Straggles (s : BreakerSettings) : List Deed → Nat → List Timer → Breaker → Prop
  | new : Straggles s [] 0 [] {}
  | pause {h : List Deed} {now : Nat} {loose : List Timer} {b : Breaker} (ms : Nat) :
      Straggles s h now loose b → Straggles s h (now + ms) loose b
  | act {h : List Deed} {now : Nat} {loose : List Timer} {b : Breaker} (move : Move) :
      Straggles s h now loose b → Held h → (∀ t, move ≠ .expire t) →
      Straggles s (h ++ [⟨now, b, move⟩]) now (loose ++ Deed.started s ⟨now, b, move⟩)
        (Deed.after s ⟨now, b, move⟩)
  | runOut {h : List Deed} {now : Nat} {loose : List Timer} {b : Breaker} {t : Timer} :
      Straggles s h now loose b → Held h → t ∈ loose → t.alarm.due ≤ now →
      Straggles s (h ++ [⟨now, b, .expire t⟩]) now (loose.erase t)
        (Deed.after s ⟨now, b, .expire t⟩)
  /-- Once the breaker has been let go of, a timer finds none. -/
  | miss {h : List Deed} {now : Nat} {loose : List Timer} {b : Breaker} {t : Timer} :
      Straggles s h now loose b → ¬ Held h → t ∈ loose → t.alarm.due ≤ now →
      Straggles s h now (loose.erase t) b

/-- The timer was started by a report of an error, and some deeds have been done since. -/
structure Traces (s : BreakerSettings) (h : List Deed) (t : Timer) (earlier : List Deed)
    (origin : Deed) (e : Report) (since : List Deed) : Prop where
  history : h = earlier ++ origin :: since
  move : origin.move = .report e
  started : t ∈ origin.started s
  /-- It is due when the quiet period after the error is over. -/
  due : t.alarm.due = Breaker.quietEnd s origin.time

namespace Breaker

variable {s : BreakerSettings} {h : List Deed} {now : Nat} {loose : List Timer} {b : Breaker}

/-- Nothing has moved the stamp since the report of an error started a timer: the errors are those
that counted then, and the timer is the armed one. -/
structure Fresh (origin : Deed) (e : Report) (t : Timer) (b : Breaker) : Prop where
  active : b.active = true
  errors : b.errors = origin.before.errors ++ [e]
  armed : b.armed = some t.id

/-- What keeps stragglers in check. -/
structure Traced (s : BreakerSettings) (h : List Deed) (loose : List Timer) (b : Breaker) : Prop
    where
  stamp : b.stamp = UInt64.ofNat (bumps s h)
  numbered : ∀ t ∈ b.timers, t.id < b.spawned
  below : ∀ t ∈ loose, t.id < b.spawned
  apart : (loose.map Timer.id).Nodup
  /-- Each timer carries the stamp that its own report has left. -/
  origin : ∀ t ∈ loose, ∃ earlier origin e since, Traces s h t earlier origin e since ∧
    t.stamp = UInt64.ofNat (bumps s (earlier ++ [origin])) ∧
    (bumps s since = 0 → Held h → Fresh origin e t b)

/-- On an active breaker every move but a timer's moves the stamp on, short of letting go. -/
theorem bumps_ne_zero {d : Deed} (active : d.before.active = true)
    (timer : ∀ t, d.move ≠ .expire t) (held : d.move ≠ .release) : d.bumps s ≠ 0 := by
  obtain ⟨time, b, move⟩ := d
  cases move with
  | activate => rw [Deed.bumps_of_steers rfl active]; decide
  | deactivate => rw [Deed.bumps_of_steers rfl active]; decide
  | report e =>
      rw [Deed.bumps, Deed.counts_of_report rfl, active]
      simp
  | expire t => exact absurd rfl (timer t)
  | release => exact absurd rfl held

namespace Traced

theorem fresh : Traced s [] [] {} where
  stamp := rfl
  numbered := by simp
  below := by simp
  apart := by simp
  origin := by simp

variable (traced : Traced s h loose b)

include traced

/-- The timers of the breaker keep their numbers below the next one. -/
theorem numbered_after (time : Nat) (move : Move) :
    ∀ t ∈ (Deed.after s ⟨time, b, move⟩).timers,
      t.id < (Deed.after s ⟨time, b, move⟩).spawned :=
  Deed.numbered_after traced.numbered

theorem stamp_after (time : Nat) (move : Move) :
    (Deed.after s ⟨time, b, move⟩).stamp = UInt64.ofNat (bumps s (h ++ [⟨time, b, move⟩])) := by
  rw [Deed.stamp_after, bumps_append, bumps_singleton, UInt64.ofNat_add, ← traced.stamp]

/-- Moves that are no timer's keep the stragglers in check, and so does a timer that they start. -/
theorem act (move : Move) (timer : ∀ t, move ≠ .expire t) :
    Traced s (h ++ [⟨now, b, move⟩]) (loose ++ Deed.started s ⟨now, b, move⟩)
      (Deed.after s ⟨now, b, move⟩) := by
  have hgrows : b.spawned ≤ (Deed.after s ⟨now, b, move⟩).spawned :=
    Deed.spawned_le_after s ⟨now, b, move⟩
  have hcases := Deed.started_cases (s := s) (d := ⟨now, b, move⟩) traced.numbered
  have hids : ∀ t ∈ Deed.started s ⟨now, b, move⟩, b.spawned ≤ t.id := fun t ht =>
    of_decide_eq_true (List.mem_filter.mp ht).2
  refine ⟨traced.stamp_after now move, traced.numbered_after now move, ?_, ?_, ?_⟩
  · intro t ht
    rcases List.mem_append.mp ht with ht | ht
    · exact Nat.lt_of_lt_of_le (traced.below t ht) hgrows
    · exact traced.numbered_after now move t (List.mem_filter.mp ht).1
  · rw [List.map_append, List.nodup_append]
    refine ⟨traced.apart, ?_, ?_⟩
    · rcases hcases with hnil | ⟨e, -, -, -, hone⟩
      · simp [hnil]
      · simp [hone]
    · intro i hi j hj
      obtain ⟨t, ht, rfl⟩ := List.mem_map.mp hi
      obtain ⟨t', ht', rfl⟩ := List.mem_map.mp hj
      exact Nat.ne_of_lt (Nat.lt_of_lt_of_le (traced.below t ht) (hids t' ht'))
  · intro t ht
    rcases List.mem_append.mp ht with ht | ht
    · obtain ⟨earlier, origin, e, since, traces, hstamp, hfresh⟩ := traced.origin t ht
      refine ⟨earlier, origin, e, since ++ [⟨now, b, move⟩],
        { traces with history := by simp [traces.history] }, hstamp, ?_⟩
      intro hzero held
      obtain ⟨held, hlast⟩ := held_append.mp held
      rw [bumps_append, bumps_singleton, Nat.add_eq_zero_iff] at hzero
      have active := (hfresh hzero.1 held).active
      exact absurd hzero.2 (bumps_ne_zero active timer (held_singleton.mp hlast))
    · rcases hcases with hnil | ⟨e, hmove, hactive, hafter, hone⟩
      · rw [hnil] at ht
        simp at ht
      · have hstarted := ht
        rw [hone, List.mem_singleton] at ht
        refine ⟨h, ⟨now, b, move⟩, e, [], ⟨rfl, hmove, hstarted, by rw [ht]; rfl⟩, ?_, ?_⟩
        · rw [← traced.stamp_after now move, hafter, ht]
          rfl
        · intro _ _
          rw [hafter, ht]
          exact ⟨hactive, rfl, rfl⟩

/-- Short of 2^64 bumps a timer is heeded exactly if nothing has moved the stamp since its start. -/
theorem heeds_iff (few : bumps s h < 2 ^ 64) (held : Held h) {t : Timer} {earlier : List Deed}
    {origin : Deed} {e : Report} {since : List Deed}
    (traces : Traces s h t earlier origin e since)
    (stamp : t.stamp = UInt64.ofNat (bumps s (earlier ++ [origin])))
    (fresh : bumps s since = 0 → Held h → Fresh origin e t b) :
    (b.finish t).heeds t = true ↔ bumps s since = 0 := by
  have hsum : bumps s h = bumps s (earlier ++ [origin]) + bumps s since := by
    rw [← bumps_append, traces.history]
    simp
  have hstamp : b.stamp = t.stamp ↔ bumps s since = 0 := by
    have few' : bumps s (earlier ++ [origin]) < 2 ^ 64 := by omega
    rw [traced.stamp, stamp, ← UInt64.toNat_inj, UInt64.toNat_ofNat_of_lt' few,
      UInt64.toNat_ofNat_of_lt' few']
    omega
  constructor
  · intro hheeds
    rw [← hstamp]
    simp only [heeds, finish, Bool.and_eq_true] at hheeds
    exact of_decide_eq_true hheeds.1.2
  · intro hzero
    have hfresh := fresh hzero held
    simp [heeds, finish, hfresh.active, hfresh.errors, hstamp.mpr hzero]

/-- A timer that runs out keeps the others in check. -/
theorem runOut (few : bumps s h < 2 ^ 64) {t : Timer} (ht : t ∈ loose) :
    Traced s (h ++ [⟨now, b, .expire t⟩]) (loose.erase t) (Deed.after s ⟨now, b, .expire t⟩) := by
  have hgrows : b.spawned ≤ (Deed.after s ⟨now, b, .expire t⟩).spawned :=
    Deed.spawned_le_after s ⟨now, b, .expire t⟩
  refine ⟨traced.stamp_after now _, traced.numbered_after now _, ?_, ?_, ?_⟩
  · intro t' ht'
    exact Nat.lt_of_lt_of_le (traced.below t' (List.mem_of_mem_erase ht')) hgrows
  · exact traced.apart.sublist (List.erase_sublist.map _)
  · intro t' ht'
    obtain ⟨earlier, origin, e, since, traces, hstamp, hfresh⟩ :=
      traced.origin t' (List.mem_of_mem_erase ht')
    refine ⟨earlier, origin, e, since ++ [⟨now, b, .expire t⟩],
      { traces with history := by simp [traces.history] }, hstamp, ?_⟩
    intro hzero held
    have held' := (held_append.mp held).1
    rw [bumps_append, Nat.add_eq_zero_iff] at hzero
    obtain ⟨active, errors, armed⟩ := hfresh hzero.1 held'
    -- Two timers cannot both be the armed one, so this one is not heeded.
    have hne : t'.id ≠ t.id := by
      intro hid
      have hnodup : loose.Nodup := List.Nodup.of_map _ traced.apart
      have heq : t' = t := List.inj_on_of_nodup_map traced.apart (List.mem_of_mem_erase ht') ht hid
      rw [heq, hnodup.mem_erase_iff] at ht'
      exact ht'.1 rfl
    have unheeded : (b.finish t).heeds t = false := by
      by_contra hheeds
      obtain ⟨earlier', origin', e', since', traces', hstamp', hfresh'⟩ := traced.origin t ht
      have hzero' := (traced.heeds_iff few held' traces' hstamp' hfresh').mp (by simpa using hheeds)
      rw [(hfresh' hzero' held').armed] at armed
      exact hne (Option.some.inj armed).symm
    have hafter : Deed.after s ⟨now, b, .expire t⟩ = b.finish t := by
      show (b.expire t).breaker = b.finish t
      simp [Breaker.expire, unheeded]
    rw [hafter]
    exact ⟨active, errors, armed⟩

end Traced

theorem traced_of_straggles (run : Straggles s h now loose b) (few : bumps s h < 2 ^ 64) :
    Traced s h loose b := by
  induction run with
  | new => exact .fresh
  | pause ms _ ih => exact ih few
  | act move _ _ timer ih =>
      rw [bumps_append] at few
      exact (ih (by omega)).act move timer
  | runOut _ _ ht _ ih =>
      rw [bumps_append] at few
      exact (ih (by omega)).runOut (by omega) ht
  | miss _ _ _ _ ih =>
      obtain ⟨stamp, numbered, below, apart, origin⟩ := ih few
      exact ⟨stamp, numbered, fun t ht => below t (List.mem_of_mem_erase ht),
        apart.sublist (List.erase_sublist.map _), fun t ht => origin t (List.mem_of_mem_erase ht)⟩

end Breaker

namespace Straggles

variable {s : BreakerSettings} {h : List Deed} {now : Nat} {loose : List Timer} {b : Breaker}

/-- When a timer ran out, it was one of those that had not yet, it was due, and the breaker was
still held. -/
theorem before_runOut (run : Straggles s h now loose b) {before after : List Deed} {d : Deed}
    {t : Timer} (split : h = before ++ d :: after) (ran : d.move = .expire t) :
    Held before ∧ t.alarm.due ≤ d.time ∧
      ∃ loose', t ∈ loose' ∧ Straggles s before d.time loose' d.before := by
  induction run generalizing after with
  | new => simp at split
  | pause ms _ ih => exact ih split
  | act move run _ timer ih =>
      rcases List.eq_nil_or_concat after with rfl | ⟨front, last, rfl⟩
      · obtain ⟨-, hd⟩ := List.append_inj' split rfl
        obtain rfl := List.singleton_inj.mp hd
        exact absurd ran (timer t)
      · rw [List.concat_eq_append, ← List.cons_append, ← List.append_assoc] at split
        exact ih (List.append_inj' split rfl).1
  | runOut run held ht due ih =>
      rcases List.eq_nil_or_concat after with rfl | ⟨front, last, rfl⟩
      · obtain ⟨rfl, hd⟩ := List.append_inj' split rfl
        obtain rfl := List.singleton_inj.mp hd
        obtain rfl : _ = t := by simpa using ran
        exact ⟨held, due, _, ht, run⟩
      · rw [List.concat_eq_append, ← List.cons_append, ← List.append_assoc] at split
        exact ih (List.append_inj' split rfl).1
  | miss _ _ _ _ ih => exact ih split

/-- **However late a timer runs out, it clears the errors that it was started for, or nothing.**

The timer goes back to the report of an error.  If no error has counted since and no cycle has
ended, then the errors are those that counted up to that one, the armed timer is its own, and it
clears them and takes that timer away.  Otherwise it changes nothing of the breaker but that it is
gone from the timers that run, and tells nobody. -/
theorem harmless (run : Straggles s h now loose b) (few : bumps s h < 2 ^ 64)
    {before after : List Deed} {d : Deed} {t : Timer} (split : h = before ++ d :: after)
    (ran : d.move = .expire t) :
    t.alarm.due ≤ d.time ∧
      ∃ earlier origin e since, Traces s before t earlier origin e since ∧
        ((∀ d' ∈ since, d'.counts = false ∧ d'.ends s = false) →
          d.before.errors = origin.before.errors ++ [e] ∧ d.before.armed = some t.id ∧
            d.effect s =
              { breaker := { d.before.finish t with errors := [], armed := none }
                emissions := [.counter .resets, .gauge 0,
                  .notice (.cleared (origin.before.current + 1))] }) ∧
        ((∃ d' ∈ since, d'.counts = true ∨ d'.ends s = true) →
          d.effect s = { breaker := d.before.finish t }) := by
  obtain ⟨held, due, loose', ht, run'⟩ := run.before_runOut split ran
  have few' : bumps s before < 2 ^ 64 := by
    rw [split, bumps_append] at few
    omega
  have traced := Breaker.traced_of_straggles run' few'
  obtain ⟨earlier, origin, e, since, traces, hstamp, hfresh⟩ := traced.origin t ht
  have heeded := traced.heeds_iff few' held traces hstamp hfresh
  have heffect : d.effect s = d.before.expire t := by rw [Deed.effect, ran, Move.effect]
  refine ⟨due, earlier, origin, e, since, traces, fun still => ?_, ?_⟩
  · have hzero := bumps_eq_zero_iff.mpr still
    obtain ⟨-, errors, armed⟩ := hfresh hzero held
    refine ⟨errors, armed, ?_⟩
    have hcount : (d.before.finish t).current = origin.before.current + 1 := by
      show d.before.errors.length = origin.before.errors.length + 1
      simp [errors]
    rw [heffect, Breaker.expire, if_pos (heeded.mpr hzero), hcount]
  · rintro ⟨d', hd', hmoved⟩
    have hzero : bumps s since ≠ 0 := by
      intro hzero
      have := bumps_eq_zero_iff.mp hzero d' hd'
      simp [this.1, this.2] at hmoved
    rw [heffect, Breaker.expire, if_neg (fun hheeds => hzero (heeded.mp hheeds))]

/-- Of the timers of two errors the first runs out too late and changes nothing. -/
theorem harmless_of_overtaken :
    let s : BreakerSettings := { limit := 3, cooldownMs := 10 }
    let t : Timer := ⟨0, .set 0 10, 1⟩
    ∃ before d b, Straggles s (before ++ [d]) 12 [⟨1, .set 0 10, 2⟩] b ∧
      bumps s (before ++ [d]) < 2 ^ 64 ∧ d.move = .expire t ∧ t.alarm.due ≤ d.time ∧
      d.before.current = 2 ∧ d.effect s = { breaker := d.before.finish t } := by
  intro s t
  have activated := (Straggles.new (s := s)).act .activate held_nil (by simp)
  have first := activated.act (.report (.text "a")) (by simp [Held]) (by simp)
  have second := first.act (.report (.text "b")) (by simp [Held]) (by simp)
  have run := (second.pause 12).runOut (t := t) (by simp [Held]) (by decide) (by decide)
  obtain ⟨due, earlier, origin, e, since, traces, -, stale⟩ := harmless run (by decide) rfl rfl
  refine ⟨_, _, _, run, by decide, rfl, due, rfl, stale ?_⟩
  -- The report that the timer goes back to is the first one, and the second has counted since.
  obtain ⟨history, move, started, -⟩ := traces
  rcases earlier with _ | ⟨_, _ | ⟨_, _ | ⟨_, earlier⟩⟩⟩
  · obtain ⟨rfl, -⟩ := List.cons.inj history
    exact absurd move (by simp)
  · obtain ⟨-, history⟩ := List.cons.inj history
    obtain ⟨-, rfl⟩ := List.cons.inj history
    exact ⟨_, List.mem_singleton.mpr rfl, .inl rfl⟩
  · obtain ⟨-, history⟩ := List.cons.inj history
    obtain ⟨-, history⟩ := List.cons.inj history
    obtain ⟨rfl, -⟩ := List.cons.inj history
    exact absurd started (by decide)
  · simp at history

end Straggles

end Tripwire
