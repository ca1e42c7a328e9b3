/-
A sleep has the fuel it needs.

`pass` and `await` go on for `patience` steps at most.  Here it is shown that this is
always enough: a sleep is over only when its time has come, and then no timer that is
due is left.

The measure is the `outlook`, which counts the timers and the reactions of the sink.  A
timer that runs out takes itself off, and an operation starts at most one, so each
reaction pays for the timer it starts.
-/
import Mathlib.Data.List.MinMax
import Mathlib.Tactic.ByContra
import Tripwire.Proofs.Breaker.Shape

namespace Tripwire

/-! ### The timers of a breaker -/

namespace Breaker

variable {now : Nat} {b : Breaker}

/-- A timer that runs out is taken off the list. -/
theorem length_finish {t : Timer} (ht : t ∈ b.timers) :
    (b.finish t).timers.length < b.timers.length :=
  List.length_filter_lt_length_iff_exists.mpr ⟨t, ht, by simp⟩

/-- What a move does to the timers: it stops some, and a report starts one at most, with a new
number. -/
theorem timers_effect (s : BreakerSettings) (now : Nat) (b : Breaker) (move : Move) :
    ∃ rest, rest.Sublist b.timers ∧
      ((move.effect s now b).breaker.timers = rest ∨
        (∃ e, move = .report e) ∧ ∃ t, t.id = b.spawned ∧ t.alarm = .set now s.cooldownMs.toNat ∧
          (move.effect s now b).breaker.timers = rest ++ [t]) := by
  cases move with
  | activate =>
      cases h : b.active with
      | true =>
          exact ⟨b.otherTimers, List.filter_sublist,
            .inl (by simp [Move.effect, activate, h, endCycle])⟩
      | false => exact ⟨b.timers, .refl _, .inl (by simp [Move.effect, activate, h])⟩
  | deactivate =>
      cases h : b.active with
      | true =>
          exact ⟨b.otherTimers, List.filter_sublist,
            .inl (by simp [Move.effect, deactivate, h, endCycle])⟩
      | false => exact ⟨b.timers, .refl _, .inl (by simp [Move.effect, deactivate, h])⟩
  | report e =>
      rw [Move.effect]
      rcases addError_cases s now e b with ⟨-, heq⟩ | ⟨-, -, heq, -⟩ | ⟨-, -, f, -, heq, -⟩ |
        ⟨-, -, errors, -, heq, -⟩
      · exact ⟨b.timers, .refl _, .inl (by rw [heq])⟩
      · exact ⟨b.otherTimers, List.filter_sublist, .inr ⟨⟨e, rfl⟩, _, rfl, rfl, by rw [heq]; rfl⟩⟩
      · exact ⟨b.timers, .refl _, .inl (by rw [heq]; rfl)⟩
      · refine ⟨b.otherTimers, List.filter_sublist, .inl ?_⟩
        rw [heq, fire]
        split <;> rfl
  | expire t => exact ⟨(b.finish t).timers, List.filter_sublist, .inl (timers_expire b t)⟩
  | release => exact ⟨[], List.nil_sublist _, .inl rfl⟩

/-- What holds of the alarm of a new timer holds of all alarms after a move if it has held before. -/
theorem forall_alarms_effect {s : BreakerSettings} {q : Alarm → Prop}
    (new : q (.set now s.cooldownMs.toNat)) (old : ∀ t ∈ b.timers, q t.alarm) (move : Move) :
    ∀ t ∈ (move.effect s now b).breaker.timers, q t.alarm := by
  obtain ⟨rest, hrest, htimers⟩ := timers_effect s now b move
  have hold : ∀ t ∈ rest, q t.alarm := fun t ht => old t (hrest.subset ht)
  rcases htimers with htimers | ⟨-, t, -, halarm, htimers⟩
  · intro t ht
    exact hold t (htimers ▸ ht)
  · intro t' ht'
    rw [htimers, List.mem_append, List.mem_singleton] at ht'
    rcases ht' with ht' | rfl
    · exact hold t' ht'
    · exact halarm ▸ new

/-- A move starts one timer at most. -/
theorem length_effect (s : BreakerSettings) (now : Nat) (b : Breaker) (move : Move) :
    (move.effect s now b).breaker.timers.length ≤ b.timers.length + 1 := by
  obtain ⟨rest, hrest, htimers⟩ := timers_effect s now b move
  have hle := hrest.length_le
  rcases htimers with htimers | ⟨-, t, -, -, htimers⟩ <;> rw [htimers]
  · exact Nat.le_succ_of_le hle
  · simpa using hle

end Breaker

/-! ### Work on an agenda -/

namespace Circuit

variable {α : Type} {c c' c'' : Circuit α}

/-- Work that takes no time, and that is paid for in reactions as far as it starts timers. -/
structure Works (c c' : Circuit α) : Prop where
  now : c'.now = c.now
  outlook : c'.outlook ≤ c.outlook

theorem Works.trans (first : Works c c') (second : Works c' c'') : Works c c'' where
  now := second.now.trans first.now
  outlook := second.outlook.trans first.outlook

/-- Between two reactions the breaker is left alone. -/
theorem works_of_alike (alike : Alike c c') (queued : c'.sink.queued ≤ c.sink.queued) :
    Works c c' where
  now := alike.2.2
  outlook := by
    rw [Circuit.outlook, Circuit.outlook, alike.2.1]
    exact Nat.add_le_add_left queued _

theorem sink_of_settle_done {c last : Circuit α} {tasks : List (Task α)} {fault : Option Fault}
    (h : c.settle tasks = .done last fault) : last.sink = c.sink := by
  induction tasks generalizing c with
  | nil =>
      rw [settle] at h
      cases h
      rfl
  | cons task tasks ih =>
      cases task with
      | fail fault' =>
          rw [settle] at h
          cases h
          rfl
      | conclude op a => exact ih (c := c.record (.reaction op a)) (by rwa [settle] at h)
      | deliver e =>
          rw [settle] at h
          split at h
          · exact (ih h).trans (sink_emit c e)
          · simp at h

/-- An operation takes no time, and starts one timer at most. -/
theorem begin_spec (c : Circuit α) (op : Operation α) :
    (c.begin op).1.now = c.now ∧ (c.begin op).1.sink = c.sink ∧
      (c.begin op).1.breaker.timers.length ≤ c.breaker.timers.length + 1 := by
  refine ⟨rfl, rfl, ?_⟩
  show (op.effect c.settings c.now c.breaker).breaker.timers.length ≤ _
  rw [Operation.breaker_effect]
  cases op.move? with
  | none => exact Nat.le_succ _
  | some move => exact Breaker.length_effect c.settings c.now c.breaker move

theorem works_run (fuel : Nat) : ∀ (c : Circuit α) (tasks : List (Task α)),
    Works c (run fuel c tasks).1 := by
  induction fuel with
  | zero =>
      intro c tasks
      have alike := alike_settle c tasks
      rw [run]
      cases hs : c.settle tasks with
      | done last fault =>
          rw [hs] at alike
          exact works_of_alike alike (by rw [sink_of_settle_done hs])
      | reaction op next rest =>
          rw [hs] at alike
          have hqueued := queued_of_settle hs
          have hle : next.sink.queued ≤ c.sink.queued := by omega
          exact works_of_alike alike hle
  | succ fuel ih =>
      intro c tasks
      have alike := alike_settle c tasks
      rw [run]
      cases hs : c.settle tasks with
      | done last fault =>
          rw [hs] at alike
          exact works_of_alike alike (by rw [sink_of_settle_done hs])
      | reaction op next rest =>
          rw [hs] at alike
          obtain ⟨-, hbreaker, hnow⟩ : Alike c next := alike
          obtain ⟨hnow', hsink, hlength⟩ := begin_spec next op
          have hqueued := queued_of_settle hs
          -- The reaction that is used up pays for the timer that the operation starts.
          have paid : Works c (next.begin op).1 := by
            refine ⟨hnow'.trans hnow, ?_⟩
            rw [outlook, outlook, hsink, ← hbreaker]
            omega
          exact paid.trans (ih _ _)

theorem works_finish (c : Circuit α) (tasks : List (Task α)) : Works c (c.finish tasks).1 :=
  works_run _ c tasks

/-- An operation takes no time. -/
theorem now_perform (c : Circuit α) (op : Operation α) : (c.perform op).1.now = c.now := by
  rw [perform_fst]
  exact (works_finish _ _).now

/-- A timer that runs out takes no time. -/
theorem now_expire (c : Circuit α) (t : Timer) : (c.expire t).now = c.now :=
  (works_finish { c with breaker := (c.breaker.expire t).breaker } _).now

/-! ### The timer that is due first -/

section Reach

variable (c) (time : Nat)

@[simp] theorem now_reach : (c.reach time).now = max c.now time := rfl

@[simp] theorem breaker_reach : (c.reach time).breaker = c.breaker := rfl

@[simp] theorem settings_reach : (c.reach time).settings = c.settings := rfl

/-- A time that has come changes nothing. -/
theorem reach_of_le {time : Nat} (h : time ≤ c.now) : c.reach time = c := by
  rw [reach, Nat.max_eq_left h]

/-- A time that is passed by anyway makes no difference. -/
theorem reach_reach {time time' : Nat} (h : time ≤ time') :
    (c.reach time).reach time' = c.reach time' := by
  rw [reach, reach, reach, Nat.max_assoc, Nat.max_eq_right h]

end Reach

/-- Of the timers that run the next one is due first. -/
theorem le_of_next? {t other : Timer} (h : c.next? = some t) (hother : other ∈ c.breaker.timers) :
    t.alarm.due ≤ other.alarm.due := by
  have hall := List.find?_some h
  exact of_decide_eq_true (List.all_eq_true.mp hall other hother)

/-- Unless no timer runs there is one that is due first. -/
theorem next?_eq_none_iff : c.next? = none ↔ c.breaker.timers = [] := by
  refine ⟨fun h => ?_, next?_of_timers_nil⟩
  cases hfirst : c.breaker.timers.argmin (·.alarm.due) with
  | none => exact List.argmin_eq_none.mp hfirst
  | some t =>
      refine absurd (List.all_eq_true.mpr fun other hother => decide_eq_true ?_)
        (List.find?_eq_none.mp h t (List.argmin_mem hfirst))
      exact List.le_of_mem_argmin (f := fun t : Timer => t.alarm.due) hother hfirst

/-- If the timer that is due first does not pass a test that is no harder for earlier alarms, then
none does. -/
theorem filter_next?_eq_none_iff {p : Timer → Bool}
    (easier : ∀ t other : Timer, t.alarm.due ≤ other.alarm.due → p other = true → p t = true) :
    c.next?.filter p = none ↔ ∀ t ∈ c.breaker.timers, p t = false := by
  cases hnext : c.next? with
  | none => simp [next?_eq_none_iff.mp hnext]
  | some t =>
      rw [Option.filter_eq_none_iff]
      constructor
      · intro fails other hother
        rw [Bool.eq_false_iff]
        exact fun passes => fails t rfl (easier t other (le_of_next? hnext hother) passes)
      · rintro fails _ ⟨⟩
        simp [fails t (mem_of_next? hnext)]

theorem dueBy?_eq_none_iff {time : Nat} :
    c.dueBy? time = none ↔ ∀ t ∈ c.breaker.timers, time < t.alarm.due := by
  rw [dueBy?, filter_next?_eq_none_iff fun t other earlier due =>
    decide_eq_true (earlier.trans (of_decide_eq_true due))]
  simp

theorem dueBefore?_eq_none_iff {time : Nat} :
    c.dueBefore? time = none ↔ ∀ t ∈ c.breaker.timers, time ≤ t.alarm.due := by
  rw [dueBefore?, filter_next?_eq_none_iff fun t other earlier due =>
    decide_eq_true (Nat.lt_of_le_of_lt earlier (of_decide_eq_true due))]
  simp

/-- A timer that runs out does so when it is due, or at once if it is late, and leaves less to
come. -/
theorem ring_spec {t : Timer} (ht : t ∈ c.breaker.timers) :
    (c.ring t).now = max c.now t.alarm.due ∧ (c.ring t).outlook < c.outlook := by
  refine ⟨now_expire (c.reach t.alarm.due) t, ?_⟩
  have works := works_finish
    { c.reach t.alarm.due with breaker := (c.breaker.expire t).breaker }
    (c.breaker.expire t).agenda
  have hpaid : (c.ring t).outlook ≤ (c.breaker.expire t).breaker.timers.length + c.sink.queued :=
    works.outlook
  rw [Breaker.timers_expire] at hpaid
  have hone := Breaker.length_finish ht
  exact Nat.lt_of_le_of_lt hpaid (Nat.add_lt_add_right hone _)

/-! ### Sleeping -/

/-- With fuel for all timers a way through time ends when its time has come, and then none of them
is due. -/
theorem passTo_spec {time : Nat} (fuel : Nat) : ∀ c : Circuit α, c.outlook < fuel →
    (passTo time fuel c).now = max c.now time ∧ (passTo time fuel c).dueBy? time = none := by
  induction fuel with
  | zero => intro c h; exact absurd h (Nat.not_lt_zero _)
  | succ fuel ih =>
      intro c h
      rw [passTo]
      cases hd : c.dueBy? time with
      | some t =>
          obtain ⟨hnext, hdue⟩ := dueBy?_eq_some.mp hd
          obtain ⟨hnow, hless⟩ := ring_spec (mem_of_next? hnext)
          obtain ⟨hnow', hnone⟩ := ih (c.ring t) (by omega)
          refine ⟨?_, hnone⟩
          rw [hnow', hnow, Nat.max_assoc, Nat.max_eq_right hdue]
      | none => exact ⟨rfl, hd⟩

/-- **A sleep lasts as long as it is meant to, and no timer that is due is left after it.** -/
theorem pass_spec (c : Circuit α) (ms : Nat) :
    (c.pass ms).now = c.now + min ms Alarm.farthest ∧ (c.pass ms).dueBy? (c.pass ms).now = none := by
  have spec : (c.pass ms).now = max c.now (Alarm.set c.now ms).due ∧
      (c.pass ms).dueBy? (Alarm.set c.now ms).due = none :=
    passTo_spec c.patience c (Nat.lt_succ_self _)
  have hend : (c.pass ms).now = (Alarm.set c.now ms).due :=
    spec.1.trans (Nat.max_eq_right (Nat.le_add_right _ _))
  exact ⟨hend, hend ▸ spec.2⟩

/-- With fuel for all timers a wait that learns nothing ends when its time has come, and the signal
has not been settled. -/
theorem awaitTo_spec {cycle time : Nat} (fuel : Nat) : ∀ c : Circuit α, c.outlook < fuel →
    (awaitTo cycle time fuel c).2 = none →
      ((awaitTo cycle time fuel c).1.breaker.fate cycle).verdict? = none ∧
        (awaitTo cycle time fuel c).1.now = max c.now time := by
  induction fuel with
  | zero => intro c h; exact absurd h (Nat.not_lt_zero _)
  | succ fuel ih =>
      intro c h
      rw [awaitTo]
      cases hfate : (c.breaker.fate cycle).verdict? with
      | some v => intro hv; simp at hv
      | none =>
          dsimp only
          cases hd : c.dueBefore? time with
          | some t =>
              intro hv
              obtain ⟨hnext, hdue⟩ := dueBefore?_eq_some.mp hd
              obtain ⟨hnow, hless⟩ := ring_spec (mem_of_next? hnext)
              obtain ⟨hfate', hnow'⟩ := ih (c.ring t) (by omega) hv
              refine ⟨hfate', ?_⟩
              rw [hnow', hnow, Nat.max_assoc, Nat.max_eq_right (Nat.le_of_lt hdue)]
          | none => exact fun _ => ⟨hfate, rfl⟩

/-- **A wait that learns nothing has lasted as long as it may, and its signal is unsettled.** -/
theorem await_spec (c : Circuit α) (cycle ms : Nat) (silent : (c.await cycle ms).2 = none) :
    ((c.await cycle ms).1.breaker.fate cycle).verdict? = none ∧
      (c.await cycle ms).1.now = c.now + min ms Alarm.farthest := by
  obtain ⟨hfate, hnow⟩ := awaitTo_spec c.patience c (Nat.lt_succ_self _) silent
  exact ⟨hfate, hnow.trans (Nat.max_eq_right (Nat.le_add_right _ _))⟩

end Circuit

end Tripwire
