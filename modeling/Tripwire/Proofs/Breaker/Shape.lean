/-
The shape of a breaker.

An operation changes the log of errors, the stamp, the sender and the armed timer
one after the other, and writing the errors down can break it off in the middle.
`Breaker.Sound` is what holds of the breaker all the same, between any two moves of
any run.  The part that a failure of writing spoils is kept apart: `Breaker.Calm`
says how the log and the timer fit together, and holds in a cycle as long as each
attempt to write its errors has succeeded.

Both are shown one move at a time.  What a report does is said once, in
`Breaker.addError_cases`, and everything about reports is read off it.  The
induction over the history of a run then gives `Breaker.Consistent`, which names the
last error that was counted and so tells when the timer is due.
-/
import Tripwire.Circuit.Creation
import Tripwire.Proofs.History

namespace Tripwire

/-! ### Writing errors down -/

namespace Report

theorem printItems_eq_error {reports : List Report} {fault : Fault}
    (h : printItems reports = .error fault) : ∃ r ∈ reports, r.print = .error fault := by
  induction reports with
  | nil => simp [printItems] at h
  | cons r rest ih =>
      cases hr : r.print with
      | error fault' =>
          simp only [printItems, hr, bind, Except.bind, Except.error.injEq] at h
          exact ⟨r, by simp, h ▸ hr⟩
      | ok text =>
          cases hrest : printItems rest with
          | error fault' =>
              simp only [printItems, hr, hrest, bind, Except.bind, Except.error.injEq] at h
              obtain ⟨r', hmem, hr'⟩ := ih (h ▸ hrest)
              exact ⟨r', by simp [hmem], hr'⟩
          | ok texts => simp [printItems, hr, hrest, bind, Except.bind] at h

/-- If reports cannot be written, one of them cannot. -/
theorem exists_of_printList_eq_error {reports : List Report} {fault : Fault}
    (h : printList reports = .error fault) : ∃ r ∈ reports, r.print = .error fault := by
  cases hitems : printItems reports with
  | error fault' =>
      have hfault : fault' = fault := by simpa [printList, hitems, Except.map] using h
      exact printItems_eq_error (hfault ▸ hitems)
  | ok texts => simp [printList, hitems, Except.map] at h

/-- The report can be written. -/
def Printable (e : Report) : Prop := ∃ text, e.print = .ok text

theorem exists_printList {reports : List Report} (h : ∀ e ∈ reports, e.Printable) :
    ∃ text, printList reports = .ok text := by
  cases printed : printList reports with
  | ok text => exact ⟨text, rfl⟩
  | error fault =>
      obtain ⟨e, he, failed⟩ := exists_of_printList_eq_error printed
      obtain ⟨text, written⟩ := h e he
      rw [failed] at written
      simp at written

/-- What cannot be written cannot be written with more behind it. -/
theorem printItems_append_of_error {reports : List Report} {fault : Fault}
    (h : printItems reports = .error fault) (more : List Report) :
    printItems (reports ++ more) = .error fault := by
  induction reports with
  | nil => simp [printItems] at h
  | cons r rest ih =>
      rw [List.cons_append]
      cases hr : r.print with
      | error fault' => simpa [printItems, hr, bind, Except.bind] using h
      | ok text =>
          cases hrest : printItems rest with
          | error fault' =>
              simp only [printItems, hr, hrest, bind, Except.bind, Except.error.injEq] at h
              subst h
              simp [printItems, hr, ih hrest, bind, Except.bind]
          | ok texts => simp [printItems, hr, hrest, bind, Except.bind] at h

theorem printList_append_of_error {reports : List Report} {fault : Fault}
    (h : printList reports = .error fault) (more : List Report) :
    printList (reports ++ more) = .error fault := by
  cases hitems : printItems reports with
  | error fault' =>
      rw [printList, hitems] at h
      rw [printList, printItems_append_of_error hitems more]
      exact h
  | ok texts => simp [printList, hitems, Except.map] at h

end Report

namespace Breaker

variable {s : BreakerSettings} {b : Breaker}

/-! ### What a report does -/

/-- An error that does not reach the limit counts and starts a timer. -/
theorem addError_of_lt {now : Nat} {e : Report} (active : b.active = true)
    (below : b.current + 1 < s.limit.toNat) :
    b.addError s now e =
      { breaker := (b.count e).arm s now
        emissions := [.counter .errors, .gauge (b.current + 1)] } := by
  have hcount : (b.count e).current = b.current + 1 := by simp [count, current]
  simp [addError, active, hcount, Nat.not_le_of_lt below]

/-- An error that reaches the limit trips the breaker if all of them can be written. -/
theorem addError_of_le {now : Nat} {e : Report} (active : b.active = true)
    (reached : s.limit.toNat ≤ b.current + 1) {errors : String}
    (printed : Report.printList (b.errors ++ [e]) = .ok errors) :
    b.addError s now e =
      { breaker := (b.count e).fire.endCycle
        emissions := [.counter .errors, .gauge (b.current + 1), .counter .trips, .gauge 0,
          .notice (.tripped b.cycle errors)] } := by
  have hcount : (b.count e).current = b.current + 1 := by simp [count, current]
  have htrip : (b.count e).trip =
      { breaker := (b.count e).fire.endCycle
        emissions := [.counter .trips, .gauge 0, .notice (.tripped b.cycle errors)] } := by
    rw [trip, show (b.count e).errors = b.errors ++ [e] from rfl, printed]
    rfl
  simp [addError, active, hcount, reached, htrip]

/-- An error that reaches the limit breaks off if the errors cannot be written. -/
theorem addError_of_error {now : Nat} {e : Report} (active : b.active = true)
    (reached : s.limit.toNat ≤ b.current + 1) {fault : Fault}
    (unprinted : Report.printList (b.errors ++ [e]) = .error fault) :
    b.addError s now e =
      { breaker := b.count e
        emissions := [.counter .errors, .gauge (b.current + 1)], fault := some fault } := by
  have hcount : (b.count e).current = b.current + 1 := by simp [count, current]
  have htrip : (b.count e).trip = { breaker := b.count e, fault := some fault } := by
    rw [trip, show (b.count e).errors = b.errors ++ [e] from rfl, unprinted]
  simp [addError, active, hcount, reached, htrip]

/-- What a report does: nothing to an inactive breaker, and otherwise it arms a timer, breaks off,
or ends the cycle with a trip. -/
theorem addError_cases (s : BreakerSettings) (now : Nat) (e : Report) (b : Breaker) :
    (b.active = false ∧ b.addError s now e = { breaker := b }) ∨
    (b.active = true ∧ b.current + 1 < s.limit.toNat ∧
      (b.addError s now e).breaker = (b.count e).arm s now ∧ (b.addError s now e).fault = none) ∨
    (b.active = true ∧ s.limit.toNat ≤ b.current + 1 ∧
      ∃ fault, Report.printList (b.errors ++ [e]) = .error fault ∧
        (b.addError s now e).breaker = b.count e ∧ (b.addError s now e).fault = some fault) ∨
    (b.active = true ∧ s.limit.toNat ≤ b.current + 1 ∧
      ∃ errors, Report.printList (b.errors ++ [e]) = .ok errors ∧
        (b.addError s now e).breaker = (b.count e).fire.endCycle ∧
        (b.addError s now e).fault = none) := by
  have hcount : (b.count e).current = b.current + 1 := by simp [count, current]
  cases hactive : b.active with
  | false => exact .inl ⟨rfl, by simp [addError, hactive]⟩
  | true =>
      refine .inr ?_
      by_cases hlimit : s.limit.toNat ≤ b.current + 1
      · refine .inr ?_
        cases hprint : Report.printList (b.errors ++ [e]) with
        | error fault =>
            have htrip : (b.count e).trip = { breaker := b.count e, fault := some fault } := by
              rw [trip, show (b.count e).errors = b.errors ++ [e] from rfl, hprint]
            refine .inl ⟨rfl, hlimit, fault, rfl, ?_, ?_⟩ <;>
              simp [addError, hactive, hcount, hlimit, htrip]
        | ok errors =>
            rw [addError_of_le hactive hlimit hprint]
            exact .inr ⟨rfl, hlimit, errors, rfl, rfl, rfl⟩
      · have hbelow : b.current + 1 < s.limit.toNat := Nat.lt_of_not_le hlimit
        rw [addError_of_lt hactive hbelow]
        exact .inl ⟨rfl, hbelow, rfl, rfl⟩

/-- A report breaks off only in an active breaker that has reached its limit and cannot write its
errors; then the error counts and nothing else is done about it. -/
theorem addError_fails {now : Nat} {e : Report} (h : (b.addError s now e).fault ≠ none) :
    b.active = true ∧ s.limit.toNat ≤ b.current + 1 ∧
      (∃ fault, Report.printList (b.errors ++ [e]) = .error fault) ∧
      (b.addError s now e).breaker = b.count e := by
  rcases addError_cases s now e b with ⟨-, heq⟩ | ⟨-, -, -, hnone⟩ | ⟨ha, hl, f, hf, hb, -⟩ |
    ⟨-, -, errors, -, -, hnone⟩
  · exact absurd (by rw [heq]) h
  · exact absurd hnone h
  · exact ⟨ha, hl, ⟨f, hf⟩, hb⟩
  · exact absurd hnone h

theorem fired_activate (b : Breaker) : b.activate.breaker.fired = b.fired := by
  cases h : b.active <;> simp [activate, h, endCycle]

/-- A cycle shows as tripped if it is noted as such. -/
theorem isTripped_iff (b : Breaker) (cycle : Nat) :
    b.isTripped cycle = true ↔ cycle ∈ b.fired := by
  rw [isTripped, decide_eq_true_iff, fate]
  by_cases hmem : cycle ∈ b.fired
  · simp [hmem]
  · rw [if_neg hmem]
    split <;> simp [hmem]

/-! ### What a timer does that runs out -/

/-- A timer that runs out is gone. -/
theorem timers_expire (b : Breaker) (t : Timer) :
    (b.expire t).breaker.timers = (b.finish t).timers := by
  unfold expire
  dsimp only
  split <;> rfl

/-- Apart from that it changes at most what counts. -/
theorem active_expire (b : Breaker) (t : Timer) : (b.expire t).breaker.active = b.active := by
  unfold expire
  dsimp only
  split <;> rfl

theorem cycle_expire (b : Breaker) (t : Timer) : (b.expire t).breaker.cycle = b.cycle := by
  unfold expire
  dsimp only
  split <;> rfl

theorem fired_expire (b : Breaker) (t : Timer) : (b.expire t).breaker.fired = b.fired := by
  unfold expire
  dsimp only
  split <;> rfl

theorem sender_expire (b : Breaker) (t : Timer) : (b.expire t).breaker.sender = b.sender := by
  unfold expire
  dsimp only
  split <;> rfl

/-! ### What always holds -/

/-- What holds of a breaker between any two moves, as long as nobody has let go of it. -/
structure Sound (s : BreakerSettings) (b : Breaker) : Prop where
  /-- The signal can fire exactly while the breaker is active. -/
  sender : b.sender = b.active
  /-- An inactive breaker has nothing to count and nothing to clear. -/
  idle : b.active = false → b.errors = [] ∧ b.armed = none
  /-- A timer is armed only over errors that count. -/
  armed : b.armed ≠ none → b.errors ≠ []
  /-- No timer runs but the armed one. -/
  timers : b.timers = [] ∨ ∃ t, b.timers = [t] ∧ b.armed = some t.id
  /-- Errors reach the limit and still count only if they cannot be written. -/
  overfull : b.active = true → s.limit.toNat ≤ b.current →
    ∃ fault, Report.printList b.errors = .error fault
  /-- Only cycles that have begun have tripped. -/
  fired_le : ∀ k ∈ b.fired, k ≤ b.cycle
  /-- A cycle that goes on has not tripped. -/
  unfired : b.active = true → b.cycle ∉ b.fired

namespace Sound

theorem fresh : Sound s {} where
  sender := rfl
  idle := fun _ => ⟨rfl, rfl⟩
  armed := fun h => absurd rfl h
  timers := .inl rfl
  overfull := fun h => absurd h (by simp)
  fired_le := by simp
  unfired := by simp

theorem otherTimers (ok : Sound s b) : b.otherTimers = [] := by
  rcases ok.timers with hnil | ⟨t, ht, harmed⟩
  · simp [Breaker.otherTimers, hnil]
  · simp [Breaker.otherTimers, ht, harmed]

theorem timers_of_idle (ok : Sound s b) (h : b.active = false) : b.timers = [] := by
  rcases ok.timers with hnil | ⟨t, -, harmed⟩
  · exact hnil
  · rw [(ok.idle h).2] at harmed
    exact absurd harmed (by simp)

/-- A timer runs only while the breaker is active. -/
theorem active_of_timer (ok : Sound s b) {t : Timer} (ht : t ∈ b.timers) : b.active = true := by
  cases h : b.active with
  | true => rfl
  | false =>
      rw [ok.timers_of_idle h] at ht
      simp at ht

/-- An error counts only while the breaker is active. -/
theorem active_of_errors (ok : Sound s b) (counts : b.errors ≠ []) : b.active = true := by
  cases h : b.active with
  | true => rfl
  | false => exact absurd (ok.idle h).1 counts

/-- The signal of an active breaker fires when it trips. -/
theorem fire_count (ok : Sound s b) (active : b.active = true) (e : Report) :
    (b.count e).fire = { b.count e with sender := false, fired := b.cycle :: b.fired } :=
  if_pos (ok.sender.trans active)

/-- A trip is one of the cycle that goes on. -/
theorem fired_trip (ok : Sound s b) (active : b.active = true) (e : Report) :
    (b.count e).fire.endCycle.fired = b.cycle :: b.fired := by
  rw [ok.fire_count active]
  rfl

/-- The end of a cycle leaves nothing behind, whatever has become of the signal before. -/
theorem endCycle (other : b.otherTimers = []) (fired : ∀ k ∈ b.fired, k ≤ b.cycle) :
    Sound s b.endCycle where
  sender := rfl
  idle := fun _ => ⟨rfl, rfl⟩
  armed := fun h => absurd rfl h
  timers := .inl other
  overfull := fun h => absurd h (by simp [Breaker.endCycle])
  fired_le := fired
  unfired := fun h => absurd h (by simp [Breaker.endCycle])

theorem errors_activate (ok : Sound s b) : b.activate.breaker.errors = [] := by
  cases h : b.active with
  | true => simp [activate, h, Breaker.endCycle]
  | false => simpa [activate, h] using (ok.idle h).1

theorem armed_activate (ok : Sound s b) : b.activate.breaker.armed = none := by
  cases h : b.active with
  | true => simp [activate, h, Breaker.endCycle]
  | false => simpa [activate, h] using (ok.idle h).2

theorem timers_activate (ok : Sound s b) : b.activate.breaker.timers = [] := by
  cases h : b.active with
  | true => simpa [activate, h, Breaker.endCycle] using ok.otherTimers
  | false => simpa [activate, h] using ok.timers_of_idle h

theorem activate (ok : Sound s b) (valid : 0 < s.limit.toNat) : Sound s b.activate.breaker where
  sender := rfl
  idle := fun h => absurd h (by simp [Breaker.activate])
  armed := fun h => absurd ok.armed_activate h
  timers := .inl ok.timers_activate
  overfull := by
    intro _ h
    rw [current, ok.errors_activate, List.length_nil] at h
    omega
  fired_le := by
    intro k hk
    rw [fired_activate] at hk
    exact Nat.le_succ_of_le (ok.fired_le k hk)
  unfired := by
    intro _ hk
    rw [fired_activate] at hk
    exact absurd (ok.fired_le _ hk) (Nat.not_succ_le_self b.cycle)

theorem deactivate (ok : Sound s b) : Sound s b.deactivate.breaker := by
  cases h : b.active with
  | true => simpa [Breaker.deactivate, h] using Sound.endCycle ok.otherTimers ok.fired_le
  | false => simpa [Breaker.deactivate, h] using ok

theorem addError (ok : Sound s b) (now : Nat) (e : Report) :
    Sound s (b.addError s now e).breaker := by
  have hother : (b.count e).otherTimers = [] := ok.otherTimers
  rcases addError_cases s now e b with ⟨-, heq⟩ | ⟨ha, hl, heq, -⟩ | ⟨ha, -, f, hf, heq, -⟩ |
    ⟨-, -, errors, -, heq, -⟩
  · rw [heq]; exact ok
  · rw [heq]
    exact
      { sender := ok.sender
        idle := fun h => absurd (ha.symm.trans h) (by simp)
        armed := fun _ => by simp [arm, count]
        timers := .inr ⟨_, by rw [arm, hother]; rfl, rfl⟩
        overfull := by
          intro _ h
          simp [arm, count, current] at h hl
          omega
        fired_le := ok.fired_le
        unfired := ok.unfired }
  · rw [heq]
    exact
      { sender := ok.sender
        idle := fun h => absurd (ha.symm.trans h) (by simp)
        armed := fun _ => by simp [count]
        timers := ok.timers
        overfull := fun _ _ => ⟨f, hf⟩
        fired_le := ok.fired_le
        unfired := ok.unfired }
  · rw [heq]
    unfold fire
    split
    · exact Sound.endCycle hother (by simpa [count] using ok.fired_le)
    · exact Sound.endCycle hother ok.fired_le

/-- A timer that runs out was the only one. -/
theorem timers_finish (ok : Sound s b) {t : Timer} (ht : t ∈ b.timers) :
    (b.finish t).timers = [] := by
  rcases ok.timers with hnil | ⟨t', ht', -⟩
  · rw [hnil] at ht
    simp at ht
  · rw [ht', List.mem_singleton] at ht
    simp [finish, ht', ht]

theorem timers_expire (ok : Sound s b) {t : Timer} (ht : t ∈ b.timers) :
    (b.expire t).breaker.timers = [] :=
  (Breaker.timers_expire b t).trans (ok.timers_finish ht)

theorem expire (ok : Sound s b) (valid : 0 < s.limit.toNat) {t : Timer} (ht : t ∈ b.timers) :
    Sound s (b.expire t).breaker := by
  have hgone := ok.timers_finish ht
  unfold Breaker.expire
  dsimp only
  split
  · exact
      { sender := ok.sender
        idle := fun h => ⟨rfl, rfl⟩
        armed := fun h => absurd rfl h
        timers := .inl hgone
        overfull := fun _ hl => absurd (Nat.lt_of_lt_of_le valid hl) (Nat.not_lt_zero 0)
        fired_le := ok.fired_le
        unfired := ok.unfired }
  · exact
      { sender := ok.sender
        idle := ok.idle
        armed := ok.armed
        timers := .inl hgone
        overfull := ok.overfull
        fired_le := ok.fired_le
        unfired := ok.unfired }

/-- Every move but the last keeps a breaker sound. -/
theorem effect (ok : Sound s b) (valid : 0 < s.limit.toNat) (now : Nat) {move : Move}
    (possible : move.Possible b) (held : move ≠ .release) :
    Sound s (move.effect s now b).breaker := by
  cases move with
  | activate => exact ok.activate valid
  | deactivate => exact ok.deactivate
  | report e => exact ok.addError now e
  | expire t => exact ok.expire valid possible
  | release => exact absurd rfl held

end Sound

/-- A breaker that nobody has let go of is sound. -/
theorem sound_of_passage {h : List Deed} (p : Passage s {} h b) (valid : 0 < s.limit.toNat)
    (held : Held h) : Sound s b := by
  induction p with
  | nil => exact .fresh
  | deed time move _ _ possible ih =>
      obtain ⟨hheld, hlast⟩ := held_append.mp held
      exact (ih hheld).effect valid time possible (held_singleton.mp hlast)

/-! ### What holds while writing succeeds

Below the limit nothing is ever written, so in a cycle that has not seen a failure
each error that counts has also armed a timer.  That timer is the only one, carries
the present stamp, and is due a cooldown after the last error.  A cooldown is cut off
at the farthest time an alarm can be set for.
-/

/-- When a quiet period is over that begins with an error at a time. -/
def quietEnd (s : BreakerSettings) (last : Nat) : Nat :=
  last + min s.cooldownMs.toNat Alarm.farthest

/-- The armed timer, the only one that runs, clears the count when the quiet period is over. -/
def Waits (s : BreakerSettings) (last : Nat) (b : Breaker) : Prop :=
  ∃ t, b.timers = [t] ∧ b.armed = some t.id ∧ t.stamp = b.stamp ∧ t.alarm.due = quietEnd s last

/-- How the log and the timer fit together, if the last error came at a time. -/
structure Calm (s : BreakerSettings) (last : Nat) (b : Breaker) : Prop where
  below : b.current < s.limit.toNat
  unarmed : b.errors = [] → b.armed = none
  waits : b.errors ≠ [] → Waits s last b

namespace Calm

variable {last : Nat}

/-- Nothing waits to be cleared, and nothing is there to clear it. -/
theorem ofEmpty (valid : 0 < s.limit.toNat) (errors : b.errors = []) (armed : b.armed = none) :
    Calm s last b where
  below := by rw [current, errors]; exact valid
  unarmed := fun _ => armed
  waits := fun h => absurd errors h

/-- An error below the limit is followed by a timer of its own. -/
theorem arm (ok : Sound s b) (now : Nat) (e : Report) (below : b.current + 1 < s.limit.toNat) :
    Calm s now ((b.count e).arm s now) where
  below := by simpa [Breaker.arm, count, current] using below
  unarmed := fun h => absurd h (by simp [Breaker.arm, count])
  waits := by
    intro _
    have hother : (b.count e).otherTimers = [] := ok.otherTimers
    exact ⟨⟨b.spawned, .set now s.cooldownMs.toNat, b.stamp + 1⟩,
      by rw [Breaker.arm, hother]; rfl, rfl, rfl, rfl⟩

/-- The timer that runs out clears the count. -/
theorem errors_expire (calm : Calm s last b) (active : b.active = true) {t : Timer}
    (ht : t ∈ b.timers) : (b.expire t).breaker.errors = [] := by
  by_cases herrors : b.errors = []
  · unfold Breaker.expire
    dsimp only
    split
    · rfl
    · exact herrors
  · obtain ⟨t', htimers, -, hstamp, -⟩ := calm.waits herrors
    rw [htimers, List.mem_singleton] at ht
    subst ht
    have heeds : (b.finish t).heeds t = true := by
      simp [Breaker.heeds, finish, active, hstamp, herrors]
    simp [Breaker.expire, heeds]

theorem armed_expire (calm : Calm s last b) (active : b.active = true) {t : Timer}
    (ht : t ∈ b.timers) : (b.expire t).breaker.armed = none := by
  have herrors := calm.errors_expire active ht
  unfold Breaker.expire at herrors ⊢
  dsimp only at herrors ⊢
  split
  · rfl
  · rename_i heeds
    rw [if_neg heeds] at herrors
    exact calm.unarmed herrors

theorem expire (calm : Calm s last b) (valid : 0 < s.limit.toNat) (active : b.active = true)
    {t : Timer} (ht : t ∈ b.timers) : Calm s last (b.expire t).breaker :=
  .ofEmpty valid (calm.errors_expire active ht) (calm.armed_expire active ht)

end Calm

/-- A breaker that has just been activated is calm. -/
theorem Sound.calm_activate (ok : Sound s b) (valid : 0 < s.limit.toNat) (last : Nat) :
    Calm s last b.activate.breaker :=
  .ofEmpty valid ok.errors_activate ok.armed_activate

/-! ### Whole runs -/

/-- When the last error was counted. -/
def lastCounted (h : List Deed) : Option Nat := (h.filter Deed.counts).getLast?.map Deed.time

/-- No attempt to write the errors of a cycle has failed. -/
def Unfailing (s : BreakerSettings) (h : List Deed) (cycle : Nat) : Prop :=
  ∀ d ∈ h, d.before.cycle = cycle → ¬ d.Fails s

instance (s : BreakerSettings) (h : List Deed) (cycle : Nat) : Decidable (Unfailing s h cycle) :=
  inferInstanceAs (Decidable (∀ d ∈ h, d.before.cycle = cycle → ¬ d.Fails s))

theorem lastCounted_append_of_counts {h : List Deed} {d : Deed} (hd : d.counts = true) :
    lastCounted (h ++ [d]) = some d.time := by
  simp [lastCounted, hd]

theorem active_deactivate (b : Breaker) : b.deactivate.breaker.active = false := by
  cases h : b.active <;> simp [deactivate, h, endCycle]

/-- An active breaker in an unfailing cycle is calm, with the last error that was counted. -/
theorem calm_of_passage {h : List Deed} (p : Passage s {} h b) (valid : 0 < s.limit.toNat)
    (held : Held h) (active : b.active = true) (unfailing : Unfailing s h b.cycle) :
    ∃ last, Calm s last b ∧ (b.errors ≠ [] → lastCounted h = some last) := by
  induction p with
  | nil => exact absurd active (by simp)
  | @deed h b time move p held' possible ih =>
      have ok : Sound s b := sound_of_passage p valid held'
      have unfailing' : Unfailing s h (move.effect s time b).breaker.cycle :=
        fun d hd => unfailing d (List.mem_append_left _ hd)
      cases move with
      | activate =>
          exact ⟨0, ok.calm_activate valid 0, fun hne => absurd ok.errors_activate hne⟩
      | deactivate => exact absurd (active.symm.trans (active_deactivate b)) (by simp)
      | report e =>
          rcases addError_cases s time e b with ⟨ha, heq⟩ | ⟨ha, hl, heq, -⟩ |
            ⟨ha, -, f, -, heq, hf⟩ | ⟨-, -, errors, -, heq, -⟩
          · rw [Move.effect, heq] at active
            exact absurd (active.symm.trans ha) (by simp)
          · have counts : Deed.counts ⟨time, b, .report e⟩ = true := by
              simp [Deed.counts, Deed.isReport, Deed.report?, ha]
            refine ⟨time, ?_, fun _ => lastCounted_append_of_counts counts⟩
            rw [Move.effect, heq]
            exact .arm ok time e hl
          · refine absurd ?_ (unfailing ⟨time, b, .report e⟩ (by simp) ?_)
            · rw [Deed.Fails, Deed.effect, Move.effect, hf]
              simp
            · rw [Move.effect, heq]
              rfl
          · rw [Move.effect, heq] at active
            exact absurd active (by simp [endCycle])
      | expire t =>
          rw [Move.effect, active_expire] at active
          rw [Move.effect, cycle_expire] at unfailing'
          obtain ⟨last, calm, -⟩ := ih held' active unfailing'
          exact ⟨last, calm.expire valid active possible,
            fun hne => absurd (calm.errors_expire active possible) hne⟩
      | release => exact absurd rfl (held_singleton.mp (held_append.mp held).2)

/-- What the parts of a breaker have to do with each other, after what has happened to it. -/
structure Consistent (s : BreakerSettings) (h : List Deed) (b : Breaker) : Prop where
  /-- The breaker is active exactly while its signal can fire. -/
  active_iff_sender : b.active = true ↔ b.sender = true
  /-- An inactive breaker counts no error and has no timer armed. -/
  inactive : b.active = false → b.errors = [] ∧ b.armed = none
  /-- With a timer armed the breaker is active and counts errors. -/
  armed : b.armed ≠ none → b.active = true ∧ b.errors ≠ []
  /-- The limit is reached only with an error that cannot be written. -/
  overfull : b.active = true → s.limit.toNat ≤ b.current →
    ∃ e ∈ b.errors, ∃ fault, e.print = .error fault
  /-- In an unfailing cycle the count stays below the limit, and there is something to clear
  exactly while a timer is armed.  That timer is the only one that runs, has the present stamp,
  and is due when the quiet period after the last counted error is over. -/
  unfailing : b.active = true → Unfailing s h b.cycle →
    b.current < s.limit.toNat ∧ (b.errors ≠ [] ↔ b.armed ≠ none) ∧
      (b.armed ≠ none → ∃ t last, lastCounted h = some last ∧ b.timers = [t] ∧
        b.armed = some t.id ∧ t.stamp = b.stamp ∧ t.alarm.due = quietEnd s last)

theorem consistent_of_passage {h : List Deed} (p : Passage s {} h b) (valid : 0 < s.limit.toNat)
    (held : Held h) : Consistent s h b := by
  have ok : Sound s b := sound_of_passage p valid held
  refine
    { active_iff_sender := by rw [ok.sender]
      inactive := ok.idle
      armed := fun harmed => ⟨?_, ok.armed harmed⟩
      overfull := ?_
      unfailing := ?_ }
  · exact ok.active_of_errors (ok.armed harmed)
  · intro active hlimit
    obtain ⟨fault, hfault⟩ := ok.overfull active hlimit
    obtain ⟨e, he, hprint⟩ := Report.exists_of_printList_eq_error hfault
    exact ⟨e, he, fault, hprint⟩
  · intro active unfailing
    obtain ⟨last, calm, hlast⟩ := calm_of_passage p valid held active unfailing
    refine ⟨calm.below, ⟨?_, ok.armed⟩, ?_⟩
    · intro herrors
      obtain ⟨t, -, harmed, -⟩ := calm.waits herrors
      simp [harmed]
    · intro harmed
      obtain ⟨t, htimers, hid, hstamp, hdue⟩ := calm.waits (ok.armed harmed)
      exact ⟨t, last, hlast (ok.armed harmed), htimers, hid, hstamp, hdue⟩

end Breaker

/-! ### Sessions -/

/-- A new circuit has a new breaker, and its limit and its cooldown are above zero. -/
theorem Circuit.of_create {α : Type} {hasRuntime : Bool} {settings : BreakerSettings}
    {sink : Sink α} {c : Circuit α} (made : Circuit.create hasRuntime settings sink = .ok c) :
    c = { settings, sink } ∧ 0 < settings.limit.toNat ∧ 0 < settings.cooldownMs.toNat := by
  unfold create at made
  split at made
  · simp at made
  · split at made
    · rename_i hproblems
      obtain ⟨-, hlimit, hcooldown⟩ := (BreakerSettings.problems_eq_nil_iff settings).mp hproblems
      refine ⟨(Except.ok.inj made).symm, Nat.pos_of_ne_zero ?_, Nat.pos_of_ne_zero ?_⟩
      · exact fun h => hlimit (UInt64.toNat_inj.mp h)
      · exact fun h => hcooldown (UInt64.toNat_inj.mp h)
    · simp at made

namespace Session

variable {α : Type}

/-- The deeds of a run on a new circuit lead to the breaker at its end. -/
theorem goes_of_create {hasRuntime : Bool} {settings : BreakerSettings} {sink : Sink α}
    {c : Circuit α} (made : Circuit.create hasRuntime settings sink = .ok c)
    (steps : List (Step α)) :
    let start : Session α := { circuit := c }
    Passage settings {} (start.history steps) (start.after steps).circuit.breaker ∧
      (start.after steps).circuit.settings = settings ∧ (start.after steps).Settled ∧
      ((start.after steps).isLive = true → Held (start.history steps)) := by
  obtain ⟨rfl, -, -⟩ := Circuit.of_create made
  have goes := goes_after (s := { circuit := { settings, sink } }) (fun _ => rfl) steps
  exact ⟨goes.passage, goes.settings, goes.settled, fun live => (goes.held live).2⟩

/-- **After every step of every run the breaker is consistent with what has happened to it.** -/
theorem consistent_after {hasRuntime : Bool} {settings : BreakerSettings} {sink : Sink α}
    {c : Circuit α} (made : Circuit.create hasRuntime settings sink = .ok c)
    (steps : List (Step α)) (live : (after { circuit := c } steps).isLive = true) :
    Breaker.Consistent settings (history { circuit := c } steps)
      (after { circuit := c } steps).circuit.breaker := by
  obtain ⟨passage, -, -, held⟩ := goes_of_create made steps
  exact Breaker.consistent_of_passage passage (Circuit.of_create made).2.1 (held live)

/-- A run in which a reaction brings the errors to the limit and they cannot be written. -/
theorem consistent_after_failed_reaction :
    let settings : BreakerSettings := { limit := 2, cooldownMs := 10 }
    let sink : Sink Unit := .keeping [] [.addError .unit]
    let steps : List (Step Unit) :=
      [.operate 0 .activate, .operate 0 (.addError (.unprintable ⟨"no text"⟩)), .sleep 10]
    Circuit.create true settings sink = .ok { settings, sink } ∧
      (after { circuit := { settings, sink } } steps).isLive = true ∧
      Breaker.Consistent settings (history { circuit := { settings, sink } } steps)
        (after { circuit := { settings, sink } } steps).circuit.breaker :=
  have made : Circuit.create true { limit := 2, cooldownMs := 10 }
      (.keeping [] [.addError .unit] : Sink Unit) = .ok _ := rfl
  ⟨made, by decide, consistent_after made _ (by decide)⟩

/-- With a cooldown of about 35 years the timer is not due a cooldown after the error but thirty
years after it, and so a sleep that is shorter than the cooldown clears the count. -/
theorem due_ne_cooldown :
    let settings : BreakerSettings := { cooldownMs := 1099511627776 }
    let start : Session Unit := { circuit := { settings, sink := .keeping [] [] } }
    let steps : List (Step Unit) := [.operate 0 .activate, .operate 0 (.addError (.text "a"))]
    let b := (start.after steps).circuit.breaker
    b.active = true ∧ Breaker.Unfailing settings (start.history steps) b.cycle ∧
      Breaker.lastCounted (start.history steps) = some 0 ∧
      b.timers.map (·.alarm.due) = [946080000000] ∧
      946080000000 ≠ 0 + settings.cooldownMs.toNat ∧
      1099511627775 < 0 + settings.cooldownMs.toNat ∧
      (start.after (steps ++ [.sleep 1099511627775])).circuit.breaker.current = 0 := by
  decide

end Session

end Tripwire
