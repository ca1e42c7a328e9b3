/-
No error is reported once a timer is due.

There is one timer at most, it is gone when it runs out, and whatever that sets off happens
at the same time, when a new timer is still to come.  No sleep and no wait passes by the
time when a timer is due.  So a circuit that is `Circuit.Punctual` stays like that: its timer
is never late, and every error is reported before it is due.

A wait can end at the very time when the timer is due, and leaves it for the moment.  But
nobody acts before it has run out, so after each step of a session no timer is due at all,
`Session.ready_after`.
-/
import Mathlib.Data.List.Induction
import Tripwire.Proofs.Reaction

namespace Tripwire

/-! ### Reports that come in time -/

/-- No timer is due. -/
def Breaker.Early (now : Nat) (b : Breaker) : Prop := ∀ t ∈ b.timers, now < t.alarm.due

/-- If the deed reports an error, no timer is due. -/
def Deed.InTime (d : Deed) : Prop := d.isReport = true → d.before.Early d.time

namespace Breaker

variable {α : Type} {s : BreakerSettings} {now : Nat} {b : Breaker}

/-- Operations start no timer that is due. -/
theorem Early.effect (early : b.Early now) (positive : 0 < s.cooldownMs.toNat)
    (op : Operation α) : (op.effect s now b).breaker.Early now :=
  op.keep_effect early fun move _ _ =>
    forall_alarms_effect (q := fun a => now < a.due) (Alarm.lt_due_set now positive) early move

/-- If no timer is due, none is before or after any of the operations. -/
theorem Early.doAll (positive : 0 < s.cooldownMs.toNat) (ops : List (Operation α)) :
    ∀ {b : Breaker}, b.Early now →
      (b.doAll s now ops).Early now ∧ ∀ d ∈ b.doAllDeeds s now ops, d.before.Early d.time := by
  induction ops with
  | nil => intro b early; exact ⟨early, by simp [doAllDeeds]⟩
  | cons op ops ih =>
      intro b early
      obtain ⟨last, rest⟩ := ih (early.effect positive op)
      refine ⟨last, fun d hd => ?_⟩
      rw [doAllDeeds] at hd
      rcases List.mem_append.mp hd with hd | hd
      · obtain ⟨move, -, rfl⟩ : ∃ move, op.move? = some move ∧ ⟨now, b, move⟩ = d := by
          simpa using hd
        exact early
      · exact rest d hd

end Breaker

namespace Circuit

variable {α : Type} {c : Circuit α} {time : Nat}

/-- The limit and the cooldown are above zero, and the breaker is sound and its timer not late, if
there is a timer. -/
structure Punctual (c : Circuit α) : Prop where
  valid : 0 < c.settings.limit.toNat
  positive : 0 < c.settings.cooldownMs.toNat
  sound : c.breaker.timers ≠ [] → Breaker.Sound c.settings c.breaker
  not_late : ∀ t ∈ c.breaker.timers, c.now ≤ t.alarm.due

/-- The circuit is punctual, and its timer is still to come. -/
structure Ready (c : Circuit α) : Prop extends Punctual c where
  early : c.breaker.Early c.now

namespace Punctual

/-- Work at one time, from a sound breaker none of whose timers is due. -/
theorem ofDoAll {c' : Circuit α} {b : Breaker} (punctual : c.Punctual)
    (sound : Breaker.Sound c.settings b) (early : b.Early c'.now) (ops : List (Operation α))
    (settings : c'.settings = c.settings)
    (breaker : c'.breaker = b.doAll c.settings c'.now ops) : c'.Ready := by
  obtain ⟨early', -⟩ := Breaker.Early.doAll punctual.positive ops early
  refine ⟨⟨settings ▸ punctual.valid, settings ▸ punctual.positive, fun _ => ?_, ?_⟩, ?_⟩
  · rw [settings, breaker]
    exact Breaker.keep_doAll (fun _ sound op => op.keep_effect sound
      fun _ possible held => sound.effect punctual.valid c'.now possible held) ops sound
  · rw [breaker]
    exact fun t ht => Nat.le_of_lt (early' t ht)
  · rw [breaker]
    exact early'

/-- A timer that runs out is gone before its reactions report anything. -/
theorem ring (punctual : c.Punctual) {t : Timer} (ht : t ∈ c.breaker.timers) :
    (c.ring t).Ready ∧ ∀ d ∈ c.ringDeeds t, d.InTime := by
  have sound := punctual.sound (List.ne_nil_of_mem ht)
  have gone : (c.breaker.expire t).breaker.timers = [] := sound.timers_expire ht
  have early (now : Nat) : (c.breaker.expire t).breaker.Early now := by simp [Breaker.Early, gone]
  obtain ⟨hbreaker, hdeeds⟩ := breaker_expire (c.reach t.alarm.due) t
  have hnow : (c.ring t).now = (c.reach t.alarm.due).now := now_expire _ t
  refine ⟨punctual.ofDoAll (sound.expire punctual.valid ht) (early _)
    ((c.reach t.alarm.due).expireOps t) (settings_ring c t) ?_, fun d hd => ?_⟩
  · rw [hnow]
    exact hbreaker
  · rw [ringDeeds, hdeeds] at hd
    rcases List.mem_cons.mp hd with rfl | hd
    · exact fun report => absurd report (by simp [Deed.isReport, Deed.report?])
    · exact fun _ => (Breaker.Early.doAll punctual.positive _ (early _)).2 d hd

/-- Time goes on as far as no timer is missed. -/
theorem reach (punctual : c.Punctual) (none : c.dueBefore? time = none) :
    (c.reach time).Punctual where
  valid := punctual.valid
  positive := punctual.positive
  sound := punctual.sound
  not_late := fun t ht =>
    Nat.max_le.mpr ⟨punctual.not_late t ht, dueBefore?_eq_none_iff.mp none t ht⟩

theorem passTo (fuel : Nat) : ∀ c : Circuit α, c.Punctual →
    (passTo time fuel c).Punctual ∧ ∀ d ∈ passToDeeds time fuel c, d.InTime := by
  induction fuel with
  | zero => intro c punctual; exact ⟨punctual, by simp [passToDeeds]⟩
  | succ fuel ih =>
      intro c punctual
      rw [Circuit.passTo, passToDeeds]
      cases hd : c.dueBy? time with
      | some t =>
          obtain ⟨ready, first⟩ := punctual.ring (mem_of_next? (dueBy?_eq_some.mp hd).1)
          obtain ⟨last, rest⟩ := ih _ ready.toPunctual
          exact ⟨last, List.forall_mem_append.mpr ⟨first, rest⟩⟩
      | none =>
          refine ⟨punctual.reach (dueBefore?_eq_none_iff.mpr fun t ht => ?_), by simp⟩
          exact Nat.le_of_lt (dueBy?_eq_none_iff.mp hd t ht)

theorem awaitTo (cycle fuel : Nat) : ∀ c : Circuit α, c.Punctual →
    (awaitTo cycle time fuel c).1.Punctual ∧ ∀ d ∈ awaitToDeeds cycle time fuel c, d.InTime := by
  induction fuel with
  | zero => intro c punctual; exact ⟨punctual, by simp [awaitToDeeds]⟩
  | succ fuel ih =>
      intro c punctual
      rw [Circuit.awaitTo, awaitToDeeds]
      cases hv : (c.breaker.fate cycle).verdict? with
      | some v => exact ⟨punctual, by simp⟩
      | none =>
          dsimp only
          cases hd : c.dueBefore? time with
          | some t =>
              obtain ⟨ready, first⟩ := punctual.ring (mem_of_next? (dueBefore?_eq_some.mp hd).1)
              obtain ⟨last, rest⟩ := ih _ ready.toPunctual
              exact ⟨last, List.forall_mem_append.mpr ⟨first, rest⟩⟩
          | none => exact ⟨punctual.reach hd, by simp⟩

/-- **After a sleep no timer is due, and all in it has come in time.** -/
theorem pass (punctual : c.Punctual) (ms : Nat) :
    (c.pass ms).Ready ∧ ∀ d ∈ c.passDeeds ms, d.InTime := by
  obtain ⟨last, inTime⟩ := passTo c.patience c punctual
  exact ⟨⟨last, dueBy?_eq_none_iff.mp (pass_spec c ms).2⟩, inTime⟩

theorem await (punctual : c.Punctual) (cycle ms : Nat) :
    (c.await cycle ms).1.Punctual ∧ ∀ d ∈ c.awaitDeeds cycle ms, d.InTime :=
  awaitTo cycle _ c punctual

end Punctual

/-- An operation starts no timer that is due, and comes in time. -/
theorem Ready.perform (ready : c.Ready) (sound : Breaker.Sound c.settings c.breaker)
    (op : Operation α) : (c.perform op).1.Ready ∧ ∀ d ∈ c.performDeeds op, d.InTime := by
  obtain ⟨hbreaker, hdeeds⟩ := breaker_perform c op
  have hnow := now_perform c op
  have early := ready.early
  refine ⟨ready.ofDoAll sound (hnow ▸ early) (c.performOps op) (settings_perform c op)
    (hnow ▸ hbreaker), ?_⟩
  rw [hdeeds]
  exact fun d hd _ => (Breaker.Early.doAll ready.positive _ early).2 d hd

end Circuit

/-! ### Sessions -/

namespace Session

variable {α : Type} {s : Session α}

/-- What has been looked at does not matter. -/
theorem ready_drained (ready : s.circuit.Ready) : s.drained.circuit.Ready :=
  ⟨⟨ready.valid, ready.positive, ready.sound, ready.not_late⟩, ready.early⟩

/-- A breaker that has been let go of has no timers. -/
theorem ready_release (ready : s.circuit.Ready) :
    Circuit.Ready { s.circuit with breaker := s.circuit.breaker.release } :=
  ⟨⟨ready.valid, ready.positive, fun some => absurd rfl some, by simp [Breaker.release]⟩,
    by simp [Breaker.Early, Breaker.release]⟩

/-- Letting go of a handle stops timers if it does anything. -/
theorem ready_drop (ready : s.circuit.Ready) (handle : Nat) : (s.drop handle).circuit.Ready := by
  rw [drop]
  dsimp only
  split
  · exact ready
  · exact ready_release ready

/-- A step leaves no timer that is due, and comes in time. -/
theorem ready_step (ready : s.circuit.Ready)
    (sound : s.isLive = true → Breaker.Sound s.circuit.settings s.circuit.breaker)
    (step : Step α) : (s.step step).1.circuit.Ready ∧ ∀ d ∈ s.deeds step, d.InTime := by
  suffices h : (s.perform step).1.circuit.Ready ∧ ∀ d ∈ s.deeds step, d.InTime from
    ⟨ready_drained h.1, h.2⟩
  have same : s.circuit.Ready ∧ ∀ d ∈ ([] : List Deed), d.InTime := ⟨ready, by simp⟩
  cases step with
  | operate handle op =>
      rw [deeds]
      by_cases held : s.holds handle = true
      · rw [if_pos held, perform_operate held]
        exact ready.perform (sound (isLive_of_holds held)) op
      · rw [if_neg held, perform, if_neg held]
        exact same
  | sleep ms => exact ready.toPunctual.pass ms
  | capture handle =>
      rw [perform]
      split <;> exact same
  | wait handle signal ms =>
      rw [deeds, perform]
      cases hc : s.cycle? handle signal with
      | none => exact same
      | some cycle =>
          obtain ⟨punctual, first⟩ := ready.toPunctual.await cycle ms
          obtain ⟨ready', rest⟩ := punctual.pass 0
          exact ⟨ready', List.forall_mem_append.mpr ⟨first, rest⟩⟩
  | spawn handle signal =>
      rw [perform]
      split <;> exact same
  | clone handle =>
      rw [perform]
      split <;> exact same
  | drop handle =>
      rw [deeds, perform]
      by_cases held : s.holds handle = true
      · rw [if_pos held, if_pos held]
        refine ⟨ready_drop ready handle, fun d hd => ?_⟩
        split at hd
        · simp at hd
        · rw [List.mem_singleton.mp hd]
          exact fun report => absurd report (by simp [Deed.isReport, Deed.report?])
      · rw [if_neg held, if_neg held]
        exact same

/-- **After every run no timer is due, and every error was reported before the timer that ran then
was due.** -/
theorem ready_after {hasRuntime : Bool} {settings : BreakerSettings} {sink : Sink α}
    {c : Circuit α} (made : Circuit.create hasRuntime settings sink = .ok c)
    (steps : List (Step α)) :
    (after { circuit := c } steps).circuit.Ready ∧
      ∀ d ∈ history { circuit := c } steps, d.InTime := by
  obtain ⟨heq, valid, positive⟩ := Circuit.of_create made
  induction steps using List.reverseRecOn with
  | nil =>
      subst heq
      exact ⟨⟨⟨valid, positive, fun some => absurd rfl some, by simp [after]⟩,
        by simp [after, Breaker.Early]⟩, by simp [history]⟩
  | append_singleton steps step ih =>
      obtain ⟨ready, inTime⟩ := ih
      obtain ⟨passage, hsettings, -, isHeld⟩ := goes_of_create made steps
      have sound : (after { circuit := c } steps).isLive = true →
          Breaker.Sound (after { circuit := c } steps).circuit.settings
            (after { circuit := c } steps).circuit.breaker := by
        intro live
        rw [hsettings]
        exact Breaker.sound_of_passage passage valid (isHeld live)
      obtain ⟨ready', first⟩ := ready_step ready sound step
      rw [after_append, history_append]
      refine ⟨ready', List.forall_mem_append.mpr ⟨inTime, ?_⟩⟩
      simpa [history] using first

end Session

end Tripwire
