/-
Timers that run out while somebody sleeps.

A timer is known by its number, and when it is due does not change, so what matters of the timers of
a breaker are its `Breaker.dues`.  What becomes of them can be read off any list of deeds: whatever
timer runs at some moment either still runs at the end, or some deed has taken it away,
`Passage.exists_of_gone`.  And no number is given twice, so none is gone and comes back,
`Passage.nodup_expiries`.

The rest is what a sleep adds to this.  In a punctual circuit a timer runs out when it is due and
never later, and every other deed finds only timers that are due later (`Deed.OnTime`).  So the
timers that run out do so in the order in which they are due, and behind the sleep none is due any
more, `Session.runsOut_after`.
-/
import Tripwire.Proofs.Breaker.Straggler
import Tripwire.Proofs.Breaker.Window
import Tripwire.Proofs.Elapse
import Tripwire.Proofs.Flat

namespace Tripwire

/-! ### Timers and when they are due -/

/-- The timers that run, each with its number and the time when it is due. -/
def Breaker.dues (b : Breaker) : List (Nat × Nat) := b.timers.map fun t => (t.id, t.alarm.due)

/-- The timer that the deed lets run out, if it is such a deed. -/
def Deed.expiry? (d : Deed) : Option (Nat × Nat) :=
  match d.move with
  | .expire t => some (t.id, t.alarm.due)
  | _ => none

/-- The timers that run out, in the order in which they do. -/
def expiries (h : List Deed) : List (Nat × Nat) := h.filterMap Deed.expiry?

theorem Deed.exists_of_expiry? {d : Deed} {x : Nat × Nat} (h : d.expiry? = some x) :
    ∃ t, d.move = .expire t ∧ x = (t.id, t.alarm.due) := by
  rw [expiry?] at h
  split at h
  · rename_i t ht
    exact ⟨t, ht, (Option.some.inj h).symm⟩
  · simp at h

theorem Deed.expiry?_eq_none_iff {d : Deed} : d.expiry? = none ↔ ∀ t, d.move ≠ .expire t := by
  rw [expiry?]
  split
  · rename_i t ht
    simp [ht]
  · rename_i other
    simpa using other

/-- The timers have numbers that are not new. -/
def Breaker.Numbered (b : Breaker) : Prop := ∀ t ∈ b.timers, t.id < b.spawned

/-- A timer that runs behind a deed has run before it, or is a new one that a report has started. -/
theorem Deed.mem_timers_after {s : BreakerSettings} {d : Deed} {t : Timer}
    (ht : t ∈ (d.after s).timers) : t ∈ d.before.timers ∨
      t.id = d.before.spawned ∧ d.isReport = true ∧ t.alarm = .set d.time s.cooldownMs.toNat := by
  obtain ⟨rest, hrest, htimers | ⟨⟨e, he⟩, new, hid, halarm, htimers⟩⟩ :=
    Breaker.timers_effect s d.time d.before d.move
  · exact .inl (hrest.subset (htimers ▸ ht))
  · have ht : t ∈ rest ++ [new] := htimers ▸ ht
    rcases List.mem_append.mp ht with ht | ht
    · exact .inl (hrest.subset ht)
    · obtain rfl := List.mem_singleton.mp ht
      exact .inr ⟨hid, by simp [isReport, report?, he], halarm⟩

/-- A timer that a deed starts is due a cooldown later, or thirty years. -/
theorem Deed.mem_dues_after {s : BreakerSettings} {d : Deed} {x : Nat × Nat}
    (hx : x ∈ (d.after s).dues) : x ∈ d.before.dues ∨
      d.isReport = true ∧ x.2 = d.time + min s.cooldownMs.toNat Alarm.farthest := by
  obtain ⟨t, ht, rfl⟩ := List.mem_map.mp hx
  rcases Deed.mem_timers_after ht with ht | ⟨-, report, halarm⟩
  · exact .inl (List.mem_map_of_mem ht)
  · exact .inr ⟨report, congrArg Alarm.due halarm⟩

namespace Passage

variable {s : BreakerSettings} {a b : Breaker} {h : List Deed}

theorem possible (p : Passage s a h b) : ∀ d ∈ h, d.move.Possible d.before := by
  induction p with
  | nil => simp
  | deed time move _ _ possible ih =>
      exact List.forall_mem_append.mpr ⟨ih, List.forall_mem_singleton.mpr possible⟩

theorem numbered (p : Passage s a h b) (numbered : a.Numbered) : b.Numbered := by
  induction p with
  | nil => exact numbered
  | @deed _ m time move _ _ _ ih => exact Deed.numbered_after (d := ⟨time, m, move⟩) ih

/-- A timer that runs at the end has run at the beginning, or some report has started it. -/
theorem exists_of_started (p : Passage s a h b) {x : Nat × Nat} (hx : x ∈ b.dues) :
    x ∈ a.dues ∨ ∃ d ∈ h, d.isReport = true ∧
      x.2 = d.time + min s.cooldownMs.toNat Alarm.farthest := by
  induction p with
  | nil => exact .inl hx
  | @deed h m time move _ _ _ ih =>
      rcases Deed.mem_dues_after (d := ⟨time, m, move⟩) hx with hx | started
      · exact (ih hx).imp id fun ⟨d, hd, started⟩ => ⟨d, List.mem_append_left _ hd, started⟩
      · exact .inr ⟨⟨time, m, move⟩, by simp, started⟩

/-- **Whatever timer runs at some moment still runs at the end, or some deed has taken it away.** -/
theorem exists_of_gone (p : Passage s a h b) {x : Nat × Nat}
    (seen : x ∈ a.dues ∨ ∃ d ∈ h, x ∈ (d.after s).dues) :
    x ∈ b.dues ∨ ∃ d ∈ h, x ∈ d.before.dues ∧ x ∉ (d.after s).dues := by
  induction p with
  | nil => exact .inl (by simpa using seen)
  | @deed h m time move _ _ _ ih =>
      by_cases last : x ∈ (Deed.after s ⟨time, m, move⟩).dues
      · exact .inl last
      · have earlier : x ∈ a.dues ∨ ∃ d ∈ h, x ∈ (d.after s).dues := by
          refine seen.imp id ?_
          rintro ⟨d, hd, hx⟩
          rcases List.mem_append.mp hd with hd | hd
          · exact ⟨d, hd, hx⟩
          · rw [List.mem_singleton.mp hd] at hx
            exact absurd hx last
        rcases ih earlier with hx | ⟨d, hd, gone⟩
        · exact .inr ⟨⟨time, m, move⟩, by simp, hx, last⟩
        · exact .inr ⟨d, List.mem_append_left _ hd, gone⟩

/-- A number that has been given to a timer that runs no more is not given again. -/
theorem not_again {id : Nat} (p : Passage s a h b) (old : id < a.spawned)
    (gone : ∀ t ∈ a.timers, t.id ≠ id) :
    (∀ d ∈ h, ∀ t ∈ d.before.timers, t.id ≠ id) ∧ id < b.spawned ∧ ∀ t ∈ b.timers, t.id ≠ id := by
  induction p with
  | nil => exact ⟨by simp, old, gone⟩
  | @deed _ m time move _ _ _ ih =>
      obtain ⟨before, old', gone'⟩ := ih
      have grows : m.spawned ≤ (Deed.after s ⟨time, m, move⟩).spawned :=
        Deed.spawned_le_after s ⟨time, m, move⟩
      refine ⟨List.forall_mem_append.mpr ⟨before, List.forall_mem_singleton.mpr gone'⟩,
        Nat.lt_of_lt_of_le old' grows, fun t ht => ?_⟩
      rcases Deed.mem_timers_after (d := ⟨time, m, move⟩) ht with ht | new
      · exact gone' t ht
      · exact new.1 ▸ Nat.ne_of_gt old'

/-- **No timer runs out twice.** -/
theorem nodup_expiries (p : Passage s a h b) (numbered : a.Numbered) :
    ((expiries h).map Prod.fst).Nodup := by
  induction h generalizing a with
  | nil => simp [expiries]
  | cons d h ih =>
      obtain ⟨first, rest⟩ := Passage.around (h := []) p
      have before : d.before.Numbered := first.numbered numbered
      have hrest := ih rest (Deed.numbered_after before)
      cases hd : d.expiry? with
      | none => rwa [expiries, List.filterMap_cons_none hd]
      | some x =>
          obtain ⟨t, hmove, rfl⟩ := Deed.exists_of_expiry? hd
          rw [expiries, List.filterMap_cons_some hd, List.map_cons, List.nodup_cons]
          refine ⟨fun again => ?_, hrest⟩
          have ht : t ∈ d.before.timers := by
            have := p.possible d List.mem_cons_self
            rwa [hmove] at this
          have gone : ∀ t' ∈ (d.after s).timers, t'.id ≠ t.id := by
            have hafter : (d.after s).timers = (d.before.finish t).timers := by
              rw [Deed.after, Deed.effect, hmove]
              exact Breaker.timers_expire d.before t
            intro t' ht'
            rw [hafter] at ht'
            simpa using (List.mem_filter.mp ht').2
          have old : t.id < (d.after s).spawned :=
            Nat.lt_of_lt_of_le (before t ht) (Deed.spawned_le_after s d)
          obtain ⟨y, hy, hid⟩ := List.mem_map.mp again
          obtain ⟨d', hd', hexpiry⟩ := List.mem_filterMap.mp hy
          obtain ⟨t', hmove', rfl⟩ := Deed.exists_of_expiry? hexpiry
          have ht' : t' ∈ d'.before.timers := by
            have := p.possible d' (List.mem_cons_of_mem _ hd')
            rwa [hmove'] at this
          exact (rest.not_again old gone).1 d' hd' t' ht' hid

end Passage

/-! ### Timers in time -/

/-- A timer that runs out is the only one, and is due then; any other deed finds only timers that
are due later. -/
structure Deed.OnTime (s : BreakerSettings) (d : Deed) : Prop where
  expires : ∀ t, d.move = .expire t →
    Breaker.Sound s d.before ∧ d.before.timers = [t] ∧ t.alarm.due = d.time
  early : d.expiry? = none → ∀ t ∈ d.before.timers, d.time < t.alarm.due

/-- A timer that carries the present stamp clears the count and says so. -/
theorem Breaker.Sound.expire_eq {s : BreakerSettings} {b : Breaker} (sound : Sound s b) {t : Timer}
    (ht : t ∈ b.timers) (stamp : b.stamp = t.stamp) :
    b.expire t =
      { breaker := { b.finish t with errors := [], armed := none }
        emissions := [.counter .resets, .gauge 0, .notice (.cleared b.current)] } := by
  have active := sound.active_of_timer ht
  have counts : b.errors ≠ [] := by
    refine sound.armed fun unarmed => ?_
    rcases sound.timers with hnil | ⟨t', -, harmed⟩
    · simp [hnil] at ht
    · simp [harmed] at unarmed
  have heeds : (b.finish t).heeds t = true := by simp [heeds, finish, active, stamp, counts]
  rw [Breaker.expire, if_pos heeds]
  rfl

theorem Breaker.expiry?_doAllDeeds {α : Type} {s : BreakerSettings} {now : Nat}
    (ops : List (Operation α)) : ∀ {b : Breaker}, ∀ d ∈ b.doAllDeeds s now ops, d.expiry? = none := by
  induction ops with
  | nil => intro b d hd; simp [doAllDeeds] at hd
  | cons op ops ih =>
      intro b d hd
      rw [doAllDeeds] at hd
      rcases List.mem_append.mp hd with hd | hd
      · obtain ⟨move, hmove, rfl⟩ : ∃ move, op.move? = some move ∧ ⟨now, b, move⟩ = d := by
          simpa using hd
        rw [Deed.expiry?_eq_none_iff]
        rintro t rfl
        cases op with
        | observe outcome => cases outcome <;> simp [Operation.move?] at hmove
        | _ => simp [Operation.move?] at hmove
      · exact ih d hd

namespace Circuit

variable {α : Type} {c : Circuit α}

/-- The timer of a punctual circuit runs out when it is due, and what it sets off is in time too. -/
theorem Punctual.onTime_ring (punctual : c.Punctual) {t : Timer} (ht : t ∈ c.breaker.timers) :
    expiries (c.ringDeeds t) = [(t.id, t.alarm.due)] ∧
      ∀ d ∈ c.ringDeeds t, d.OnTime c.settings := by
  have sound := punctual.sound (List.ne_nil_of_mem ht)
  have hnow : (c.reach t.alarm.due).now = t.alarm.due :=
    Nat.max_eq_right (punctual.not_late t ht)
  obtain ⟨-, hdeeds⟩ := breaker_expire (c.reach t.alarm.due) t
  rw [ringDeeds, hdeeds, hnow]
  have only : c.breaker.timers = [t] := by
    rcases sound.timers with hnil | ⟨t', htimers, -⟩
    · simp [hnil] at ht
    · rw [htimers, List.mem_singleton] at ht
      rw [htimers, ht]
  have none : ∀ d ∈ (c.breaker.expire t).breaker.doAllDeeds c.settings t.alarm.due
      ((c.reach t.alarm.due).expireOps t), d.expiry? = none := Breaker.expiry?_doAllDeeds _
  constructor
  · have first : Deed.expiry? ⟨t.alarm.due, c.breaker, .expire t⟩ = some (t.id, t.alarm.due) := rfl
    rw [breaker_reach, settings_reach, expiries, List.filterMap_cons_some first,
      List.filterMap_eq_nil_iff.mpr none]
  · intro d hd
    rcases List.mem_cons.mp hd with rfl | hd
    · refine ⟨fun t' ht' => ?_, fun other => by simp [Deed.expiry?] at other⟩
      obtain rfl : t = t' := Move.expire.inj ht'
      exact ⟨sound, only, rfl⟩
    · have gone : (c.breaker.expire t).breaker.Early t.alarm.due := by
        simp [Breaker.Early, sound.timers_expire ht]
      refine ⟨fun t' ht' => absurd ht' (Deed.expiry?_eq_none_iff.mp (none d hd) t'), fun _ => ?_⟩
      exact (Breaker.Early.doAll punctual.positive _ gone).2 d hd

/-- The deeds of a sleep are in time, and the timers that run out are due one after the other, from
some time on. -/
structure RunsOut (c : Circuit α) (h : List Deed) : Prop where
  onTime : ∀ d ∈ h, d.OnTime c.settings
  inOrder : (expiries h).Pairwise fun x y => x.2 < y.2
  since : ∀ x ∈ expiries h, c.now ≤ x.2
  later : c.breaker.Early c.now → ∀ x ∈ expiries h, c.now < x.2

theorem runsOut_passTo (time fuel : Nat) : ∀ c : Circuit α, c.Punctual →
    c.RunsOut (passToDeeds time fuel c) := by
  have idle (c : Circuit α) : c.RunsOut [] := ⟨by simp, by simp [expiries], by simp [expiries],
    by simp [expiries]⟩
  induction fuel with
  | zero => intro c _; exact idle c
  | succ fuel ih =>
      intro c punctual
      rw [passToDeeds]
      cases hd : c.dueBy? time with
      | some t =>
          have ht := mem_of_next? (dueBy?_eq_some.mp hd).1
          have le := punctual.not_late t ht
          obtain ⟨first, onTime⟩ := punctual.onTime_ring ht
          have ready := (punctual.ring ht).1
          have rest := ih (c.ring t) ready.toPunctual
          have later := rest.later ready.early
          have onTime' := rest.onTime
          rw [(ring_spec ht).1, Nat.max_eq_right le] at later
          rw [settings_ring] at onTime'
          have all : expiries (c.ringDeeds t ++ passToDeeds time fuel (c.ring t))
              = (t.id, t.alarm.due) :: expiries (passToDeeds time fuel (c.ring t)) := by
            rw [expiries, List.filterMap_append, ← expiries, first]
            rfl
          refine ⟨List.forall_mem_append.mpr ⟨onTime, onTime'⟩, ?_, ?_, fun early => ?_⟩ <;> rw [all]
          · exact List.pairwise_cons.mpr ⟨later, rest.inOrder⟩
          · exact List.forall_mem_cons.mpr ⟨le, fun x hx => le.trans (Nat.le_of_lt (later x hx))⟩
          · exact List.forall_mem_cons.mpr ⟨early t ht, fun x hx => Nat.lt_of_le_of_lt le (later x hx)⟩
      | none => exact idle c

end Circuit

/-! ### Sleeps -/

namespace Session

variable {α : Type} {s : Session α}

/-- In a sleep every timer runs out that is due by its end: once, when it is due, and one after the
other. -/
structure RunsOut (s : Session α) (ms : Nat) : Prop where
  /-- A timer that is started on the way is due a cooldown after the report that starts it, or thirty
  years. -/
  starts : ∀ d ∈ s.deeds (.sleep ms), ∀ x ∈ (d.after s.circuit.settings).dues,
    x ∈ d.before.dues ∨ d.isReport = true ∧
      x.2 = d.time + min s.circuit.settings.cooldownMs.toNat Alarm.farthest
  /-- A timer runs out when it is due. -/
  due : ∀ d ∈ s.deeds (.sleep ms), ∀ x, d.expiry? = some x → d.time = x.2
  /-- It clears the count, unless an error that could not be written has moved the stamp on. -/
  clears : ∀ d ∈ s.deeds (.sleep ms), ∀ t, d.move = .expire t → d.before.stamp = t.stamp →
    d.effect s.circuit.settings =
      { breaker := { d.before.finish t with errors := [], armed := none }
        emissions := [.counter .resets, .gauge 0, .notice (.cleared d.before.current)] }
  /-- Timers run out in the order in which they are due. -/
  inOrder : (expiries (s.deeds (.sleep ms))).Pairwise fun x y => x.2 < y.2
  /-- None runs out twice. -/
  once : ((expiries (s.deeds (.sleep ms))).map Prod.fst).Nodup
  /-- Whatever timer runs at the beginning or is started on the way, and is due by the end, runs out,
  or a reaction stops it before that. -/
  happens : ∀ x, (x ∈ s.circuit.breaker.dues ∨
      ∃ d ∈ s.deeds (.sleep ms), x ∈ (d.after s.circuit.settings).dues) →
    x.2 ≤ (s.step (.sleep ms)).1.circuit.now →
      x ∈ expiries (s.deeds (.sleep ms)) ∨
        ∃ d ∈ s.deeds (.sleep ms), d.expiry? = none ∧ d.time < x.2 ∧ x ∈ d.before.dues ∧
          x ∉ (d.after s.circuit.settings).dues
  /-- At the end no timer is left that is due. -/
  left : ∀ x ∈ (s.step (.sleep ms)).1.circuit.breaker.dues,
    (s.step (.sleep ms)).1.circuit.now < x.2

/-- **Behind any run timers run out as they should in a sleep.** -/
theorem runsOut_after {hasRuntime : Bool} {settings : BreakerSettings} {sink : Sink α}
    {c : Circuit α} (made : Circuit.create hasRuntime settings sink = .ok c)
    (steps : List (Step α)) (ms : Nat) : (after { circuit := c } steps).RunsOut ms := by
  have ready := (ready_after made steps).1
  have numbered : (after { circuit := c } steps).circuit.breaker.Numbered := by
    obtain ⟨rfl, -, -⟩ := Circuit.of_create made
    exact (goes_of_create made steps).1.numbered (by simp [Breaker.Numbered])
  generalize after { circuit := c } steps = s at ready numbered ⊢
  have runsOut : s.circuit.RunsOut (s.circuit.passDeeds ms) :=
    Circuit.runsOut_passTo _ s.circuit.patience s.circuit ready.toPunctual
  have ready' := (ready.toPunctual.pass ms).1
  have passage := (Circuit.goes_pass s.circuit ms).passage
  have left : ∀ x ∈ (s.circuit.pass ms).breaker.dues, (s.circuit.pass ms).now < x.2 := by
    intro x hx
    obtain ⟨t, ht, rfl⟩ := List.mem_map.mp hx
    exact ready'.early t ht
  exact
    { starts := fun d _ x hx => Deed.mem_dues_after hx
      due := by
        intro d hd x hx
        obtain ⟨t, hmove, rfl⟩ := Deed.exists_of_expiry? hx
        exact ((runsOut.onTime d hd).expires t hmove).2.2.symm
      clears := by
        intro d hd t hmove stamp
        obtain ⟨sound, timers, -⟩ := (runsOut.onTime d hd).expires t hmove
        rw [Deed.effect, hmove]
        exact sound.expire_eq (by simp [timers]) stamp
      inOrder := runsOut.inOrder
      once := passage.nodup_expiries numbered
      happens := by
        intro x seen hx
        rcases passage.exists_of_gone seen with still | ⟨d, hd, before, gone⟩
        · exact absurd hx (Nat.not_le_of_lt (left x still))
        · cases hexpiry : d.expiry? with
          | none =>
              obtain ⟨t, ht, rfl⟩ := List.mem_map.mp before
              exact .inr ⟨d, hd, hexpiry, (runsOut.onTime d hd).early hexpiry t ht, before, gone⟩
          | some y =>
              obtain ⟨t, hmove, rfl⟩ := Deed.exists_of_expiry? hexpiry
              obtain ⟨-, timers, -⟩ := (runsOut.onTime d hd).expires t hmove
              obtain rfl : x = (t.id, t.alarm.due) := by
                simpa [Breaker.dues, timers] using before
              exact .inl (List.mem_filterMap.mpr ⟨d, hd, hexpiry⟩)
      left := left }

/-- **Sleeps add up.**

Whatever a sink does with the lines it is told, and whatever has been done before, a sleep ends when
its time has come, and every timer that is due by then has run out, once, when it was due, and one
after the other.  A timer is due a cooldown after the error that has started it, or thirty years if
that is less.  Two sleeps of thirty years at most in all come to one that is as long as both: they
leave the same session, show the same events and do the same deeds at the same times. -/
theorem sleeps_add_up {hasRuntime : Bool} {settings : BreakerSettings} {sink : Sink α}
    {c : Circuit α} (made : Circuit.create hasRuntime settings sink = .ok c)
    (steps : List (Step α)) :
    let s := after { circuit := c } steps
    (∀ x ∈ s.circuit.breaker.dues, ∃ d ∈ history { circuit := c } steps, d.isReport = true ∧
      x.2 = d.time + min settings.cooldownMs.toNat Alarm.farthest) ∧
    (∀ ms, (s.step (.sleep ms)).1.circuit.now = s.circuit.now + min ms Alarm.farthest ∧
      s.RunsOut ms) ∧
    ∀ a b, a + b ≤ Alarm.farthest →
      let once := s.step (.sleep (a + b))
      let first := s.step (.sleep a)
      let second := first.1.step (.sleep b)
      once.1 = second.1 ∧ once.2 = { second.2 with events := first.2.events ++ second.2.events } ∧
        s.deeds (.sleep (a + b)) = s.deeds (.sleep a) ++ first.1.deeds (.sleep b) := by
  intro s
  obtain ⟨passage, -, -, -⟩ := goes_of_create made steps
  refine ⟨fun x hx => ?_, fun ms => ⟨(Circuit.pass_spec s.circuit ms).1, runsOut_after made steps ms⟩,
    fun a b near => ?_⟩
  · refine (passage.exists_of_started hx).resolve_left ?_
    obtain ⟨rfl, -, -⟩ := Circuit.of_create made
    simp [Breaker.dues]
  · obtain ⟨once, deeds⟩ := step_sleep_add s near
    obtain ⟨state, shown⟩ := Prod.ext_iff.mp once
    exact ⟨state, shown, deeds⟩

/-- An activation, the report of an error that the sink makes of it, and nothing else so far. -/
def meddlingBegun : Session Unit := after { circuit := meddling } [.operate 0 .activate]

/-- Two timers run out in a sleep, the second one because of what the first one has set off, and the
sink breaks off when it is told about the second.  It makes no difference whether somebody wakes up
between the two. -/
theorem sleeps_add_up_of_meddling :
    Circuit.create true meddling.settings meddling.sink = .ok meddling ∧
      12 + 13 ≤ Alarm.farthest ∧
      (meddlingBegun.step (.sleep (12 + 13))).1
        = ((meddlingBegun.step (.sleep 12)).1.step (.sleep 13)).1 ∧
      meddlingBegun.RunsOut (12 + 13) ∧
      expiries (meddlingBegun.deeds (.sleep 12)) = [(0, 10)] ∧
      expiries (meddlingBegun.deeds (.sleep (12 + 13))) = [(0, 10), (1, 20)] := by
  have made : Circuit.create true meddling.settings meddling.sink = .ok meddling := rfl
  have near : 12 + 13 ≤ Alarm.farthest := by decide
  obtain ⟨-, ends, adds⟩ := sleeps_add_up made [.operate 0 .activate]
  exact ⟨made, near, (adds 12 13 near).1, (ends (12 + 13)).2, by decide, by decide⟩

/-- An error as soon as a cycle has begun, which the sink reports again when the count is cleared. -/
def errorBegun (cooldownMs : UInt64) : Session Unit :=
  after
    { circuit :=
        { settings := { limit := 2, cooldownMs }
          sink := .keeping [] [.isActive, .addError (.text "a")] } }
    [.operate 0 .activate, .operate 0 (.addError (.text "a"))]

/-- A cooldown of more than thirty years is over after thirty years, so the count is cleared in a
sleep that ends a millisecond before the cooldown does.  And a sleep is over after thirty years as
well, so one for more than that misses what comes in two that are as long together. -/
theorem sleeps_end_after_thirty_years :
    (∀ cooldownMs ∈ [(1099511627776 : UInt64), 600000000000],
      ({ limit := 2, cooldownMs } : BreakerSettings).problems = []) ∧
      expiries ((errorBegun 1099511627776).deeds (.sleep 1099511627775)) = [(0, 946080000000)] ∧
      expiries ((errorBegun 600000000000).deeds (.sleep (600000000000 + 600000000000)))
        = [(0, 600000000000)] ∧
      expiries (((errorBegun 600000000000).step (.sleep 600000000000)).1.deeds
        (.sleep 600000000000)) = [(1, 1200000000000)] := by
  refine ⟨?_, by decide⟩
  rw [List.forall_mem_cons, List.forall_mem_singleton]
  decide

end Session

end Tripwire
