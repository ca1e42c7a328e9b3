/-
Breakers with a past.

A breaker that has been used before is not as good as new: its stamp, its cycles and its
timers are numbered on, and the cycles that have tripped are noted.  But these numbers are
only ever compared with each other, so a breaker at rest goes on like a new one, with all of
them higher.  `Breaker.Later` relates a breaker to one that has the same behind it and a past
besides.  Every operation keeps them related, and tells the outside the same, with later
cycles in the lines for the log, `Breaker.Later.effect`.

The alarms of their timers are related in a way that is left open there.  For circuits they
are due as long as each other after the times at which the circuits were made, so which timer
is due first, and how soon, is the same in both.  The two stay related however much time passes,
`Circuit.Later.pass`, and whenever they have begun.
-/
import Mathlib.Data.List.Forall2
import Tripwire.Proofs.Quiet

namespace Tripwire

/-- The line with so many cycles before those that it is about. -/
def Notice.later (cycles : Nat) : Notice → Notice
  | started cycle => started (cycles + cycle)
  | superseded cycle => superseded (cycles + cycle)
  | deactivated cycle => deactivated (cycles + cycle)
  | tripped cycle errors => tripped (cycles + cycle) errors
  | cleared count => cleared count

/-- The emission with so many cycles before those that it is about. -/
def Emission.later (cycles : Nat) : Emission → Emission
  | notice n => notice (n.later cycles)
  | e => e

/-- The alarms are due as long as each other after two times. -/
def Alarm.DueAlike (start start' : Nat) (a a' : Alarm) : Prop :=
  a'.due + start = a.due + start'

theorem Alarm.DueAlike.set {start start' now now' : Nat} (h : now' + start = now + start')
    (ms : Nat) : DueAlike start start' (set now ms) (set now' ms) := by
  rw [DueAlike, due_set, due_set]
  omega

variable {p : Breaker} {R : Alarm → Alarm → Prop}

/-- The second timer is the first one with the past of a breaker, and with an alarm that goes with
that of the first. -/
structure Timer.Later (p : Breaker) (R : Alarm → Alarm → Prop) (t t' : Timer) : Prop where
  id : t'.id = p.spawned + t.id
  stamp : t'.stamp = p.stamp + t.stamp
  alarm : R t.alarm t'.alarm

/-- The second breaker is the first one with a past. -/
structure Breaker.Later (p : Breaker) (R : Alarm → Alarm → Prop) (b b' : Breaker) : Prop where
  active : b'.active = b.active
  errors : b'.errors = b.errors
  stamp : b'.stamp = p.stamp + b.stamp
  cycle : b'.cycle = p.cycle + b.cycle
  sender : b'.sender = b.sender
  fired : b'.fired = b.fired.map (p.cycle + ·) ++ p.fired
  armed : b'.armed = b.armed.map (p.spawned + ·)
  timers : List.Forall₂ (Timer.Later p R) b.timers b'.timers
  spawned : b'.spawned = p.spawned + b.spawned

/-- The second effect is the first one with a past. -/
structure Effect.Later (p : Breaker) (R : Alarm → Alarm → Prop) (e e' : Effect) : Prop where
  breaker : Breaker.Later p R e.breaker e'.breaker
  emissions : e'.emissions = e.emissions.map (Emission.later p.cycle)
  fault : e'.fault = e.fault

/-! ### Breakers -/

namespace Breaker

variable {b b' : Breaker} {s : BreakerSettings} {now now' : Nat}

/-- A breaker at rest is a new one with a past. -/
theorem Later.ofIdle (sound : Sound s p) (idle : p.active = false) : Later p R {} p where
  active := idle
  errors := (sound.idle idle).1
  stamp := (UInt64.add_zero _).symm
  cycle := rfl
  sender := sound.sender.trans idle
  fired := rfl
  armed := (sound.idle idle).2
  timers := by
    rw [sound.timers_of_idle idle]
    exact .nil
  spawned := rfl

namespace Later

variable (later : Later p R b b')

include later

theorem otherTimers : List.Forall₂ (Timer.Later p R) b.otherTimers b'.otherTimers := by
  refine List.rel_filter (fun t t' ht => ?_) later.timers
  dsimp only
  rw [later.armed, ht.id]
  cases b.armed <;> simp

theorem endCycle : Later p R b.endCycle b'.endCycle :=
  { later with
    active := rfl
    errors := rfl
    stamp := by simp only [Breaker.endCycle, later.stamp, UInt64.add_assoc]
    sender := rfl
    armed := rfl
    timers := later.otherTimers }

theorem arm (set : R (.set now s.cooldownMs.toNat) (.set now' s.cooldownMs.toNat)) :
    Later p R (b.arm s now) (b'.arm s now') :=
  { later with
    armed := by simp only [Breaker.arm, later.spawned, Option.map_some]
    timers := List.rel_append later.otherTimers
      (.cons ⟨later.spawned, later.stamp, set⟩ .nil)
    spawned := by simp only [Breaker.arm, later.spawned, Nat.add_assoc] }

theorem fire : Later p R b.fire b'.fire := by
  rw [Breaker.fire, Breaker.fire, later.sender]
  split
  · exact
      { later with
        sender := rfl
        fired := by simp only [later.fired, later.cycle, List.map_cons, List.cons_append] }
  · exact later

theorem count (e : Report) : Later p R (b.count e) (b'.count e) :=
  { later with
    errors := by simp only [Breaker.count, later.errors]
    stamp := by simp only [Breaker.count, later.stamp, UInt64.add_assoc] }

theorem current : b'.current = b.current := by rw [Breaker.current, Breaker.current, later.errors]

theorem activate : b.activate.Later p R b'.activate := by
  have ended : Later p R (if b.active then b.endCycle else b)
      (if b'.active then b'.endCycle else b') := by
    rw [later.active]
    split
    · exact later.endCycle
    · exact later
  refine ⟨?_, ?_, rfl⟩
  · exact
      { ended with
        active := rfl
        sender := rfl
        cycle := by simp only [Breaker.activate, later.cycle, Nat.add_assoc] }
  · simp only [Breaker.activate, later.active, later.cycle]
    split <;> simp [Emission.later, Notice.later, Nat.add_assoc]

theorem deactivate : b.deactivate.Later p R b'.deactivate := by
  rw [Breaker.deactivate, Breaker.deactivate, later.active]
  split
  · refine ⟨later.endCycle, ?_, rfl⟩
    simp [Emission.later, Notice.later, later.cycle]
  · exact ⟨later, rfl, rfl⟩

theorem trip : b.trip.Later p R b'.trip := by
  rw [Breaker.trip, Breaker.trip, later.errors]
  cases Report.printList b.errors with
  | error fault => exact ⟨later, rfl, rfl⟩
  | ok errors =>
      refine ⟨later.fire.endCycle, ?_, rfl⟩
      simp [Emission.later, Notice.later, later.cycle]

theorem addError (set : R (.set now s.cooldownMs.toNat) (.set now' s.cooldownMs.toNat))
    (e : Report) : (b.addError s now e).Later p R (b'.addError s now' e) := by
  rw [Breaker.addError, Breaker.addError, later.active]
  split
  · have counted := later.count e
    dsimp only
    rw [counted.current]
    split
    · have tripped := counted.trip
      refine ⟨tripped.breaker, ?_, tripped.fault⟩
      simp only [tripped.emissions, List.map_cons, Emission.later]
    · exact ⟨counted.arm set, rfl, rfl⟩
  · exact ⟨later, rfl, rfl⟩

/-- Every operation does the same to both. -/
theorem effect {α : Type}
    (set : R (.set now s.cooldownMs.toNat) (.set now' s.cooldownMs.toNat)) (op : Operation α) :
    (op.effect s now b).Later p R (op.effect s now' b') := by
  cases op with
  | activate => exact later.activate
  | deactivate => exact later.deactivate
  | addError e => exact later.addError set e
  | observe outcome =>
      cases outcome with
      | error e => exact later.addError set e
      | ok a => exact ⟨later, rfl, rfl⟩
  | _ => exact ⟨later, rfl, rfl⟩

/-- A timer that runs out does the same in both. -/
theorem expire {t t' : Timer} (ht : t.Later p R t') :
    (b.expire t).Later p R (b'.expire t') := by
  have finished : Later p R (b.finish t) (b'.finish t') :=
    { later with
      timers := List.rel_filter (fun other other' hother => by simp [hother.id, ht.id])
        later.timers }
  have heeds : (b'.finish t').heeds t' = (b.finish t).heeds t := by
    rw [Breaker.heeds, Breaker.heeds, finished.active, finished.stamp, finished.errors, ht.stamp]
    simp
  rw [Breaker.expire, Breaker.expire, heeds, finished.current]
  split
  · exact ⟨{ finished with errors := rfl, armed := rfl }, rfl, rfl⟩
  · exact ⟨finished, rfl, rfl⟩

/-- The cycles of both have tripped alike, but for those of the past. -/
theorem isTripped (past : ∀ k ∈ p.fired, k ≤ p.cycle) {cycle : Nat} (begun : 0 < cycle) :
    b'.isTripped (p.cycle + cycle) = b.isTripped cycle := by
  rw [Bool.eq_iff_iff, isTripped_iff, isTripped_iff, later.fired, List.mem_append, List.mem_map]
  constructor
  · rintro (⟨k, hk, heq⟩ | hpast)
    · obtain rfl : k = cycle := by omega
      exact hk
    · have := past _ hpast
      omega
  · exact fun h => .inl ⟨cycle, h, rfl⟩

/-- At a glance both are the same once a cycle has begun. -/
theorem status (past : ∀ k ∈ p.fired, k ≤ p.cycle) (begun : 0 < b.cycle) :
    b'.status = b.status := by
  rw [Breaker.status, Breaker.status, later.active, later.current, later.cycle,
    later.isTripped past begun]

/-- All that is different in what both show of themselves is the cycle. -/
theorem text (s : BreakerSettings) :
    b'.text s = { b with cycle := p.cycle + b.cycle }.text s := by
  rw [Breaker.text, Breaker.text, parts, parts, later.active, later.current, later.cycle]
  rfl

end Later

end Breaker

/-! ### Circuits -/

section Circuits

variable {α : Type}

/-- The second event is the first one with so many cycles before: a line is about later cycles, and
everything else is the same. -/
inductive Event.Later (s : BreakerSettings) (sink : Sink α) (cycles : Nat) :
    Event α → Event α → Prop
  | line (n : Notice) : Later s sink cycles (sink.event s n) (sink.event s (n.later cycles))
  | other {e : Event α} (h : e.isLine = false) : Later s sink cycles e e

namespace Circuit

variable {c c' : Circuit α}

/-- The second circuit is the first one with a past, made at another time, and what has happened in
it is the same. -/
structure Later (p : Breaker) (start start' : Nat) (c c' : Circuit α) : Prop where
  quiet : c.sink.queued = 0
  settings : c'.settings = c.settings
  sink : c'.sink = c.sink
  now : c'.now + start = c.now + start'
  breaker : Breaker.Later p (Alarm.DueAlike start start') c.breaker c'.breaker
  events : List.Forall₂ (Event.Later c.settings c.sink p.cycle) c.events.toList c'.events.toList

namespace Later

variable {start start' : Nat} (later : c.Later p start start' c')

include later

theorem quiet' : c'.sink.queued = 0 := later.sink ▸ later.quiet

theorem eventOf (e : Emission) : (c.eventOf e).Later c.settings c.sink p.cycle
    (c'.eventOf (e.later p.cycle)) := by
  cases e with
  | notice n =>
      rw [Circuit.eventOf, Emission.later, Circuit.eventOf, later.settings, later.sink]
      exact .line n
  | counter k => exact .other rfl
  | gauge count => exact .other rfl

theorem undergo {e e' : Effect} (h : e.Later p (Alarm.DueAlike start start') e') :
    (c.undergo e).Later p start start' (c'.undergo e') where
  quiet := later.quiet
  settings := later.settings
  sink := later.sink
  now := later.now
  breaker := h.breaker
  events := by
    rw [events_undergo, events_undergo, h.emissions, List.map_map]
    refine List.rel_append later.events ?_
    rw [List.forall₂_map_left_iff, List.forall₂_map_right_iff, List.forall₂_same]
    exact fun e _ => later.eventOf e

/-- Every operation keeps the circuits related. -/
theorem perform (op : Operation α) : (c.perform op).1.Later p start start' (c'.perform op).1 := by
  rw [perform_of_quiet later.quiet, perform_of_quiet later.quiet', later.settings]
  exact later.undergo (later.breaker.effect (.set later.now _) op)

theorem record {e : Event α} (other : e.isLine = false) :
    (c.record e).Later p start start' (c'.record e) :=
  { later with
    events := by
      rw [Circuit.record, Circuit.record, Array.toList_push, Array.toList_push]
      exact List.rel_append later.events (.cons (.other other) .nil) }

/-! ### Time passes for two circuits alike -/

theorem reach {time time' : Nat} (h : time' + start = time + start') :
    (c.reach time).Later p start start' (c'.reach time') :=
  { later with
    now := by
      have := later.now
      rw [now_reach, now_reach]
      omega }

theorem ring {t t' : Timer} (ht : t.Later p (Alarm.DueAlike start start') t') :
    (c.ring t).Later p start start' (c'.ring t') := by
  rw [ring_of_quiet later.quiet, ring_of_quiet later.quiet']
  exact (later.reach ht.alarm).undergo (later.breaker.expire ht)

/-- The timers that are due first are related. -/
theorem next? : Option.Rel (Timer.Later p (Alarm.DueAlike start start')) c.next? c'.next? := by
  have timers := later.breaker.timers
  have all {t t' : Timer} (ht : t.Later p (Alarm.DueAlike start start') t') :
      c'.breaker.timers.all (fun other => t'.alarm.due ≤ other.alarm.due)
        = c.breaker.timers.all fun other => t.alarm.due ≤ other.alarm.due := by
    generalize c.breaker.timers = ts, c'.breaker.timers = ts' at timers
    induction timers with
    | nil => rfl
    | cons hother _ ih =>
        have hdue := ht.alarm
        have hdue' := hother.alarm
        rw [Alarm.DueAlike] at hdue hdue'
        rw [List.all_cons, List.all_cons, ih, decide_eq_decide.mpr]
        omega
  rw [Circuit.next?, Circuit.next?]
  generalize c.breaker.timers.all = first, c'.breaker.timers.all = first' at all
  generalize c.breaker.timers = ts, c'.breaker.timers = ts' at timers
  induction timers with
  | nil => exact .none
  | cons ht _ ih =>
      rw [List.find?_cons, List.find?_cons, all ht]
      split
      · exact .some ht
      · exact ih

/-- Either no timer is due by two times, or related timers are. -/
theorem dueBy? {time time' : Nat} (h : time' + start = time + start') :
    Option.Rel (Timer.Later p (Alarm.DueAlike start start')) (c.dueBy? time) (c'.dueBy? time') := by
  have next := later.next?
  rw [Circuit.dueBy?, Circuit.dueBy?]
  generalize c.next? = first, c'.next? = first' at next ⊢
  cases next with
  | none => exact .none
  | @some t t' ht =>
      have hdue := ht.alarm
      rw [Alarm.DueAlike] at hdue
      have same : decide (t'.alarm.due ≤ time') = decide (t.alarm.due ≤ time) :=
        decide_eq_decide.mpr (by omega)
      rw [Option.filter_some, Option.filter_some, same]
      split
      · exact .some ht
      · exact .none

end Later

theorem later_passTo {start start' time time' : Nat} (h : time' + start = time + start')
    (fuel : Nat) : ∀ {c c' : Circuit α}, c.Later p start start' c' →
      (passTo time fuel c).Later p start start' (passTo time' fuel c') := by
  induction fuel with
  | zero => intro c c' later; exact later
  | succ fuel ih =>
      intro c c' later
      have due := later.dueBy? h
      rw [passTo, passTo]
      generalize c.dueBy? time = first, c'.dueBy? time' = first' at due
      cases due with
      | none => exact later.reach h
      | some ht => exact ih (later.ring ht)

/-- **Time passes alike for both**, whenever they have begun. -/
theorem Later.pass {start start' : Nat} (later : c.Later p start start' c') (ms : Nat) :
    (c.pass ms).Later p start start' (c'.pass ms) := by
  have patience : c'.patience = c.patience := by
    rw [patience, patience, outlook, outlook, later.sink, later.breaker.timers.length_eq]
  rw [Circuit.pass, Circuit.pass, patience]
  exact later_passTo (Alarm.DueAlike.set later.now ms) _ later

end Circuit

end Circuits

end Tripwire
