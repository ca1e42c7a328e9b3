/-
Sessions without their nesting.

A reaction is an operation from inside another one, or from inside a timer that runs out, and
whatever breaks off in it breaks off all that it is inside of.  None of that matters to the
breaker.  `Session.flat` turns a script into one for a session whose sink has no reactions:
the operations that reactions begin become steps of their own, in the order in which they
began, and each sleep becomes a nap until each time when a timer is due, so that what is set
off by a timer that runs out can come where it did.

`Session.same_when_flat` says that the flat script leaves the breaker as the other one does, after
each of its steps, with the same deeds at the same times.  On the way there the flat session
can be ahead by one deed: a nap lets the timer run out with which it ends, and the session
only does so when it looks at its timers again.  That deed is `Circuit.owed`, and the breaker
behind it `Circuit.ripe`.
-/
import Mathlib.Data.List.Induction
import Tripwire.Proofs.Breaker.Locks
import Tripwire.Proofs.Punctual

namespace Tripwire

variable {α : Type}

/-! ### Flat scripts -/

namespace Circuit

/-- A nap until a time when a timer is due, and the operations that it sets off when it runs out, as
steps of their own. -/
def ringScript (handle : Nat) (c : Circuit α) (t : Timer) : List (Step α) :=
  .sleep (t.alarm.due - c.now) :: ((c.reach t.alarm.due).expireOps t).map (.operate handle)

/-- The way to a time in at most so many steps, without its nesting. -/
def passToScript (handle time : Nat) : Nat → Circuit α → List (Step α)
  | 0, _ => []
  | fuel + 1, c =>
      match c.dueBy? time with
      | some t => c.ringScript handle t ++ passToScript handle time fuel (c.ring t)
      | none => [.sleep (time - c.now)]

/-- A sleep of so many milliseconds, without its nesting. -/
def passScript (handle : Nat) (c : Circuit α) (ms : Nat) : List (Step α) :=
  c.passToScript handle (Alarm.set c.now ms).due c.patience

/-- A wait until a time in at most so many steps, without its nesting. -/
def awaitToScript (handle cycle time : Nat) : Nat → Circuit α → List (Step α)
  | 0, _ => []
  | fuel + 1, c =>
      match (c.breaker.fate cycle).verdict? with
      | some _ => []
      | none =>
          match c.dueBefore? time with
          | some t => c.ringScript handle t ++ awaitToScript handle cycle time fuel (c.ring t)
          | none => [.sleep (time - c.now)]

/-- A wait, without its nesting. -/
def awaitScript (handle : Nat) (c : Circuit α) (cycle ms : Nat) : List (Step α) :=
  c.awaitToScript handle cycle (Alarm.set c.now ms).due c.patience

end Circuit

namespace Session

/-- The first handle that is there. -/
def firstHandle (s : Session α) : Nat := s.handles.idxOf true

/-- A step without its nesting. -/
def flatStep (s : Session α) : Step α → List (Step α)
  | .operate handle op =>
      if s.holds handle then (s.circuit.performOps op).map (.operate handle) else []
  | .sleep ms => s.circuit.passScript s.firstHandle ms
  | .wait handle signal ms =>
      match s.cycle? handle signal with
      | some cycle =>
          s.circuit.awaitScript s.firstHandle cycle ms
            ++ (s.circuit.await cycle ms).1.passScript s.firstHandle 0
      | none => []
  | step => [step]

/-- A script without its nesting. -/
def flat (s : Session α) : List (Step α) → List (Step α)
  | [] => []
  | step :: steps => s.flatStep step ++ (s.step step).1.flat steps

theorem flat_append (s : Session α) (steps more : List (Step α)) :
    s.flat (steps ++ more) = s.flat steps ++ (s.after steps).flat more := by
  induction steps generalizing s with
  | nil => rfl
  | cons step steps ih =>
      rw [List.cons_append, flat, flat, ih, List.append_assoc]
      rfl

theorem holds_firstHandle {s : Session α} (live : s.isLive = true) :
    s.holds s.firstHandle = true := by
  obtain ⟨held, hmem, rfl⟩ : ∃ held ∈ s.handles, held = true := by
    simpa [isLive] using live
  have hlt : s.handles.idxOf true < s.handles.length := List.idxOf_lt_length_of_mem hmem
  rw [holds, firstHandle, List.getD_eq_getElem?_getD, List.getElem?_eq_getElem hlt]
  simp

end Session

/-! ### Twins -/

namespace Circuit

/-- The breaker once the timer that is due has run out. -/
def ripe (c : Circuit α) : Breaker :=
  match c.dueBy? c.now with
  | some t => (c.breaker.expire t).breaker
  | none => c.breaker

/-- The deed of the timer that is due and has still to run out. -/
def owed (c : Circuit α) : List Deed :=
  match c.dueBy? c.now with
  | some t => [⟨c.now, c.breaker, .expire t⟩]
  | none => []

theorem Ready.dueBy? {c : Circuit α} (ready : c.Ready) : c.dueBy? c.now = none :=
  dueBy?_eq_none_iff.mpr ready.early

theorem Ready.ripe {c : Circuit α} (ready : c.Ready) : c.ripe = c.breaker := by
  rw [Circuit.ripe, ready.dueBy?]

theorem Ready.owed {c : Circuit α} (ready : c.Ready) : c.owed = [] := by
  rw [Circuit.owed, ready.dueBy?]

/-- The second circuit has no reactions, and is where the first one is once the timer that is due has
run out. -/
structure Twin (c f : Circuit α) : Prop where
  settings : f.settings = c.settings
  quiet : f.sink.queued = 0
  now : f.now = c.now
  breaker : f.breaker = c.ripe

/-- A punctual circuit has no other timer beside one that runs out. -/
theorem Punctual.gone {c : Circuit α} {t : Timer} (punctual : c.Punctual)
    (ht : t ∈ c.breaker.timers) : (c.breaker.expire t).breaker.timers = [] :=
  (punctual.sound (List.ne_nil_of_mem ht)).timers_expire ht

section Nap

variable {c f : Circuit α} {time : Nat}

/-- Where the timer that is due has run out already, nothing is left for a nap. -/
theorem Twin.nap_of_owed {t : Timer} (twin : c.Twin f) (punctual : c.Punctual)
    (none : c.dueBefore? time = none) (owed : c.dueBy? c.now = some t) :
    (c.reach time).Twin (f.pass (time - c.now)) ∧
      c.owed ++ f.passDeeds (time - c.now) = (c.reach time).owed := by
  obtain ⟨hnext, hdue⟩ := dueBy?_eq_some.mp owed
  have ht := mem_of_next? hnext
  have hpast : time ≤ c.now := (dueBefore?_eq_none_iff.mp none t ht).trans hdue
  have timers : f.breaker.timers = [] := by
    rw [twin.breaker, ripe, owed]
    exact punctual.gone ht
  have still : f.pass (time - c.now) = f := by
    rw [pass_of_timers_nil timers, Nat.sub_eq_zero_of_le hpast, Nat.zero_min]
    rfl
  have idle : f.passDeeds (time - c.now) = [] := passToDeeds_of_timers_nil _ _ timers
  rw [still, idle, reach_of_le _ hpast, List.append_nil]
  exact ⟨twin, rfl⟩

/-- Without reactions a sleep that ends as the timer is due lets it run out. -/
theorem passTo_of_due {t : Timer} (quiet : f.sink.queued = 0) (punctual : f.Punctual)
    (due : f.dueBy? time = some t) (end_eq : max f.now t.alarm.due = time) (fuel : Nat) :
    passTo time (fuel + 1) f = { f with now := time }.undergo (f.breaker.expire t) ∧
      passToDeeds time (fuel + 1) f = [⟨time, f.breaker, .expire t⟩] := by
  have ht := mem_of_next? (dueBy?_eq_some.mp due).1
  have ring : f.ring t = { f with now := time }.undergo (f.breaker.expire t) := by
    rw [ring_of_quiet quiet, reach, end_eq]
  have gone : (f.ring t).breaker.timers = [] := by rw [ring]; exact punctual.gone ht
  have deeds : f.ringDeeds t = [⟨time, f.breaker, .expire t⟩] := by
    rw [ringDeeds, (breaker_expire _ t).2, expireOps_of_quiet (c := f.reach t.alarm.due) quiet]
    rw [reach, end_eq]
    rfl
  have last : passTo time fuel (f.ring t) = f.ring t := by
    cases fuel with
    | zero => rfl
    | succ fuel =>
        rw [passTo, dueBy?_of_timers_nil gone]
        refine reach_of_le _ (Nat.le_of_eq ?_)
        rw [ring]
        rfl
  rw [passTo, passToDeeds, due]
  dsimp only
  rw [last, ring, deeds, passToDeeds_of_timers_nil time fuel (ring ▸ gone), List.append_nil]
  exact ⟨rfl, rfl⟩

/-- **A nap that misses no timer comes to its end, and to the timer that is due then.** -/
theorem Twin.nap (twin : c.Twin f) (punctual : c.Punctual) (none : c.dueBefore? time = none)
    (near : time ≤ c.now + Alarm.farthest) :
    (c.reach time).Twin (f.pass (time - c.now)) ∧
      c.owed ++ f.passDeeds (time - c.now) = (c.reach time).owed := by
  cases owed : c.dueBy? c.now with
  | some t => exact twin.nap_of_owed punctual none owed
  | none =>
      have breaker : f.breaker = c.breaker := by rw [twin.breaker, ripe, owed]
      have alarm : (Alarm.set f.now (time - c.now)).due = max c.now time := by
        rw [Alarm.due_set, twin.now]
        omega
      have same : f.dueBy? (max c.now time) = c.dueBy? (max c.now time) := by
        rw [dueBy?, dueBy?, next?, next?, breaker]
      have ahead : (c.reach time).dueBy? (c.reach time).now = c.dueBy? (max c.now time) := rfl
      rw [pass, passDeeds, alarm, Circuit.owed, owed, List.nil_append, Circuit.owed, ahead, patience]
      cases due : c.dueBy? (max c.now time) with
      | some t =>
          obtain ⟨hnext, hdue⟩ := dueBy?_eq_some.mp due
          have ht := mem_of_next? hnext
          -- Not due at first and not due before the end, the timer is due at the end.
          have hlate := dueBy?_eq_none_iff.mp owed t ht
          have hend := dueBefore?_eq_none_iff.mp none t ht
          have punctual' : f.Punctual :=
            { valid := twin.settings ▸ punctual.valid
              positive := twin.settings ▸ punctual.positive
              sound := by
                rw [twin.settings, breaker]
                exact punctual.sound
              not_late := by
                rw [breaker, twin.now]
                exact punctual.not_late }
          obtain ⟨last, deeds⟩ := passTo_of_due twin.quiet punctual' (same.trans due)
            (by rw [twin.now]; omega) f.outlook
          rw [last, deeds, breaker]
          refine ⟨⟨twin.settings, twin.quiet, rfl, ?_⟩, rfl⟩
          rw [ripe, ahead, due]
          rfl
      | none =>
          rw [passTo, passToDeeds, same, due]
          refine ⟨⟨twin.settings, twin.quiet, ?_, ?_⟩, rfl⟩
          · rw [now_reach, now_reach, twin.now]
            omega
          · rw [ripe, ahead, due]
            exact breaker

end Nap

end Circuit

/-- What has been looked at does not matter. -/
theorem Circuit.Twin.drained {s f : Session α} (twin : s.circuit.Twin f.circuit) :
    s.drained.circuit.Twin f.circuit :=
  ⟨twin.settings, twin.quiet, twin.now, twin.breaker⟩

namespace Session

variable {f : Session α} {c c' c'' : Circuit α} {handle : Nat}

/-- From a twin of a circuit the script leads to a twin of another one, which comes out of the first
by some deeds. -/
structure Mimics (f : Session α) (script : List (Step α)) (c : Circuit α) (deeds : List Deed)
    (c' : Circuit α) : Prop where
  twin : c'.Twin (f.after script).circuit
  /-- Nothing but the circuit changes. -/
  frame : f.after script = { f with circuit := (f.after script).circuit }
  history : c.owed ++ f.history script = deeds ++ c'.owed
  punctual : c'.Punctual
  idle : c.breaker.timers = [] → c'.breaker.timers = []

namespace Mimics

variable {script script' : List (Step α)} {deeds deeds' : List Deed}

theorem refl (twin : c.Twin f.circuit) (punctual : c.Punctual) : f.Mimics [] c [] c where
  twin := twin
  frame := rfl
  history := List.append_nil _
  punctual := punctual
  idle := id

theorem trans (first : f.Mimics script c deeds c')
    (second : (f.after script).Mimics script' c' deeds' c'') :
    f.Mimics (script ++ script') c (deeds ++ deeds') c'' where
  twin := by
    rw [after_append]
    exact second.twin
  frame := by
    rw [after_append, second.frame, first.frame]
  history := by
    rw [history_append, ← List.append_assoc, first.history, List.append_assoc, second.history,
      List.append_assoc]
  punctual := second.punctual
  idle := second.idle ∘ first.idle

theorem holds (mimics : f.Mimics script c deeds c') (held : f.holds handle = true) :
    (f.after script).holds handle = true := by
  rw [mimics.frame]
  exact held

end Mimics

/-! ### Operations and naps of a flat session -/

/-- Operations without reactions are done one after the other. -/
theorem after_operates (ops : List (Operation α)) : ∀ {f : Session α}, f.circuit.sink.queued = 0 →
    f.holds handle = true →
    let last := f.after (ops.map (.operate handle))
    last = { f with circuit := last.circuit } ∧ last.circuit.settings = f.circuit.settings ∧
      last.circuit.sink = f.circuit.sink ∧ last.circuit.now = f.circuit.now ∧
      last.circuit.breaker = f.circuit.breaker.doAll f.circuit.settings f.circuit.now ops ∧
      f.history (ops.map (.operate handle))
        = f.circuit.breaker.doAllDeeds f.circuit.settings f.circuit.now ops := by
  induction ops with
  | nil => intro f _ _; exact ⟨rfl, rfl, rfl, rfl, rfl, rfl⟩
  | cons op ops ih =>
      intro f quiet held
      have hnext : (f.step (.operate handle op)).1
          = drained { f with
              circuit := f.circuit.undergo
                (op.effect f.circuit.settings f.circuit.now f.circuit.breaker) } := by
        rw [← Circuit.perform_of_quiet quiet, ← perform_operate held]
        rfl
      have hdeeds : f.deeds (.operate handle op) = f.circuit.ownDeeds op := by
        rw [deeds, if_pos held, (Circuit.breaker_perform _ _).2,
          Circuit.performOps_of_quiet quiet, Breaker.doAllDeeds, Breaker.doAllDeeds,
          List.append_nil]
        rfl
      obtain ⟨frame, settings, sink, now, breaker, history⟩ := ih
        (f := (f.step (.operate handle op)).1) (by rw [hnext]; exact quiet) (by rw [hnext]; exact held)
      rw [hnext] at frame settings sink now breaker history
      rw [List.map_cons, after, Session.history, hdeeds, hnext]
      refine ⟨frame, settings, sink, now, breaker, ?_⟩
      rw [history]
      rfl

/-- A nap of the twin comes to the time when it ends. -/
theorem mimics_nap {time : Nat} (punctual : c.Punctual) (none : c.dueBefore? time = none)
    (near : time ≤ c.now + Alarm.farthest) (twin : c.Twin f.circuit) :
    f.Mimics [.sleep (time - c.now)] c [] (c.reach time) := by
  obtain ⟨twin', deeds⟩ := twin.nap punctual none near
  exact
    { twin := ⟨twin'.settings, twin'.quiet, twin'.now, twin'.breaker⟩
      frame := rfl
      history := (congrArg (c.owed ++ ·) (List.append_nil _)).trans deeds
      punctual := punctual.reach none
      idle := id }

/-- The timer that is due has already run out in the twin, and what it sets off comes next. -/
theorem mimics_expire {t : Timer} (due : c.dueBy? c.now = some t) (ready : (c.expire t).Ready)
    (twin : c.Twin f.circuit) (held : f.holds handle = true) :
    f.Mimics ((c.expireOps t).map (.operate handle)) c (c.expireDeeds t) (c.expire t) := by
  have ripe : c.ripe = (c.breaker.expire t).breaker := by rw [Circuit.ripe, due]
  obtain ⟨hbreaker, hdeeds⟩ := Circuit.breaker_expire c t
  obtain ⟨frame, settings, sink, now, breaker, history⟩ :=
    after_operates (c.expireOps t) twin.quiet held
  rw [twin.settings, twin.now, twin.breaker, ripe] at breaker history
  exact
    { twin :=
        { settings := (settings.trans twin.settings).trans (Circuit.settings_expire c t).symm
          quiet := (congrArg Sink.queued sink).trans twin.quiet
          now := (now.trans twin.now).trans (Circuit.now_expire c t).symm
          breaker := by
            rw [ready.ripe]
            exact breaker.trans hbreaker.symm }
      frame := frame
      history := by
        rw [history, hdeeds, Circuit.owed, due, ready.owed, List.append_nil]
        rfl
      punctual := ready.toPunctual
      idle := fun nil =>
        absurd nil (List.ne_nil_of_mem (Circuit.mem_of_next? (Circuit.dueBy?_eq_some.mp due).1)) }

/-- A timer runs out at the end of a nap. -/
theorem mimics_ring {t : Timer} (next : c.next? = some t) (punctual : c.Punctual)
    (near : t.alarm.due ≤ c.now + Alarm.farthest) (twin : c.Twin f.circuit)
    (held : f.holds handle = true) :
    f.Mimics (c.ringScript handle t) c (c.ringDeeds t) (c.ring t) := by
  have first := mimics_nap punctual (Circuit.dueBefore?_eq_none_iff.mpr fun other hother =>
    Circuit.le_of_next? next hother) near twin
  have due : (c.reach t.alarm.due).dueBy? (c.reach t.alarm.due).now = some t :=
    Circuit.dueBy?_eq_some.mpr ⟨next, Nat.le_max_right _ _⟩
  exact first.trans (mimics_expire due
    (punctual.ring (Circuit.mem_of_next? next)).1 first.twin (first.holds held))

/-! ### Sleeps and waits of a flat session -/

/-- There is a handle to do operations with, or nothing to set any off. -/
def Able (f : Session α) (handle : Nat) (c : Circuit α) : Prop :=
  f.holds handle = true ∨ c.breaker.timers = []

theorem Able.held {t : Timer} (able : f.Able handle c) (next : c.next? = some t) :
    f.holds handle = true :=
  able.resolve_right (List.ne_nil_of_mem (Circuit.mem_of_next? next))

theorem Mimics.able {script : List (Step α)} {deeds : List Deed}
    (mimics : f.Mimics script c deeds c') (able : f.Able handle c) :
    (f.after script).Able handle c' :=
  able.imp mimics.holds mimics.idle

/-- What is near stays near as time goes on. -/
theorem near_ring {t : Timer} {time : Nat} (next : c.next? = some t)
    (near : time ≤ c.now + Alarm.farthest) : time ≤ (c.ring t).now + Alarm.farthest := by
  rw [(Circuit.ring_spec (Circuit.mem_of_next? next)).1]
  exact near.trans (Nat.add_le_add_right (Nat.le_max_left _ _) _)

theorem mimics_passTo {time : Nat} (fuel : Nat) : ∀ {c : Circuit α} {f : Session α},
    c.Punctual → time ≤ c.now + Alarm.farthest → c.Twin f.circuit → f.Able handle c →
      f.Mimics (c.passToScript handle time fuel) c (Circuit.passToDeeds time fuel c)
        (Circuit.passTo time fuel c) := by
  induction fuel with
  | zero => intro c f punctual _ twin _; exact .refl twin punctual
  | succ fuel ih =>
      intro c f punctual near twin able
      rw [Circuit.passToScript, Circuit.passToDeeds, Circuit.passTo]
      cases hd : c.dueBy? time with
      | some t =>
          obtain ⟨next, due⟩ := Circuit.dueBy?_eq_some.mp hd
          have first := mimics_ring next punctual (due.trans near) twin (able.held next)
          exact first.trans (ih first.punctual (near_ring next near) first.twin (first.able able))
      | none =>
          refine mimics_nap punctual (Circuit.dueBefore?_eq_none_iff.mpr fun t ht => ?_) near twin
          exact Nat.le_of_lt (Circuit.dueBy?_eq_none_iff.mp hd t ht)

theorem mimics_pass (punctual : c.Punctual) (twin : c.Twin f.circuit) (able : f.Able handle c)
    (ms : Nat) : f.Mimics (c.passScript handle ms) c (c.passDeeds ms) (c.pass ms) :=
  mimics_passTo _ punctual (Nat.add_le_add_left (Nat.min_le_right _ _) _) twin able

theorem mimics_awaitTo {time : Nat} (cycle fuel : Nat) : ∀ {c : Circuit α} {f : Session α},
    c.Punctual → time ≤ c.now + Alarm.farthest → c.Twin f.circuit → f.Able handle c →
      f.Mimics (c.awaitToScript handle cycle time fuel) c (Circuit.awaitToDeeds cycle time fuel c)
        (Circuit.awaitTo cycle time fuel c).1 := by
  induction fuel with
  | zero => intro c f punctual _ twin _; exact .refl twin punctual
  | succ fuel ih =>
      intro c f punctual near twin able
      rw [Circuit.awaitToScript, Circuit.awaitToDeeds, Circuit.awaitTo]
      cases hv : (c.breaker.fate cycle).verdict? with
      | some v => exact .refl twin punctual
      | none =>
          dsimp only
          cases hd : c.dueBefore? time with
          | some t =>
              obtain ⟨next, due⟩ := Circuit.dueBefore?_eq_some.mp hd
              have first := mimics_ring next punctual ((Nat.le_of_lt due).trans near) twin
                (able.held next)
              exact first.trans
                (ih first.punctual (near_ring next near) first.twin (first.able able))
          | none => exact mimics_nap punctual hd near twin

theorem mimics_await (punctual : c.Punctual) (twin : c.Twin f.circuit) (able : f.Able handle c)
    (cycle ms : Nat) :
    f.Mimics (c.awaitScript handle cycle ms) c (c.awaitDeeds cycle ms) (c.await cycle ms).1 :=
  mimics_awaitTo cycle _ punctual (Nat.add_le_add_left (Nat.min_le_right _ _) _) twin able

/-! ### Steps of a flat session -/

/-- The second session is as the first one, between two steps, but has no reactions. -/
structure Shadows (s f : Session α) : Prop where
  frame : f = { s with circuit := f.circuit }
  twin : s.circuit.Twin f.circuit
  ready : s.circuit.Ready

namespace Shadows

variable {s : Session α} (shadows : s.Shadows f)

include shadows

theorem breaker : f.circuit.breaker = s.circuit.breaker :=
  shadows.twin.breaker.trans shadows.ready.ripe

/-- What has been mimicked has been shadowed, if no timer has still to run out. -/
theorem ofMimics {script : List (Step α)} {deeds : List Deed}
    (mimics : f.Mimics script s.circuit deeds c') (ready : c'.Ready) :
    (drained { s with circuit := c' }).Shadows (f.after script) ∧ f.history script = deeds := by
  have history := mimics.history
  rw [shadows.ready.owed, ready.owed, List.append_nil] at history
  have twin : Circuit.Twin (circuit { s with circuit := c' }) (f.after script).circuit := mimics.twin
  refine ⟨⟨?_, twin.drained, ready_drained (s := { s with circuit := c' }) ready⟩, history⟩
  rw [mimics.frame, shadows.frame]
  rfl

theorem able (settled : s.Settled) : f.Able s.firstHandle s.circuit := by
  cases live : s.isLive with
  | true =>
      left
      rw [shadows.frame]
      exact holds_firstHandle live
  | false => exact .inr (settled live)

theorem operate {handle : Nat} (held : s.holds handle = true) (op : Operation α)
    (ready : (s.circuit.perform op).1.Ready) :
    (drained { s with circuit := (s.circuit.perform op).1 }).Shadows
        (f.after ((s.circuit.performOps op).map (.operate handle))) ∧
      f.history ((s.circuit.performOps op).map (.operate handle)) = s.circuit.performDeeds op := by
  have held' : f.holds handle = true := by
    rw [shadows.frame]
    exact held
  obtain ⟨hbreaker, hdeeds⟩ := Circuit.breaker_perform s.circuit op
  obtain ⟨frame, settings, sink, now, breaker, history⟩ :=
    after_operates (s.circuit.performOps op) shadows.twin.quiet held'
  rw [shadows.twin.settings, shadows.twin.now, shadows.breaker] at breaker history
  have twin : (s.circuit.perform op).1.Twin
      (f.after ((s.circuit.performOps op).map (.operate handle))).circuit :=
    { settings := (settings.trans shadows.twin.settings).trans
        (Circuit.settings_perform s.circuit op).symm
      quiet := (congrArg Sink.queued sink).trans shadows.twin.quiet
      now := (now.trans shadows.twin.now).trans (Circuit.now_perform s.circuit op).symm
      breaker := by
        rw [ready.ripe]
        exact breaker.trans hbreaker.symm }
  refine ⟨⟨?_, twin.drained (s := { s with circuit := (s.circuit.perform op).1 }),
    ready_drained (s := { s with circuit := (s.circuit.perform op).1 }) ready⟩,
    history.trans hdeeds.symm⟩
  rw [frame, shadows.frame]
  rfl

theorem cycle?_eq (handle : Nat) (signal : Option Nat) :
    f.cycle? handle signal = s.cycle? handle signal := by
  have breaker := shadows.breaker
  rw [shadows.frame] at breaker ⊢
  cases signal with
  | some i => rfl
  | none => rw [cycle?, cycle?, breaker]; rfl

/-- Whatever else is kept in a session, only the circuits matter. -/
theorem congr {s' f' : Session α} (frame : f' = { s' with circuit := f'.circuit })
    (hs : s'.circuit = s.circuit) (hf : f'.circuit = f.circuit) : s'.Shadows f' where
  frame := frame
  twin := by
    rw [hs, hf]
    exact shadows.twin
  ready := by
    rw [hs]
    exact shadows.ready

/-- Looking at what has happened changes nothing. -/
theorem drained : s.drained.Shadows f :=
  ⟨shadows.frame, shadows.twin.drained, ready_drained shadows.ready⟩

omit shadows in
/-- A step that both sessions do. -/
theorem single {step : Step α} (next : (s.perform step).1.Shadows (f.perform step).1) :
    (s.step step).1.Shadows (f.after [step]) where
  frame := by
    show (f.perform step).1.drained = _
    rw [next.frame]
    rfl
  twin := ⟨next.twin.settings, next.twin.quiet, next.twin.now, next.drained.twin.breaker⟩
  ready := ready_drained next.ready

/-- The breaker can be let go of. -/
theorem release (handles : List Bool) :
    Shadows { s with handles, circuit := { s.circuit with breaker := s.circuit.breaker.release } }
      { f with handles, circuit := { f.circuit with breaker := f.circuit.breaker.release } } where
  frame := by
    rw [shadows.frame]
  twin :=
    { settings := shadows.twin.settings
      quiet := shadows.twin.quiet
      now := shadows.twin.now
      breaker := by
        rw [(ready_release shadows.ready).ripe]
        exact congrArg Breaker.release shadows.breaker }
  ready := ready_release shadows.ready

theorem drop (handle : Nat) : (s.drop handle).Shadows (f.drop handle) := by
  have handles : f.handles = s.handles := by rw [shadows.frame]
  rw [Session.drop, Session.drop, handles]
  split
  · refine shadows.congr ?_ rfl rfl
    rw [shadows.frame]
  · exact shadows.release _

theorem deeds_drop (handle : Nat) : f.deeds (.drop handle) = s.deeds (.drop handle) := by
  have holds : f.holds handle = s.holds handle := by
    rw [shadows.frame]
    rfl
  have live : (f.drop handle).isLive = (s.drop handle).isLive := by
    rw [(shadows.drop handle).frame]
    rfl
  rw [deeds, deeds, holds, live, shadows.breaker, shadows.twin.now]

/-- **A flat session can follow each step.** -/
theorem step (sound : s.isLive = true → Breaker.Sound s.circuit.settings s.circuit.breaker)
    (settled : s.Settled) (step : Step α) :
    (s.step step).1.Shadows (f.after (s.flatStep step)) ∧
      f.history (s.flatStep step) = s.deeds step := by
  have holds (handle : Nat) : f.holds handle = s.holds handle := by
    rw [shadows.frame]
    rfl
  have able := shadows.able settled
  have punctual := shadows.ready.toPunctual
  cases step with
  | operate handle op =>
      by_cases held : s.holds handle = true
      · have ready := (shadows.ready.perform (sound (isLive_of_holds held)) op).1
        obtain ⟨next, history⟩ := shadows.operate held op ready
        rw [flatStep, deeds, if_pos held, if_pos held, Session.step, ← perform_operate held] at *
        exact ⟨next, history⟩
      · rw [flatStep, deeds, if_neg held, if_neg held, Session.step, perform, if_neg held]
        exact ⟨shadows.drained, rfl⟩
  | sleep ms =>
      exact shadows.ofMimics (mimics_pass punctual shadows.twin able ms) (punctual.pass ms).1
  | wait handle signal ms =>
      rw [flatStep, deeds, Session.step, perform]
      cases s.cycle? handle signal with
      | none => exact ⟨shadows.drained, rfl⟩
      | some cycle =>
          have first := mimics_await punctual shadows.twin able cycle ms
          have second := mimics_pass first.punctual first.twin (first.able able) 0
          exact shadows.ofMimics (first.trans second) (first.punctual.pass 0).1
  | capture handle =>
      refine ⟨single ?_, rfl⟩
      rw [perform, perform, holds]
      split
      · refine shadows.congr ?_ rfl rfl
        rw [shadows.breaker, shadows.frame]
      · exact shadows
  | spawn handle signal =>
      refine ⟨single ?_, rfl⟩
      rw [perform, perform, shadows.cycle?_eq]
      cases s.cycle? handle signal with
      | some cycle =>
          refine shadows.congr ?_ rfl rfl
          rw [shadows.frame]
      | none => exact shadows
  | clone handle =>
      refine ⟨single ?_, rfl⟩
      rw [perform, perform, holds]
      split
      · refine shadows.congr ?_ rfl rfl
        rw [shadows.frame]
      · exact shadows
  | drop handle =>
      refine ⟨single ?_, ?_⟩
      · rw [perform, perform, holds]
        split
        · exact shadows.drop handle
        · exact shadows
      · exact (List.append_nil _).trans (shadows.deeds_drop handle)

end Shadows

/-! ### Whole runs -/

theorem shadows_after {hasRuntime : Bool} {settings : BreakerSettings} {sink still : Sink α}
    {c : Circuit α} (made : Circuit.create hasRuntime settings sink = .ok c)
    (quiet : still.queued = 0) (steps : List (Step α)) :
    let start : Session α := { circuit := c }
    let flat : Session α := { circuit := { c with sink := still } }
    (start.after steps).Shadows (flat.after (start.flat steps)) ∧
      flat.history (start.flat steps) = start.history steps := by
  intro start flat
  obtain ⟨-, valid, -⟩ := Circuit.of_create made
  induction steps using List.reverseRecOn with
  | nil =>
      have ready : start.circuit.Ready := (ready_after made []).1
      exact ⟨⟨rfl, ⟨rfl, quiet, rfl, ready.ripe.symm⟩, ready⟩, rfl⟩
  | append_singleton steps step ih =>
      obtain ⟨shadows, history⟩ := ih
      obtain ⟨passage, hsettings, settled, held⟩ := goes_of_create made steps
      have sound : (start.after steps).isLive = true → Breaker.Sound
          (start.after steps).circuit.settings (start.after steps).circuit.breaker := by
        intro live
        rw [hsettings]
        exact Breaker.sound_of_passage passage valid (held live)
      obtain ⟨next, history'⟩ := shadows.step sound settled step
      have hone : start.flat (steps ++ [step])
          = start.flat steps ++ (start.after steps).flatStep step := by
        rw [flat_append]
        exact congrArg _ (List.append_nil _)
      rw [hone, after_append, after_append, history_append, history_append, history, history']
      exact ⟨next, congrArg _ (List.append_nil _).symm⟩

/-- **What reactions do, and what breaks off in them, changes nothing about what operations do.**

After each step the breaker is as after the same operations one after the other on a sink without
reactions, in the order in which they began and at the times at which they began: the deeds are the
same.  No call ever waits for a lock that it holds, whatever reactions it is in the middle of, and no
line is told with a lock held. -/
theorem same_when_flat {hasRuntime : Bool} {settings : BreakerSettings} {sink : Sink α}
    {c : Circuit α} (made : Circuit.create hasRuntime settings sink = .ok c) (still : Sink α)
    (quiet : still.queued = 0) (steps : List (Step α)) :
    let start : Session α := { circuit := c }
    let flat : Session α := { circuit := { c with sink := still } }
    let script := start.flat steps
    (flat.after script).circuit.breaker = (start.after steps).circuit.breaker ∧
      (flat.after script).circuit.now = (start.after steps).circuit.now ∧
      flat.history script = start.history steps ∧
      (∀ more, start.flat (steps ++ more) = script ++ (start.after steps).flat more) ∧
      (∀ (c : Circuit α) (op : Operation α), ∃ fault,
        Call.Safe { circuit := c, acts := op.acts c.settings c.now c.breaker }
          (c.perform op).1 fault) ∧
      (∀ (c : Circuit α) (t : Timer), ∃ fault,
        Call.Safe { circuit := c, acts := t.acts c.breaker } (c.expire t) fault) := by
  obtain ⟨shadows, history⟩ := shadows_after made quiet steps
  refine ⟨shadows.breaker, shadows.twin.now, history, flat_append _ steps, ?_, Call.safe_expire⟩
  intro c op
  obtain ⟨fault, safe, -⟩ := Call.safe_perform c op
  exact ⟨fault, safe⟩

/-- A circuit whose sink reports an error when a cycle has begun and another one when the count has
been cleared, breaks off when it is cleared once more, and begins a cycle when one has tripped. -/
def meddling : Circuit Unit :=
  { settings := { limit := 2, cooldownMs := 10 }
    sink := .keeping [.activate] [.addError (.text "x"), .addError (.text "y"), .fail ⟨"sink"⟩] }

/-- A sleep in which two timers run out, the second one because of what the first one has set off,
and a trip that is followed by another cycle at once. -/
theorem same_when_flat_of_meddling :
    let start : Session Unit := { circuit := meddling }
    let flat : Session Unit := { circuit := { meddling with sink := .logging } }
    let steps : List (Step Unit) :=
      [.operate 0 .activate, .sleep 25, .operate 0 (.addError (.text "a")),
        .operate 0 (.addError (.text "b"))]
    Circuit.create true meddling.settings meddling.sink = .ok meddling ∧
      (Sink.logging : Sink Unit).queued = 0 ∧
      start.flat steps =
        [.operate 0 .activate, .operate 0 (.addError (.text "x")), .sleep 10,
          .operate 0 (.addError (.text "y")), .sleep 10, .operate 0 (.fail ⟨"sink"⟩), .sleep 5,
          .operate 0 (.addError (.text "a")), .operate 0 (.addError (.text "b")),
          .operate 0 .activate] ∧
      (flat.after (start.flat steps)).circuit.breaker = (start.after steps).circuit.breaker := by
  have made : Circuit.create true meddling.settings meddling.sink = .ok meddling := rfl
  exact ⟨made, rfl, rfl, (same_when_flat made .logging rfl _).1⟩

end Session

end Tripwire
