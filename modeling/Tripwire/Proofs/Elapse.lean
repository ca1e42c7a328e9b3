/-
Time that passes in parts.

A sleep goes from one timer that is due to the next until its own time has come.  Whoever
wakes up on the way finds the circuit at some point of that way, and goes on from there: what
is left to go is the rest of it, `Circuit.passTo_passTo`.  The fuel makes no difference, as
there is always enough of it, and neither does what has been told before, `Circuit.pass_behind`.

So two sleeps come to one, `Session.step_sleep_add`, as long as the one is not cut off.
-/
import Tripwire.Proofs.Patience

namespace Tripwire

namespace Circuit

variable {α : Type} {c : Circuit α} {time time' : Nat}

/-! ### Two ways through time -/

/-- More fuel than there are timers changes nothing. -/
theorem passTo_of_lt (fuel : Nat) : ∀ (fuel' : Nat) (c : Circuit α), c.outlook < fuel →
    c.outlook < fuel' →
      passTo time fuel c = passTo time fuel' c ∧
        passToDeeds time fuel c = passToDeeds time fuel' c := by
  induction fuel with
  | zero => intro fuel' c h; exact absurd h (Nat.not_lt_zero _)
  | succ fuel ih =>
      intro fuel' c h h'
      obtain ⟨fuel', rfl⟩ := Nat.exists_eq_succ_of_ne_zero (Nat.ne_zero_of_lt h')
      rw [passTo, passTo, passToDeeds, passToDeeds]
      cases hd : c.dueBy? time with
      | some t =>
          obtain ⟨-, hless⟩ := ring_spec (mem_of_next? (dueBy?_eq_some.mp hd).1)
          obtain ⟨last, deeds⟩ := ih fuel' (c.ring t) (by omega) (by omega)
          exact ⟨last, congrArg (c.ringDeeds t ++ ·) deeds⟩
      | none => exact ⟨rfl, rfl⟩

/-- Where nothing is due on the way to a time, the circuit can as well start from there. -/
theorem passTo_reach (fuel : Nat) (none : c.dueBy? time = none) (h : time ≤ time') :
    passTo time' (fuel + 1) (c.reach time) = passTo time' (fuel + 1) c ∧
      passToDeeds time' (fuel + 1) (c.reach time) = passToDeeds time' (fuel + 1) c := by
  have hsame : (c.reach time).dueBy? time' = c.dueBy? time' := rfl
  rw [passTo, passTo, passToDeeds, passToDeeds, hsame]
  cases hd : c.dueBy? time' with
  | some t =>
      have hlt := dueBy?_eq_none_iff.mp none t (mem_of_next? (dueBy?_eq_some.mp hd).1)
      have hreach := reach_reach c (Nat.le_of_lt hlt)
      dsimp only
      rw [ring, ringDeeds, hreach]
      exact ⟨rfl, rfl⟩
  | none => exact ⟨reach_reach c h, rfl⟩

/-- **On the way to a time the circuit passes through all earlier ones.** -/
theorem passTo_passTo {fuel' : Nat} (h : time ≤ time') (fuel : Nat) : ∀ c : Circuit α,
    c.outlook < fuel → (passTo time fuel c).outlook < fuel' →
      passTo time' fuel' (passTo time fuel c) = passTo time' fuel c ∧
        passToDeeds time fuel c ++ passToDeeds time' fuel' (passTo time fuel c)
          = passToDeeds time' fuel c := by
  induction fuel with
  | zero => intro c hf; exact absurd hf (Nat.not_lt_zero _)
  | succ fuel ih =>
      intro c hf hf'
      rw [passTo] at hf' ⊢
      rw [passToDeeds]
      cases hd : c.dueBy? time with
      | some t =>
          obtain ⟨hnext, hdue⟩ := dueBy?_eq_some.mp hd
          have hd' : c.dueBy? time' = some t := dueBy?_eq_some.mpr ⟨hnext, hdue.trans h⟩
          obtain ⟨-, hless⟩ := ring_spec (mem_of_next? hnext)
          rw [hd] at hf'
          obtain ⟨last, deeds⟩ := ih (c.ring t) (by omega) hf'
          rw [passTo, passToDeeds, hd']
          dsimp only
          rw [List.append_assoc, deeds]
          exact ⟨last, rfl⟩
      | none =>
          rw [hd] at hf'
          have hlt : c.outlook < fuel' := hf'
          have fueled : passTo time' fuel' (c.reach time) = passTo time' (fuel + 1) (c.reach time) ∧
              passToDeeds time' fuel' (c.reach time)
                = passToDeeds time' (fuel + 1) (c.reach time) :=
            passTo_of_lt fuel' (fuel + 1) (c.reach time) hlt hf
          obtain ⟨last, deeds⟩ := passTo_reach fuel hd h
          dsimp only
          rw [fueled.1, fueled.2, last, deeds]
          exact ⟨rfl, rfl⟩

/-- **Two sleeps come to one**, if that one is not cut off. -/
theorem pass_add (c : Circuit α) {a b : Nat} (near : a + b ≤ Alarm.farthest) :
    (c.pass a).pass b = c.pass (a + b) ∧
      c.passDeeds a ++ (c.pass a).passDeeds b = c.passDeeds (a + b) := by
  have hnow := (pass_spec c a).1
  have hfirst : (Alarm.set (c.pass a).now b).due = (Alarm.set c.now (a + b)).due := by
    rw [hnow, Alarm.due_set, Alarm.due_set]
    omega
  have hle : (Alarm.set c.now a).due ≤ (Alarm.set c.now (a + b)).due := by
    rw [Alarm.due_set, Alarm.due_set]
    omega
  obtain ⟨last, deeds⟩ := passTo_passTo hle c.patience c (Nat.lt_succ_self _)
    (Nat.lt_succ_self (c.pass a).outlook)
  rw [pass, passDeeds, passDeeds, hfirst]
  exact ⟨last, deeds⟩

/-! ### What has happened before -/

/-- The circuit behind some events that have already happened. -/
def behind (es : Array (Event α)) (c : Circuit α) : Circuit α := { c with events := es ++ c.events }

/-- The halt behind some events that have already happened. -/
def Halt.behind (es : Array (Event α)) : Halt α → Halt α
  | .done c fault => .done (c.behind es) fault
  | .reaction op c rest => .reaction op (c.behind es) rest

variable (es : Array (Event α))

theorem record_behind (c : Circuit α) (e : Event α) :
    (c.behind es).record e = (c.record e).behind es := by
  simp [behind, record]

theorem emit_behind (c : Circuit α) (e : Emission) :
    (c.behind es).emit e = (c.emit e).behind es := by
  cases e <;> exact record_behind es c _

theorem settle_behind (tasks : List (Task α)) : ∀ c : Circuit α,
    (c.behind es).settle tasks = (c.settle tasks).behind es := by
  induction tasks with
  | nil => intro c; rfl
  | cons task tasks ih =>
      intro c
      cases task with
      | fail fault => rfl
      | conclude op a =>
          rw [settle, settle, record_behind]
          exact ih _
      | deliver e =>
          rw [settle, settle, emit_behind]
          have react : ((c.emit e).behind es).react? e
              = ((c.emit e).react? e).map fun r => (r.1, r.2.behind es) := by
            cases e with
            | notice n => simp [react?, behind, Function.comp_def]
            | _ => rfl
          rw [react]
          cases (c.emit e).react? e with
          | none => exact ih _
          | some reaction => rfl

theorem run_behind (fuel : Nat) : ∀ (c : Circuit α) (tasks : List (Task α)),
    run fuel (c.behind es) tasks = ((run fuel c tasks).1.behind es, (run fuel c tasks).2) ∧
      (c.behind es).runDeeds fuel tasks = c.runDeeds fuel tasks := by
  induction fuel with
  | zero =>
      intro c tasks
      rw [run, run, runDeeds, runDeeds, settle_behind]
      cases c.settle tasks <;> exact ⟨rfl, rfl⟩
  | succ fuel ih =>
      intro c tasks
      rw [run, run, runDeeds, runDeeds, settle_behind]
      cases c.settle tasks with
      | done last fault => exact ⟨rfl, rfl⟩
      | reaction op next rest =>
          obtain ⟨last, deeds⟩ := ih (next.begin op).1
            ((next.begin op).2 ++ .conclude op (op.answer next.settings next.breaker) :: rest)
          exact ⟨last, congrArg (next.ownDeeds op ++ ·) deeds⟩

theorem expire_behind (c : Circuit α) (t : Timer) :
    (c.behind es).expire t = (c.expire t).behind es ∧
      (c.behind es).expireDeeds t = c.expireDeeds t := by
  obtain ⟨last, deeds⟩ := run_behind es c.sink.queued
    { c with breaker := (c.breaker.expire t).breaker } (c.breaker.expire t).agenda
  exact ⟨congrArg Prod.fst last, congrArg (_ :: ·) deeds⟩

theorem ring_behind (c : Circuit α) (t : Timer) :
    (c.behind es).ring t = (c.ring t).behind es ∧ (c.behind es).ringDeeds t = c.ringDeeds t :=
  expire_behind es (c.reach t.alarm.due) t

theorem passTo_behind (fuel : Nat) : ∀ c : Circuit α,
    passTo time fuel (c.behind es) = (passTo time fuel c).behind es ∧
      passToDeeds time fuel (c.behind es) = passToDeeds time fuel c := by
  induction fuel with
  | zero => intro c; exact ⟨rfl, rfl⟩
  | succ fuel ih =>
      intro c
      have due : (c.behind es).dueBy? time = c.dueBy? time := rfl
      rw [passTo, passTo, passToDeeds, passToDeeds, due]
      cases c.dueBy? time with
      | some t =>
          obtain ⟨next, first⟩ := ring_behind es c t
          obtain ⟨last, deeds⟩ := ih (c.ring t)
          dsimp only
          rw [next, first, deeds]
          exact ⟨last, rfl⟩
      | none => exact ⟨rfl, rfl⟩

/-- **What has happened before makes no difference to a sleep.** -/
theorem pass_behind (c : Circuit α) (ms : Nat) :
    (c.behind es).pass ms = (c.pass ms).behind es ∧
      (c.behind es).passDeeds ms = c.passDeeds ms :=
  passTo_behind es c.patience c

theorem behind_drained (c : Circuit α) : ({ c with events := #[] } : Circuit α).behind c.events = c := by
  simp [behind]

end Circuit

/-! ### Sessions -/

namespace Session

variable {α : Type}

/-- **Two sleeps leave a session as one does**, and show together what it shows. -/
theorem step_sleep_add (s : Session α) {a b : Nat} (near : a + b ≤ Alarm.farthest) :
    let first := s.step (.sleep a)
    let second := first.1.step (.sleep b)
    s.step (.sleep (a + b))
        = (second.1, { second.2 with events := first.2.events ++ second.2.events }) ∧
      s.deeds (.sleep (a + b)) = s.deeds (.sleep a) ++ first.1.deeds (.sleep b) := by
  intro first second
  obtain ⟨circuit, deeds⟩ := Circuit.pass_add s.circuit near
  -- The second sleep begins with no events, and without the two the first one ends with its own.
  obtain ⟨circuit', deeds'⟩ :=
    Circuit.pass_behind (s.circuit.pass a).events first.1.circuit b
  rw [show first.1.circuit.behind (s.circuit.pass a).events = s.circuit.pass a from
    Circuit.behind_drained _] at circuit' deeds'
  refine ⟨?_, deeds.symm.trans (congrArg _ deeds')⟩
  have once : s.perform (.sleep (a + b))
      = ({ s with circuit := (first.1.circuit.pass b).behind (s.circuit.pass a).events },
        .answer .done) := by
    rw [perform, ← circuit, circuit']
  have events : ((first.1.circuit.pass b).behind (s.circuit.pass a).events).events.toList
      = first.2.events ++ second.2.events := Array.toList_append
  rw [step, once, ← events]
  rfl

end Session

end Tripwire
