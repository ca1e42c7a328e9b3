/-
What reactions come to.

Work on an agenda begins an operation for each reaction that it meets.
`Circuit.runOps` lists these in the order in which they begin, however they nest and wherever
something breaks off.  To the breaker they are just so many operations one after the other,
`Circuit.breaker_run`: each has its whole effect as it begins, and what is left of it then is
only to tell the outside.  So a property of breakers that each operation keeps is also kept
by all that an operation sets off.
-/
import Tripwire.Proofs.Quiet

namespace Tripwire

variable {α : Type}

/-! ### One operation after the other -/

namespace Breaker

/-- The breaker after some operations at a time. -/
def doAll (s : BreakerSettings) (now : Nat) (b : Breaker) (ops : List (Operation α)) : Breaker :=
  ops.foldl (fun b op => (op.effect s now b).breaker) b

/-- The deeds of some operations at a time. -/
def doAllDeeds (s : BreakerSettings) (now : Nat) : Breaker → List (Operation α) → List Deed
  | _, [] => []
  | b, op :: ops =>
      (op.move?.map fun move => ⟨now, b, move⟩).toList
        ++ doAllDeeds s now (op.effect s now b).breaker ops

variable {s : BreakerSettings} {now : Nat}

/-- What each operation keeps, all together keep. -/
theorem keep_doAll {p : Breaker → Prop}
    (keep : ∀ b, p b → ∀ op : Operation α, p (op.effect s now b).breaker)
    (ops : List (Operation α)) : ∀ {b : Breaker}, p b → p (b.doAll s now ops) := by
  induction ops with
  | nil => intro b h; exact h
  | cons op ops ih => intro b h; exact ih (keep b h op)

end Breaker

/-- What each move keeps, each operation keeps. -/
theorem Operation.keep_effect {s : BreakerSettings} {now : Nat} {b : Breaker} {p : Breaker → Prop}
    (h : p b) (keep : ∀ move : Move, move.Possible b → move ≠ .release →
      p (move.effect s now b).breaker) (op : Operation α) : p (op.effect s now b).breaker := by
  rw [Operation.breaker_effect]
  cases hm : op.move? with
  | none => exact h
  | some move =>
      obtain ⟨possible, held⟩ := Operation.possible_of_move? b hm
      exact keep move possible held

/-! ### The operations that are begun -/

namespace Circuit

/-- The operations begun in the work on an agenda, with at most so many reactions. -/
def runOps : Nat → Circuit α → List (Task α) → List (Operation α)
  | fuel, c, tasks =>
      match c.settle tasks with
      | .done .. => []
      | .reaction op c rest =>
          match fuel with
          | 0 => []
          | fuel + 1 =>
              let (next, agenda) := c.begin op
              op :: runOps fuel next (agenda ++ .conclude op (op.answer c.settings c.breaker) :: rest)

/-- The operations begun in the work on an agenda to its end. -/
def finishOps (c : Circuit α) (tasks : List (Task α)) : List (Operation α) :=
  runOps c.sink.queued c tasks

/-- An operation and all those that it sets off. -/
def performOps (c : Circuit α) (op : Operation α) : List (Operation α) :=
  let (next, agenda) := c.begin op
  op :: next.finishOps agenda

/-- The operations that a timer sets off when it runs out. -/
def expireOps (c : Circuit α) (t : Timer) : List (Operation α) :=
  let effect := c.breaker.expire t
  { c with breaker := effect.breaker }.finishOps effect.agenda

/-- The work on an agenda does to the breaker what its operations do one after the other. -/
theorem breaker_run (fuel : Nat) : ∀ (c : Circuit α) (tasks : List (Task α)),
    (run fuel c tasks).1.breaker = c.breaker.doAll c.settings c.now (c.runOps fuel tasks) ∧
      c.runDeeds fuel tasks = c.breaker.doAllDeeds c.settings c.now (c.runOps fuel tasks) := by
  induction fuel with
  | zero =>
      intro c tasks
      have alike := alike_settle c tasks
      rw [run, runOps, runDeeds]
      cases hs : c.settle tasks with
      | done last fault => rw [hs] at alike; exact ⟨alike.2.1, rfl⟩
      | reaction op next rest => rw [hs] at alike; exact ⟨alike.2.1, rfl⟩
  | succ fuel ih =>
      intro c tasks
      have alike := alike_settle c tasks
      rw [run, runOps, runDeeds]
      cases hs : c.settle tasks with
      | done last fault => rw [hs] at alike; exact ⟨alike.2.1, rfl⟩
      | reaction op next rest =>
          rw [hs] at alike
          obtain ⟨hsettings, hbreaker, hnow⟩ : Alike c next := alike
          obtain ⟨last, deeds⟩ := ih (next.begin op).1
            ((next.begin op).2 ++ .conclude op (op.answer next.settings next.breaker) :: rest)
          rw [← hsettings, ← hbreaker, ← hnow]
          refine ⟨last, ?_⟩
          dsimp only
          rw [deeds]
          rfl

theorem breaker_perform (c : Circuit α) (op : Operation α) :
    (c.perform op).1.breaker = c.breaker.doAll c.settings c.now (c.performOps op) ∧
      c.performDeeds op = c.breaker.doAllDeeds c.settings c.now (c.performOps op) := by
  obtain ⟨last, deeds⟩ := breaker_run (c.begin op).1.sink.queued (c.begin op).1 (c.begin op).2
  refine ⟨?_, ?_⟩
  · rw [perform_fst]
    exact last
  · exact congrArg (c.ownDeeds op ++ ·) deeds

theorem breaker_expire (c : Circuit α) (t : Timer) :
    (c.expire t).breaker
        = (c.breaker.expire t).breaker.doAll c.settings c.now (c.expireOps t) ∧
      c.expireDeeds t = ⟨c.now, c.breaker, .expire t⟩
        :: (c.breaker.expire t).breaker.doAllDeeds c.settings c.now (c.expireOps t) := by
  obtain ⟨last, deeds⟩ := breaker_run c.sink.queued
    { c with breaker := (c.breaker.expire t).breaker } (c.breaker.expire t).agenda
  exact ⟨last, congrArg _ deeds⟩

theorem settings_perform (c : Circuit α) (op : Operation α) :
    (c.perform op).1.settings = c.settings :=
  (goes_perform c op).settings

theorem settings_expire (c : Circuit α) (t : Timer) : (c.expire t).settings = c.settings :=
  (goes_run _ { c with breaker := (c.breaker.expire t).breaker } _).settings

theorem settings_ring (c : Circuit α) (t : Timer) : (c.ring t).settings = c.settings :=
  settings_expire (c.reach t.alarm.due) t

/-! ### Without reactions -/

section Quiet

variable {c : Circuit α} (quiet : c.sink.queued = 0)

include quiet

theorem finishOps_of_quiet (effect : Effect) : c.finishOps effect.agenda = [] := by
  rw [finishOps, quiet, runOps, settle_agenda_of_quiet quiet]

/-- Without reactions an operation sets nothing off. -/
theorem performOps_of_quiet (op : Operation α) : c.performOps op = [op] :=
  congrArg (op :: ·) (finishOps_of_quiet (c := (c.begin op).1) quiet _)

/-- Without reactions a timer that runs out sets nothing off. -/
theorem expireOps_of_quiet (t : Timer) : c.expireOps t = [] :=
  finishOps_of_quiet (c := { c with breaker := (c.breaker.expire t).breaker }) quiet _

end Quiet

end Circuit

end Tripwire
