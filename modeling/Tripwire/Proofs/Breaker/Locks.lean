/-
What a call does with the locks.

The count and all that goes with it are behind one lock, and the armed timer is behind
another, which nobody takes who does not hold the first.  `Operation.acts` lists what a call
does in the order in which it does it: it takes and leaves locks, changes what is behind
them, and tells the outside.  A line that has a reaction makes the call do that first, from
inside the delivery of the line, so the locks that are held then are held all through the
reaction.  A call that breaks off leaves all locks that it holds.

`Call.next?` is one act of a call, and there is none if the call would take a lock that it
holds.  That it never comes to that is an invariant of all calls, `Orderly`: the locks are
taken in their order, and none is held where a line is told.

An effect says what a call comes to without going through its acts.  It is the same in the
end, `Call.safe_perform`.
-/
import Mathlib.Logic.Relation
import Tripwire.Proofs.History

namespace Tripwire

/-! ### Acts -/

/-- What keeps others away. -/
inductive Lock where
  /-- In front of the count and all that goes with it. -/
  | count
  /-- In front of the armed timer. -/
  | timer
  deriving DecidableEq, Repr

/-- The locks that are held by those who may take the lock. -/
def Lock.outer : Lock → List Lock
  | count => []
  | timer => [.count]

/-- One thing that a call does. -/
inductive Act (α : Type) where
  | take (l : Lock)
  | leave (l : Lock)
  | change (f : Breaker → Breaker)
  /-- Tells the outside. -/
  | tell (e : Emission)
  /-- A reaction has come to its end. -/
  | conclude (op : Operation α) (a : Answer α)
  /-- Breaks off. -/
  | fail (fault : Fault)

namespace Breaker

/-- Ends the cycle as far as the count goes. -/
def clear (b : Breaker) : Breaker :=
  { b with active := false, errors := [], stamp := b.stamp + 1, sender := false }

/-- Stops the armed timer. -/
def disarm (b : Breaker) : Breaker := { b with armed := none, timers := b.otherTimers }

/-- Begins a cycle. -/
def begin (b : Breaker) : Breaker := { b with active := true, sender := true, cycle := b.cycle + 1 }

end Breaker

section Acts

variable {α : Type}

/-- The acts by which a cycle is ended, with the lock of the count held. -/
def endActs : List (Act α) :=
  [.change Breaker.clear, .take .timer, .change Breaker.disarm, .leave .timer]

/-- The acts by which an error is reported. -/
def reportActs (s : BreakerSettings) (now : Nat) (b : Breaker) (e : Report) : List (Act α) :=
  .take .count ::
    if b.active then
      .change (Breaker.count e) :: .tell (.counter .errors) :: .tell (.gauge (b.count e).current) ::
        if s.limit.toNat ≤ (b.count e).current then
          match Report.printList (b.count e).errors with
          | .error fault => [.fail fault]
          | .ok errors =>
              .change Breaker.fire :: (endActs ++ [.leave .count, .tell (.counter .trips),
                .tell (.gauge 0), .tell (.notice (.tripped b.cycle errors))])
        else [.take .timer, .change (Breaker.arm s now), .leave .timer, .leave .count]
    else [.leave .count]

/-- What a call of an operation does to a breaker as it finds it. -/
def Operation.acts (s : BreakerSettings) (now : Nat) (b : Breaker) : Operation α → List (Act α)
  | activate =>
      .take .count :: ((if b.active then endActs else [])
        ++ .change Breaker.begin :: .leave .count :: b.activate.emissions.map .tell)
  | deactivate =>
      .take .count ::
        if b.active then endActs ++ .leave .count :: b.deactivate.emissions.map .tell
        else [.leave .count]
  | addError e | observe (.error e) => reportActs s now b e
  | isActive | current | text | block => [.take .count, .leave .count]
  | observe (.ok _) | name | settings => []
  | fail fault => [.fail fault]

/-- What a timer that runs out does to a breaker as it finds it. -/
def Timer.acts (t : Timer) (b : Breaker) : List (Act α) :=
  .change (Breaker.finish t) :: .take .count ::
    if (b.finish t).heeds t then
      .change (fun b => { b with errors := [] }) :: .take .timer ::
        .change (fun b => { b with armed := none }) :: .leave .timer :: .leave .count ::
        (b.expire t).emissions.map .tell
    else [.leave .count]

/-- What is left to do as acts. -/
def Task.act : Task α → Act α
  | deliver e => .tell e
  | conclude op a => .conclude op a
  | fail fault => .fail fault

end Acts

/-! ### Calls -/

/-- A call at work, together with the reactions that it is in the middle of. -/
structure Call (α : Type) where
  circuit : Circuit α
  /-- The locks that are held, last taken first. -/
  held : List Lock := []
  acts : List (Act α)
  /-- Why the call broke off, if it did. -/
  fault : Option Fault := none

namespace Call

variable {α : Type} {k k' : Call α} {c : Circuit α} {fault : Option Fault}

/-- The call after its next act, if there is one and it can be done. -/
def next? (k : Call α) : Option (Call α) :=
  match k.acts with
  | [] => none
  | .take l :: acts => if l ∈ k.held then none else some { k with held := l :: k.held, acts }
  | .leave l :: acts => some { k with held := k.held.erase l, acts }
  | .change f :: acts =>
      some { k with circuit := { k.circuit with breaker := f k.circuit.breaker }, acts }
  | .tell e :: acts =>
      match (k.circuit.emit e).react? e with
      | none => some { k with circuit := k.circuit.emit e, acts }
      | some (op, c) =>
          let conclusion := .conclude op (op.answer c.settings c.breaker)
          some { k with circuit := c, acts := op.acts c.settings c.now c.breaker ++ conclusion :: acts }
  | .conclude op a :: acts => some { k with circuit := k.circuit.record (.reaction op a), acts }
  | .fail fault :: _ => some { k with held := [], acts := [], fault := some fault }

/-- A call leads to another one act by act. -/
def Leads : Call α → Call α → Prop := Relation.ReflTransGen fun k k' => k.next? = some k'

/-- The call comes to an end, with no lock held. -/
def Ends (k : Call α) (c : Circuit α) (fault : Option Fault) : Prop :=
  k.Leads { circuit := c, acts := [], fault }

/-- The call after so many acts. -/
def nexts (k : Call α) : Nat → Option (Call α)
  | 0 => some k
  | n + 1 => k.next?.bind fun k => k.nexts n

/-- Acts that can be done make no difference to how a call ends. -/
theorem ends_iff_of_nexts {n : Nat} (h : k.nexts n = some k') :
    k.Ends c fault ↔ k'.Ends c fault := by
  induction n generalizing k with
  | zero =>
      obtain rfl : k = k' := Option.some.inj h
      exact Iff.rfl
  | succ n ih =>
      obtain ⟨next, hnext, hrest⟩ := Option.bind_eq_some_iff.mp h
      rw [← ih hrest]
      constructor
      · intro ends
        rcases Relation.ReflTransGen.cases_head ends with rfl | ⟨other, hother, rest⟩
        · simp [next?] at hnext
        · obtain rfl : other = next := Option.some.inj (hother.symm.trans hnext)
          exact rest
      · exact fun ends => .head hnext ends

/-! ### The order of the locks -/

/-- Who holds these locks can do these acts: the locks are taken in their order and all are left in
the end, and lines are told without any. -/
def Orderly : List Lock → List (Act α) → Prop
  | held, [] => held = []
  | held, .take l :: acts => held = l.outer ∧ Orderly (l :: held) acts
  | held, .leave l :: acts => held = l :: l.outer ∧ Orderly l.outer acts
  | held, .tell (.notice _) :: acts => held = [] ∧ Orderly held acts
  | held, .tell _ :: acts | held, .change _ :: acts | held, .conclude .. :: acts => Orderly held acts
  | _, .fail _ :: _ => True

theorem Orderly.append {held : List Lock} {acts more : List (Act α)} (first : Orderly held acts)
    (last : Orderly [] more) : Orderly held (acts ++ more) := by
  induction acts generalizing held with
  | nil =>
      obtain rfl : held = [] := first
      exact last
  | cons act acts ih =>
      cases act with
      | take l => exact ⟨first.1, ih first.2⟩
      | leave l => exact ⟨first.1, ih first.2⟩
      | tell e =>
          cases e with
          | notice n => exact ⟨first.1, ih first.2⟩
          | counter k => exact ih (show Orderly held acts from first)
          | gauge count => exact ih (show Orderly held acts from first)
      | change f => exact ih (show Orderly held acts from first)
      | conclude op a => exact ih (show Orderly held acts from first)
      | fail fault => trivial

/-- Whatever is told, it is told in order if no lock is held. -/
theorem orderly_tells (emissions : List Emission) :
    Orderly [] (emissions.map (Act.tell (α := α))) := by
  induction emissions with
  | nil => rfl
  | cons e emissions ih =>
      cases e with
      | notice n => exact ⟨rfl, ih⟩
      | counter k => exact ih
      | gauge count => exact ih

theorem orderly_report (s : BreakerSettings) (now : Nat) (b : Breaker) (e : Report) :
    Orderly [] (reportActs (α := α) s now b e) := by
  unfold reportActs
  refine ⟨rfl, ?_⟩
  split
  · show Orderly _ (ite _ _ _)
    split
    · split
      · trivial
      · exact ⟨rfl, rfl, rfl, rfl, rfl⟩
    · exact ⟨rfl, rfl, rfl, rfl⟩
  · exact ⟨rfl, rfl⟩

/-- The acts of an operation are in order. -/
theorem orderly_acts (s : BreakerSettings) (now : Nat) (b : Breaker) (op : Operation α) :
    Orderly [] (op.acts s now b) := by
  cases op with
  | activate =>
      unfold Operation.acts
      refine ⟨rfl, ?_⟩
      split
      · exact ⟨rfl, rfl, rfl, orderly_tells _⟩
      · exact ⟨rfl, orderly_tells _⟩
  | deactivate =>
      unfold Operation.acts
      refine ⟨rfl, ?_⟩
      split
      · exact ⟨rfl, rfl, rfl, orderly_tells _⟩
      · exact ⟨rfl, rfl⟩
  | addError e => exact orderly_report s now b e
  | observe outcome =>
      cases outcome with
      | ok a => rfl
      | error e => exact orderly_report s now b e
  | isActive | current | text | block => exact ⟨rfl, rfl, rfl⟩
  | name | settings => rfl
  | fail fault => trivial

/-- The acts of a timer that runs out are in order. -/
theorem orderly_timer (t : Timer) (b : Breaker) : Orderly [] (t.acts (α := α) b) := by
  unfold Timer.acts
  refine ⟨rfl, ?_⟩
  split
  · exact ⟨rfl, rfl, rfl, orderly_tells _⟩
  · exact ⟨rfl, rfl⟩

/-- An act leaves the rest in order. -/
theorem Orderly.next (orderly : Orderly k.held k.acts) (h : k.next? = some k') :
    Orderly k'.held k'.acts := by
  obtain ⟨circuit, held, acts, fault⟩ := k
  cases acts with
  | nil => simp [next?] at h
  | cons act acts =>
      cases act with
      | take l =>
          rw [next?] at h
          dsimp only at h
          split at h
          · simp at h
          · obtain rfl := Option.some.inj h
            exact orderly.2
      | leave l =>
          obtain ⟨rfl, rest⟩ : held = l :: l.outer ∧ Orderly l.outer acts := orderly
          obtain rfl := Option.some.inj h
          simpa using rest
      | change f =>
          obtain rfl := Option.some.inj h
          exact orderly
      | tell e =>
          rw [next?] at h
          dsimp only at h
          cases e with
          | notice n =>
              obtain ⟨rfl, rest⟩ : held = [] ∧ Orderly held acts := orderly
              split at h
              · obtain rfl := Option.some.inj h
                exact rest
              · obtain rfl := Option.some.inj h
                exact (orderly_acts _ _ _ _).append rest
          | counter k =>
              obtain rfl := Option.some.inj h
              exact orderly
          | gauge count =>
              obtain rfl := Option.some.inj h
              exact orderly
      | conclude op a =>
          obtain rfl := Option.some.inj h
          exact orderly
      | fail fault =>
          obtain rfl := Option.some.inj h
          rfl

theorem Orderly.leads (orderly : Orderly k.held k.acts) (leads : k.Leads k') :
    Orderly k'.held k'.acts := by
  induction leads with
  | refl => exact orderly
  | tail _ h ih => exact ih.next h

/-- A call whose acts are in order can do the next one. -/
theorem Orderly.acts_eq_nil (orderly : Orderly k.held k.acts) (h : k.next? = none) :
    k.acts = [] := by
  obtain ⟨circuit, held, acts, fault⟩ := k
  cases acts with
  | nil => rfl
  | cons act acts =>
      cases act with
      | take l =>
          obtain ⟨rfl, -⟩ : held = l.outer ∧ Orderly (l :: held) acts := orderly
          cases l <;> simp [next?, Lock.outer] at h
      | tell e =>
          rw [next?] at h
          dsimp only at h
          split at h <;> simp at h
      | _ => simp [next?] at h

/-! ### What a call comes to

With a lock held a call only changes the breaker and counts, so once it has left the lock it is as
if it had made its change in one go.  All that is then left to do is what the effect says.
-/

theorem ends_report (c : Circuit α) (e : Report) (more : List (Act α)) {last : Circuit α}
    {fault : Option Fault} :
    Call.Ends { circuit := c, acts := reportActs c.settings c.now c.breaker e ++ more } last fault ↔
      Call.Ends
        { circuit := (c.begin (.addError e)).1
          acts := (c.begin (.addError e)).2.map Task.act ++ more } last fault := by
  have hbegin : c.begin (.addError e)
      = ({ c with breaker := (c.breaker.addError c.settings c.now e).breaker },
          (c.breaker.addError c.settings c.now e).agenda) := rfl
  rw [hbegin]
  unfold reportActs Breaker.addError
  cases hactive : c.breaker.active with
  | false => exact ends_iff_of_nexts (n := 2) rfl
  | true =>
      by_cases reached : c.settings.limit.toNat ≤ (c.breaker.count e).current
      · simp only [if_true, if_pos reached, Breaker.trip]
        cases hprint : Report.printList (c.breaker.count e).errors with
        | error f =>
            exact (ends_iff_of_nexts (n := 5) rfl).trans (ends_iff_of_nexts (n := 3) rfl).symm
        | ok errors =>
            exact (ends_iff_of_nexts (n := 10) rfl).trans (ends_iff_of_nexts (n := 2) rfl).symm
      · simp only [if_true, if_neg reached]
        exact (ends_iff_of_nexts (n := 8) rfl).trans (ends_iff_of_nexts (n := 2) rfl).symm

/-- An operation does to the breaker what its effect says before it has told the outside all of
it. -/
theorem ends_begin (c : Circuit α) (op : Operation α) (more : List (Act α)) {last : Circuit α}
    {fault : Option Fault} :
    Call.Ends { circuit := c, acts := op.acts c.settings c.now c.breaker ++ more } last fault ↔
      Call.Ends { circuit := (c.begin op).1, acts := (c.begin op).2.map Task.act ++ more }
        last fault := by
  cases op with
  | activate =>
      have hbegin : c.begin .activate
          = ({ c with breaker := c.breaker.activate.breaker }, c.breaker.activate.agenda) := rfl
      rw [hbegin]
      unfold Operation.acts Breaker.activate
      cases hactive : c.breaker.active with
      | false => exact ends_iff_of_nexts (n := 3) rfl
      | true => exact ends_iff_of_nexts (n := 7) rfl
  | deactivate =>
      have hbegin : c.begin .deactivate
          = ({ c with breaker := c.breaker.deactivate.breaker }, c.breaker.deactivate.agenda) := rfl
      rw [hbegin]
      unfold Operation.acts Breaker.deactivate
      cases hactive : c.breaker.active with
      | false => exact ends_iff_of_nexts (n := 2) rfl
      | true => exact ends_iff_of_nexts (n := 6) rfl
  | addError e => exact ends_report c e more
  | observe outcome =>
      cases outcome with
      | ok a => exact Iff.rfl
      | error e => exact ends_report c e more
  | isActive | current | text | block => exact ends_iff_of_nexts (n := 2) rfl
  | name | settings => exact Iff.rfl
  | fail fault => exact Iff.rfl

/-- The same goes for a timer that runs out. -/
theorem ends_timer (c : Circuit α) (t : Timer) {last : Circuit α} {fault : Option Fault} :
    Call.Ends { circuit := c, acts := t.acts c.breaker } last fault ↔
      Call.Ends
        { circuit := { c with breaker := (c.breaker.expire t).breaker }
          acts := (c.breaker.expire t).agenda.map Task.act } last fault := by
  unfold Timer.acts Breaker.expire
  dsimp only
  cases heeds : (c.breaker.finish t).heeds t with
  | false => exact ends_iff_of_nexts (n := 3) rfl
  | true => exact ends_iff_of_nexts (n := 7) rfl

/-- A call where work on an agenda comes to a halt. -/
def ofHalt : Circuit.Halt α → Call α
  | .done c fault => { circuit := c, acts := [], fault }
  | .reaction op c rest =>
      { circuit := c
        acts := op.acts c.settings c.now c.breaker
          ++ .conclude op (op.answer c.settings c.breaker) :: rest.map Task.act }

theorem leads_settle (c : Circuit α) (tasks : List (Task α)) :
    Call.Leads { circuit := c, acts := tasks.map Task.act } (ofHalt (c.settle tasks)) := by
  induction tasks generalizing c with
  | nil => exact .refl
  | cons task tasks ih =>
      cases task with
      | fail fault => exact .single rfl
      | conclude op a => exact .head rfl (ih (c.record (.reaction op a)))
      | deliver e =>
          rw [Circuit.settle]
          cases hreact : (c.emit e).react? e with
          | none =>
              refine .head ?_ (ih (c.emit e))
              simp only [List.map_cons, Task.act, next?, hreact]
          | some reaction =>
              obtain ⟨op, next⟩ := reaction
              refine .single ?_
              simp only [List.map_cons, Task.act, next?, hreact, ofHalt]

/-- A call that has left all locks ends as work on its agenda does. -/
theorem ends_run (fuel : Nat) : ∀ (c : Circuit α) (tasks : List (Task α)), c.sink.queued ≤ fuel →
    Call.Ends { circuit := c, acts := tasks.map Task.act } (Circuit.run fuel c tasks).1
      (Circuit.run fuel c tasks).2 := by
  induction fuel with
  | zero =>
      intro c tasks enough
      have leads := leads_settle c tasks
      rw [Circuit.run]
      cases hs : c.settle tasks with
      | done last fault =>
          rw [hs] at leads
          exact leads
      | reaction op next rest =>
          have hqueued := Circuit.queued_of_settle hs
          omega
  | succ fuel ih =>
      intro c tasks enough
      have leads := leads_settle c tasks
      rw [Circuit.run]
      cases hs : c.settle tasks with
      | done last fault =>
          rw [hs] at leads
          exact leads
      | reaction op next rest =>
          rw [hs] at leads
          have hqueued := Circuit.queued_of_settle hs
          have enough' : (next.begin op).1.sink.queued ≤ fuel := by
            show next.sink.queued ≤ fuel
            omega
          have ends := ih (next.begin op).1
            ((next.begin op).2 ++ .conclude op (op.answer next.settings next.breaker) :: rest) enough'
          rw [List.map_append] at ends
          exact leads.trans ((ends_begin next op _).mpr ends)

/-! ### Calls without deadlocks -/

/-- The call comes to its end as it should, always has a next act until then, takes locks in their
order, and tells lines without any lock. -/
structure Safe (k : Call α) (c : Circuit α) (fault : Option Fault) : Prop where
  ends : k.Ends c fault
  goes_on : ∀ k', k.Leads k' → k'.next? = none → k'.acts = []
  in_order : ∀ k' l acts, k.Leads k' → k'.acts = .take l :: acts → k'.held = l.outer
  unlocked : ∀ k' n acts, k.Leads k' → k'.acts = .tell (.notice n) :: acts → k'.held = []

theorem Ends.safe (ends : k.Ends c fault) (orderly : Orderly k.held k.acts) : k.Safe c fault where
  ends := ends
  goes_on _ leads none := (orderly.leads leads).acts_eq_nil none
  in_order k' l acts leads hacts := by
    have orderly' := orderly.leads leads
    rw [hacts] at orderly'
    exact orderly'.1
  unlocked k' n acts leads hacts := by
    have orderly' := orderly.leads leads
    rw [hacts] at orderly'
    exact orderly'.1

/-- **A call never waits for itself.**  It comes to what its operation comes to. -/
theorem safe_perform (c : Circuit α) (op : Operation α) : ∃ fault,
    Safe { circuit := c, acts := op.acts c.settings c.now c.breaker } (c.perform op).1 fault ∧
      (c.perform op).2 = match fault with
        | none => .ok (op.answer c.settings c.breaker)
        | some fault => .error fault := by
  have ends := ends_run _ (c.begin op).1 (c.begin op).2 (Nat.le_refl _)
  have ends' := (ends_begin c op []).mpr (by rw [List.append_nil]; exact ends)
  rw [List.append_nil] at ends'
  refine ⟨((c.begin op).1.finish (c.begin op).2).2, ?_, ?_⟩
  · rw [Circuit.perform_fst]
    exact ends'.safe (orderly_acts _ _ _ op)
  · unfold Circuit.perform
    cases hb : c.begin op with
    | mk next agenda =>
        dsimp only
        cases hf : next.finish agenda with
        | mk last fault => cases fault <;> rfl

/-- **A timer that runs out never waits for itself either.** -/
theorem safe_expire (c : Circuit α) (t : Timer) : ∃ fault,
    Safe { circuit := c, acts := t.acts c.breaker } (c.expire t) fault := by
  have ends := ends_run _ { c with breaker := (c.breaker.expire t).breaker }
    (c.breaker.expire t).agenda (Nat.le_refl _)
  exact ⟨_, ((ends_timer c t).mpr ends).safe (orderly_timer t c.breaker)⟩

end Call

end Tripwire
