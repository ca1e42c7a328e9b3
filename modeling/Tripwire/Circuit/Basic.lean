/-
A breaker at work: with its settings, a clock and a sink for its log.

A sink either writes records to the program's log or keeps the lines and reacts
to them.  A reaction is an operation on the same breaker, done from inside the
delivery of the line; its own lines may have reactions in turn.  So what an
operation tells the outside is an agenda.  A reaction puts its own agenda in front
of the rest, and the circuit is done when the agenda is empty, or as soon as
something breaks off: then the rest of the agenda is dropped, however deep the
reactions were.

Each reaction uses up one of the operations the sink was given, so their number
bounds how often `run` starts anew.
-/
import Tripwire.Breaker.Operation
import Tripwire.Log.Record

namespace Tripwire

/-- Something that has happened. -/
inductive Event (α : Type) where
  | counter (c : Counter)
  | gauge (count : Nat)
  /-- A line for the breaker's log. -/
  | notice (n : Notice)
  /-- A record in the program's log. -/
  | record (r : Record)
  /-- A reaction is over. -/
  | reaction (op : Operation α) (a : Answer α)
  /-- Somebody has looked at the breaker. -/
  | glance (s : Status)

/-- Where the lines of a breaker's log go. -/
inductive Sink (α : Type) where
  /-- They are kept, and each warning and each other line has the next reaction of its list. -/
  | keeping (onWarning onOther : List (Operation α))
  /-- They go to the program's log. -/
  | logging

namespace Sink

variable {α : Type}

/-- How many reactions are left. -/
def queued : Sink α → Nat
  | keeping onWarning onOther => onWarning.length + onOther.length
  | logging => 0

/-- The reaction to a line and the sink without it, if there is one. -/
def react? (n : Notice) : Sink α → Option (Operation α × Sink α)
  | keeping onWarning onOther =>
      if n.isWarning then
        match onWarning with
        | [] => none
        | op :: rest => some (op, keeping rest onOther)
      else
        match onOther with
        | [] => none
        | op :: rest => some (op, keeping onWarning rest)
  | logging => none

/-- A line as the sink shows it. -/
def event (s : BreakerSettings) (n : Notice) : Sink α → Event α
  | keeping .. => .notice n
  | logging => .record
      { level := if n.isWarning then .warn else .debug
        target := "rate_breaker"
        message := n.text s
        fields := [("breaker", .text s.name)] }

/-- A reaction uses up one of those that are left. -/
theorem queued_of_react? {n : Notice} {sink rest : Sink α} {op : Operation α}
    (h : sink.react? n = some (op, rest)) : sink.queued = rest.queued + 1 := by
  cases sink with
  | logging => simp [react?] at h
  | keeping onWarning onOther =>
      cases hn : n.isWarning <;> cases onWarning <;> cases onOther <;> simp [react?, hn] at h <;>
        obtain ⟨rfl, rfl⟩ := h <;> simp [queued] <;> omega

end Sink

/-- A breaker at work. -/
structure Circuit (α : Type) where
  settings : BreakerSettings
  sink : Sink α
  breaker : Breaker := {}
  /-- The time, in milliseconds. -/
  now : Nat := 0
  /-- What has happened and has not been looked at yet. -/
  events : Array (Event α) := #[]

/-- Something on the agenda of a circuit. -/
inductive Task (α : Type) where
  /-- Tell the outside. -/
  | deliver (e : Emission)
  /-- A reaction has come to its end. -/
  | conclude (op : Operation α) (a : Answer α)
  /-- Break off. -/
  | fail (fault : Fault)

/-- What an operation leaves to be done. -/
def Effect.agenda {α : Type} (e : Effect) : List (Task α) :=
  e.emissions.map .deliver ++ e.fault.toList.map .fail

namespace Circuit

variable {α : Type}

/-- Adds to what has happened. -/
def record (c : Circuit α) (e : Event α) : Circuit α := { c with events := c.events.push e }

/-- Tells the outside. -/
def emit (c : Circuit α) : Emission → Circuit α
  | .counter k => c.record (.counter k)
  | .gauge count => c.record (.gauge count)
  | .notice n => c.record (c.sink.event c.settings n)

/-- The reaction to an emission and the circuit without it, if there is one. -/
def react? (c : Circuit α) : Emission → Option (Operation α × Circuit α)
  | .notice n => (c.sink.react? n).map fun (op, sink) => (op, { c with sink })
  | _ => none

/-- Where work on an agenda comes to a halt. -/
inductive Halt (α : Type) where
  /-- Nothing is left to do, or something broke off. -/
  | done (c : Circuit α) (fault : Option Fault)
  /-- An operation comes first, and then the rest. -/
  | reaction (op : Operation α) (c : Circuit α) (rest : List (Task α))

/-- Works on an agenda up to the next reaction. -/
def settle (c : Circuit α) : List (Task α) → Halt α
  | [] => .done c none
  | .fail fault :: _ => .done c (some fault)
  | .conclude op a :: rest => (c.record (.reaction op a)).settle rest
  | .deliver e :: rest =>
      match (c.emit e).react? e with
      | none => (c.emit e).settle rest
      | some (op, c) => .reaction op c rest

/-- Begins an operation: the breaker is as it leaves it, and all else is put on an agenda. -/
def begin (c : Circuit α) (op : Operation α) : Circuit α × List (Task α) :=
  let effect := op.effect c.settings c.now c.breaker
  ({ c with breaker := effect.breaker }, effect.agenda)

/-- Works on an agenda, with at most so many reactions. -/
def run : Nat → Circuit α → List (Task α) → Circuit α × Option Fault
  | fuel, c, tasks =>
      match c.settle tasks with
      | .done c fault => (c, fault)
      | .reaction op c rest =>
          match fuel with
          | 0 => (c, none)
          | fuel + 1 =>
              let (next, agenda) := c.begin op
              run fuel next (agenda ++ .conclude op (op.answer c.settings c.breaker) :: rest)

/-- Telling the outside leaves the sink alone; only reactions change it. -/
theorem sink_emit (c : Circuit α) (e : Emission) : (c.emit e).sink = c.sink := by
  cases e <;> rfl

/-- A halt for a reaction uses up one of those that were left. -/
theorem queued_of_settle {c next : Circuit α} {tasks rest : List (Task α)} {op : Operation α}
    (h : c.settle tasks = .reaction op next rest) : c.sink.queued = next.sink.queued + 1 := by
  induction tasks generalizing c with
  | nil => simp [settle] at h
  | cons task tasks ih =>
      cases task with
      | fail fault => simp [settle] at h
      | conclude op' a => exact ih (c := c.record (.reaction op' a)) (by simpa [settle] using h)
      | deliver e =>
          rw [settle] at h
          split at h
          · have := ih h
            rwa [sink_emit] at this
          · rename_i op' c' hr
            cases h
            cases e with
            | notice n =>
                simp only [react?, Option.map_eq_some_iff] at hr
                obtain ⟨⟨op'', sink⟩, hs, heq⟩ := hr
                have := Sink.queued_of_react? hs
                cases heq
                simpa [sink_emit] using this
            | counter k => simp [react?] at hr
            | gauge count => simp [react?] at hr

/-- More fuel than there are reactions changes nothing: the fuel never runs out. -/
theorem run_of_queued_le (fuel : Nat) : ∀ (c : Circuit α) (tasks : List (Task α)),
    c.sink.queued ≤ fuel → run fuel c tasks = run c.sink.queued c tasks := by
  induction fuel with
  | zero =>
      intro c tasks h
      rw [Nat.le_zero.mp h]
  | succ fuel ih =>
      intro c tasks h
      cases hq : c.sink.queued with
      | zero =>
          rw [run, run]
          split
          · rfl
          · rename_i hs
            have := queued_of_settle hs
            omega
      | succ n =>
          rw [run, run]
          split
          · rfl
          · rename_i op next rest hs
            have hn := queued_of_settle hs
            have hnext : next.sink.queued = n := by omega
            have hle : (next.begin op).1.sink.queued ≤ fuel := by
              show next.sink.queued ≤ fuel
              omega
            simp only
            rw [ih _ _ hle]
            show run next.sink.queued _ _ = _
            rw [hnext]

/-- Works on an agenda to its end. -/
def finish (c : Circuit α) (tasks : List (Task α)) : Circuit α × Option Fault :=
  run c.sink.queued c tasks

/-- Does an operation with all its reactions. -/
def perform (c : Circuit α) (op : Operation α) : Circuit α × Except Fault (Answer α) :=
  let (next, agenda) := c.begin op
  match next.finish agenda with
  | (next, none) => (next, .ok (op.answer c.settings c.breaker))
  | (next, some fault) => (next, .error fault)

/-- Lets a timer run out, with all reactions; nobody learns whether something broke off. -/
def expire (c : Circuit α) (t : Timer) : Circuit α :=
  let effect := c.breaker.expire t
  ({ c with breaker := effect.breaker }.finish effect.agenda).1

end Circuit

end Tripwire
