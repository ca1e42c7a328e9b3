/-
Sessions: a script of steps run on one breaker.

A session has handles on the breaker, signals it has captured, and tasks that wait
for signals.  A signal is known by the number of its cycle, so what a signal shows
and what a waiting task has been told can be read off the breaker at any time.
When the last handle is dropped the breaker is let go of; what it has told its
signals stays.
-/
import Tripwire.Circuit.Clock

namespace Tripwire

/-- One step of a script. -/
inductive Step (α : Type) where
  /-- An operation through a handle. -/
  | operate (handle : Nat) (op : Operation α)
  /-- Lets so many milliseconds pass. -/
  | sleep (ms : Nat)
  /-- Captures the signal of the cycle. -/
  | capture (handle : Nat)
  /-- Waits at most so many milliseconds for a captured signal or for that of the cycle. -/
  | wait (handle : Nat) (signal : Option Nat) (ms : Nat)
  /-- Starts a task that waits for a captured signal or for that of the cycle. -/
  | spawn (handle : Nat) (signal : Option Nat)
  /-- Makes another handle. -/
  | clone (handle : Nat)
  /-- Drops a handle. -/
  | drop (handle : Nat)

/-- What a step gives back. -/
inductive Reply (α : Type) where
  | answer (a : Answer α)
  | fault (f : Fault)
  /-- The place of what was made. -/
  | index (n : Nat)
  /-- Whether the cycle tripped, or nothing if the time ran out. -/
  | verdict (v : Option Bool)
  /-- There is no such handle. -/
  | gone

/-- A script that is being run. -/
structure Session (α : Type) where
  circuit : Circuit α
  /-- Which handles are still there. -/
  handles : List Bool := [true]
  /-- The cycles of the captured signals. -/
  signals : List Nat := []
  /-- The cycles of the signals that tasks wait for. -/
  waiters : List Nat := []

/-- How things are after a step. -/
structure Snapshot (α : Type) where
  reply : Reply α
  /-- The breaker at a glance, while there is a handle. -/
  status : Option Status
  /-- For each captured signal, whether it has fired. -/
  signals : List Bool
  /-- For each waiting task, what it has been told. -/
  waiters : List (Option Bool)
  events : List (Event α)

namespace Session

variable {α : Type}

/-- The handle is there. -/
def holds (s : Session α) (handle : Nat) : Bool := s.handles.getD handle false

/-- The cycle of a captured signal, or of the breaker behind a handle. -/
def cycle? (s : Session α) (handle : Nat) : Option Nat → Option Nat
  | some i => s.signals[i]?
  | none => if s.holds handle then some s.circuit.breaker.cycle else none

/-- The session without a handle; without any, the breaker is let go of. -/
def drop (s : Session α) (handle : Nat) : Session α :=
  let handles := s.handles.set handle false
  if handles.any id then { s with handles }
  else { s with handles, circuit := { s.circuit with breaker := s.circuit.breaker.release } }

/-- Does a step. -/
def perform (s : Session α) : Step α → Session α × Reply α
  | .operate handle op =>
      if s.holds handle then
        match s.circuit.perform op with
        | (circuit, .ok a) => ({ s with circuit }, .answer a)
        | (circuit, .error f) => ({ s with circuit }, .fault f)
      else (s, .gone)
  | .sleep ms => ({ s with circuit := s.circuit.pass ms }, .answer .done)
  | .capture handle =>
      if s.holds handle then
        ({ s with signals := s.signals ++ [s.circuit.breaker.cycle] }, .index s.signals.length)
      else (s, .gone)
  | .wait handle signal ms =>
      match s.cycle? handle signal with
      | some cycle =>
          let (circuit, v) := s.circuit.await cycle ms
          ({ s with circuit := circuit.pass 0 }, .verdict v)
      | none => (s, .gone)
  | .spawn handle signal =>
      match s.cycle? handle signal with
      | some cycle => ({ s with waiters := s.waiters ++ [cycle] }, .index s.waiters.length)
      | none => (s, .gone)
  | .clone handle =>
      if s.holds handle then ({ s with handles := s.handles ++ [true] }, .index s.handles.length)
      else (s, .gone)
  | .drop handle => if s.holds handle then (s.drop handle, .answer .done) else (s, .gone)

/-- How things are, with a reply. -/
def snapshot (s : Session α) (reply : Reply α) : Snapshot α :=
  let b := s.circuit.breaker
  { reply
    status := if s.handles.any id then some b.status else none
    signals := s.signals.map b.isTripped
    waiters := s.waiters.map fun cycle => (b.fate cycle).verdict?
    events := s.circuit.events.toList }

/-- The session once its events have been looked at. -/
def drained (s : Session α) : Session α := { s with circuit := { s.circuit with events := #[] } }

/-- Does a step and takes a snapshot. -/
def step (s : Session α) (step : Step α) : Session α × Snapshot α :=
  let (next, reply) := s.perform step
  (next.drained, next.snapshot reply)

/-- Does all steps of a script. -/
def run (s : Session α) : List (Step α) → List (Snapshot α)
  | [] => []
  | step :: steps =>
      let (next, snapshot) := s.step step
      snapshot :: next.run steps

end Session

end Tripwire
