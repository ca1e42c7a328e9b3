/-
Watches that differ in the name of their breaker.

The name of a breaker goes into its log and is read nowhere else.  Two circuits are `Twins` if
nothing but their names, their logs and what has happened to these sets them apart: they have the
same limit and cooldown, their breakers are equal, and it is as late in one as in the other.  Any
operation leaves twins, as its effect does not look at the name, and so does time.  Two watches
on twins that look for the same lines come to the same end, `Course.Twins.walk`.
-/
import Tripwire.Proofs.Watchdog.Scan

namespace Tripwire

/-- Of the settings only the limit and the cooldown matter to an operation. -/
theorem Operation.effect_congr {α : Type} {s s' : BreakerSettings} (limit : s'.limit = s.limit)
    (cooldown : s'.cooldownMs = s.cooldownMs) (now : Nat) (b : Breaker) (op : Operation α) :
    op.effect s' now b = op.effect s now b := by
  have report (e : Report) : b.addError s' now e = b.addError s now e := by
    simp only [Breaker.addError, Breaker.arm, limit, cooldown]
  cases op with
  | addError e => exact report e
  | observe outcome =>
      cases outcome with
      | error e => exact report e
      | ok a => rfl
  | _ => rfl

namespace Circuit

variable {α : Type} {c c' : Circuit α}

/-- Nothing sets the circuits apart but their names and their logs. -/
structure Twins (c c' : Circuit α) : Prop where
  quiet : c.sink.queued = 0
  quiet' : c'.sink.queued = 0
  limit : c'.settings.limit = c.settings.limit
  cooldown : c'.settings.cooldownMs = c.settings.cooldownMs
  breaker : c'.breaker = c.breaker
  now : c'.now = c.now

namespace Twins

/-- Two circuits that have undergone the same are as alike as before. -/
theorem undergo (twins : Twins c c') (effect : Effect) :
    Twins (c.undergo effect) (c'.undergo effect) :=
  { twins with breaker := rfl }

theorem perform (twins : Twins c c') (op : Operation α) :
    Twins (c.perform op).1 (c'.perform op).1 := by
  rw [perform_of_quiet twins.quiet, perform_of_quiet twins.quiet', twins.now, twins.breaker,
    op.effect_congr twins.limit twins.cooldown]
  exact twins.undergo _

theorem record (twins : Twins c c') (e e' : Event α) : Twins (c.record e) (c'.record e') :=
  { twins with }

theorem reach (twins : Twins c c') (time : Nat) : Twins (c.reach time) (c'.reach time) :=
  { twins with
    now := by rw [now_reach, now_reach, twins.now] }

theorem ring (twins : Twins c c') (t : Timer) : Twins (c.ring t) (c'.ring t) := by
  rw [ring_of_quiet twins.quiet, ring_of_quiet twins.quiet', twins.breaker]
  exact (twins.reach t.alarm.due).undergo _

theorem dueBy? (twins : Twins c c') (time : Nat) : c'.dueBy? time = c.dueBy? time := by
  rw [Circuit.dueBy?, Circuit.dueBy?, next?, next?, twins.breaker]

theorem passTo (time fuel : Nat) : ∀ {c c' : Circuit α}, Twins c c' →
    Twins (passTo time fuel c) (passTo time fuel c') := by
  induction fuel with
  | zero => intro c c' twins; exact twins
  | succ fuel ih =>
      intro c c' twins
      rw [Circuit.passTo, Circuit.passTo, twins.dueBy?]
      cases c.dueBy? time with
      | some t => exact ih (twins.ring t)
      | none => exact twins.reach time

/-- Time makes no difference to twins. -/
theorem pass (twins : Twins c c') (ms : Nat) : Twins (c.pass ms) (c'.pass ms) := by
  have patience : c'.patience = c.patience := by
    rw [Circuit.patience, Circuit.patience, outlook, outlook, twins.quiet, twins.quiet',
      twins.breaker]
  rw [Circuit.pass, Circuit.pass, patience, twins.now]
  exact passTo _ _ twins

end Twins

end Circuit

namespace Watchdog

namespace Course

variable {c c' : Course}

/-- The watches look for the same lines, on twins, and have begun the same cycle. -/
structure Twins (c c' : Course) : Prop where
  circuit : c.dog.circuit.Twins c'.dog.circuit
  watch : c'.dog.watch = c.dog.watch
  cycle : c'.cycle = c.cycle

namespace Twins

theorem breaker (twins : Twins c c') : c'.breaker = c.breaker := twins.circuit.breaker

theorem activate (twins : Twins c c') : Twins c.activate c'.activate where
  circuit := twins.circuit.perform .activate
  watch := twins.watch
  cycle := congrArg Breaker.cycle (twins.circuit.perform .activate).breaker

theorem noteTrip (twins : Twins c c') : Twins c.noteTrip c'.noteTrip where
  circuit := twins.circuit.record _ _
  watch := twins.watch
  cycle := twins.cycle

theorem hear (twins : Twins c c') (text : List Char) : Twins (c.hear text) (c'.hear text) where
  circuit := twins.circuit.perform _
  watch := twins.watch
  cycle := twins.cycle

/-- A trip calls for the same in both watches. -/
theorem onTrip (twins : Twins c c') :
    c'.onTrip.2 = c.onTrip.2 ∧ Twins c.onTrip.1 c'.onTrip.1 := by
  rw [onTrip_eq, onTrip_eq, twins.watch]
  split
  · exact ⟨rfl, twins.noteTrip.activate⟩
  · exact ⟨rfl, twins.noteTrip⟩

/-- A line ends both watches or none. -/
theorem report (twins : Twins c c') (text : List Char) :
    (c'.report text).2 = (c.report text).2 ∧ Twins (c.report text).1 (c'.report text).1 := by
  have heard := twins.hear text
  rw [report_eq, report_eq, heard.breaker, heard.cycle]
  split
  · exact heard.onTrip
  · exact ⟨rfl, heard⟩

/-- **Whatever its breaker is called, a watch comes to the same end.** -/
theorem walk (cues : List Cue) : ∀ {c c' : Course}, Twins c c' →
    (c'.walk cues).2 = (c.walk cues).2 := by
  induction cues with
  | nil => intro c c' _; rfl
  | cons cue cues ih =>
      intro c c' twins
      cases cue with
      | line text =>
          obtain ⟨same, twins'⟩ := twins.report text
          rw [Course.walk, Course.walk]
          cases hreport : c.report text with
          | mk next ending =>
              cases hreport' : c'.report text with
              | mk next' ending' =>
                  rw [hreport, hreport'] at same twins'
                  obtain rfl : ending' = ending := same
                  cases ending' with
                  | none => exact ih twins'
                  | some ending => rfl
      | pause ms =>
          exact ih
            (c := c.onCircuit fun circuit => circuit.pass ms)
            ⟨twins.circuit.pass ms, twins.watch, twins.cycle⟩

end Twins

end Course

end Watchdog

end Tripwire
