/-
Watches that have been used before.

A run leaves the circuit at rest, but not as good as new: the breaker is numbered on, and
time has gone by.  The next run does not see anything of it.  A watch compares the cycle
that it has begun with those that have tripped, and lets time pass, and that is all it has to
do with numbers and with time.

`Course.Later` follows the same watch on two circuits, of which one has a past, through
everything that can happen to them.  The cycles that a watch has behind it can be counted in
the log: `Announces` says that each of them has been announced in its turn.
-/
import Tripwire.Proofs.Sequel
import Tripwire.Proofs.Watchdog.Scan

namespace Tripwire

/-! ### Cycles that have begun -/

/-- The cycle whose beginning the line announces, if it does. -/
def Notice.begun? : Notice → Option Nat
  | started cycle => some cycle
  | _ => none

/-- The cycle whose beginning the emission announces, if it does. -/
def Emission.begun? (e : Emission) : Option Nat := e.notice?.bind Notice.begun?

theorem Emission.begun?_of_isReset {e : Emission} (h : e.isReset = true) : e.begun? = none := by
  cases e with
  | notice n => cases n <;> first | rfl | simp [isReset] at h
  | _ => rfl

namespace Breaker

theorem cycle_fire (b : Breaker) : b.fire.cycle = b.cycle := by
  rw [fire]
  split <;> rfl

/-- An error never begins a cycle. -/
theorem begun_addError (s : BreakerSettings) (now : Nat) (e : Report) (b : Breaker) :
    (b.addError s now e).breaker.cycle = b.cycle ∧
      (b.addError s now e).emissions.filterMap Emission.begun? = [] := by
  cases active : b.active with
  | false => simp [addError, active]
  | true =>
      by_cases reached : s.limit.toNat ≤ b.current + 1
      · cases printed : Report.printList (b.errors ++ [e]) with
        | error fault =>
            rw [addError_of_error active reached printed]
            exact ⟨rfl, rfl⟩
        | ok errors =>
            rw [addError_of_le active reached printed]
            exact ⟨cycle_fire _, rfl⟩
      · rw [addError_of_lt active (Nat.lt_of_not_le reached)]
        exact ⟨rfl, rfl⟩

end Breaker

/-- An operation announces the cycles that it begins. -/
theorem Operation.begun_effect {α : Type} (s : BreakerSettings) (now : Nat) (b : Breaker)
    (op : Operation α) : ∃ n, (op.effect s now b).breaker.cycle = b.cycle + n ∧
      (op.effect s now b).emissions.filterMap Emission.begun? = List.range' (b.cycle + 1) n := by
  cases op with
  | activate => exact ⟨1, rfl, by cases h : b.active <;> simp [effect, Breaker.activate, h] <;> rfl⟩
  | deactivate =>
      refine ⟨0, ?_, ?_⟩ <;> cases h : b.active <;>
        simp [effect, Breaker.deactivate, h, Breaker.endCycle, Emission.begun?, Emission.notice?,
          Notice.begun?]
  | addError e => exact ⟨0, b.begun_addError s now e⟩
  | observe outcome =>
      cases outcome with
      | error e => exact ⟨0, b.begun_addError s now e⟩
      | ok a => exact ⟨0, rfl, rfl⟩
  | _ => exact ⟨0, rfl, rfl⟩

namespace Circuit

variable {α : Type} {c c' : Circuit α} {s : BreakerSettings} {sink : Sink α}

theorem cycle_passTo (time fuel : Nat) : ∀ c : Circuit α, c.sink.queued = 0 →
    (passTo time fuel c).breaker.cycle = c.breaker.cycle := by
  induction fuel with
  | zero => intro c _; rfl
  | succ fuel ih =>
      intro c quiet
      rw [passTo]
      cases c.dueBy? time with
      | some t =>
          have ring := ring_of_quiet quiet (t := t)
          refine (ih (c.ring t) (by rw [ring]; exact quiet)).trans ?_
          rw [ring]
          exact Breaker.cycle_expire _ t
      | none => rfl

/-- No cycle begins while nobody acts. -/
theorem cycle_pass (quiet : c.sink.queued = 0) (ms : Nat) :
    (c.pass ms).breaker.cycle = c.breaker.cycle :=
  cycle_passTo _ _ c quiet

/-- The lines for the breaker's log among the events announce so many cycles, one after the other,
behind those that have begun before. -/
def Announces (s : BreakerSettings) (sink : Sink α) (before count : Nat)
    (events : List (Event α)) : Prop :=
  ∃ lines : List Notice, events.filter Event.isLine = lines.map (sink.event s) ∧
    lines.filterMap Notice.begun? = List.range' (before + 1) count

namespace Announces

variable {before count more : Nat} {events events' : List (Event α)}

theorem nil : Announces s sink before 0 [] := ⟨[], rfl, rfl⟩

theorem append (h : Announces s sink before count events)
    (h' : Announces s sink (before + count) more events') :
    Announces s sink before (count + more) (events ++ events') := by
  obtain ⟨lines, hlines, hbegun⟩ := h
  obtain ⟨lines', hlines', hbegun'⟩ := h'
  refine ⟨lines ++ lines', ?_, ?_⟩
  · rw [List.filter_append, hlines, hlines', List.map_append]
  · rw [List.filterMap_append, hbegun, hbegun', Nat.add_right_comm, List.range'_append_1]

theorem record {e : Event α} (h : Announces s sink before count events)
    (other : e.isLine = false) : Announces s sink before count (events ++ [e]) := by
  obtain ⟨lines, hlines, hbegun⟩ := h
  refine ⟨lines, ?_, hbegun⟩
  rw [List.filter_append, List.filter_singleton, other, hlines]
  exact List.append_nil _

/-- What the outside is told announces what the emissions announce. -/
theorem ofEmissions (c : Circuit α) {emissions : List Emission}
    (h : emissions.filterMap Emission.begun? = List.range' (before + 1) count) :
    Announces c.settings c.sink before count (emissions.map c.eventOf) := by
  refine ⟨emissions.filterMap Emission.notice?, ?_, ?_⟩
  · clear h
    induction emissions with
    | nil => rfl
    | cons e emissions ih =>
        cases e with
        | notice n =>
            have line : Event.isLine (c.eventOf (.notice n)) = true := by
              cases hsink : c.sink <;> simp [eventOf, Sink.event, hsink, Event.isLine]
            rw [List.map_cons, List.filter_cons_of_pos line, ih]
            rfl
        | counter k => exact ih
        | gauge count => exact ih
  · rw [List.filterMap_filterMap]
    exact h

end Announces

/-- Since some cycles have begun the circuit has announced all cycles that have begun. -/
structure Announcing (s : BreakerSettings) (sink : Sink α) (before : Nat) (c : Circuit α) :
    Prop where
  quiet : sink.queued = 0
  announces : ∃ count, c.breaker.cycle = before + count ∧
    Announces s sink before count c.events.toList
  settings : c.settings = s
  sink : c.sink = sink

namespace Announcing

variable {before : Nat}

theorem tells (h : Announcing s sink before c) {emissions : List Emission}
    (tells : c.Tells emissions c') {n : Nat} (cycle : c'.breaker.cycle = c.breaker.cycle + n)
    (begun : emissions.filterMap Emission.begun? = List.range' (c.breaker.cycle + 1) n) :
    Announcing s sink before c' where
  quiet := h.quiet
  settings := tells.settings.trans h.settings
  sink := tells.sink.trans h.sink
  announces := by
    obtain ⟨count, hcount, announces⟩ := h.announces
    refine ⟨count + n, by omega, ?_⟩
    rw [hcount] at begun
    have told := Announces.ofEmissions c begun
    rw [h.settings, h.sink] at told
    rw [tells.events]
    exact announces.append told

theorem perform (h : Announcing s sink before c) (op : Operation α) :
    Announcing s sink before (c.perform op).1 := by
  have quiet : c.sink.queued = 0 := h.sink ▸ h.quiet
  obtain ⟨n, cycle, begun⟩ := op.begun_effect c.settings c.now c.breaker
  refine h.tells (tells_perform quiet op) ?_ begun
  rw [perform_of_quiet quiet]
  exact cycle

theorem record (h : Announcing s sink before c) {e : Event α} (other : e.isLine = false) :
    Announcing s sink before (c.record e) :=
  { h with
    announces := by
      obtain ⟨count, hcount, announces⟩ := h.announces
      refine ⟨count, hcount, ?_⟩
      rw [Circuit.record, Array.toList_push]
      exact announces.record other }

theorem pass (h : Announcing s sink before c) (ms : Nat) :
    Announcing s sink before (c.pass ms) := by
  have quiet : c.sink.queued = 0 := h.sink ▸ h.quiet
  obtain ⟨emissions, resets, tells⟩ := tells_pass quiet ms
  refine h.tells tells (n := 0) (cycle_pass quiet ms) ?_
  rw [List.range'_zero, List.filterMap_eq_nil_iff]
  exact fun e he => Emission.begun?_of_isReset (resets e he)

end Announcing

end Circuit

namespace Watchdog

/-- A watch announces the cycles that it begins, and those that others begin meanwhile. -/
theorem upkeep_announcing (s : BreakerSettings) (sink : Sink Empty) (before : Nat) :
    Upkeep fun c => c.dog.circuit.Announcing s sink before :=
  .ofCircuit (fun _ op h => h.perform op) (fun _ _ other h => h.record other)
    fun _ ms h => h.pass ms

/-! ### The same watch on two circuits -/

variable {p : Breaker} {origin origin' : Nat}

namespace Course

/-- The second course is the first one on a circuit that has a past. -/
structure Later (p : Breaker) (origin origin' : Nat) (c c' : Course) : Prop where
  circuit : c.dog.circuit.Later p origin origin' c'.dog.circuit
  watch : c'.dog.watch = c.dog.watch
  listeners : c'.dog.listeners = c.dog.listeners
  held : c'.held = c.held
  cycle : c'.cycle = p.cycle + c.cycle
  reported : c'.reported = c.reported
  trips : c'.trips = c.trips
  begun : 0 < c.cycle
  goes_on : c.cycle ≤ c.breaker.cycle

/-- The two courses are related still, and both have come to the same. -/
def Agree {β : Type} (p : Breaker) (origin origin' : Nat) (x x' : Course × β) : Prop :=
  x.1.Later p origin origin' x'.1 ∧ x'.2 = x.2

namespace Later

variable {c c' : Course} (past : ∀ k ∈ p.fired, k ≤ p.cycle)

theorem operate (later : c.Later p origin origin' c') (op : Operation Empty) :
    (c.operate op).Later p origin origin' (c'.operate op) :=
  { later with
    circuit := later.circuit.perform op
    goes_on := by
      have quiet := later.circuit.quiet
      obtain ⟨n, cycle, -⟩ :=
        op.begun_effect c.dog.circuit.settings c.dog.circuit.now c.dog.circuit.breaker
      have hcycle : (c.operate op).breaker.cycle = c.breaker.cycle + n := by
        rw [breaker, Course.operate, onCircuit, Circuit.perform_of_quiet quiet]
        exact cycle
      have := later.goes_on
      show c.cycle ≤ (c.operate op).breaker.cycle
      omega }

theorem log (later : c.Later p origin origin' c') (level : Level) (message : String)
    (fields : List (String × FieldValue)) :
    (c.log level message fields).Later p origin origin' (c'.log level message fields) := by
  have settings := later.circuit.settings
  rw [Course.log, Course.log]
  dsimp only [onCircuit]
  rw [settings]
  exact { later with circuit := later.circuit.record rfl }

theorem activate (later : c.Later p origin origin' c') :
    c.activate.Later p origin origin' c'.activate := by
  have operated := later.operate .activate
  exact
    { operated with
      cycle := operated.circuit.breaker.cycle
      begun := Nat.lt_of_lt_of_le operated.begun operated.goes_on
      goes_on := Nat.le_refl _ }

theorem onTrip (later : c.Later p origin origin' c') :
    Agree p origin origin' c.onTrip c'.onTrip := by
  have noted : c.noteTrip.Later p origin origin' c'.noteTrip := by
    have counted : Later p origin origin' { c with trips := c.trips + 1 }
        { c' with trips := c'.trips + 1 } :=
      { later with trips := by rw [later.trips] }
    rw [noteTrip, noteTrip, later.circuit.settings]
    exact counted.log _ _ _
  rw [onTrip_eq, onTrip_eq, later.watch]
  split
  · exact ⟨noted.activate, rfl⟩
  · exact ⟨noted, rfl⟩

include past in
theorem report (later : c.Later p origin origin' c') (text : List Char) :
    Agree p origin origin' (c.report text) (c'.report text) := by
  have counted : Later p origin origin' { c with reported := c.reported + 1 }
      { c' with reported := c'.reported + 1 } :=
    { later with reported := by rw [later.reported] }
  have reported := counted.operate (.addError (.text (String.ofList text)))
  have tripped := reported.circuit.breaker.isTripped past reported.begun
  rw [← reported.cycle] at tripped
  rw [Course.report, Course.report, breaker, breaker, tripped]
  split
  · exact reported.onTrip
  · exact ⟨reported, rfl⟩

include past in
theorem takeLine (later : c.Later p origin origin' c') (line : List UInt8) :
    Agree p origin origin' (c.takeLine line) (c'.takeLine line) := by
  rw [takeLine_eq, takeLine_eq, later.watch]
  split
  · exact later.report past _
  · exact ⟨later, rfl⟩

include past in
theorem takeLines (lines : List (List UInt8)) : ∀ {c c' : Course}, c.Later p origin origin' c' →
    Agree p origin origin' (c.takeLines lines) (c'.takeLines lines) := by
  induction lines with
  | nil => intro c c' later; exact ⟨later, rfl⟩
  | cons line lines ih =>
      intro c c' later
      obtain ⟨next, same⟩ := later.takeLine past line
      rw [Course.takeLines, Course.takeLines]
      generalize c.takeLine line = x, c'.takeLine line = x' at next same ⊢
      obtain ⟨c, ending⟩ := x
      obtain ⟨c', ending'⟩ := x'
      obtain rfl : ending' = ending := same
      cases ending' with
      | none => exact ih next
      | some ending => exact ⟨next, rfl⟩

include past in
theorem takeEnd (later : c.Later p origin origin' c') :
    Agree p origin origin' c.takeEnd c'.takeEnd := by
  rw [Course.takeEnd, Course.takeEnd, later.held]
  split
  · exact ⟨later, rfl⟩
  · have taken : Later p origin origin' { c with held := [] } { c' with held := [] } :=
      { later with held := rfl }
    exact taken.takeLine past _

theorem interrupted (later : c.Later p origin origin' c') :
    c.interrupted.Later p origin origin' c'.interrupted := by
  obtain ⟨circuit, same⟩ := List.foldl_rel (l := List.replicate c.dog.listeners ())
    (r := fun d d' => Circuit.Later p origin origin' d d' ∧ d.breaker = c.dog.circuit.breaker)
    ⟨later.circuit, rfl⟩ fun _ _ _ _ h => ⟨h.1.record (e := interruption) rfl, h.2⟩
  rw [interrupted_eq, interrupted_eq, later.listeners]
  exact
    { later with
      circuit := circuit
      listeners := rfl
      goes_on := later.goes_on.trans (Nat.le_of_eq (congrArg Breaker.cycle same).symm) }

include past in
theorem take (later : c.Later p origin origin' c') (heeds : Bool) (item : Item) :
    Agree p origin origin' (c.take heeds item) (c'.take heeds item) := by
  cases item with
  | data bytes =>
      have taken : Later p origin origin' { c with held := (cutLines (c.held ++ bytes)).2 }
          { c' with held := (cutLines (c.held ++ bytes)).2 } := { later with held := rfl }
      rw [Course.take, Course.take, takeBytes, takeBytes, later.held]
      exact taken.takeLines past _
  | endOfInput => exact later.takeEnd past
  | sleep ms =>
      have quiet := later.circuit.quiet
      refine ⟨{ later with circuit := later.circuit.pass ms, goes_on := ?_ }, rfl⟩
      exact later.goes_on.trans (Nat.le_of_eq (Circuit.cycle_pass quiet ms).symm)
  | failure e =>
      rw [Course.take, Course.take]
      split <;> exact ⟨later, rfl⟩
  | shutdown times => exact ⟨later, rfl⟩
  | dropShutdown => exact ⟨later, rfl⟩
  | interrupt => exact ⟨later.interrupted, rfl⟩
  | report text => exact ⟨later.operate _, rfl⟩
  | activate => exact ⟨later.operate _, rfl⟩
  | deactivate => exact ⟨later.operate _, rfl⟩
  | glance =>
      have begun : 0 < c.dog.circuit.breaker.cycle := Nat.lt_of_lt_of_le later.begun later.goes_on
      have status := later.circuit.breaker.status past begun
      rw [Course.take, Course.take]
      dsimp only [onCircuit]
      rw [status]
      exact ⟨{ later with circuit := later.circuit.record rfl }, rfl⟩

include past in
/-- **Whatever happens, both watches come to the same.** -/
theorem follow (heeds : Bool) (items : List Item) : ∀ {c c' : Course},
    c.Later p origin origin' c' →
      Agree p origin origin' (c.follow heeds items) (c'.follow heeds items) := by
  induction items with
  | nil =>
      intro c c' later
      obtain ⟨last, same⟩ := later.takeEnd past
      rw [Course.follow, Course.follow]
      generalize c.takeEnd = x, c'.takeEnd = x' at last same ⊢
      obtain ⟨c, ending⟩ := x
      obtain ⟨c', ending'⟩ := x'
      obtain rfl : ending' = ending := same
      cases ending' <;> exact ⟨last, rfl⟩
  | cons item items ih =>
      intro c c' later
      obtain ⟨next, same⟩ := later.take past heeds item
      rw [follow_cons, follow_cons]
      generalize c.take heeds item = x, c'.take heeds item = x' at next same ⊢
      obtain ⟨c, ending⟩ := x
      obtain ⟨c', ending'⟩ := x'
      obtain rfl : ending' = ending := same
      cases ending' with
      | none => exact ih next
      | some ending => exact ⟨next, rfl⟩

theorem conclude (later : c.Later p origin origin' c') (ending : Ending) :
    Agree p origin origin' (c.conclude ending) (c'.conclude ending) := by
  have stopped := later.operate .deactivate
  cases ending with
  | never => exact ⟨later, rfl⟩
  | failure e => exact ⟨stopped.log _ _ _, rfl⟩
  | reason r =>
      rw [Course.conclude, Course.conclude, later.reported, later.trips]
      exact ⟨stopped.log _ _ _, rfl⟩

end Later

end Course

section Runs

variable {w w' : Watchdog} (past : ∀ k ∈ p.fired, k ≤ p.cycle)
  (circuit : w.circuit.Later p origin origin' w'.circuit) (watch : w'.watch = w.watch)
  (listeners : w'.listeners = w.listeners) (script : Script)

include circuit watch listeners

theorem later_start : (w.start script).Later p origin origin' (w'.start script) where
  circuit := circuit.perform .activate
  watch := watch
  listeners := by rw [start, start, listeners]; rfl
  held := rfl
  cycle := (circuit.perform .activate).breaker.cycle
  reported := rfl
  trips := rfl
  begun := by
    have hcircuit : (w.start script).dog.circuit = w.circuit.undergo w.circuit.breaker.activate :=
      Circuit.perform_of_quiet circuit.quiet .activate
    show 0 < (w.start script).dog.circuit.breaker.cycle
    rw [hcircuit]
    exact Nat.succ_pos _
  goes_on := Nat.le_refl _

include past in
/-- A run comes to the same on both circuits. -/
theorem agree_run :
    (w'.run script).2 = (w.run script).2 ∧ (w'.run script).1.watch = (w.run script).1.watch ∧
      (w.run script).1.circuit.Later p origin origin' (w'.run script).1.circuit ∧
      0 < (w.run script).1.circuit.breaker.cycle := by
  have begun := later_start circuit watch listeners script
  obtain ⟨⟨last, ending⟩, ⟨last', ending'⟩, ⟨later, same⟩, hrun, hrun'⟩ :
      ∃ x x' : Course × Ending, Course.Agree p origin origin' x x' ∧
        w.run script = Course.outcome x ∧ w'.run script = Course.outcome x' := by
    by_cases unasked : script.requests = 0
    · exact ⟨_, _, begun.follow past _ _, run_of_unasked w unasked, run_of_unasked w' unasked⟩
    · exact ⟨(w.start script, .reason .shutdown), (w'.start script, .reason .shutdown),
        ⟨begun, rfl⟩, run_of_asked w unasked, run_of_asked w' unasked⟩
  obtain rfl : ending' = ending := same
  obtain ⟨ended, result⟩ := later.conclude ending'
  rw [hrun, hrun']
  exact ⟨result, ended.watch, ended.circuit, Nat.lt_of_lt_of_le ended.begun ended.goes_on⟩

end Runs

/-! ### Runs one after the other -/

/-- All of the runs come to an end. -/
def finishes (w : Watchdog) : List Script → Bool
  | [] => true
  | script :: scripts => (w.run script).2.isSome && (w.run script).1.drained.finishes scripts

/-- What has happened in the runs. -/
def logged (w : Watchdog) : List Script → List (Event Empty)
  | [] => []
  | script :: scripts =>
      (w.run script).1.circuit.events.toList ++ (w.run script).1.drained.logged scripts

/-- The watch with so many cycles before those of its breaker. -/
def later (w : Watchdog) (cycles : Nat) : Watchdog :=
  { w with
    circuit :=
      { w.circuit with
        breaker := { w.circuit.breaker with cycle := cycles + w.circuit.breaker.cycle } } }

section Runs

variable {w : Watchdog}

/-- Runs that have ended leave the breaker inactive. -/
theorem inactive_after (tame : w.circuit.Tame) (scripts : List Script)
    (finishes : w.finishes scripts = true) (inactive : w.circuit.breaker.active = false) :
    (w.after scripts).circuit.breaker.active = false := by
  induction scripts generalizing w with
  | nil => exact inactive
  | cons script scripts ih =>
      rw [Watchdog.finishes, Bool.and_eq_true, Option.isSome_iff_ne_none] at finishes
      obtain ⟨ended, finishes⟩ := finishes
      refine ih (w := (w.run script).1.drained) ((tame_run tame script).congr rfl rfl rfl)
        finishes ?_
      obtain ⟨last, ending, tame', hrun⟩ := upkeep_tame.run (tame_start tame script)
      rw [hrun] at ended ⊢
      exact Course.inactive_conclude tame'.quiet ended

/-- Without a listener nothing but a run that heeds interruptions brings one. -/
theorem upkeep_unheard : Upkeep fun c => c.dog.listeners = 0 where
  hold _ _ h := h
  begin _ _ h := h
  count _ h := h
  noteTrip _ h := h
  operate _ _ h := h
  pass _ _ h := h
  glance _ h := h
  interrupted _ _ := rfl

theorem listeners_after (scripts : List Script)
    (unheeded : ∀ script ∈ scripts, script.heedsInterrupt = false) (none : w.listeners = 0) :
    (w.after scripts).listeners = 0 := by
  induction scripts generalizing w with
  | nil => exact none
  | cons script scripts ih =>
      rw [List.forall_mem_cons] at unheeded
      refine ih (w := (w.run script).1.drained) unheeded.2 ?_
      have begun : (w.start script).dog.listeners = 0 := by
        show (if script.heedsInterrupt then w.listeners + 1 else w.listeners) = 0
        rw [unheeded.1, none]
        rfl
      obtain ⟨last, ending, none', hrun⟩ := upkeep_unheard.run begun
      rw [hrun]
      cases ending <;> exact none'

/-- The log of a run announces the cycles that have begun in it. -/
theorem announcing_run {s : BreakerSettings} {sink : Sink Empty} {before : Nat}
    (h : w.circuit.Announcing s sink before) (script : Script) :
    (w.run script).1.circuit.Announcing s sink before := by
  obtain ⟨last, ending, h', hrun⟩ := (upkeep_announcing s sink before).run
    (show (w.start script).dog.circuit.Announcing s sink before from h.perform .activate)
  rw [hrun]
  cases ending with
  | never => exact h'
  | failure e => exact (h'.perform .deactivate).record rfl
  | reason r => exact (h'.perform .deactivate).record rfl

theorem announces_logged (quiet : w.circuit.sink.queued = 0) (events : w.circuit.events = #[])
    (scripts : List Script) : ∃ count,
      (w.after scripts).circuit.breaker.cycle = w.circuit.breaker.cycle + count ∧
        Circuit.Announces w.circuit.settings w.circuit.sink w.circuit.breaker.cycle count
          (w.logged scripts) := by
  induction scripts generalizing w with
  | nil => exact ⟨0, rfl, .nil⟩
  | cons script scripts ih =>
      have begun : w.circuit.Announcing w.circuit.settings w.circuit.sink
          w.circuit.breaker.cycle :=
        ⟨quiet, ⟨0, rfl, by rw [events]; exact .nil⟩, rfl, rfl⟩
      have ran := announcing_run begun script
      obtain ⟨count, hcount, announces⟩ := ran.announces
      obtain ⟨more, hmore, rest⟩ :=
        ih (w := (w.run script).1.drained) (ran.sink ▸ ran.quiet) rfl
      have hcycle : (w.run script).1.drained.circuit.breaker.cycle
          = w.circuit.breaker.cycle + count := hcount
      have hsettings : (w.run script).1.drained.circuit.settings = w.circuit.settings :=
        ran.settings
      have hsink : (w.run script).1.drained.circuit.sink = w.circuit.sink := ran.sink
      rw [hcycle] at hmore
      rw [hsettings, hsink, hcycle] at rest
      exact ⟨count + more, by rw [← Nat.add_assoc]; exact hmore, announces.append rest⟩

end Runs

/-- **A run on a watch that has been used before goes as on a new one**, whenever that begins.

Its result is the same, and so is what can be seen of the breaker behind it.  All that has
happened is the same, and what the watch shows of itself, but for the numbers of the cycles: as
many have begun before as the log of the earlier runs has announced.  Those runs may have been
anything that has ended, without anybody left who listens for an interruption.  A sink takes what it
is told, and nothing that it does feeds back into the breaker. -/
theorem runs_as_new {hasRuntime : Bool} {settings : BreakerSettings} {sink : Sink Empty}
    {c : Circuit Empty} (made : Circuit.create hasRuntime settings sink = .ok c)
    (quiet : sink.queued = 0) (watch : WatchSettings) (scripts : List Script)
    (finishes : ({ watch, circuit := c } : Watchdog).finishes scripts = true)
    (unheeded : ∀ script ∈ scripts, script.heedsInterrupt = false) (script : Script)
    (time : Nat) :
    let first : Watchdog := { watch, circuit := c }
    let used := first.after scripts
    let begun := used.circuit.breaker.cycle
    let new : Watchdog := { watch, circuit := { c with now := time } }
    Circuit.Announces settings sink 0 begun (first.logged scripts) ∧
      (used.run script).2 = (new.run script).2 ∧
      (used.run script).1.circuit.breaker.status = (new.run script).1.circuit.breaker.status ∧
      (used.run script).1.text = ((new.run script).1.later begun).text ∧
      List.Forall₂ (Event.Later settings sink begun)
        (new.run script).1.circuit.events.toList (used.run script).1.circuit.events.toList := by
  obtain ⟨rfl, valid, -⟩ := Circuit.of_create made
  intro first used begun new
  have fresh : first.circuit.Tame := .ofFresh quiet valid
  have tame : used.circuit.Tame := tame_after fresh scripts
  have inactive : used.circuit.breaker.active = false := inactive_after fresh scripts finishes rfl
  have hwatch : used.watch = watch := watch_after first scripts
  have hlisteners : used.listeners = 0 := listeners_after scripts unheeded rfl
  have hevents : used.circuit.events = #[] := events_after rfl scripts
  obtain ⟨hsettings, hsink⟩ := made_after (w := first) quiet scripts
  obtain ⟨count, hcount, announces⟩ := announces_logged (w := first) quiet rfl scripts
  obtain rfl : begun = count := hcount.trans (Nat.zero_add count)
  have past := tame.sound.fired_le
  have later : new.circuit.Later used.circuit.breaker time used.circuit.now used.circuit :=
    { quiet := quiet, settings := hsettings, sink := hsink
      now := Nat.add_comm _ _
      breaker := .ofIdle tame.sound inactive
      events := by rw [hevents]; exact .nil }
  obtain ⟨result, watch', later', begun'⟩ := agree_run past later hwatch hlisteners script
  refine ⟨announces, result, later'.breaker.status past begun', ?_, ?_⟩
  · rw [Watchdog.text, Watchdog.text, later'.settings, later'.breaker.text, watch']
    rfl
  · obtain ⟨settings', sink'⟩ := made_run (w := new) quiet script
    have events := later'.events
    rw [settings', sink'] at events
    exact events

/-- A watch that is new at another time than the one that has been used, which has begun three
cycles. -/
theorem runs_as_new_after_shutdown :
    let used := ofTwoLines.after [threeLinesThenShutdown]
    let new : Watchdog := { ofTwoLines with circuit := { ofTwoLines.circuit with now := 5 } }
    ofTwoLines.finishes [threeLinesThenShutdown] = true ∧ used.circuit.breaker.cycle = 3 ∧
      Circuit.Announces ofTwoLines.circuit.settings .logging 0 3
        (ofTwoLines.logged [threeLinesThenShutdown]) ∧
      (used.run oneLineThenTwo).2 = (new.run oneLineThenTwo).2 ∧
      (used.run oneLineThenTwo).1.text = ((new.run oneLineThenTwo).1.later 3).text := by
  have made : Circuit.create true ofTwoLines.circuit.settings (.logging : Sink Empty)
      = .ok ofTwoLines.circuit := rfl
  have finishes : ofTwoLines.finishes [threeLinesThenShutdown] = true := by rfl
  have cycles : (ofTwoLines.after [threeLinesThenShutdown]).circuit.breaker.cycle = 3 := by rfl
  have same := runs_as_new made rfl { rearm := true } [threeLinesThenShutdown] finishes (by decide)
    oneLineThenTwo 5
  obtain ⟨announces, result, -, text, -⟩ := same
  rw [show Watchdog.mk { rearm := true } ofTwoLines.circuit 0 = ofTwoLines from rfl, cycles]
    at announces text
  exact ⟨finishes, cycles, announces, result, text⟩

end Watchdog

end Tripwire
