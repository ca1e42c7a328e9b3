/-
Which trips end a watch.

A watch that is not to be armed again looks, behind each line that it reports, at the signal of
the cycle that it has begun.  Others may use the breaker between two lines.  If one of them
begins a cycle while that of the watch still goes on, the cycle of the watch is lost: its signal
has closed and will never fire, `Breaker.Lost`.  The lines of the watch count in the other cycle
from then on, and can trip it, but the watch does not notice and goes on.

So the line that trips the breaker ends the watch if the cycle of the watch is not lost, and
otherwise no line ends it, `Watchdog.ends_at_trip_unless_lost`.  For this a watch is taken
apart into moments, each with the lines that have arrived and have not been taken yet.  One
moment leads to the next, `Moment.Leads`, until one is reached that ends the watch,
`Moment.comesToRest`.  What is shown of a moment is shown for one such step and then for all
moments of a run.
-/
import Mathlib.Logic.Relation
import Tripwire.Proofs.Watchdog.Cuts
import Tripwire.Proofs.Watchdog.Past

namespace Tripwire

namespace Breaker

variable {s : BreakerSettings} {b b' : Breaker} {k : Nat} {h : List Deed}

/-! ### Cycles that are lost -/

/-- The cycle has begun, and has ended without a trip. -/
structure Lost (k : Nat) (b : Breaker) : Prop where
  begun : k ≤ b.cycle
  closed : b.fate k = .closed

theorem fate_eq_closed_iff :
    b.fate k = .closed ↔ k ∉ b.fired ∧ ¬ (b.sender = true ∧ k = b.cycle) := by
  unfold fate
  by_cases fired : k ∈ b.fired
  · simp [fired]
  · rw [if_neg fired]
    by_cases going : b.sender = true ∧ k = b.cycle
    · rw [if_pos going]
      simp [going]
    · rw [if_neg going]
      simp [fired, going]

/-- No move takes back that a cycle has begun. -/
theorem cycle_le_effect (s : BreakerSettings) (now : Nat) (b : Breaker) (move : Move) :
    b.cycle ≤ (move.effect s now b).breaker.cycle := by
  cases move with
  | activate => exact Nat.le_succ b.cycle
  | deactivate =>
      simp only [Move.effect, deactivate]
      split <;> exact Nat.le_refl _
  | report e => exact Nat.le_of_eq (b.begun_addError s now e).1.symm
  | expire t => exact Nat.le_of_eq (b.cycle_expire t).symm
  | release => exact Nat.le_refl _

namespace Lost

/-- A cycle that is lost does not go on, so a breaker whose cycles and trips stay as they are and
that gets no sender does not find it again. -/
theorem congr (lost : b.Lost k) (cycle : b'.cycle = b.cycle) (fired : b'.fired = b.fired)
    (sender : b'.sender = true → b.sender = true) : b'.Lost k where
  begun := cycle ▸ lost.begun
  closed := by
    obtain ⟨unfired, still⟩ := fate_eq_closed_iff.mp lost.closed
    rw [fate_eq_closed_iff, cycle, fired]
    exact ⟨unfired, fun going => still ⟨sender going.1, going.2⟩⟩

/-- **No move finds a cycle again that is lost.** -/
theorem effect (lost : b.Lost k) (s : BreakerSettings) (now : Nat) (move : Move) :
    (move.effect s now b).breaker.Lost k := by
  obtain ⟨unfired, still⟩ := fate_eq_closed_iff.mp lost.closed
  cases move with
  | activate =>
      -- The cycle that begins is another one.
      have hcycle : b.activate.breaker.cycle = b.cycle + 1 := rfl
      have hle := lost.begun
      refine ⟨by rw [Move.effect, hcycle]; omega, ?_⟩
      rw [Move.effect, fate_eq_closed_iff, fired_activate, hcycle]
      exact ⟨unfired, fun going => by omega⟩
  | deactivate =>
      simp only [Move.effect, deactivate]
      split
      · exact lost.congr rfl rfl fun h => absurd h (by simp [endCycle])
      · exact lost
  | report e =>
      rw [Move.effect]
      rcases addError_cases s now e b with ⟨-, heq⟩ | ⟨-, -, heq, -⟩ | ⟨-, -, f, -, heq, -⟩ |
        ⟨-, -, errors, -, heq, -⟩
      · rw [heq]
        exact lost
      · rw [heq]
        exact lost.congr rfl rfl id
      · rw [heq]
        exact lost.congr rfl rfl id
      · -- The cycle that trips has a sender.
        rw [heq, fire]
        split
        · rename_i sender
          refine ⟨lost.begun, fate_eq_closed_iff.mpr ⟨?_, fun going => by simp [endCycle] at going⟩⟩
          intro hmem
          rcases List.mem_cons.mp hmem with rfl | hmem
          · exact still ⟨sender, rfl⟩
          · exact unfired hmem
        · exact lost.congr rfl rfl fun h => absurd h (by simp [endCycle])
  | expire t => exact lost.congr (cycle_expire b t) (fired_expire b t) (sender_expire b t ▸ id)
  | release =>
      show b.release.Lost k
      exact lost.congr rfl rfl fun h => absurd h (by simp [Breaker.release])

/-- No passage finds a cycle again that is lost. -/
theorem passage (lost : b.Lost k) (p : Passage s b h b') : b'.Lost k := by
  induction p with
  | nil => exact lost
  | deed time move _ _ _ ih => exact ih.effect s time move

end Lost

theorem cycle_le_passage (p : Passage s b h b') : b.cycle ≤ b'.cycle := by
  induction p with
  | nil => exact Nat.le_refl _
  | deed time move _ _ _ ih => exact ih.trans (cycle_le_effect s time _ move)

/-- An error with which a trip is counted has found an active breaker and tripped it. -/
theorem addError_of_counted {now : Nat} {e : Report}
    (counted : .counter .trips ∈ (b.addError s now e).emissions) :
    b.active = true ∧ (b.addError s now e).breaker = (b.count e).fire.endCycle := by
  cases active : b.active with
  | false => simp [addError, active] at counted
  | true =>
      by_cases reached : s.limit.toNat ≤ b.current + 1
      · cases printed : Report.printList (b.errors ++ [e]) with
        | error fault =>
            rw [addError_of_error active reached printed] at counted
            simp at counted
        | ok errors =>
            rw [addError_of_le active reached printed]
            exact ⟨rfl, rfl⟩
      · rw [addError_of_lt active (Nat.lt_of_not_le reached)] at counted
        simp at counted

end Breaker

namespace Watchdog

/-! ### Moments of a watch -/

/-- What is left of a watch at a moment. -/
structure Moment where
  course : Course
  /-- The lines that have arrived and have not been taken yet. -/
  lines : List (List UInt8)
  /-- What is still to happen. -/
  items : List Item

namespace Moment

variable {heeds : Bool} {m m' : Moment} {last : Course × Ending}

/-- The watch before anything has happened. -/
def first (w : Watchdog) (script : Script) : Moment :=
  { course := w.start script, lines := [], items := script.items }

/-- The watch goes on from one moment to the next. -/
inductive Leads (heeds : Bool) : Moment → Moment → Prop
  | line {c next : Course} {line : List UInt8} {lines : List (List UInt8)} {items : List Item} :
      c.takeLine line = (next, none) → Leads heeds ⟨c, line :: lines, items⟩ ⟨next, lines, items⟩
  | data (c : Course) (bytes : List UInt8) (items : List Item) :
      Leads heeds ⟨c, [], .data bytes :: items⟩
        ⟨{ c with held := (cutLines (c.held ++ bytes)).2 }, (cutLines (c.held ++ bytes)).1, items⟩
  | endOfInput {c : Course} (items : List Item) : c.held ≠ [] →
      Leads heeds ⟨c, [], .endOfInput :: items⟩ ⟨{ c with held := [] }, [c.held], items⟩
  | last {c : Course} : c.held ≠ [] →
      Leads heeds ⟨c, [], []⟩ ⟨{ c with held := [] }, [c.held], []⟩
  | other {c next : Course} {item : Item} (items : List Item) : item.IsOther →
      c.take heeds item = (next, none) → Leads heeds ⟨c, [], item :: items⟩ ⟨next, [], items⟩

/-- The watch is over at this moment, as it is then. -/
inductive Ends (heeds : Bool) : Moment → Course × Ending → Prop
  | line {c next : Course} {line : List UInt8} {ending : Ending} (lines : List (List UInt8))
      (items : List Item) : c.takeLine line = (next, some ending) →
      Ends heeds ⟨c, line :: lines, items⟩ (next, ending)
  | endOfInput {c : Course} (items : List Item) : c.held = [] →
      Ends heeds ⟨c, [], .endOfInput :: items⟩ (c, .reason .inputClosed)
  | last {c : Course} : c.held = [] → Ends heeds ⟨c, [], []⟩ (c, .reason .inputClosed)
  | other {c next : Course} {item : Item} {ending : Ending} (items : List Item) :
      item.IsOther → c.take heeds item = (next, some ending) →
      Ends heeds ⟨c, [], item :: items⟩ (next, ending)

/-- What the watch still comes to. -/
def rest (heeds : Bool) (m : Moment) : Course × Ending :=
  Course.proceed heeds m.items (m.course.takeLines m.lines)

/-- From the one moment the watch comes to the other. -/
def Reaches (heeds : Bool) : Moment → Moment → Prop := Relation.ReflTransGen (Leads heeds)

theorem takeLines_cons (c : Course) (line : List UInt8) (lines : List (List UInt8)) :
    c.takeLines (line :: lines)
      = match c.takeLine line with
        | (next, none) => next.takeLines lines
        | (next, some ending) => (next, some ending) := rfl

/-- A line leaves alone what has arrived of the next one. -/
theorem held_takeLine (c : Course) (line : List UInt8) : (c.takeLine line).1.held = c.held := by
  rw [Course.takeLine_eq]
  split
  · exact congrArg (·.1.held) (Course.report_hold c c.held (lineText line))
  · rfl

/-- Nothing is left to take behind the last line. -/
theorem follow_nil_of_held (heeds : Bool) (c : Course) (h : c.held = []) :
    c.follow heeds [] = (c, .reason .inputClosed) := by
  rw [Course.follow, Course.takeEnd, if_pos h]

/-- **A step leaves the outcome as it is.** -/
theorem Leads.rest_eq (leads : Leads heeds m m') : m.rest heeds = m'.rest heeds := by
  cases leads with
  | line htake => rw [rest, rest, takeLines_cons, htake]
  | data c bytes items => exact Course.follow_cons c _ items
  | @endOfInput c items some =>
      rw [rest, rest, Course.takeLines_singleton]
      refine (Course.follow_cons c _ items).trans ?_
      rw [Course.take, Course.takeEnd, if_neg some]
  | @last c some =>
      rw [rest, rest, Course.takeLines_singleton]
      show c.follow heeds [] = _
      rw [Course.follow, Course.takeEnd, if_neg some]
      have hheld := held_takeLine { c with held := [] } c.held
      cases htake : Course.takeLine { c with held := [] } c.held with
      | mk next ending =>
          rw [htake] at hheld
          cases ending with
          | none => exact (follow_nil_of_held heeds next hheld).symm
          | some ending => rfl
  | @other c next item items _ htake =>
      refine (Course.follow_cons c item items).trans ?_
      rw [htake]
      rfl

theorem Ends.rest_eq (ends : Ends heeds m last) : m.rest heeds = last := by
  cases ends with
  | line lines items htake =>
      rw [rest, takeLines_cons, htake]
      rfl
  | @endOfInput c items none =>
      refine (Course.follow_cons c _ items).trans ?_
      rw [Course.take, Course.takeEnd, if_pos none]
      rfl
  | last none => exact follow_nil_of_held heeds _ none
  | @other c next item ending items _ htake =>
      refine (Course.follow_cons c item items).trans ?_
      rw [htake]
      rfl

theorem Reaches.rest_eq (reaches : Reaches heeds m m') : m.rest heeds = m'.rest heeds := by
  induction reaches with
  | refl => rfl
  | tail _ leads ih => exact ih.trans leads.rest_eq

/-- The watch comes to an end from this moment on, step by step. -/
def ComesToRest (heeds : Bool) (m : Moment) : Prop :=
  ∃ m' last, Reaches heeds m m' ∧ Ends heeds m' last

theorem ComesToRest.of_leads (leads : Leads heeds m m') (comes : ComesToRest heeds m') :
    ComesToRest heeds m := by
  obtain ⟨m'', last, reaches, ends⟩ := comes
  exact ⟨m'', last, .head leads reaches, ends⟩

theorem ComesToRest.of_ends (ends : Ends heeds m last) : ComesToRest heeds m :=
  ⟨m, last, .refl, ends⟩

/-- If the watch comes to an end once all lines have been taken, it does with lines to take. -/
theorem ComesToRest.of_lines {items : List Item} (comes : ∀ c, ComesToRest heeds ⟨c, [], items⟩)
    (lines : List (List UInt8)) : ∀ c, ComesToRest heeds ⟨c, lines, items⟩ := by
  induction lines with
  | nil => exact comes
  | cons line lines ih =>
      intro c
      cases htake : c.takeLine line with
      | mk next ending =>
          cases ending with
          | none => exact .of_leads (.line htake) (ih next)
          | some ending => exact .of_ends (.line lines items htake)

/-- **Every watch comes to an end, step by step.** -/
theorem comesToRest (heeds : Bool) (items : List Item) :
    ∀ lines c, ComesToRest heeds ⟨c, lines, items⟩ := by
  induction items with
  | nil =>
      intro lines
      refine ComesToRest.of_lines (fun c => ?_) lines
      by_cases hheld : c.held = []
      · exact .of_ends (.last hheld)
      · -- One line is left, and nothing is held behind it.
        refine .of_leads (.last hheld) ?_
        have hnext := held_takeLine { c with held := [] } c.held
        cases htake : Course.takeLine { c with held := [] } c.held with
        | mk next ending =>
            rw [htake] at hnext
            cases ending with
            | none => exact .of_leads (.line htake) (.of_ends (.last hnext))
            | some ending => exact .of_ends (.line [] [] htake)
  | cons item items ih =>
      intro lines
      refine ComesToRest.of_lines (fun c => ?_) lines
      rcases item.arrives_or_other with ⟨bytes, rfl⟩ | rfl | other
      · exact .of_leads (.data c bytes items) (ih _ _)
      · by_cases hheld : c.held = []
        · exact .of_ends (.endOfInput items hheld)
        · exact .of_leads (.endOfInput items hheld) (ih _ _)
      · cases htake : c.take heeds item with
        | mk next ending =>
            cases ending with
            | none => exact .of_leads (.other items other htake) (ih _ _)
            | some ending => exact .of_ends (.other items other htake)

/-! ### What a step does to a watch that is not armed again -/

end Moment

namespace Course

variable {c next : Course}

/-- The watch has gone on without beginning a cycle of its own or noting a trip. -/
structure Onward (c next : Course) : Prop where
  watch : next.dog.watch = c.dog.watch
  cycle : next.cycle = c.cycle
  trips : next.trips = c.trips
  tame : next.dog.circuit.Tame
  passage : ∃ s h, Passage s c.breaker h next.breaker

namespace Onward

/-- Nothing happens to the circuit. -/
theorem still (tame : c.dog.circuit.Tame) (held : List UInt8) : Onward c { c with held } :=
  ⟨rfl, rfl, rfl, tame, c.dog.circuit.settings, [], .nil⟩

theorem operate (tame : c.dog.circuit.Tame) (op : Operation Empty) : Onward c (c.operate op) :=
  ⟨rfl, rfl, rfl, tame.perform op, _, _, (Circuit.goes_perform c.dog.circuit op).passage⟩

theorem pass (tame : c.dog.circuit.Tame) (ms : Nat) :
    Onward c (c.onCircuit fun circuit => circuit.pass ms) :=
  ⟨rfl, rfl, rfl, tame.pass ms, _, _, (Circuit.goes_pass c.dog.circuit ms).passage⟩

theorem hear (tame : c.dog.circuit.Tame) (text : List Char) : Onward c (c.hear text) :=
  ⟨rfl, rfl, rfl, tame.perform _, _, _, (Circuit.goes_perform c.dog.circuit _).passage⟩

theorem cycle_le (onward : Onward c next) : c.breaker.cycle ≤ next.breaker.cycle := by
  obtain ⟨s, h, passage⟩ := onward.passage
  exact Breaker.cycle_le_passage passage

theorem lost (onward : Onward c next) (lost : c.breaker.Lost c.cycle) :
    next.breaker.Lost next.cycle := by
  obtain ⟨s, h, passage⟩ := onward.passage
  exact onward.cycle ▸ lost.passage passage

end Onward

/-- A line that is taken and does not end a watch that is not armed again has not been picked, or
has been reported and the signal has not fired. -/
theorem takeLine_of_none {line : List UInt8} (once : c.dog.watch.rearm = false)
    (htake : c.takeLine line = (next, none)) :
    next = c ∨ next = c.hear (lineText line) := by
  rw [takeLine_eq] at htake
  split at htake
  · rw [report_eq, onTrip_eq, show (c.hear (lineText line)).dog.watch = c.dog.watch from rfl, once]
      at htake
    split at htake
    · simp at htake
    · exact .inr (Prod.mk.inj htake).1.symm
  · exact .inl (Prod.mk.inj htake).1.symm

/-- What is reported begins no cycle. -/
theorem cycle_addError (tame : c.dog.circuit.Tame) (e : Report) :
    (c.operate (.addError e)).breaker.cycle = c.breaker.cycle := by
  have hbreaker : (c.operate (.addError e)).breaker = _ :=
    congrArg Circuit.breaker (Circuit.perform_of_quiet tame.quiet (.addError e))
  rw [hbreaker]
  exact (c.breaker.begun_addError _ _ e).1

theorem cycle_deactivate (tame : c.dog.circuit.Tame) :
    (c.operate .deactivate).breaker.cycle = c.breaker.cycle := by
  have hbreaker : (c.operate .deactivate).breaker = c.breaker.deactivate.breaker :=
    congrArg Circuit.breaker (Circuit.perform_of_quiet tame.quiet .deactivate)
  rw [hbreaker, Breaker.deactivate]
  split <;> rfl

/-- Whatever else happens, only somebody who activates the breaker begins a cycle. -/
theorem take_of_none {heeds : Bool} {item : Item} (tame : c.dog.circuit.Tame)
    (aside : item.IsOther) (htake : c.take heeds item = (next, none)) :
    Onward c next ∧ (item ≠ .activate → next.breaker.cycle = c.breaker.cycle) := by
  have hnext : next = (c.take heeds item).1 := (congrArg Prod.fst htake).symm
  cases item with
  | data bytes => exact absurd rfl (aside.1 bytes)
  | endOfInput => exact absurd rfl aside.2
  | sleep ms =>
      obtain rfl : next = _ := hnext
      exact ⟨.pass tame ms, fun _ => Circuit.cycle_pass tame.quiet ms⟩
  | failure e =>
      rw [take] at htake
      split at htake
      · obtain rfl : c = next := (Prod.mk.inj htake).1
        exact ⟨.still tame c.held, fun _ => rfl⟩
      · simp at htake
  | report text =>
      obtain rfl : next = _ := hnext
      exact ⟨.operate tame _, fun _ => cycle_addError tame (.text text)⟩
  | activate =>
      obtain rfl : next = _ := hnext
      exact ⟨.operate tame .activate, fun other => absurd rfl other⟩
  | deactivate =>
      obtain rfl : next = _ := hnext
      exact ⟨.operate tame .deactivate, fun _ => cycle_deactivate tame⟩
  | glance =>
      obtain rfl : next = _ := hnext
      exact ⟨⟨rfl, rfl, rfl, tame.congr rfl rfl rfl, c.dog.circuit.settings, [], .nil⟩,
        fun _ => rfl⟩
  | _ => simp [take] at htake

end Course

namespace Moment

variable {heeds : Bool} {m m' : Moment} {last : Course × Ending} {items : List Item}

/-- What holds at each moment of a watch that is not armed again, if these are the items of its
script. -/
structure Steady (items : List Item) (m : Moment) : Prop where
  tame : m.course.dog.circuit.Tame
  once : m.course.dog.watch.rearm = false
  trips : m.course.trips = 0
  begun : m.course.cycle ≤ m.course.breaker.cycle
  /-- Until somebody activates the breaker no cycle begins behind that of the watch. -/
  gone : ∃ gone, items = gone ++ m.items ∧
    (.activate ∉ gone → m.course.breaker.cycle = m.course.cycle)

/-- A step takes the watch onward, and begins no cycle unless somebody activates the breaker. -/
theorem Leads.onward (leads : Leads heeds m m') (tame : m.course.dog.circuit.Tame)
    (once : m.course.dog.watch.rearm = false) :
    m.course.Onward m'.course ∧ ∃ gone, m.items = gone ++ m'.items ∧
      (.activate ∉ gone → m'.course.breaker.cycle = m.course.breaker.cycle) := by
  cases leads with
  | @line c next line lines items htake =>
      refine ⟨?_, [], rfl, fun _ => ?_⟩ <;>
        rcases Course.takeLine_of_none once htake with rfl | rfl
      · exact .still tame next.held
      · exact .hear tame _
      · rfl
      · exact Course.cycle_addError (c := { c with reported := c.reported + 1 }) tame _
  | data c bytes items => exact ⟨.still tame _, [_], rfl, fun _ => rfl⟩
  | endOfInput items some => exact ⟨.still tame _, [_], rfl, fun _ => rfl⟩
  | last some => exact ⟨.still tame _, [], rfl, fun _ => rfl⟩
  | @other c next item items other htake =>
      obtain ⟨onward, cycle⟩ := Course.take_of_none tame other htake
      exact ⟨onward, [item], rfl, fun h => cycle fun heq => h (by simp [heq])⟩

theorem Steady.leads (steady : Steady items m) (leads : Leads heeds m m') : Steady items m' := by
  obtain ⟨onward, gone, hgone, hcycle⟩ := leads.onward steady.tame steady.once
  obtain ⟨before, hbefore, hbefore'⟩ := steady.gone
  exact
    { tame := onward.tame
      once := by rw [onward.watch]; exact steady.once
      trips := onward.trips.trans steady.trips
      begun := onward.cycle ▸ steady.begun.trans onward.cycle_le
      gone := by
        refine ⟨before ++ gone, by rw [hbefore, hgone, List.append_assoc], fun none => ?_⟩
        rw [List.mem_append, not_or] at none
        rw [hcycle none.2, hbefore' none.1, onward.cycle] }

theorem Steady.reaches (steady : Steady items m) (reaches : Reaches heeds m m') :
    Steady items m' := by
  induction reaches with
  | refl => exact steady
  | tail _ leads ih => exact ih.leads leads

theorem steady_first {w : Watchdog} (tame : w.circuit.Tame) (once : w.watch.rearm = false)
    (script : Script) : Steady script.items (first w script) where
  tame := tame_start tame script
  once := once
  trips := rfl
  begun := Nat.le_refl _
  gone := ⟨[], rfl, fun _ => rfl⟩

/-- A watch whose cycle is lost does not find it again. -/
theorem lost_of_reaches (steady : Steady items m) (reaches : Reaches heeds m m')
    (lost : m.course.breaker.Lost m.course.cycle) : m'.course.breaker.Lost m'.course.cycle := by
  induction reaches with
  | refl => exact lost
  | tail before leads ih =>
      have steady' := steady.reaches before
      exact (leads.onward steady'.tame steady'.once).1.lost ih

end Moment

/-! ### Lines that trip the breaker -/

namespace Course

variable {c : Course} {line : List UInt8}

/-- With the report of the line one more trip is counted. -/
def TripsAt (c : Course) (line : List UInt8) : Prop :=
  c.dog.watch.picks (lineText line) = true ∧
    (c.hear (lineText line)).events.countP (Event.isCounter .trips)
      = c.events.countP (Event.isCounter .trips) + 1

/-- A watch whose cycle is lost goes on behind any line. -/
theorem takeLine_of_lost (line : List UInt8) (tame : c.dog.circuit.Tame)
    (lost : c.breaker.Lost c.cycle) :
    (c.takeLine line).2 = none := by
  rw [takeLine_eq]
  split
  · have closed := ((Onward.hear tame (lineText line)).lost lost).closed
    rw [report_eq, Breaker.isTripped, closed]
    rfl
  · rfl

/-- A line trips the breaker while that is active, and the cycle that goes on has tripped then. -/
theorem TripsAt.fired (trips : c.TripsAt line) (tame : c.dog.circuit.Tame) :
    c.breaker.active = true ∧
      (c.hear (lineText line)).breaker.fired = c.breaker.cycle :: c.breaker.fired := by
  have hcircuit := circuit_hear tame.quiet (lineText line)
  have counted := trips.2
  rw [events, events, hcircuit, Circuit.events_undergo, List.countP_append, List.countP_map]
    at counted
  obtain ⟨emission, hmem, hemission⟩ := List.countP_pos_iff.mp
    (show 0 < List.countP _ _ by rw [Nat.add_left_cancel counted]; exact Nat.one_pos)
  rw [Function.comp, Circuit.isCounter_eventOf, decide_eq_true_eq] at hemission
  obtain ⟨active, hbreaker⟩ := Breaker.addError_of_counted (hemission ▸ hmem)
  refine ⟨active, ?_⟩
  have heard : (c.hear (lineText line)).breaker = _ :=
    (congrArg Circuit.breaker hcircuit).trans hbreaker
  rw [heard]
  exact tame.sound.fired_trip active _

/-- Unless the cycle of a watch is lost, it is the one that a line trips, or it has tripped
before. -/
theorem TripsAt.lost_iff (trips : c.TripsAt line) (tame : c.dog.circuit.Tame)
    (begun : c.cycle ≤ c.breaker.cycle) :
    c.breaker.Lost c.cycle ↔ c.cycle ∉ (c.hear (lineText line)).breaker.fired := by
  obtain ⟨active, hfired⟩ := trips.fired tame
  have sender : c.breaker.sender = true := tame.sound.sender.trans active
  rw [hfired, List.mem_cons, not_or]
  constructor
  · intro lost
    obtain ⟨unfired, still⟩ := Breaker.fate_eq_closed_iff.mp lost.closed
    exact ⟨fun h => still ⟨sender, h⟩, unfired⟩
  · rintro ⟨other, unfired⟩
    exact ⟨begun, Breaker.fate_eq_closed_iff.mpr ⟨unfired, fun h => other h.2⟩⟩

/-- A line that trips the breaker ends a watch that is not armed again, if it has not lost its
cycle. -/
theorem TripsAt.takeLine_eq (trips : c.TripsAt line) (tame : c.dog.circuit.Tame)
    (once : c.dog.watch.rearm = false) (begun : c.cycle ≤ c.breaker.cycle)
    (kept : ¬ c.breaker.Lost c.cycle) :
    c.takeLine line = ((c.hear (lineText line)).noteTrip, some (.reason .tripped)) := by
  rw [trips.lost_iff tame begun, not_not] at kept
  have tripped : (c.hear (lineText line)).breaker.isTripped (c.hear (lineText line)).cycle = true :=
    (Breaker.isTripped_iff _ _).mpr kept
  rw [Course.takeLine_eq, if_pos trips.1, report_eq, if_pos tripped, onTrip_eq,
    show (c.hear (lineText line)).dog.watch = c.dog.watch from rfl, once]
  rfl

end Course

/-- What ends a watch without a line is no trip. -/
theorem Course.take_of_some {heeds : Bool} {item : Item} {c last : Course} {ending : Ending}
    (aside : item.IsOther) (htake : c.take heeds item = (last, some ending)) :
    ending ≠ .reason .tripped ∧ last.trips = c.trips := by
  have hlast : last = (c.take heeds item).1 := (congrArg Prod.fst htake).symm
  have hending : (c.take heeds item).2 = some ending := congrArg Prod.snd htake
  cases item with
  | data bytes => exact absurd rfl (aside.1 bytes)
  | endOfInput => exact absurd rfl aside.2
  | failure e =>
      rw [take] at htake
      split at htake
      · simp at htake
      · obtain ⟨heq, hfailure⟩ := Prod.mk.inj htake
        obtain rfl : _ = ending := Option.some.inj hfailure
        exact ⟨by simp, congrArg Course.trips heq.symm⟩
  | shutdown times =>
      obtain rfl : _ = ending := Option.some.inj hending
      refine ⟨?_, hlast ▸ rfl⟩
      split <;> simp
  | dropShutdown =>
      obtain rfl : _ = ending := Option.some.inj hending
      refine ⟨?_, hlast ▸ rfl⟩
      split <;> simp
  | interrupt =>
      obtain rfl : _ = ending := Option.some.inj hending
      refine ⟨?_, hlast ▸ rfl⟩
      split <;> simp
  | _ => simp [take] at hending

/-- A watch whose cycle is lost does not end with a trip, and has noted none. -/
theorem Moment.Ends.of_lost {heeds : Bool} {m : Moment} {last : Course} {ending : Ending}
    (ends : m.Ends heeds (last, ending)) (tame : m.course.dog.circuit.Tame)
    (lost : m.course.breaker.Lost m.course.cycle) :
    ending ≠ .reason .tripped ∧ last.trips = m.course.trips := by
  cases ends with
  | @line c next line ending lines items htake =>
      have goes_on := Course.takeLine_of_lost line tame lost
      rw [htake] at goes_on
      simp at goes_on
  | endOfInput items none => exact ⟨by simp, rfl⟩
  | last none => exact ⟨by simp, rfl⟩
  | other items aside htake => exact Course.take_of_some aside htake

/-- From a moment on at which its cycle is lost a watch comes to no trip. -/
theorem Moment.Steady.outcome_of_lost {heeds : Bool} {m : Moment} {items : List Item}
    (steady : m.Steady items) (lost : m.course.breaker.Lost m.course.cycle) {found : Summary}
    (h : (Course.outcome (m.rest heeds)).2 = some (.ok found)) :
    found.reason ≠ .tripped ∧ found.trips = 0 := by
  obtain ⟨m', ⟨last, ending⟩, reaches, ends⟩ := comesToRest heeds m.items m.lines m.course
  have steady' := steady.reaches reaches
  obtain ⟨untripped, htrips⟩ := ends.of_lost steady'.tame (lost_of_reaches steady reaches lost)
  rw [reaches.rest_eq, ends.rest_eq] at h
  cases ending with
  | never => simp [Course.outcome, Course.conclude] at h
  | failure e => simp [Course.outcome, Course.conclude] at h
  | reason r =>
      obtain rfl : _ = found := Except.ok.inj (Option.some.inj h)
      exact ⟨fun heq => untripped (congrArg Ending.reason heq), htrips.trans steady'.trips⟩

/-- **A line that trips the breaker ends a watch that is not armed again, unless the watch has lost
its cycle.**

At each moment of each run, whatever others do with the breaker between two lines: if the report
of a line that the pattern picks trips the breaker, and the cycle that the watch has begun is not
lost, the watch is over at this line, with this one trip.  The cycle is lost only if somebody else
has activated the breaker in this run while the cycle still went on, and then the watch goes on
behind the line, whichever cycle that has tripped, and will not end with a trip at all. -/
theorem ends_at_trip_unless_lost {hasRuntime : Bool} {settings : BreakerSettings}
    {sink : Sink Empty} {c : Circuit Empty}
    (made : Circuit.create hasRuntime settings sink = .ok c) (quiet : sink.queued = 0)
    {watch : WatchSettings} (once : watch.rearm = false) (scripts : List Script) (script : Script)
    (unasked : script.requests = 0) :
    let w : Watchdog := ({ watch, circuit := c } : Watchdog).after scripts
    ∀ {m : Moment} {line : List UInt8} {lines : List (List UInt8)},
      (Moment.first w script).Reaches script.heedsInterrupt m → m.lines = line :: lines →
      m.course.TripsAt line →
      (¬ m.course.breaker.Lost m.course.cycle → (w.run script).2 = some (.ok
        { reason := .tripped, reported := m.course.reported + 1, trips := 1 })) ∧
      (m.course.breaker.Lost m.course.cycle →
        (m.course.takeLine line).2 = none ∧
          (∃ gone, script.items = gone ++ m.items ∧ .activate ∈ gone) ∧
          ∀ found, (w.run script).2 = some (.ok found) →
            found.reason ≠ .tripped ∧ found.trips = 0) := by
  obtain ⟨rfl, valid, -⟩ := Circuit.of_create made
  have hwatch := watch_after { watch, circuit := { settings, sink } } scripts
  have tame := tame_after (w := { watch, circuit := { settings, sink } }) (.ofFresh quiet valid)
    scripts
  generalize ({ watch, circuit := { settings, sink } } : Watchdog).after scripts = w
    at hwatch tame ⊢
  intro w' m line lines reaches hlines trips
  have steady : m.Steady script.items :=
    (Moment.steady_first tame (hwatch ▸ once) script).reaches reaches
  have hrun : (w.run script).2 = (Course.outcome (m.rest script.heedsInterrupt)).2 := by
    rw [← reaches.rest_eq, run_of_unasked w unasked]
    rfl
  refine ⟨fun kept => ?_, fun lost => ⟨?_, ?_, ?_⟩⟩
  · have htake := trips.takeLine_eq steady.tame steady.once steady.begun kept
    have hrest : m.rest script.heedsInterrupt
        = ((m.course.hear (lineText line)).noteTrip, .reason .tripped) := by
      rw [Moment.rest, hlines, Moment.takeLines_cons, htake]
      rfl
    show (w.run script).2 = _
    rw [hrun, hrest]
    show some (Except.ok (Summary.mk _ (m.course.reported + 1) (m.course.trips + 1))) = _
    rw [steady.trips]
  · exact Course.takeLine_of_lost line steady.tame lost
  · obtain ⟨gone, hgone, others⟩ := steady.gone
    refine ⟨gone, hgone, ?_⟩
    by_contra none
    obtain ⟨-, still⟩ := Breaker.fate_eq_closed_iff.mp lost.closed
    have active := (trips.fired steady.tame).1
    exact still ⟨steady.tame.sound.sender.trans active, (others none).symm⟩
  · intro found hfound
    exact steady.outcome_of_lost lost (hrun.symm.trans hfound)

/-- Three lines, and somebody else activates the breaker behind the first of them. -/
def activatedBehindLine : Script :=
  { items := [.data [0x61, 0x0a], .activate, .data [0x62, 0x0a, 0x63, 0x0a]] }

/-- Two lines trip a breaker that somebody else has activated behind an earlier one, and the watch
goes on until the input ends. -/
theorem ends_at_trip_unless_lost_behind_activation :
    ∃ m : Moment,
      (Moment.first ((ofCooldown 10).after []) activatedBehindLine).Reaches false m ∧
        m.lines = [[0x63, 0x0a]] ∧ m.course.TripsAt [0x63, 0x0a] ∧
        m.course.breaker.Lost m.course.cycle ∧ (m.course.takeLine [0x63, 0x0a]).2 = none ∧
        (((ofCooldown 10).after []).run activatedBehindLine).2
          = some (.ok { reason := .inputClosed, reported := 3, trips := 0 }) := by
  have made : Circuit.create true (ofCooldown 10).circuit.settings (.logging : Sink Empty)
      = .ok (ofCooldown 10).circuit := rfl
  obtain ⟨m, hm⟩ : ∃ m : Moment,
      (Moment.first ((ofCooldown 10).after []) activatedBehindLine).Reaches false m ∧
        m.lines = [[0x63, 0x0a]] ∧ m.course.TripsAt [0x63, 0x0a] ∧
        m.course.breaker.Lost m.course.cycle :=
    ⟨_, .head (.data _ _ _) (.head (.line rfl) (.head (.other _ ⟨by simp, by simp⟩ rfl)
      (.head (.data _ _ _) (.head (.line rfl) .refl)))), rfl, ⟨by rfl, by rfl⟩,
      ⟨by decide, by rfl⟩⟩
  obtain ⟨reaches, hlines, trips, lost⟩ := hm
  obtain ⟨-, goes_on⟩ := ends_at_trip_unless_lost made rfl rfl [] activatedBehindLine rfl reaches
    hlines trips
  exact ⟨m, reaches, hlines, trips, lost, (goes_on lost).1, by rfl⟩

end Watchdog

end Tripwire
