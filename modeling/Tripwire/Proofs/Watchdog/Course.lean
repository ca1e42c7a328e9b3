/-
The course of a watch.

Whatever happens to a watch, it does one of a few things: it keeps its books, uses its
breaker, writes a record or lets time pass.  `Chores` says that a property is kept by all that
it does with a line, and `Upkeep` that it is kept by the rest as well, and then it holds as
long as the watch goes on, `Upkeep.follow`.

What happens is either gone through, `Course.Passes`, or ends the watch at its first item
that does, `Course.follow_cases`.  Of the input only two things matter to a watch: the lines
that its pattern picks, and the pauses.  These are its `cues`, and they follow from the
script alone.  How the bytes of a line arrive and which other lines there are between the
picked ones makes no difference, `Course.follow_eq_walk`.
-/
import Tripwire.Proofs.Quiet
import Tripwire.Watchdog.Run

namespace Tripwire

namespace Watchdog

namespace Course

/-- Counts a trip and writes the record about it. -/
def noteTrip (c : Course) : Course :=
  { c with trips := c.trips + 1 }.log .error "Error rate limit reached"
    [("limit", .number c.dog.circuit.settings.limit.toNat),
      ("cooldown_ms", .number c.dog.circuit.settings.cooldownMs.toNat)]

theorem onTrip_eq (c : Course) : c.onTrip
    = if c.dog.watch.rearm then (c.noteTrip.activate, none)
      else (c.noteTrip, some (.reason .tripped)) := rfl

/-- Reports a line that the pattern picks. -/
def report (c : Course) (text : List Char) : Course × Option Ending :=
  let c := { c with reported := c.reported + 1 }.operate (.addError (.text (String.ofList text)))
  if c.breaker.isTripped c.cycle then c.onTrip else (c, none)

theorem takeLine_eq (c : Course) (line : List UInt8) : c.takeLine line
    = if c.dog.watch.picks (lineText line) then c.report (lineText line) else (c, none) := rfl

/-- The record about an interruption. -/
def interruption : Event Empty := .record
  { level := .info, target := "rate_breaker::lifecycle::shutdown"
    message := "Interrupt received, shutting down", fields := [] }

theorem interrupted_eq (c : Course) : c.interrupted =
    { c with dog :=
      { c.dog with
        circuit := (List.replicate c.dog.listeners ()).foldl
          (fun circuit _ => circuit.record interruption) c.dog.circuit
        listeners := 0 } } := rfl

end Course

/-! ### What a watch keeps -/

/-- What is kept by all that a watch does with a line. -/
structure Chores (q : Course → Prop) : Prop where
  hold : ∀ c held, q c → q { c with held }
  begin : ∀ c cycle, q c → q { c with cycle }
  count : ∀ c, q c → q { c with reported := c.reported + 1 }
  noteTrip : ∀ c, q c → q c.noteTrip
  operate : ∀ c op, q c → q (c.operate op)

namespace Chores

variable {q : Course → Prop} (chores : Chores q) {c : Course}

include chores

theorem activate (h : q c) : q c.activate := chores.begin _ _ (chores.operate c .activate h)

theorem onTrip (h : q c) : q c.onTrip.1 := by
  rw [Course.onTrip_eq]
  split
  · exact chores.activate (chores.noteTrip c h)
  · exact chores.noteTrip c h

theorem report (h : q c) (text : List Char) : q (c.report text).1 := by
  have reported := chores.operate _ (.addError (.text (String.ofList text))) (chores.count c h)
  rw [Course.report]
  split
  · exact chores.onTrip reported
  · exact reported

theorem takeLine (h : q c) (line : List UInt8) : q (c.takeLine line).1 := by
  rw [Course.takeLine_eq]
  split
  · exact chores.report h _
  · exact h

theorem takeLines (lines : List (List UInt8)) : ∀ {c : Course}, q c → q (c.takeLines lines).1 := by
  induction lines with
  | nil => intro c h; exact h
  | cons line lines ih =>
      intro c h
      have next := chores.takeLine h line
      rw [Course.takeLines]
      split <;> rename_i hline <;> rw [hline] at next
      · exact ih next
      · exact next

theorem takeEnd (h : q c) : q c.takeEnd.1 := by
  rw [Course.takeEnd]
  split
  · exact h
  · exact chores.takeLine (chores.hold c [] h) c.held

end Chores

/-- What is kept by all that a watch does while it goes on. -/
structure Upkeep (q : Course → Prop) : Prop extends Chores q where
  pass : ∀ c ms, q c → q (c.onCircuit fun circuit => circuit.pass ms)
  glance : ∀ c, q c → q (c.onCircuit fun circuit => circuit.record (.glance circuit.breaker.status))
  interrupted : ∀ c, q c → q c.interrupted

namespace Upkeep

variable {q : Course → Prop} (upkeep : Upkeep q) {c : Course}

include upkeep

theorem take (h : q c) (heeds : Bool) (item : Item) : q (c.take heeds item).1 := by
  cases item with
  | data bytes => exact upkeep.takeLines _ (upkeep.hold c _ h)
  | endOfInput => exact upkeep.takeEnd h
  | sleep ms => exact upkeep.pass c ms h
  | failure e =>
      rw [Course.take]
      split <;> exact h
  | shutdown times => exact h
  | dropShutdown => exact h
  | interrupt => exact upkeep.interrupted c h
  | report text => exact upkeep.operate c _ h
  | activate => exact upkeep.operate c _ h
  | deactivate => exact upkeep.operate c _ h
  | glance => exact upkeep.glance c h

/-- **What each of its doings keeps, a watch keeps until something ends it.** -/
theorem follow (heeds : Bool) (items : List Item) :
    ∀ {c : Course}, q c → q (c.follow heeds items).1 := by
  induction items with
  | nil =>
      intro c h
      have last := upkeep.takeEnd h
      rw [Course.follow]
      split <;> rename_i hend <;> rw [hend] at last <;> exact last
  | cons item items ih =>
      intro c h
      have next := upkeep.take h heeds item
      rw [Course.follow]
      split <;> rename_i hitem <;> rw [hitem] at next
      · exact ih next
      · exact next

end Upkeep

/-- A property of circuits is kept if operations, records of the watch and time keep it. -/
theorem Upkeep.ofCircuit {p : Circuit Empty → Prop}
    (perform : ∀ c op, p c → p (c.perform op).1)
    (record : ∀ c e, e.isLine = false → p c → p (c.record e))
    (pass : ∀ c ms, p c → p (c.pass ms)) : Upkeep fun c => p c.dog.circuit where
  hold _ _ h := h
  begin _ _ h := h
  count _ h := h
  noteTrip _ h := record _ _ rfl h
  operate _ op h := perform _ op h
  pass _ ms h := pass _ ms h
  glance _ h := record _ _ rfl h
  interrupted c h := by
    rw [Course.interrupted_eq]
    exact List.foldlRecOn _ _ h fun circuit h _ _ => record circuit Course.interruption rfl h

/-- A watch keeps its circuit tame. -/
theorem upkeep_tame : Upkeep fun c => c.dog.circuit.Tame :=
  .ofCircuit (fun _ op tame => tame.perform op) (fun _ _ _ tame => tame.congr rfl rfl rfl)
    fun _ ms tame => tame.pass ms

/-- What a watch looks for does not change. -/
theorem upkeep_watch (watch : WatchSettings) : Upkeep fun c => c.dog.watch = watch where
  hold _ _ h := h
  begin _ _ h := h
  count _ h := h
  noteTrip _ h := h
  operate _ _ h := h
  pass _ _ h := h
  glance _ h := h
  interrupted _ h := h

/-! ### What ends a watch -/

namespace Course

variable {c c' : Course} {heeds : Bool}

/-- The watch goes through all of this, and nothing ends it. -/
inductive Passes (heeds : Bool) : Course → List Item → Course → Prop
  | nil (c : Course) : Passes heeds c [] c
  | cons {c next last : Course} {item : Item} {items : List Item} :
      c.take heeds item = (next, none) → Passes heeds next items last →
      Passes heeds c (item :: items) last

/-- Goes on with what happens next, unless the watch is over. -/
def proceed (heeds : Bool) (items : List Item) : Course × Option Ending → Course × Ending
  | (c, none) => c.follow heeds items
  | (c, some ending) => (c, ending)

theorem follow_cons (c : Course) (item : Item) (items : List Item) :
    c.follow heeds (item :: items) = proceed heeds items (c.take heeds item) := by
  rw [follow]
  split <;> rename_i htake <;> rw [htake] <;> rfl

theorem Passes.follow {before : List Item} (passes : Passes heeds c before c')
    (rest : List Item) : c.follow heeds (before ++ rest) = c'.follow heeds rest := by
  induction passes with
  | nil => rfl
  | cons htake _ ih => rw [List.cons_append, Course.follow, htake]; exact ih

/-- What a watch keeps holds after all that it goes through. -/
theorem Passes.keep {q : Course → Prop} (upkeep : Upkeep q) {items : List Item}
    (passes : Passes heeds c items c') (h : q c) : q c' := by
  induction passes with
  | nil => exact h
  | @cons c next last item _ htake _ ih =>
      have hnext := upkeep.take h heeds item
      rw [htake] at hnext
      exact ih hnext

/-- Everything is gone through and then the input ends, or something is first to end the watch. -/
theorem follow_cases (heeds : Bool) (items : List Item) : ∀ c : Course,
    (∃ last, Passes heeds c items last ∧
      c.follow heeds items = (last.takeEnd.1, last.takeEnd.2.getD (.reason .inputClosed))) ∨
    ∃ before item after mid last ending, items = before ++ item :: after ∧
      Passes heeds c before mid ∧ mid.take heeds item = (last, some ending) ∧
      c.follow heeds items = (last, ending) := by
  induction items with
  | nil =>
      intro c
      refine .inl ⟨c, .nil c, ?_⟩
      rw [follow]
      split <;> rename_i hend <;> rw [hend] <;> rfl
  | cons item items ih =>
      intro c
      rw [follow]
      cases htake : c.take heeds item with
      | mk next ending =>
          cases ending with
          | some ending => exact .inr ⟨[], item, items, c, next, ending, rfl, .nil c, htake, rfl⟩
          | none =>
              rcases ih next with ⟨last, passes, heq⟩ |
                ⟨before, item', rest, mid, last, ending, hitems, passes, htake', heq⟩
              · exact .inl ⟨last, .cons htake passes, heq⟩
              · exact .inr ⟨item :: before, item', rest, mid, last, ending, by simp [hitems],
                  .cons htake passes, htake', heq⟩

/-- Only a trip ends a watch at a line. -/
theorem ending_report (c : Course) (text : List Char) :
    (c.report text).2 = none ∨ (c.report text).2 = some (.reason .tripped) := by
  rw [report]
  split
  · rw [onTrip_eq]
    split
    · exact .inl rfl
    · exact .inr rfl
  · exact .inl rfl

theorem takeLines_singleton (c : Course) (line : List UInt8) :
    c.takeLines [line] = c.takeLine line := by
  rw [takeLines]
  split <;> rename_i htake <;> rw [htake]
  rfl

theorem ending_takeLine (c : Course) (line : List UInt8) :
    (c.takeLine line).2 = none ∨ (c.takeLine line).2 = some (.reason .tripped) := by
  rw [takeLine_eq]
  split
  · exact ending_report c _
  · exact .inl rfl

theorem ending_takeLines (lines : List (List UInt8)) : ∀ c : Course,
    (c.takeLines lines).2 = none ∨ (c.takeLines lines).2 = some (.reason .tripped) := by
  induction lines with
  | nil => intro c; exact .inl rfl
  | cons line lines ih =>
      intro c
      have hline := ending_takeLine c line
      rw [takeLines]
      cases htake : c.takeLine line with
      | mk next ending =>
          rw [htake] at hline
          rcases hline with rfl | rfl
          · exact ih next
          · exact .inr rfl

theorem ending_takeEnd (c : Course) :
    c.takeEnd.2 = none ∨ ∃ r, c.takeEnd.2 = some (.reason r) := by
  rw [takeEnd]
  split
  · exact .inr ⟨_, rfl⟩
  · exact (ending_takeLine _ _).imp id fun h => ⟨_, h⟩

end Course

/-! ### Whole runs -/

/-- What is left of a watch that is over, and what it has come to. -/
def Course.outcome (last : Course × Ending) : Watchdog × Option (Except ReadError Summary) :=
  ((last.1.conclude last.2).1.dog, (last.1.conclude last.2).2)

/-- What a watch that is over has come to does not depend on the line that it was in. -/
theorem Course.outcome_hold (c : Course) (held : List UInt8) (ending : Ending) :
    outcome ({ c with held }, ending) = outcome (c, ending) := by
  cases ending <;> rfl

/-- A run goes on until something ends its watch. -/
theorem run_of_unasked (w : Watchdog) {script : Script} (unasked : script.requests = 0) :
    w.run script
      = Course.outcome ((w.start script).follow script.heedsInterrupt script.items) := by
  rw [run, if_pos unasked]
  rfl

/-- A run is over at once if a shutdown has been asked for. -/
theorem run_of_asked (w : Watchdog) {script : Script} (asked : script.requests ≠ 0) :
    w.run script = Course.outcome (w.start script, .reason .shutdown) := by
  rw [run, if_neg asked]
  rfl

/-- The watch after some runs, each of whose events have been looked at. -/
def after (w : Watchdog) (scripts : List Script) : Watchdog :=
  scripts.foldl (fun w script => (w.run script).1.drained) w

/-- What a watch keeps, a run keeps until the watch is over. -/
theorem Upkeep.run {q : Course → Prop} (upkeep : Upkeep q) {w : Watchdog} {script : Script}
    (h : q (w.start script)) :
    ∃ last ending, q last ∧ w.run script = Course.outcome (last, ending) := by
  by_cases unasked : script.requests = 0
  · exact ⟨_, _, upkeep.follow _ _ h, run_of_unasked w unasked⟩
  · exact ⟨_, _, h, run_of_asked w unasked⟩

theorem tame_conclude {c : Course} (tame : c.dog.circuit.Tame) (ending : Ending) :
    (c.conclude ending).1.dog.circuit.Tame := by
  cases ending with
  | never => exact tame
  | failure e => exact (tame.perform .deactivate).congr rfl rfl rfl
  | reason r => exact (tame.perform .deactivate).congr rfl rfl rfl

theorem tame_start {w : Watchdog} (tame : w.circuit.Tame) (script : Script) :
    (w.start script).dog.circuit.Tame :=
  tame.perform _

/-- A run begins with a cycle. -/
theorem circuit_start {w : Watchdog} (tame : w.circuit.Tame) (script : Script) :
    (w.start script).dog.circuit = w.circuit.undergo w.circuit.breaker.activate :=
  Circuit.perform_of_quiet tame.quiet .activate

theorem tame_run {w : Watchdog} (tame : w.circuit.Tame) (script : Script) :
    (w.run script).1.circuit.Tame := by
  obtain ⟨last, ending, tame', hrun⟩ := upkeep_tame.run (tame_start tame script)
  rw [hrun]
  exact tame_conclude tame' ending

theorem tame_after {w : Watchdog} (tame : w.circuit.Tame) (scripts : List Script) :
    (w.after scripts).circuit.Tame := by
  induction scripts generalizing w with
  | nil => exact tame
  | cons script scripts ih => exact ih ((tame_run tame script).congr rfl rfl rfl)

/-- No run changes what a watch looks for. -/
theorem watch_after (w : Watchdog) (scripts : List Script) :
    (w.after scripts).watch = w.watch := by
  induction scripts generalizing w with
  | nil => rfl
  | cons script scripts ih =>
      obtain ⟨last, ending, hwatch, hrun⟩ :=
        (upkeep_watch w.watch).run (show (w.start script).dog.watch = w.watch from rfl)
      have next : (w.run script).1.drained.watch = w.watch := by
        rw [hrun]
        cases ending <;> exact hwatch
      exact (ih _).trans next

/-- Once its events have been looked at a watch has none. -/
theorem events_after {w : Watchdog} (h : w.circuit.events = #[]) (scripts : List Script) :
    (w.after scripts).circuit.events = #[] := by
  induction scripts generalizing w with
  | nil => exact h
  | cons script scripts ih => exact ih rfl

/-! ### Lines and pauses -/

/-- What matters to a watch of what its input does. -/
inductive Cue where
  /-- A line that the pattern picks. -/
  | line (text : List Char)
  /-- Nothing arrives for so many milliseconds. -/
  | pause (ms : Nat)
  deriving DecidableEq

/-- The line, if the cue is one. -/
def Cue.line? : Cue → Option (List Char)
  | line text => some text
  | pause _ => none

/-- The cues in some lines. -/
def heard (watch : WatchSettings) (lines : List (List UInt8)) : List Cue :=
  ((lines.map lineText).filter watch.picks).map .line

/-- The cues in a script, with the beginning of a line that has already arrived. -/
def cues (watch : WatchSettings) (held : List UInt8) : List Item → List Cue
  | [] => []
  | .data bytes :: items =>
      heard watch (cutLines (held ++ bytes)).1
        ++ cues watch (cutLines (held ++ bytes)).2 items
  | .endOfInput :: items => if held = [] then [] else heard watch [held] ++ cues watch [] items
  | .sleep ms :: items => .pause ms :: cues watch held items
  | _ :: items => cues watch held items

namespace Course

/-- Takes cues until the watch is over. -/
def walk (c : Course) : List Cue → Course × Option Ending
  | [] => (c, none)
  | .line text :: cues =>
      match c.report text with
      | (c, none) => c.walk cues
      | (c, some ending) => (c, some ending)
  | .pause ms :: cues => (c.onCircuit fun circuit => circuit.pass ms).walk cues

theorem walk_append (c : Course) (cues more : List Cue) :
    c.walk (cues ++ more) =
      match c.walk cues with
      | (c, none) => c.walk more
      | (c, some ending) => (c, some ending) := by
  induction cues generalizing c with
  | nil => rfl
  | cons cue cues ih =>
      cases cue with
      | line text =>
          rw [List.cons_append, walk, walk]
          split
          · exact ih _
          · rfl
      | pause ms => exact ih _

/-- Several lines are to a watch what is heard in them. -/
theorem takeLines_eq_walk (lines : List (List UInt8)) : ∀ c : Course,
    c.takeLines lines = c.walk (heard c.dog.watch lines) := by
  induction lines with
  | nil => intro c; rfl
  | cons line lines ih =>
      intro c
      have hnext (c' : Course) (watch : c'.dog.watch = c.dog.watch) :
          c'.takeLines lines = c'.walk (heard c.dog.watch lines) := by
        rw [ih, watch]
      rw [takeLines, takeLine_eq]
      by_cases picked : c.dog.watch.picks (lineText line) = true
      · have heard_cons : heard c.dog.watch (line :: lines)
            = .line (lineText line) :: heard c.dog.watch lines := by
          simp [heard, picked]
        have watch := (upkeep_watch c.dog.watch).report (c := c) rfl (lineText line)
        rw [if_pos picked, heard_cons, walk]
        cases hreport : c.report (lineText line) with
        | mk next ending =>
            rw [hreport] at watch
            cases ending with
            | none => exact hnext next watch
            | some ending => rfl
      · have heard_cons : heard c.dog.watch (line :: lines) = heard c.dog.watch lines := by
          simp [heard, picked]
        rw [if_neg picked, heard_cons]
        exact hnext c rfl

theorem onTrip_hold (c : Course) (held : List UInt8) :
    { c with held }.onTrip = ({ c.onTrip.1 with held }, c.onTrip.2) := by
  rw [onTrip_eq, onTrip_eq]
  cases hrearm : c.dog.watch.rearm <;> rfl

theorem report_hold (c : Course) (held : List UInt8) (text : List Char) :
    { c with held }.report text = ({ (c.report text).1 with held }, (c.report text).2) := by
  obtain ⟨next, hnext⟩ : ∃ next, { c with reported := c.reported + 1 }.operate
      (.addError (.text (String.ofList text))) = next := ⟨_, rfl⟩
  have hreport : c.report text
      = if next.breaker.isTripped next.cycle then next.onTrip else (next, none) := by
    rw [report, hnext]
  have hheld : { c with held }.report text
      = if next.breaker.isTripped next.cycle then { next with held }.onTrip
        else ({ next with held }, none) := by
    rw [← hnext]
    rfl
  rw [hheld, hreport]
  split
  · exact onTrip_hold next held
  · rfl

/-- The beginning of a line makes no difference to what is reported. -/
theorem walk_hold (held : List UInt8) (cues : List Cue) : ∀ c : Course,
    { c with held }.walk cues = ({ (c.walk cues).1 with held }, (c.walk cues).2) := by
  induction cues with
  | nil => intro c; rfl
  | cons cue cues ih =>
      intro c
      cases cue with
      | line text =>
          rw [walk, walk, report_hold]
          cases hreport : c.report text with
          | mk next ending =>
              cases ending with
              | none => exact ih next
              | some ending => rfl
      | pause ms => exact ih (c.onCircuit fun circuit => circuit.pass ms)

theorem takeBytes_eq_walk (c : Course) (bytes : List UInt8) :
    c.takeBytes bytes =
      let walked := c.walk (heard c.dog.watch (cutLines (c.held ++ bytes)).1)
      ({ walked.1 with held := (cutLines (c.held ++ bytes)).2 }, walked.2) := by
  show { c with held := (cutLines (c.held ++ bytes)).2 }.takeLines (cutLines (c.held ++ bytes)).1 = _
  rw [takeLines_eq_walk]
  exact walk_hold _ _ c

theorem takeEnd_eq_walk {c : Course} (h : c.held ≠ []) :
    c.takeEnd =
      let walked := c.walk (heard c.dog.watch [c.held])
      ({ walked.1 with held := [] }, walked.2) := by
  rw [takeEnd, if_neg h, ← takeLines_singleton, takeLines_eq_walk]
  exact walk_hold _ _ c

theorem reported_report (c : Course) (text : List Char) :
    (c.report text).1.reported = c.reported + 1 := by
  rw [report]
  split
  · rw [onTrip_eq]
    split <;> rfl
  · rfl

/-- The lines that have been reported are those among the cues. -/
theorem reported_walk (cues : List Cue) : ∀ {c : Course}, (c.walk cues).2 = none →
    (c.walk cues).1.reported = c.reported + (cues.filterMap Cue.line?).length := by
  induction cues with
  | nil => intro c _; rfl
  | cons cue cues ih =>
      intro c h
      cases cue with
      | line text =>
          have hreported := reported_report c text
          rw [walk] at h ⊢
          cases hreport : c.report text with
          | mk next ending =>
              rw [hreport] at h hreported
              cases ending with
              | some ending => simp at h
              | none =>
                  have hnext : next.reported = c.reported + 1 := hreported
                  refine (ih h).trans ?_
                  have hline : (Cue.line text).line? = some text := rfl
                  rw [hnext, List.filterMap_cons_some hline, List.length_cons]
                  omega
      | pause ms =>
          rw [walk] at h ⊢
          rw [ih h]
          rfl

/-- The lines that have been reported are those among the cues of what has been gone through. -/
theorem Passes.reported {items : List Item} (passes : Passes heeds c items c') :
    c'.reported = c.reported
      + ((cues c.dog.watch c.held items).filterMap Cue.line?).length := by
  induction passes with
  | nil => rfl
  | @cons c next last item items htake _ ih =>
      rw [ih]
      have watch : next.dog.watch = c.dog.watch := by
        have := (upkeep_watch c.dog.watch).take (c := c) rfl heeds item
        rwa [htake] at this
      rw [watch]
      cases item with
      | data bytes =>
          have hwalk := (takeBytes_eq_walk c bytes).symm.trans htake
          obtain ⟨hnext, hnone⟩ := Prod.mk.inj hwalk
          have hreported := reported_walk _ hnone
          rw [← hnext, cues, List.filterMap_append, List.length_append]
          dsimp only
          omega
      | endOfInput =>
          by_cases hheld : c.held = []
          · rw [take, takeEnd, if_pos hheld] at htake
            simp at htake
          · have hwalk := (takeEnd_eq_walk hheld).symm.trans htake
            obtain ⟨hnext, hnone⟩ := Prod.mk.inj hwalk
            have hreported := reported_walk _ hnone
            rw [← hnext, cues, if_neg hheld, List.filterMap_append, List.length_append]
            dsimp only
            omega
      | failure e =>
          rw [take] at htake
          split at htake
          · obtain ⟨rfl, -⟩ := Prod.mk.inj htake
            rfl
          · simp at htake
      | shutdown times => simp [take] at htake
      | dropShutdown => simp [take] at htake
      | interrupt => simp [take] at htake
      | _ =>
          obtain ⟨rfl, -⟩ := Prod.mk.inj htake
          rfl

end Course

/-- The item is something that the input does without failing. -/
def Item.isInput : Item → Bool
  | .data _ | .endOfInput | .sleep _ => true
  | _ => false

namespace Course

/-- An input that does not fail is to a watch what its cues are. -/
theorem follow_eq_walk (heeds : Bool) (items : List Item)
    (input : ∀ item ∈ items, item.isInput = true) : ∀ c : Course, ∃ held,
      c.follow heeds items =
        let walked := c.walk (cues c.dog.watch c.held (items ++ [.endOfInput]))
        ({ walked.1 with held }, walked.2.getD (.reason .inputClosed)) := by
  induction items with
  | nil =>
      intro c
      rw [List.nil_append, cues, follow]
      by_cases hheld : c.held = []
      · rw [takeEnd, if_pos hheld, if_pos hheld]
        exact ⟨c.held, rfl⟩
      · rw [takeEnd_eq_walk hheld, if_neg hheld, show cues c.dog.watch [] [] = [] from rfl,
          List.append_nil]
        refine ⟨[], ?_⟩
        cases hwalk : c.walk (heard c.dog.watch [c.held]) with
        | mk last ending => cases ending <;> rfl
  | cons item items ih =>
      intro c
      -- What an item says is walked through, and then comes the rest.
      have further (front : List Cue) (held : List UInt8)
          (hcues : cues c.dog.watch c.held (item :: items ++ [.endOfInput])
            = front ++ cues c.dog.watch held (items ++ [.endOfInput]))
          (htake : c.take heeds item = ({ (c.walk front).1 with held }, (c.walk front).2)) :
          ∃ held, c.follow heeds (item :: items) =
            let walked := c.walk (cues c.dog.watch c.held (item :: items ++ [.endOfInput]))
            ({ walked.1 with held }, walked.2.getD (.reason .inputClosed)) := by
        have watch := (upkeep_watch c.dog.watch).take (c := c) rfl heeds item
        rw [hcues, walk_append, follow, htake]
        rw [htake] at watch
        cases hwalk : c.walk front with
        | mk next ending =>
            rw [hwalk] at watch
            cases ending with
            | some ending => exact ⟨held, rfl⟩
            | none =>
                obtain ⟨last, hlast⟩ := ih (fun item h => input item (by simp [h]))
                  { next with held }
                refine ⟨last, hlast.trans ?_⟩
                rw [show ({ next with held } : Course).dog.watch = c.dog.watch from watch,
                  walk_hold]
      have hitem := input item List.mem_cons_self
      cases item with
      | data bytes => exact further _ _ rfl (takeBytes_eq_walk c bytes)
      | endOfInput =>
          by_cases hheld : c.held = []
          · refine ⟨c.held, ?_⟩
            rw [follow, take, takeEnd, if_pos hheld, List.cons_append, cues, if_pos hheld]
            rfl
          · refine further (heard c.dog.watch [c.held]) [] ?_ (takeEnd_eq_walk hheld)
            rw [List.cons_append, cues, if_neg hheld]
      | sleep ms => exact further [.pause ms] c.held rfl rfl
      | _ => exact absurd hitem (by simp [Item.isInput])

end Course

/-- An input that does not fail is to a run what its cues are. -/
theorem run_of_input {w : Watchdog} {script : Script} (unasked : script.requests = 0)
    (input : ∀ item ∈ script.items, item.isInput = true) :
    w.run script =
      let walked := (w.start script).walk (cues w.watch [] (script.items ++ [.endOfInput]))
      Course.outcome (walked.1, walked.2.getD (.reason .inputClosed)) := by
  obtain ⟨held, hfollow⟩ := Course.follow_eq_walk script.heedsInterrupt script.items input
    (w.start script)
  rw [run_of_unasked w unasked, hfollow]
  exact Course.outcome_hold _ held _

end Watchdog

end Tripwire
