/-
The log as a record of cycles.

Without reactions a breaker's log reads like annals.  There is a chapter for each cycle,
in order and with no number left out.  A chapter begins with the start of its cycle, goes
on with the resets, and closes with one of three ends; only the last chapter can be open
still.  `annals` writes such chapters down, and `Breaker.Annals` says how the last of
them shows the state of the breaker: it is open exactly while the breaker is active, and
it has closed with a warning exactly if the signal of the cycle has fired.

Lines come from four operations and a timer, and each move is one of six things to the
log.  So what has to be shown is how each outcome writes the annals on.  The only one
that touches two chapters is an activation over a cycle that goes on: it closes the last
chapter with the number of the old cycle and opens the next with the new one.  That is
why a chapter with that end is never the last.
-/
import Tripwire.Proofs.Breaker.Outcome
import Tripwire.Proofs.Record

namespace Tripwire

variable {α : Type}

/-! ### Annals -/

/-- How a cycle can end. -/
inductive Closing where
  | deactivated
  | superseded
  | tripped (errors : String)

/-- The line about the end of a cycle. -/
def Closing.notice (cycle : Nat) : Closing → Notice
  | deactivated => .deactivated cycle
  | superseded => .superseded cycle
  | tripped errors => .tripped cycle errors

/-- What a log has to say about a cycle. -/
structure Chapter where
  /-- How many errors each reset has cleared. -/
  clears : List Nat := []
  ending : Option Closing := none

/-- The chapter in lines. -/
def Chapter.lines (cycle : Nat) (chapter : Chapter) : List Notice :=
  .started cycle :: chapter.clears.map .cleared ++ (chapter.ending.map (·.notice cycle)).toList

/-- Chapters in lines, one for each cycle from a number on. -/
def annalsFrom (cycle : Nat) : List Chapter → List Notice
  | [] => []
  | chapter :: chapters => chapter.lines cycle ++ annalsFrom (cycle + 1) chapters

/-- Chapters in lines, one for each cycle from the first on. -/
def annals (chapters : List Chapter) : List Notice := annalsFrom 1 chapters

theorem annalsFrom_append (cycle : Nat) (chapters more : List Chapter) :
    annalsFrom cycle (chapters ++ more)
      = annalsFrom cycle chapters ++ annalsFrom (cycle + chapters.length) more := by
  induction chapters generalizing cycle with
  | nil => rfl
  | cons chapter chapters ih =>
      rw [List.cons_append, annalsFrom, annalsFrom, ih, List.append_assoc, List.length_cons,
        Nat.add_comm chapters.length, Nat.add_assoc]

/-- The last chapter comes last. -/
theorem annals_concat (chapters : List Chapter) (last : Chapter) :
    annals (chapters ++ [last]) = annals chapters ++ last.lines (chapters.length + 1) := by
  rw [annals, annalsFrom_append, Nat.add_comm 1, annalsFrom, annalsFrom, List.append_nil]
  rfl

/-- The line says that a cycle has started. -/
def Notice.isStart : Notice → Bool
  | started _ => true
  | _ => false

/-- Each chapter has one line about a start. -/
theorem countP_isStart_annalsFrom (cycle : Nat) (chapters : List Chapter) :
    (annalsFrom cycle chapters).countP Notice.isStart = chapters.length := by
  induction chapters generalizing cycle with
  | nil => rfl
  | cons chapter chapters ih =>
      have resets : (chapter.clears.map Notice.cleared).countP Notice.isStart = 0 := by
        simp [List.countP_eq_zero, Notice.isStart]
      have ending :
          (chapter.ending.map (·.notice cycle)).toList.countP Notice.isStart = 0 := by
        cases h : chapter.ending with
        | none => rfl
        | some ending => cases ending <;> rfl
      rw [annalsFrom, List.countP_append, ih, Chapter.lines, List.cons_append, List.countP_cons,
        List.countP_append, resets, ending, List.length_cons]
      simp [Notice.isStart, Nat.add_comm]

namespace Breaker

variable {s : BreakerSettings}

/-- The annals of a breaker, up to now. -/
structure Annals (b : Breaker) (chapters : List Chapter) : Prop where
  /-- There is a chapter for each cycle. -/
  number : chapters.length = b.cycle
  /-- Only the last one can lack its end. -/
  past : ∀ chapter ∈ chapters.dropLast, chapter.ending ≠ none
  /-- A cycle that the next one has ended is not the last. -/
  final : ∀ chapter ∈ chapters.getLast?, ∀ ending ∈ chapter.ending, ending ≠ .superseded
  /-- The breaker is active exactly if a cycle has started and the last one has no end. -/
  going : b.active = true ↔ ∃ chapter ∈ chapters.getLast?, chapter.ending = none
  /-- The signal of the cycle has fired exactly if the last one has ended with a warning. -/
  tripped : b.isTripped b.cycle = true ↔
    ∃ chapter ∈ chapters.getLast?, ∃ errors, chapter.ending = some (.tripped errors)

namespace Annals

variable {b b' : Breaker} {chapters front : List Chapter} {last : Chapter}

theorem fresh : Annals {} [] where
  number := rfl
  past := by simp
  final := by simp
  going := by simp
  tripped := by simp [Breaker.isTripped, fate]

/-- Nothing but the cycle, its signal and whether it goes on matters. -/
theorem congr (kept : Annals b chapters) (active : b'.active = b.active)
    (cycle : b'.cycle = b.cycle) (fired : b'.fired = b.fired) : Annals b' chapters where
  number := kept.number.trans cycle.symm
  past := kept.past
  final := kept.final
  going := by rw [active]; exact kept.going
  tripped := by
    rw [← kept.tripped, isTripped_iff, isTripped_iff, cycle, fired]

/-- Annals are kept by their last chapter. -/
theorem ofConcat (number : front.length + 1 = b.cycle)
    (past : ∀ chapter ∈ front, chapter.ending ≠ none)
    (final : ∀ ending ∈ last.ending, ending ≠ .superseded)
    (going : b.active = true ↔ last.ending = none)
    (tripped : b.cycle ∈ b.fired ↔ ∃ errors, last.ending = some (.tripped errors)) :
    Annals b (front ++ [last]) where
  number := by simpa using number
  past := by simpa using past
  final := by simpa using final
  going := by simpa using going
  tripped := by simpa [isTripped_iff] using tripped

/-- While the breaker is active the last chapter is open. -/
theorem exists_last (kept : Annals b chapters) (going : b.active = true) :
    ∃ front last, chapters = front ++ [last] ∧ front.length + 1 = b.cycle ∧
      (∀ chapter ∈ front, chapter.ending ≠ none) ∧ last.ending = none := by
  obtain ⟨last, hlast, hopen⟩ := kept.going.mp going
  obtain ⟨front, rfl⟩ := List.getLast?_eq_some_iff.mp hlast
  exact ⟨front, last, rfl, by simpa using kept.number, by simpa using kept.past, hopen⟩

/-- While it is not, each chapter has its end. -/
theorem past_of_idle (kept : Annals b chapters) (idle : b.active = false) :
    ∀ chapter ∈ chapters, chapter.ending ≠ none := by
  rcases List.eq_nil_or_concat chapters with rfl | ⟨front, last, rfl⟩
  · simp
  · rw [List.concat_eq_append] at kept ⊢
    have closed : last.ending ≠ none := by
      intro hopen
      have going := kept.going.mpr ⟨last, by simp, hopen⟩
      exact absurd (going.symm.trans idle) (by simp)
    intro chapter hmem
    rcases List.mem_append.mp hmem with hmem | hmem
    · exact kept.past chapter (by simpa using hmem)
    · exact List.mem_singleton.mp hmem ▸ closed

end Annals

/-- **Each outcome writes the annals on.** -/
theorem Outcome.annals {b : Breaker} {move : Move} {effect : Effect}
    (outcome : Outcome s b move effect) (ok : Sound s b) {chapters : List Chapter}
    (kept : Annals b chapters) :
    ∃ more, annals more = annals chapters ++ lines effect.emissions ∧
      Annals effect.breaker more := by
  have unfired : b.cycle + 1 ∉ b.fired := fun hk => Nat.not_succ_le_self _ (ok.fired_le _ hk)
  cases outcome with
  | idle _ _ _ emissions _ active cycle fired =>
      exact ⟨chapters, by simp [emissions], kept.congr active cycle fired⟩
  | counts _ going _ emissions _ active cycle fired =>
      exact ⟨chapters, by simp [emissions], kept.congr (active.trans going.symm) cycle fired⟩
  | begins _ emissions _ active cycle fired =>
      cases going : b.active with
      | false =>
          refine ⟨chapters ++ [{}], ?_, .ofConcat ?_ (kept.past_of_idle going) ?_ ?_ ?_⟩
          · rw [annals_concat, kept.number]
            simp [emissions, going, Chapter.lines]
          · rw [kept.number, cycle]
          · simp
          · simp [active]
          · simp [cycle, fired, unfired]
      | true =>
          obtain ⟨front, last, rfl, number, past, hopen⟩ := kept.exists_last going
          refine ⟨front ++ [{ last with ending := some .superseded }] ++ [{}], ?_,
            .ofConcat ?_ ?_ ?_ ?_ ?_⟩
          · rw [annals_concat, annals_concat, annals_concat]
            simp [emissions, going, hopen, Chapter.lines, number, Closing.notice]
          · simp [number, cycle]
          · intro chapter hmem
            rcases List.mem_append.mp hmem with hmem | hmem
            · exact past chapter hmem
            · rw [List.mem_singleton.mp hmem]
              simp
          · simp
          · simp [active]
          · simp [cycle, fired, unfired]
  | ends going emissions _ active cycle fired =>
      obtain ⟨front, last, rfl, number, past, hopen⟩ := kept.exists_last going
      refine ⟨front ++ [{ last with ending := some .deactivated }], ?_,
        .ofConcat (number.trans cycle.symm) past ?_ ?_ ?_⟩
      · rw [annals_concat, annals_concat]
        simp [emissions, hopen, Chapter.lines, number, Closing.notice]
      · simp
      · simp [active]
      · simp [cycle, fired, ok.unfired going]
  | trips _ errors going _ _ emissions _ active cycle fired =>
      obtain ⟨front, last, rfl, number, past, hopen⟩ := kept.exists_last going
      refine ⟨front ++ [{ last with ending := some (.tripped errors) }], ?_,
        .ofConcat (number.trans cycle.symm) past ?_ ?_ ?_⟩
      · rw [annals_concat, annals_concat]
        simp [emissions, hopen, Chapter.lines, number, Closing.notice]
      · simp
      · simp [active]
      · simp [cycle, fired]
  | clears _ going _ _ _ emissions _ active cycle fired =>
      obtain ⟨front, last, rfl, number, past, hopen⟩ := kept.exists_last going
      refine ⟨front ++ [{ last with clears := last.clears ++ [b.current] }], ?_,
        .ofConcat (number.trans cycle.symm) past ?_ ?_ ?_⟩
      · rw [annals_concat, annals_concat]
        simp [emissions, hopen, Chapter.lines]
      · simp [hopen]
      · simp [active, hopen]
      · simp [cycle, fired, ok.unfired going, hopen]

/-- **The lines of all deeds are annals of the breaker they lead to.** -/
theorem annals_of_passage {b : Breaker} {h : List Deed} (p : Passage s {} h b)
    (valid : 0 < s.limit.toNat) :
    ∃ chapters, lines (tidings s h) = annals chapters ∧ Annals b chapters := by
  induction p with
  | nil => exact ⟨[], rfl, .fresh⟩
  | @deed h b time move p held _ ih =>
      obtain ⟨chapters, hlines, kept⟩ := ih
      have ok : Sound s b := sound_of_passage p valid held
      obtain ⟨more, hmore, kept'⟩ := (ok.outcome time move).annals ok kept
      refine ⟨more, ?_, kept'⟩
      rw [tidings_append, lines_append, hlines, hmore, tidings_singleton]
      rfl

end Breaker

/-! ### Sessions -/

theorem Circuit.isLine_eventOf (c : Circuit α) (e : Emission) :
    (c.eventOf e).isLine = e.notice?.isSome := by
  cases e with
  | counter k => rfl
  | gauge count => rfl
  | notice n => cases hsink : c.sink <;> simp [eventOf, Sink.event, hsink, Event.isLine,
      Emission.notice?]

/-- The lines that are seen are those that have been told. -/
theorem Circuit.filter_isLine_events (c : Circuit α) (j : List (Happening α)) :
    (Journal.events c.eventOf j).filter Event.isLine
      = (lines (Journal.told j)).map fun n => c.sink.event c.settings n := by
  induction j with
  | nil => rfl
  | cons x j ih =>
      cases x with
      | did d => exact ih
      | answered op a => exact ih
      | told b e =>
          rw [Journal.events_told, Journal.told_told, List.filter_cons, isLine_eventOf, ih]
          cases e <;> rfl

namespace Session

/-- **Without reactions the log is a faithful record of the cycles.**

The lines that the sink is given are annals, with a chapter for each cycle, and from the last
chapter one can tell whether the breaker is active and whether the signal of the cycle has fired.
The number of lines about a start is the cycle that the breaker shows of itself. -/
theorem logs_annals {hasRuntime : Bool} {settings : BreakerSettings} {sink : Sink α}
    {c : Circuit α} (made : Circuit.create hasRuntime settings sink = .ok c)
    (quiet : sink.queued = 0) (steps : List (Step α)) :
    let start : Session α := { circuit := c }
    let b := (start.after steps).circuit.breaker
    ∃ chapters,
      ((start.run steps).flatMap Snapshot.events).filter Event.isLine
        = (annals chapters).map (fun n => sink.event settings n) ∧
      b.Annals chapters ∧
      ("cycle", toString ((annals chapters).countP Notice.isStart)) ∈ b.parts settings := by
  obtain ⟨rfl, valid, -⟩ := Circuit.of_create made
  have recorded := records_after (s := { circuit := { settings, sink } }) (fun _ => rfl) rfl steps
  have passage := recorded.chronicle.passage
  rw [recorded.deeds] at passage
  obtain ⟨chapters, hlines, kept⟩ := Breaker.annals_of_passage passage valid
  refine ⟨chapters, ?_, kept, ?_⟩
  · rw [recorded.events, Circuit.filter_isLine_events, recorded.quiet quiet, hlines]
  · rw [annals, countP_isStart_annalsFrom, kept.number]
    simp [Breaker.parts]

/-- A run with each of the three ends, a reset, and a cycle that goes on. -/
theorem logs_annals_of_each_end :
    let settings : BreakerSettings := { limit := 2, cooldownMs := 10 }
    let sink : Sink Unit := .keeping [] []
    let start : Session Unit := { circuit := { settings, sink } }
    let steps : List (Step Unit) :=
      [.operate 0 .activate, .operate 0 (.addError (.text "a")), .sleep 10, .operate 0 .activate,
       .operate 0 (.addError .unit), .operate 0 (.addError (.truth true)), .operate 0 .activate,
       .operate 0 .deactivate, .operate 0 .deactivate, .operate 0 .activate]
    let b := (start.after steps).circuit.breaker
    Circuit.create true settings sink = .ok { settings, sink } ∧ sink.queued = 0 ∧
      ((start.run steps).flatMap Snapshot.events).filterMap Event.notice?
        = [.started 1, .cleared 1, .superseded 1, .started 2, .tripped 2 "[(), true]", .started 3,
          .deactivated 3, .started 4] ∧
      ∃ chapters,
        ((start.run steps).flatMap Snapshot.events).filter Event.isLine
          = (annals chapters).map (fun n => sink.event settings n) ∧
        b.Annals chapters ∧
        ("cycle", toString ((annals chapters).countP Notice.isStart)) ∈ b.parts settings :=
  have made : Circuit.create true { limit := 2, cooldownMs := 10 } (.keeping [] [] : Sink Unit)
      = .ok _ := rfl
  ⟨made, rfl, by decide, logs_annals made rfl _⟩

end Session

end Tripwire
