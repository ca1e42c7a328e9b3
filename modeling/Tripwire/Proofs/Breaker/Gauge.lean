/-
The gauge shows what counts.

The gauge is set in five places, and in each of them the log has just been changed to
what is shown.  So whatever has been told last about the count is what the count is,
but only once all of a deed's news are told.  They are told at once, before any
reaction, and they end with the line if there is one.  So a sink that is handed a line
finds the gauge right, however many deeds of reactions lie between that line and the one
before it, and so does whoever looks between two deeds (`Chronicle.gauged`).
-/
import Tripwire.Proofs.Breaker.Outcome
import Tripwire.Proofs.Record

namespace Tripwire

variable {α : Type}

/-! ### What the gauge shows -/

/-- What the gauge is set to, if it is. -/
def Event.gauge? : Event α → Option Nat
  | gauge count => some count
  | _ => none

/-- What the gauge shows after some events; it starts with nothing. -/
def gaugeAfter (events : List (Event α)) : Nat := (events.filterMap Event.gauge?).getLast?.getD 0

/-- What the gauge is set to, if it is. -/
def Emission.gauge? : Emission → Option Nat
  | gauge count => some count
  | _ => none

/-- What the gauge shows once some emissions are told that find it with a count. -/
def gaugeFrom (count : Nat) (es : List Emission) : Nat :=
  (es.filterMap Emission.gauge?).getLast?.getD count

theorem gaugeFrom_append (count : Nat) (es es' : List Emission) :
    gaugeFrom count (es ++ es') = gaugeFrom (gaugeFrom count es) es' := by
  simp only [gaugeFrom, List.filterMap_append, List.getLast?_append]
  cases (es'.filterMap Emission.gauge?).getLast? <;> rfl

/-- A line does not set the gauge. -/
theorem gaugeFrom_notice (count : Nat) (es : List Emission) (n : Notice) :
    gaugeFrom count (es ++ [.notice n]) = gaugeFrom count es := by
  rw [gaugeFrom_append]
  rfl

namespace Circuit

theorem gauge?_eventOf (c : Circuit α) (e : Emission) :
    Event.gauge? (c.eventOf e) = e.gauge? := by
  cases e with
  | counter k => rfl
  | gauge count => rfl
  | notice n => cases hsink : c.sink <;> simp [eventOf, Sink.event, hsink, Event.gauge?,
      Emission.gauge?]

/-- The gauge shows what has been told about it. -/
theorem gaugeAfter_events (c : Circuit α) (j : List (Happening α)) :
    gaugeAfter (Journal.events c.eventOf j) = gaugeFrom 0 (Journal.told j) := by
  rw [gaugeAfter, gaugeFrom, Journal.events, Journal.told, List.filterMap_filterMap,
    List.filterMap_filterMap]
  congr 3
  funext x
  cases x with
  | did d => rfl
  | told b e => exact gauge?_eventOf c e
  | answered op a => rfl

end Circuit

/-! ### One deed -/

/-- The news of a deed leave the gauge with what counts then. -/
theorem Breaker.Outcome.gauge {s : BreakerSettings} {b : Breaker} {move : Move} {effect : Effect}
    (outcome : Outcome s b move effect) :
    gaugeFrom b.current (promptly effect.emissions) = effect.breaker.current := by
  cases outcome with
  | idle _ _ _ emissions errors _ _ _ =>
      rw [emissions, show effect.breaker.current = b.current from congrArg List.length errors]
      rfl
  | begins _ emissions errors _ _ _ =>
      rw [emissions, show effect.breaker.current = 0 from congrArg List.length errors]
      cases b.active <;> rfl
  | ends _ emissions errors _ _ _ =>
      rw [emissions, show effect.breaker.current = 0 from congrArg List.length errors]
      rfl
  | counts e _ _ emissions errors _ _ _ =>
      have more : effect.breaker.current = b.current + 1 := by
        rw [current, errors, List.length_append]
        rfl
      rw [emissions, more]
      rfl
  | trips e text _ _ _ emissions errors _ _ _ =>
      rw [emissions, show effect.breaker.current = 0 from congrArg List.length errors]
      rfl
  | clears t _ _ _ _ emissions errors _ _ _ =>
      rw [emissions, show effect.breaker.current = 0 from congrArg List.length errors]
      rfl

/-- What is told at once ends with its line. -/
theorem eq_nil_of_promptly {es front back : List Emission} {n : Notice}
    (h : promptly es = front ++ .notice n :: back) : back = [] := by
  induction es generalizing front with
  | nil => simp [promptly] at h
  | cons e es ih =>
      cases front with
      | nil =>
          cases e with
          | notice n' =>
              rw [promptly] at h
              exact (List.cons.inj h).2.symm
          | counter k => simp [promptly] at h
          | gauge count => simp [promptly] at h
      | cons x front =>
          cases e with
          | notice n' => simp [promptly] at h
          | counter k => exact ih (List.cons.inj h).2
          | gauge count => exact ih (List.cons.inj h).2

/-- When the line is told they have set it already. -/
theorem Breaker.Outcome.gauge_at_line {s : BreakerSettings} {b : Breaker} {move : Move}
    {effect : Effect} (outcome : Outcome s b move effect) {front back : List Emission} {n : Notice}
    (h : promptly effect.emissions = front ++ .notice n :: back) :
    gaugeFrom b.current front = effect.breaker.current := by
  obtain rfl := eq_nil_of_promptly h
  have shown := outcome.gauge
  rwa [h, gaugeFrom_notice] at shown

/-! ### Runs -/

/-- Whenever a line is handed to the sink the gauge shows what counts. -/
def Gauged (j : List (Happening α)) : Prop :=
  ∀ before b n after, j = before ++ .told b (.notice n) :: after →
    gaugeFrom 0 (Journal.told before) = b.current

theorem Gauged.append {j j' : List (Happening α)} (first : Gauged j)
    (second : ∀ before b n after, j' = before ++ .told b (.notice n) :: after →
      gaugeFrom 0 (Journal.told (j ++ before)) = b.current) : Gauged (j ++ j') := by
  intro before b n after heq
  rcases List.append_eq_append_iff.mp heq with ⟨mid, hbefore, hmid⟩ | ⟨mid, hj, hmid⟩
  · rw [hbefore]
    exact second mid b n after hmid
  · cases mid with
    | nil =>
        rw [List.append_nil] at hj
        rw [← hj, ← List.append_nil j]
        exact second [] b n after hmid.symm
    | cons x mid =>
        obtain ⟨rfl, -⟩ := List.cons.inj hmid
        exact first before b n mid hj

/-- **Between two deeds and at every line the gauge shows what counts.** -/
theorem Chronicle.gauged {s : BreakerSettings} {b : Breaker} {j : List (Happening α)}
    (chronicle : Chronicle s {} j b) (valid : 0 < s.limit.toNat) :
    gaugeFrom 0 (Journal.told j) = b.current ∧ Gauged j := by
  induction chronicle with
  | nil => exact ⟨rfl, fun before _ _ _ h => by simp at h⟩
  | @deed j b time move chronicle held possible ih =>
      obtain ⟨shown, gauged⟩ := ih
      have outcome := (Breaker.sound_of_passage chronicle.passage valid held).outcome time move
      refine ⟨?_, gauged.append ?_⟩
      · rw [Journal.told_append, Journal.told_did, Journal.told_news, gaugeFrom_append, shown]
        exact outcome.gauge
      · intro before b' n rest heq
        cases before with
        | nil => simp at heq
        | cons x before =>
            obtain ⟨rfl, hnews⟩ := List.cons.inj heq
            obtain ⟨front, back, hsplit, rfl, hback⟩ := List.map_eq_append_iff.mp hnews
            obtain ⟨e, back, rfl, he, -⟩ := List.map_eq_cons_iff.mp hback
            obtain ⟨rfl, rfl⟩ := Happening.told.inj he
            rw [Journal.told_append, Journal.told_did, Journal.told_map_told, gaugeFrom_append,
              shown]
            exact outcome.gauge_at_line hsplit
  | @late j b k _ ih =>
      obtain ⟨shown, gauged⟩ := ih
      refine ⟨?_, gauged.append ?_⟩
      · rw [Journal.told_append, Journal.told_told, Journal.told_nil, gaugeFrom_notice]
        exact shown
      · intro before b' n rest heq
        cases before with
        | nil =>
            obtain ⟨hhead, -⟩ := List.cons.inj heq
            obtain ⟨rfl, -⟩ := Happening.told.inj hhead
            rw [List.append_nil]
            exact shown
        | cons x before => simp at heq
  | answer op a _ ih =>
      obtain ⟨shown, gauged⟩ := ih
      refine ⟨?_, gauged.append ?_⟩
      · simpa using shown
      · intro before b' n rest heq
        cases before <;> simp at heq

/-! ### Sessions -/

namespace Session

/-- What a gauge that never lies has to do with a run. -/
structure TrueGauge (s : Session α) (steps : List (Step α)) : Prop where
  /-- Whenever a line is handed to the sink, before the reaction to it, the gauge shows the number
  of errors that count. -/
  line : ∀ before b n after, s.journal steps = before ++ .told b (.notice n) :: after →
    gaugeAfter (Journal.events s.circuit.eventOf before) = b.current
  /-- So it does at the end. -/
  final : gaugeAfter ((s.run steps).flatMap Snapshot.events)
    = (s.after steps).circuit.breaker.current

/-- **The gauge never lies.**

The journal has all deeds of the run and shows all that its snapshots show.  Before each line in it
the gauge has been set to what counts at that line, and so it has before the end, or it has not
been set yet and nothing counts. -/
theorem trueGauge_after {hasRuntime : Bool} {settings : BreakerSettings} {sink : Sink α}
    {c : Circuit α} (made : Circuit.create hasRuntime settings sink = .ok c)
    (steps : List (Step α)) :
    Recorded { circuit := c } steps ∧ TrueGauge { circuit := c } steps := by
  obtain ⟨rfl, valid, -⟩ := Circuit.of_create made
  have recorded := records_after (s := { circuit := { settings, sink } }) (fun _ => rfl) rfl steps
  obtain ⟨shown, gauged⟩ := recorded.chronicle.gauged valid
  refine ⟨recorded, ?_, ?_⟩
  · intro before b n after heq
    rw [Circuit.gaugeAfter_events]
    exact gauged before b n after heq
  · rw [recorded.events, Circuit.gaugeAfter_events]
    exact shown

/-- A run in which the reaction to the first line reports an error, the next error brings the log
to the limit and cannot be written, and the reaction to the end of the cycle breaks off. -/
theorem trueGauge_after_failures :
    let settings : BreakerSettings := { limit := 2, cooldownMs := 10 }
    let sink : Sink Unit := .keeping [] [.addError (.text "a"), .fail ⟨"no disk"⟩]
    let c : Circuit Unit := { settings, sink }
    let steps : List (Step Unit) :=
      [.operate 0 .activate, .operate 0 (.addError (.unprintable ⟨"no text"⟩)), .sleep 10]
    let more : List (Step Unit) := [.operate 0 .activate]
    Circuit.create true settings sink = .ok c ∧
      (Recorded { circuit := c } steps ∧ TrueGauge { circuit := c } steps) ∧
      (Recorded { circuit := c } (steps ++ more) ∧ TrueGauge { circuit := c } (steps ++ more)) ∧
      gaugeAfter ((run { circuit := c } steps).flatMap Snapshot.events) = 2 ∧
      gaugeAfter ((run { circuit := c } (steps ++ more)).flatMap Snapshot.events) = 0 :=
  have made : Circuit.create true { limit := 2, cooldownMs := 10 }
      (.keeping [] [.addError (.text "a"), .fail ⟨"no disk"⟩] : Sink Unit) = .ok _ := rfl
  ⟨made, trueGauge_after made _, trueGauge_after made _, by decide, by decide⟩

end Session

end Tripwire
