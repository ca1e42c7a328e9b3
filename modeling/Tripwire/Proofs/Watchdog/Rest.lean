/-
What a run of a watch leaves behind.

However a run ends, the last thing that is done to the breaker is to deactivate it.  That
does nothing to a breaker that is inactive already, because it has tripped or somebody else
has deactivated it, so the rest is what `Breaker.Sound` says of an inactive breaker:
nothing counts, no timer is armed, and none runs.  Where no timer runs nothing can happen
any more, `Circuit.AtRest`.

The run itself ends with the first thing that can end it.  `Watchdog.rests_after_run` says
which things those are and what they lead to, for everything that can happen to a watch.
An interrupted attempt to read is not among them, as it is made once more.
-/
import Tripwire.Proofs.Watchdog.Course

namespace Tripwire

namespace Circuit

variable {α : Type} {c : Circuit α}

/-- Nothing goes on in the circuit, and all that changes as time passes is the time. -/
structure AtRest (c : Circuit α) : Prop where
  inactive : c.breaker.active = false
  current : c.breaker.current = 0
  armed : c.breaker.armed = none
  timers : c.breaker.timers = []
  still : ∀ ms, c.pass ms = { c with now := c.now + min ms Alarm.farthest }

/-- A tame circuit is at rest while its breaker is inactive. -/
theorem Tame.atRest (tame : c.Tame) (inactive : c.breaker.active = false) : c.AtRest where
  inactive := inactive
  current := List.length_eq_zero_iff.mpr (tame.sound.idle inactive).1
  armed := (tame.sound.idle inactive).2
  timers := tame.sound.timers_of_idle inactive
  still := pass_of_timers_nil (tame.sound.timers_of_idle inactive)

end Circuit

namespace Watchdog

/-! ### The records about trips -/

/-- The event is the record that a watch writes about a trip. -/
def isTripRecord : Event Empty → Bool
  | .record r => r.target = "rate_breaker::watchdog" && r.message = "Error rate limit reached"
  | _ => false

namespace Course

/-- The sink has no reactions, and there is a record about each trip that has been counted. -/
structure Recorded (c : Course) : Prop where
  quiet : c.dog.circuit.sink.queued = 0
  trips : c.trips = c.dog.circuit.events.toList.countP isTripRecord

/-- No line of a breaker's log is such a record. -/
theorem isTripRecord_eventOf (c : Circuit Empty) (e : Emission) :
    isTripRecord (c.eventOf e) = false := by
  cases e with
  | counter k => rfl
  | gauge count => rfl
  | notice n => cases hsink : c.sink <;> simp [Circuit.eventOf, Sink.event, isTripRecord, hsink]

theorem Recorded.tells {c : Course} (recorded : c.Recorded) {circuit : Circuit Empty}
    {emissions : List Emission} (tells : c.dog.circuit.Tells emissions circuit) :
    Recorded { c with dog := { c.dog with circuit } } where
  quiet := tells.sink ▸ recorded.quiet
  trips := by
    have hnone : (emissions.map c.dog.circuit.eventOf).countP isTripRecord = 0 := by
      rw [List.countP_eq_zero]
      intro event hevent
      obtain ⟨e, -, rfl⟩ := List.mem_map.mp hevent
      simp [isTripRecord_eventOf]
    rw [tells.events, List.countP_append, hnone]
    exact recorded.trips

theorem Recorded.record {c : Course} (recorded : c.Recorded) {e : Event Empty}
    (other : isTripRecord e = false) :
    Recorded (c.onCircuit fun circuit => circuit.record e) where
  quiet := recorded.quiet
  trips := by
    simp only [onCircuit, Circuit.record, Array.toList_push, List.countP_append,
      List.countP_singleton, other]
    exact recorded.trips

theorem Recorded.operate {c : Course} (recorded : c.Recorded) (op : Operation Empty) :
    (c.operate op).Recorded :=
  recorded.tells (Circuit.tells_perform recorded.quiet op)

theorem upkeep_recorded : Upkeep Recorded where
  hold _ _ h := ⟨h.quiet, h.trips⟩
  begin _ _ h := ⟨h.quiet, h.trips⟩
  count _ h := ⟨h.quiet, h.trips⟩
  noteTrip c h := by
    refine ⟨h.quiet, ?_⟩
    simp [noteTrip, log, onCircuit, Circuit.record, isTripRecord, h.trips]
  operate _ op h := h.operate op
  pass _ ms h := by
    obtain ⟨emissions, -, tells⟩ := Circuit.tells_pass h.quiet ms
    exact h.tells tells
  glance _ h := h.record rfl
  interrupted c h := by
    have logged := List.foldlRecOn (l := List.replicate c.dog.listeners ())
      (motive := fun circuit => Recorded { c with dog := { c.dog with circuit } }) _ h
      fun circuit h _ _ => h.record (e := interruption) rfl
    rw [interrupted_eq]
    exact ⟨logged.quiet, logged.trips⟩

end Course

/-! ### What ends a run -/

/-- The item is a shutdown that reaches the watch, or the loss of all who could ask for one. -/
def Item.shutsDown (heeds : Bool) : Item → Bool
  | .shutdown times => times ≠ 0
  | .dropShutdown => !heeds
  | .interrupt => heeds
  | _ => false

/-- Nothing arrives behind the item, and nobody ends the watch. -/
def Item.leadsNowhere (heeds : Bool) : Item → Bool
  | .shutdown times => times = 0
  | .dropShutdown => heeds
  | .interrupt => !heeds
  | _ => false

namespace Course

variable {c c' : Course} {heeds : Bool}

/-- A watch that is over leaves its breaker inactive. -/
theorem inactive_conclude (quiet : c.dog.circuit.sink.queued = 0) {ending : Ending}
    (ended : (c.conclude ending).2 ≠ none) : (c.conclude ending).1.breaker.active = false := by
  have deactivated : (c.operate .deactivate).breaker = c.breaker.deactivate.breaker :=
    congrArg Circuit.breaker (Circuit.perform_of_quiet quiet .deactivate)
  have inactive : (c.operate .deactivate).breaker.active = false := by
    rw [deactivated]
    exact Breaker.active_deactivate _
  cases ending with
  | never => exact absurd rfl ended
  | failure e => exact inactive
  | reason r => exact inactive

/-- The records about trips stay as they are when a watch is over. -/
theorem Recorded.conclude (recorded : c.Recorded) (ending : Ending) :
    (c.conclude ending).1.Recorded := by
  cases ending with
  | never => exact recorded
  | failure e => exact (recorded.operate .deactivate).record rfl
  | reason r => exact (recorded.operate .deactivate).record rfl

theorem recorded_start {w : Watchdog} (quiet : w.circuit.sink.queued = 0)
    (events : w.circuit.events = #[]) (script : Script) : (w.start script).Recorded := by
  have fresh : Recorded { dog := w, cycle := 0 } := ⟨quiet, by simp [events]⟩
  have begun := fresh.operate .activate
  exact ⟨begun.quiet, begun.trips⟩

end Course

namespace Course

variable {c mid last : Course} {heeds : Bool} {item : Item} {ending : Ending}

/-- What an item does that ends a watch. -/
theorem ending_take (htake : c.take heeds item = (last, some ending)) :
    (item.isInput = true ∧ ∃ r, ending = .reason r) ∨
    (∃ e, item = .failure e ∧ e.isInterruption = false ∧ ending = .failure e) ∨
    (item.shutsDown heeds = true ∧ ending = .reason .shutdown) ∨
    (item.leadsNowhere heeds = true ∧ ending = .never) := by
  have hending : (c.take heeds item).2 = some ending := congrArg Prod.snd htake
  cases item with
  | data bytes =>
      rcases ending_takeLines (cutLines (c.held ++ bytes)).1
        { c with held := (cutLines (c.held ++ bytes)).2 } with h | h
      · exact absurd (hending.symm.trans h) (by simp)
      · exact .inl ⟨rfl, _, Option.some.inj (hending.symm.trans h)⟩
  | endOfInput =>
      rcases ending_takeEnd c with h | ⟨r, h⟩
      · exact absurd (hending.symm.trans h) (by simp)
      · exact .inl ⟨rfl, r, Option.some.inj (hending.symm.trans h)⟩
  | failure e =>
      rw [take] at hending
      split at hending
      · simp at hending
      · rename_i lost
        exact .inr (.inl ⟨e, rfl, by simpa using lost, (Option.some.inj hending).symm⟩)
  | shutdown times =>
      by_cases htimes : times = 0
      · exact .inr (.inr (.inr ⟨by simp [Item.leadsNowhere, htimes],
          by simpa [take, htimes] using hending.symm⟩))
      · exact .inr (.inr (.inl ⟨by simp [Item.shutsDown, htimes],
          by simpa [take, htimes] using hending.symm⟩))
  | dropShutdown =>
      cases heeds
      · exact .inr (.inr (.inl ⟨rfl, (Option.some.inj hending).symm⟩))
      · exact .inr (.inr (.inr ⟨rfl, (Option.some.inj hending).symm⟩))
  | interrupt =>
      cases heeds
      · exact .inr (.inr (.inr ⟨rfl, (Option.some.inj hending).symm⟩))
      · exact .inr (.inr (.inl ⟨rfl, (Option.some.inj hending).symm⟩))
  | _ => simp [take] at hending

/-- A shutdown that reaches the watch ends it, and no line is reported any more. -/
theorem take_of_shutsDown (h : item.shutsDown heeds = true) : ∃ last,
    c.take heeds item = (last, some (.reason .shutdown)) ∧ last.reported = c.reported := by
  cases item with
  | shutdown times => exact ⟨c, by simpa [take, Item.shutsDown] using h, rfl⟩
  | dropShutdown => exact ⟨c, by simpa [take, Item.shutsDown] using h, rfl⟩
  | interrupt =>
      have heard : heeds = true := h
      exact ⟨c.interrupted, by simp [take, heard], rfl⟩
  | _ => simp [Item.shutsDown] at h

/-- Once everything has been gone through the input ends, and then the watch is over. -/
theorem ends_of_follow {items : List Item}
    (ends : ∀ item ∈ items, item.leadsNowhere heeds = false) :
    (outcome (c.follow heeds items)).2 ≠ none := by
  have reason (last : Course) (r : Reason) : (outcome (last, .reason r)).2 ≠ none := by
    simp [outcome, conclude]
  rcases follow_cases heeds items c with ⟨last, -, heq⟩ |
    ⟨before, item, after, mid, last, ending, hitems, -, htake, heq⟩
  · rw [heq]
    rcases ending_takeEnd last with h | ⟨r, h⟩
    · rw [h]
      exact reason _ _
    · rw [h]
      exact reason _ _
  · rw [heq]
    rcases ending_take htake with ⟨-, r, rfl⟩ | ⟨e, -, -, rfl⟩ | ⟨-, rfl⟩ | ⟨hnowhere, -⟩
    · exact reason last r
    · simp [outcome, conclude]
    · exact reason last _
    · have := ends item (by simp [hitems])
      rw [this] at hnowhere
      simp at hnowhere

/-- A watch fails with an error exactly if reading has failed with it before anything else has
ended the watch. -/
theorem failure_of_follow {items : List Item} {e : ReadError} :
    (outcome (c.follow heeds items)).2 = some (.error e) ↔
      e.isInterruption = false ∧ ∃ before after mid, items = before ++ .failure e :: after ∧
        Passes heeds c before mid := by
  constructor
  · intro h
    rcases follow_cases heeds items c with ⟨last, -, heq⟩ |
      ⟨before, item, after, mid, last, ending, hitems, passes, htake, heq⟩
    · rw [heq] at h
      rcases ending_takeEnd last with hend | ⟨r, hend⟩ <;> simp [hend, outcome, conclude] at h
    · rw [heq] at h
      rcases ending_take htake with ⟨-, r, rfl⟩ | ⟨e', rfl, lost, rfl⟩ | ⟨-, rfl⟩ | ⟨-, rfl⟩
      · simp [outcome, conclude] at h
      · obtain rfl : e' = e := by simpa [outcome, conclude] using h
        exact ⟨lost, before, after, mid, hitems, passes⟩
      · simp [outcome, conclude] at h
      · simp [outcome, conclude] at h
  · rintro ⟨lost, before, after, mid, rfl, passes⟩
    rw [passes.follow, follow, take, if_neg (by simp [lost])]
    rfl

end Course

/-! ### Whole runs -/

/-- **However a run ends, it leaves the circuit at rest.**

A run ends unless something happens behind which nothing arrives and nobody ends the watch.  It
fails exactly if reading fails before anything else has ended it, and with the error that reading
has failed with; an attempt to read that was only interrupted is made once more.  Whatever makes
the watch shut down, its summary counts the lines reported so far and the trips recorded so far. -/
theorem rests_after_run {hasRuntime : Bool} {settings : BreakerSettings} {sink : Sink Empty}
    {c : Circuit Empty} (made : Circuit.create hasRuntime settings sink = .ok c)
    (quiet : sink.queued = 0) (watch : WatchSettings) (scripts : List Script) (script : Script) :
    let w : Watchdog := ({ watch, circuit := c } : Watchdog).after scripts
    let last := (w.run script).1.circuit
    let result := (w.run script).2
    let heeds := script.heedsInterrupt
    ((∀ item ∈ script.items, item.leadsNowhere heeds = false) → result ≠ none) ∧
      (result ≠ none → last.AtRest) ∧
      (∀ e, result = some (.error e) ↔ script.requests = 0 ∧ e.isInterruption = false ∧
        ∃ before after mid, script.items = before ++ .failure e :: after ∧
          Course.Passes heeds (w.start script) before mid) ∧
      (script.requests ≠ 0 →
        result = some (.ok { reason := .shutdown, reported := 0, trips := 0 })) ∧
      (script.requests = 0 → ∀ before item after mid, script.items = before ++ item :: after →
        Course.Passes heeds (w.start script) before mid → item.shutsDown heeds = true →
        result = some (.ok
          { reason := .shutdown
            reported := ((cues watch [] before).filterMap Cue.line?).length
            trips := last.events.toList.countP isTripRecord })) := by
  obtain ⟨rfl, valid, -⟩ := Circuit.of_create made
  have hwatch := watch_after { watch, circuit := { settings, sink } } scripts
  have tame := tame_after (w := { watch, circuit := { settings, sink } }) (.ofFresh quiet valid)
    scripts
  have events := events_after (w := { watch, circuit := { settings, sink } }) rfl scripts
  generalize ({ watch, circuit := { settings, sink } } : Watchdog).after scripts = w
    at hwatch tame events ⊢
  intro w' last result heeds
  have begun := tame_start tame script
  have recorded := Course.recorded_start tame.quiet events script
  refine ⟨?_, ?_, ?_, ?_, ?_⟩
  · intro ends
    show (w.run script).2 ≠ none
    by_cases asked : script.requests = 0
    · rw [run_of_unasked w asked]
      exact Course.ends_of_follow ends
    · rw [run_of_asked w asked]
      simp [Course.outcome, Course.conclude]
  · intro ended
    obtain ⟨course, ending, tame', hrun⟩ := upkeep_tame.run begun
    have ended' : (course.conclude ending).2 ≠ none := by
      rw [show result = _ from congrArg Prod.snd hrun] at ended
      exact ended
    rw [show last = _ from congrArg (·.1.circuit) hrun]
    exact (tame_conclude tame' ending).atRest (Course.inactive_conclude tame'.quiet ended')
  · intro e
    show (w.run script).2 = some (.error e) ↔ _
    by_cases asked : script.requests = 0
    · rw [run_of_unasked w asked, Course.failure_of_follow]
      exact ⟨fun h => ⟨asked, h⟩, fun h => h.2⟩
    · rw [run_of_asked w asked]
      simp [Course.outcome, Course.conclude, asked]
  · intro asked
    show (w.run script).2 = _
    rw [run_of_asked w asked]
    rfl
  · intro asked before item after mid hitems passes ends
    obtain ⟨course, htake, hreported⟩ := Course.take_of_shutsDown (c := mid) ends
    have hrun : w.run script = Course.outcome (course, .reason .shutdown) := by
      rw [run_of_unasked w asked, hitems, passes.follow, Course.follow, htake]
    have kept : course.Recorded := by
      have := Course.upkeep_recorded.take (passes.keep Course.upkeep_recorded recorded) heeds item
      rwa [htake] at this
    have lines : course.reported = ((cues watch [] before).filterMap Cue.line?).length := by
      rw [hreported, passes.reported, show (w.start script).dog.watch = watch from hwatch]
      exact Nat.zero_add _
    have trips : course.trips = last.events.toList.countP isTripRecord := by
      rw [show last = _ from congrArg (·.1.circuit) hrun]
      exact (kept.conclude (.reason .shutdown)).trips
    rw [← lines, ← trips]
    exact congrArg Prod.snd hrun

/-- A watch that trips over two lines and is armed again. -/
def ofTwoLines : Watchdog :=
  { watch := { rearm := true }
    circuit := { settings := { limit := 2, cooldownMs := 10 }, sink := .logging } }

/-- A line without an end, and more than a cooldown in which nothing arrives. -/
def oneLineThenPause : Script := { items := [.data [0x61], .sleep 20] }

/-- Three lines, and before the last one somebody else begins a cycle; then a shutdown is asked for
twice. -/
def threeLinesThenShutdown : Script :=
  { items := [.data [0x61, 0x0a, 0x62, 0x0a], .sleep 3, .activate, .data [0x63, 0x0a], .shutdown 2] }

/-- A run that is shut down with an error counted in somebody else's cycle, after another run. -/
theorem rests_after_run_of_shutdown :
    Circuit.create true ofTwoLines.circuit.settings .logging = .ok ofTwoLines.circuit ∧
      ((ofTwoLines.after [oneLineThenPause]).run threeLinesThenShutdown).2
        = some (.ok { reason := .shutdown, reported := 3, trips := 1 }) ∧
      ((ofTwoLines.after [oneLineThenPause]).run threeLinesThenShutdown).1.circuit.AtRest := by
  have made : Circuit.create true ofTwoLines.circuit.settings (.logging : Sink Empty)
      = .ok ofTwoLines.circuit := rfl
  have result : ((ofTwoLines.after [oneLineThenPause]).run threeLinesThenShutdown).2
      = some (.ok { reason := .shutdown, reported := 3, trips := 1 }) := by rfl
  have ended : ((ofTwoLines.after [oneLineThenPause]).run threeLinesThenShutdown).2 ≠ none := by
    rw [result]
    simp
  obtain ⟨-, rests, -⟩ := rests_after_run made rfl ofTwoLines.watch [oneLineThenPause]
    threeLinesThenShutdown
  exact ⟨made, result, rests ended⟩

/-- A sink that activates the breaker when it hears that a cycle has been deactivated. -/
def restless : Watchdog :=
  { watch := {}
    circuit := { settings := { limit := 2, cooldownMs := 10 }
                 sink := .keeping [] [.isActive, .activate] } }

/-- An interrupted attempt to read does not end a run, although nothing else has ended it before,
and a sink that reacts can leave the breaker active behind a run. -/
theorem goes_on_after_interruption :
    let w : Watchdog := { ofTwoLines with watch := {} }
    let interruption : Item := .failure { kind := "Interrupted", message := "try again" }
    let script : Script :=
      { items := [.data [0x61, 0x0a]] ++ interruption :: [.data [0x62, 0x0a]] }
    (∃ mid, Course.Passes false (w.start script) [.data [0x61, 0x0a]] mid) ∧
      (w.run script).2 = some (.ok { reason := .tripped, reported := 2, trips := 1 }) ∧
      (restless.run { items := [] }).2
        = some (.ok { reason := .inputClosed, reported := 0, trips := 0 }) ∧
      (restless.run { items := [] }).1.circuit.breaker.active = true :=
  ⟨⟨_, .cons rfl (.nil _)⟩, by rfl, by rfl, by rfl⟩

end Watchdog

end Tripwire
