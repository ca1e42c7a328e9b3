/-
What a watch finds in its input.

`Scan` is what a watch is meant to find, and knows neither breakers nor cycles nor timers.
It goes through the lines that the pattern picks, each with the time when it is taken, and
counts them.  The count begins anew behind a pause of a cooldown or more and behind each
trip, and the line with which it reaches the limit is a trip.  If the watch is not to be
armed again, the scan stops there.

A run of a watch that nobody else disturbs comes to what the scan of its input comes to,
`Watchdog.finds_what_scan_finds`.  The relation between the two is `Course.Tracks`: the
errors that count are the lines of the window, as long as the quiet period after the last
one is not over, and the watch looks at the signal of the cycle that goes on.

When a line is taken can be told from the script alone, `Course.entries_eq_timetable`.  That a
pause is over after thirty years makes no difference to the scan, `Scan.same_of_timetables`: as
long as a cooldown is over by then nothing counts any more behind such a pause.
-/
import Tripwire.Circuit.Phase
import Tripwire.Proofs.Lapse
import Tripwire.Proofs.Watchdog.Rest

namespace Tripwire

/-- The emission is a line for the log that is worth a warning. -/
def Emission.warns : Emission → Bool
  | .notice n => n.isWarning
  | _ => false

namespace Watchdog

/-! ### The scan -/

/-- A line that the pattern picks, and when it is taken. -/
structure Entry where
  time : Nat
  text : String
  deriving DecidableEq, Repr

/-- How far the entries have been scanned, and what has been found. -/
structure Scan where
  /-- The lines that count. -/
  window : List String := []
  /-- When the last line was taken. -/
  last : Nat := 0
  /-- The lines of each trip. -/
  segments : List (List String) := []
  /-- How many lines have been scanned. -/
  scanned : Nat := 0
  /-- Nothing more is scanned. -/
  stopped : Bool := false
  deriving DecidableEq, Repr

/-- The entries among some cues, given how long each pause lasts. -/
def timetable (lasts : Nat → Nat) (now : Nat) : List Cue → List Entry
  | [] => []
  | .line text :: cues => ⟨now, String.ofList text⟩ :: timetable lasts now cues
  | .pause ms :: cues => timetable lasts (now + lasts ms) cues

namespace Scan

/-- The lines that still count at a time: none behind a pause of a cooldown or more. -/
def pending (s : BreakerSettings) (scan : Scan) (time : Nat) : List String :=
  if scan.last + s.cooldownMs.toNat ≤ time then [] else scan.window

/-- Lines that do not count any more do not count later either. -/
theorem pending_of_le (s : BreakerSettings) (scan : Scan) {time later : Nat} (h : time ≤ later) :
    (if scan.last + s.cooldownMs.toNat ≤ later then [] else scan.pending s time)
      = scan.pending s later := by
  rw [pending, pending]
  split
  · rfl
  · rw [if_neg (by omega)]

/-- Scans one more entry, unless the scan has stopped. -/
def step (s : BreakerSettings) (rearm : Bool) (scan : Scan) (e : Entry) : Scan :=
  let window := scan.pending s e.time ++ [e.text]
  if scan.stopped then scan
  else if window.length = s.limit.toNat then
    { window := [], last := e.time, segments := scan.segments ++ [window]
      scanned := scan.scanned + 1, stopped := !rearm }
  else { scan with window, last := e.time, scanned := scan.scanned + 1 }

/-- Scans all entries, or as many as it gets before the scan stops. -/
def run (s : BreakerSettings) (rearm : Bool) (scan : Scan) (entries : List Entry) : Scan :=
  entries.foldl (step s rearm) scan

/-- A watch that comes to what the scan has come to. -/
def summary (scan : Scan) : Summary :=
  { reason := if scan.stopped then .tripped else .inputClosed
    reported := scan.scanned, trips := scan.segments.length }

/-- The line for the log about a trip of a cycle over some lines. -/
def tripNotice (cycle : Nat) (lines : List String) : Notice :=
  .tripped cycle (Text.bracketed (lines.map Text.quote))

/-- The warnings about some trips, if a circuit begins its next cycle for the first of them. -/
def warnings (c : Circuit Empty) (segments : List (List String)) : List (Event Empty) :=
  segments.mapIdx fun i lines => c.eventOf (.notice (tripNotice (c.breaker.cycle + 1 + i) lines))

theorem step_of_eq {s : BreakerSettings} {rearm : Bool} {scan : Scan} {e : Entry}
    (running : scan.stopped = false)
    (reached : (scan.pending s e.time).length + 1 = s.limit.toNat) :
    scan.step s rearm e =
      { window := [], last := e.time
        segments := scan.segments ++ [scan.pending s e.time ++ [e.text]]
        scanned := scan.scanned + 1, stopped := !rearm } := by
  simp [step, running, reached]

theorem step_of_ne {s : BreakerSettings} {rearm : Bool} {scan : Scan} {e : Entry}
    (running : scan.stopped = false)
    (below : (scan.pending s e.time).length + 1 ≠ s.limit.toNat) :
    scan.step s rearm e =
      { scan with
        window := scan.pending s e.time ++ [e.text], last := e.time
        scanned := scan.scanned + 1 } := by
  simp [step, running, below]

theorem run_cons (s : BreakerSettings) (rearm : Bool) (scan : Scan) (e : Entry)
    (entries : List Entry) :
    scan.run s rearm (e :: entries) = (scan.step s rearm e).run s rearm entries := rfl

theorem run_of_stopped (s : BreakerSettings) (rearm : Bool) {scan : Scan}
    (stopped : scan.stopped = true) (entries : List Entry) : scan.run s rearm entries = scan := by
  induction entries with
  | nil => rfl
  | cons e entries ih =>
      have hstep : scan.step s rearm e = scan := by simp [step, stopped]
      rw [run_cons, hstep]
      exact ih

/-! ### Scans by two clocks -/

section Clocks

variable {s : BreakerSettings} {now time : Nat} {a b : Scan}

/-- Two scans by different clocks have found the same, and by both the last line was taken equally
long ago, or else a cooldown ago or more. -/
structure Alike (s : BreakerSettings) (now time : Nat) (a b : Scan) : Prop where
  window : b.window = a.window
  segments : b.segments = a.segments
  scanned : b.scanned = a.scanned
  stopped : b.stopped = a.stopped
  past : a.last ≤ now ∧ b.last ≤ time
  ago : min (time - b.last) s.cooldownMs.toNat = min (now - a.last) s.cooldownMs.toNat

theorem Alike.pending (alike : Alike s now time a b) : b.pending s time = a.pending s now := by
  have := alike.past
  have := alike.ago
  have elapsed : b.last + s.cooldownMs.toNat ≤ time ↔ a.last + s.cooldownMs.toNat ≤ now := by omega
  simp only [Scan.pending, elapsed, alike.window]

theorem Alike.step (alike : Alike s now time a b) (rearm : Bool) (text : String) :
    Alike s now time (a.step s rearm ⟨now, text⟩) (b.step s rearm ⟨time, text⟩) := by
  rw [Scan.step, Scan.step]
  dsimp only
  rw [alike.pending, alike.stopped]
  split
  · exact alike
  · split
    · exact ⟨rfl, by rw [alike.segments], by rw [alike.scanned], rfl, by simp, by simp⟩
    · exact ⟨rfl, alike.segments, by rw [alike.scanned], rfl, by simp, by simp⟩

/-- A pause that is cut off is over when nothing counts any more. -/
theorem Alike.pause (alike : Alike s now time a b)
    (cooldown : s.cooldownMs.toNat ≤ Alarm.farthest) (ms : Nat) :
    Alike s (now + min ms Alarm.farthest) (time + ms) a b :=
  have := alike.past
  have := alike.ago
  { alike with
    past := by omega
    ago := by omega }

/-- **Pauses that are cut off at thirty years make no difference to a scan.** -/
theorem same_of_timetables (cooldown : s.cooldownMs.toNat ≤ Alarm.farthest) (rearm : Bool)
    (cues : List Cue) : ∀ {now time : Nat} {a b : Scan}, Alike s now time a b →
      let found := a.run s rearm (timetable (min · Alarm.farthest) now cues)
      let found' := b.run s rearm (timetable id time cues)
      found'.segments = found.segments ∧ found'.summary = found.summary := by
  induction cues with
  | nil =>
      intro now time a b alike
      refine ⟨alike.segments, ?_⟩
      show b.summary = a.summary
      rw [summary, summary, alike.segments, alike.scanned, alike.stopped]
  | cons cue cues ih =>
      intro now time a b alike
      cases cue with
      | line text => exact ih (alike.step rearm (String.ofList text))
      | pause ms => exact ih (alike.pause cooldown ms)

end Clocks

/-! ### Scans without pauses -/

section Pauseless

variable {s : BreakerSettings} {time : Nat}

/-- What a line does to the numbers in a scan, if nothing stops counting in the meantime. -/
theorem step_cases (valid : 0 < s.cooldownMs.toNat) (rearm : Bool) {scan : Scan}
    (running : scan.stopped = false) (below : (scan.pending s time).length < s.limit.toNat)
    (text : String) :
    let next := scan.step s rearm ⟨time, text⟩
    next.scanned = scan.scanned + 1 ∧
      (((scan.pending s time).length + 1 = s.limit.toNat ∧ next.stopped = !rearm ∧
          (next.pending s time).length = 0 ∧ next.segments.length = scan.segments.length + 1) ∨
        ((scan.pending s time).length + 1 < s.limit.toNat ∧ next.stopped = false ∧
          (next.pending s time).length = (scan.pending s time).length + 1 ∧
          next.segments.length = scan.segments.length)) := by
  have pending_of_last {scan : Scan} (h : scan.last = time) : scan.pending s time = scan.window := by
    rw [pending, h, if_neg (by omega)]
  intro next
  by_cases reached : (scan.pending s time).length + 1 = s.limit.toNat
  · have hnext : next = _ := step_of_eq running reached
    rw [hnext]
    refine ⟨rfl, .inl ⟨reached, rfl, ?_, by simp⟩⟩
    rw [pending_of_last rfl]
    rfl
  · have hnext : next = _ := step_of_ne running reached
    rw [hnext]
    refine ⟨rfl, .inr ⟨by omega, running, ?_, rfl⟩⟩
    rw [pending_of_last rfl, List.length_append]
    rfl

/-- Without pauses there is a trip with each limit of lines. -/
theorem run_of_rearm (valid : 0 < s.cooldownMs.toNat) (entries : List Entry)
    (now : ∀ e ∈ entries, e.time = time) : ∀ scan : Scan, scan.stopped = false →
      (scan.pending s time).length < s.limit.toNat →
      let last := scan.run s true entries
      last.stopped = false ∧ last.scanned = scan.scanned + entries.length ∧
        last.segments.length = scan.segments.length
          + ((scan.pending s time).length + entries.length) / s.limit.toNat := by
  induction entries with
  | nil =>
      intro scan running below
      exact ⟨running, rfl, by simp [run, Nat.div_eq_of_lt below]⟩
  | cons e entries ih =>
      intro scan running below
      have ih := ih fun e h => now e (List.mem_cons_of_mem _ h)
      obtain ⟨t, text⟩ := e
      obtain rfl : t = time := now _ List.mem_cons_self
      obtain ⟨hscanned, hcases⟩ := step_cases valid true running below text
      rw [run_cons, List.length_cons]
      generalize scan.step s true ⟨t, text⟩ = next at hscanned hcases
      rcases hcases with ⟨reached, hstopped, hpending, hsegments⟩ |
        ⟨below', hstopped, hpending, hsegments⟩
      · obtain ⟨hstopped', hscanned', hsegments'⟩ := ih next hstopped (by omega)
        refine ⟨hstopped', by omega, ?_⟩
        have hsum : (scan.pending s t).length + (entries.length + 1)
            = entries.length + s.limit.toNat := by omega
        rw [hsum, Nat.add_div_right _ (by omega), hsegments', hsegments, hpending, Nat.zero_add]
        omega
      · obtain ⟨hstopped', hscanned', hsegments'⟩ := ih next hstopped (by omega)
        refine ⟨hstopped', by omega, ?_⟩
        rw [hsegments', hsegments, hpending]
        congr 2
        omega

/-- Without pauses and without being armed again there is one trip, with the limit of lines. -/
theorem run_of_not_rearm (valid : 0 < s.cooldownMs.toNat) (entries : List Entry)
    (now : ∀ e ∈ entries, e.time = time) : ∀ scan : Scan, scan.stopped = false →
      (scan.pending s time).length < s.limit.toNat →
      let last := scan.run s false entries
      let lines := (scan.pending s time).length + entries.length
      last.stopped = decide (s.limit.toNat ≤ lines) ∧
        last.scanned + (scan.pending s time).length = scan.scanned + min lines s.limit.toNat ∧
        last.segments.length
          = scan.segments.length + if s.limit.toNat ≤ lines then 1 else 0 := by
  induction entries with
  | nil =>
      intro scan running below
      simp [run, running]
      omega
  | cons e entries ih =>
      intro scan running below
      have ih := ih fun e h => now e (List.mem_cons_of_mem _ h)
      obtain ⟨t, text⟩ := e
      obtain rfl : t = time := now _ List.mem_cons_self
      obtain ⟨hscanned, hcases⟩ := step_cases valid false running below text
      rw [run_cons, List.length_cons]
      generalize scan.step s false ⟨t, text⟩ = next at hscanned hcases
      rcases hcases with ⟨reached, hstopped, hpending, hsegments⟩ |
        ⟨below', hstopped, hpending, hsegments⟩
      · rw [run_of_stopped _ _ hstopped]
        refine ⟨?_, by omega, ?_⟩
        · rw [hstopped, decide_eq_true (by omega)]
          rfl
        · rw [hsegments, if_pos (by omega)]
      · obtain ⟨hstopped', hscanned', hsegments'⟩ := ih next hstopped (by omega)
        have hsum : (next.pending s t).length + entries.length
            = (scan.pending s t).length + (entries.length + 1) := by omega
        rw [hsum] at hstopped' hscanned' hsegments'
        refine ⟨hstopped', by omega, by omega⟩

/-- What a scan comes to for so many lines without a pause. -/
def countOnly (limit : Nat) (rearm : Bool) (lines : Nat) : Summary :=
  if rearm then { reason := .inputClosed, reported := lines, trips := lines / limit }
  else if limit ≤ lines then { reason := .tripped, reported := limit, trips := 1 }
  else { reason := .inputClosed, reported := lines, trips := 0 }

/-- **Without pauses only the number of lines matters.** -/
theorem summary_run_of_pauseless (valid : 0 < s.cooldownMs.toNat) (positive : 0 < s.limit.toNat)
    (rearm : Bool) (entries : List Entry) (now : ∀ e ∈ entries, e.time = time) :
    (run s rearm {} entries).summary = countOnly s.limit.toNat rearm entries.length := by
  have empty : (pending s {} time).length = 0 := by
    rw [pending]
    split <;> rfl
  cases rearm with
  | true =>
      obtain ⟨hstopped, hscanned, hsegments⟩ :=
        run_of_rearm valid entries now {} rfl (by omega)
      rw [summary, hstopped, hscanned, hsegments, empty]
      simp [countOnly]
  | false =>
      obtain ⟨hstopped, hscanned, hsegments⟩ :=
        run_of_not_rearm valid entries now {} rfl (by omega)
      rw [empty] at hstopped hscanned hsegments
      rw [summary, hstopped, hsegments, show (run s false {} entries).scanned = _ from hscanned]
      by_cases h : s.limit.toNat ≤ entries.length
      · simp [countOnly, h]
      · simp [countOnly, h]
        omega

end Pauseless

end Scan

/-! ### What is counted and recorded -/

/-- The event is a warning. -/
def isWarning : Event Empty → Bool
  | .notice n => n.isWarning
  | .record r => r.level = .warn
  | _ => false

theorem isWarning_eventOf (c : Circuit Empty) (e : Emission) :
    isWarning (c.eventOf e) = e.warns := by
  cases e with
  | counter k => rfl
  | gauge count => rfl
  | notice n =>
      cases hn : n.isWarning <;> cases hsink : c.sink <;>
        simp [Circuit.eventOf, Sink.event, isWarning, Emission.warns, hsink, hn]

/-- So many errors and trips have been counted, there are so many records about trips, and these
are the warnings. -/
structure Tally (counted tripped recorded : Nat) (warned events : List (Event Empty)) : Prop where
  errors : events.countP (Event.isCounter .errors) = counted
  trips : events.countP (Event.isCounter .trips) = tripped
  records : events.countP isTripRecord = recorded
  warnings : events.filter isWarning = warned

namespace Tally

variable {counted tripped recorded counted' tripped' recorded' : Nat}
variable {warned events warned' events' : List (Event Empty)}

theorem append (first : Tally counted tripped recorded warned events)
    (second : Tally counted' tripped' recorded' warned' events') :
    Tally (counted + counted') (tripped + tripped') (recorded + recorded') (warned ++ warned')
      (events ++ events') where
  errors := by rw [List.countP_append, first.errors, second.errors]
  trips := by rw [List.countP_append, first.trips, second.trips]
  records := by rw [List.countP_append, first.records, second.records]
  warnings := by rw [List.filter_append, first.warnings, second.warnings]

/-- What a breaker has told can be tallied before it becomes events. -/
theorem of_emissions (c : Circuit Empty) (emissions : List Emission) :
    Tally (emissions.count (.counter .errors)) (emissions.count (.counter .trips)) 0
      ((emissions.filter Emission.warns).map c.eventOf) (emissions.map c.eventOf) where
  errors := by
    rw [List.countP_map, List.count]
    refine List.countP_congr fun e _ => ?_
    simp [Circuit.isCounter_eventOf]
  trips := by
    rw [List.countP_map, List.count]
    refine List.countP_congr fun e _ => ?_
    simp [Circuit.isCounter_eventOf]
  records := by
    rw [List.countP_map, List.countP_eq_zero]
    simp [Course.isTripRecord_eventOf]
  warnings := by
    rw [List.filter_map]
    refine congrArg _ (List.filter_congr fun e _ => ?_)
    exact isWarning_eventOf c e

/-- What comes when the count is cleared adds nothing. -/
theorem of_resets (c : Circuit Empty) {emissions : List Emission}
    (resets : ∀ e ∈ emissions, e.isReset = true) :
    Tally 0 0 0 [] (emissions.map c.eventOf) := by
  have htally := of_emissions c emissions
  have none (k : Counter) (h : (Emission.counter k).isReset = false) :
      emissions.count (.counter k) = 0 := by
    rw [List.count_eq_zero]
    intro hmem
    rw [resets _ hmem] at h
    simp at h
  have silent : emissions.filter Emission.warns = [] := by
    rw [List.filter_eq_nil_iff]
    intro e he hwarns
    have hreset := resets e he
    cases e with
    | notice n => cases n <;> simp [Emission.isReset, Emission.warns, Notice.isWarning] at hreset hwarns
    | _ => simp [Emission.warns] at hwarns
  rwa [none .errors rfl, none .trips rfl, silent] at htally

end Tally

namespace Course

/-! ### A watch that nobody disturbs -/

/-- Reports a line and does nothing else about it yet. -/
def hear (c : Course) (text : List Char) : Course :=
  { c with reported := c.reported + 1 }.operate (.addError (.text (String.ofList text)))

theorem report_eq (c : Course) (text : List Char) : c.report text
    = if (c.hear text).breaker.isTripped (c.hear text).cycle then (c.hear text).onTrip
      else (c.hear text, none) := rfl

/-- The time on the clock of the watch. -/
def now (c : Course) : Nat := c.dog.circuit.now

/-- What a line does to the circuit, before the watch looks at the signal. -/
theorem circuit_hear {c : Course} (quiet : c.dog.circuit.sink.queued = 0) (text : List Char) :
    (c.hear text).dog.circuit = c.dog.circuit.undergo
      (c.breaker.addError c.dog.circuit.settings c.now (.text (String.ofList text))) :=
  Circuit.perform_of_quiet quiet (.addError (.text (String.ofList text)))

/-- What has happened and has not been looked at yet. -/
def events (c : Course) : List (Event Empty) := c.dog.circuit.events.toList

/-- The watch has found what the scan has found since its run has begun. -/
structure Sums (w : Watchdog) (scan : Scan) (c : Course) : Prop where
  settings : c.dog.circuit.settings = w.circuit.settings
  sink : c.dog.circuit.sink = w.circuit.sink
  watch : c.dog.watch = w.watch
  reported : c.reported = scan.scanned
  trips : c.trips = scan.segments.length
  full : ∀ lines ∈ scan.segments, lines.length = w.circuit.settings.limit.toNat
  tally : Tally scan.scanned scan.segments.length scan.segments.length
    (Scan.warnings w.circuit scan.segments) c.events

/-- The watch has found what the scan has found, and goes on.  The errors that count are the lines
that are pending in the scan, and the cycle is the one whose signal the watch looks at. -/
structure Tracks (w : Watchdog) (scan : Scan) (c : Course) : Prop extends Sums w scan c where
  running : scan.stopped = false
  ticking : c.dog.circuit.Ticking scan.last
  active : c.breaker.active = true
  begun : c.cycle = c.breaker.cycle
  cycle_eq : c.breaker.cycle = w.circuit.breaker.cycle + 1 + scan.segments.length
  errors : c.breaker.errors = (scan.pending w.circuit.settings.capped c.now).map .text

variable {w : Watchdog} {scan : Scan} {c : Course}

/-- The record about a trip is no warning, and no counter. -/
theorem events_noteTrip (c : Course) : ∃ record, c.noteTrip.events = c.events ++ [record] ∧
    Tally 0 0 1 [] [record] := by
  refine ⟨_, Array.toList_push, ?_⟩
  constructor <;> simp [Event.isCounter, isTripRecord, isWarning]

theorem Sums.eventOf (sums : Sums w scan c) : c.dog.circuit.eventOf = w.circuit.eventOf :=
  Circuit.eventOf_congr sums.settings sums.sink

namespace Tracks

theorem current (tracks : Tracks w scan c) :
    c.breaker.current = (scan.pending w.circuit.settings.capped c.now).length := by
  rw [Breaker.current, tracks.errors, List.length_map]

/-- A line counts with the settings that the watch has been made with. -/
theorem circuit_hear (tracks : Tracks w scan c) (text : List Char) :
    (c.hear text).dog.circuit = c.dog.circuit.undergo
      (c.breaker.addError w.circuit.settings c.now (.text (String.ofList text))) := by
  rw [← tracks.settings]
  exact Course.circuit_hear tracks.ticking.quiet text

/-- A line that does not reach the limit counts. -/
theorem count (tracks : Tracks w scan c) (valid : 0 < w.circuit.settings.capped.cooldownMs.toNat)
    (text : List Char)
    (below : (scan.pending w.circuit.settings.capped c.now).length + 1 ≠ w.circuit.settings.limit.toNat) :
    (c.report text).2 = none ∧
      Tracks w (scan.step w.circuit.settings.capped w.watch.rearm ⟨c.now, String.ofList text⟩)
        (c.report text).1 := by
  have hlt : c.breaker.current + 1 < w.circuit.settings.limit.toNat := by
    have : c.breaker.current < c.dog.circuit.settings.limit.toNat :=
      (tracks.ticking.calm tracks.active).below
    rw [tracks.settings] at this
    rw [tracks.current] at this ⊢
    omega
  have hcircuit := tracks.circuit_hear text
  rw [Breaker.addError_of_lt tracks.active hlt] at hcircuit
  have hbreaker : (c.hear text).breaker = (c.breaker.count (.text (String.ofList text))).arm
      w.circuit.settings c.now := congrArg Circuit.breaker hcircuit
  have hunfired : (c.hear text).breaker.isTripped (c.hear text).cycle = false := by
    rw [← Bool.not_eq_true, Breaker.isTripped_iff, hbreaker]
    exact tracks.begun ▸ tracks.ticking.sound.unfired tracks.active
  have hreport : c.report text = (c.hear text, none) := by rw [report_eq, hunfired]; rfl
  rw [hreport, Scan.step_of_ne tracks.running below]
  refine ⟨rfl, ?_⟩
  have htally := tracks.tally.append (.of_emissions c.dog.circuit
    [.counter .errors, .gauge (c.breaker.current + 1)])
  exact
    { settings := by rw [hcircuit]; exact tracks.settings
      sink := by rw [hcircuit]; exact tracks.sink
      watch := tracks.watch
      reported := congrArg (· + 1) tracks.reported
      trips := tracks.trips
      full := tracks.full
      tally := by
        rw [events, hcircuit, Circuit.events_undergo]
        simpa [Emission.warns, events] using htally
      running := tracks.running
      ticking := by
        rw [tracks.circuit_hear, ← tracks.settings]
        exact tracks.ticking.report tracks.active (tracks.settings ▸ hlt)
      active := by rw [hbreaker]; exact tracks.active
      begun := by rw [hbreaker]; exact tracks.begun
      cycle_eq := by rw [hbreaker]; exact tracks.cycle_eq
      errors := by
        have hnow : (c.hear text).now = c.now := by
          rw [now, hcircuit]
          rfl
        rw [hbreaker, hnow, Scan.pending, if_neg (by dsimp only; omega), List.map_append,
          ← tracks.errors]
        rfl }

/-- A line that reaches the limit trips the breaker. -/
theorem circuit_hear_of_trip (tracks : Tracks w scan c) (text : List Char)
    (reached : (scan.pending w.circuit.settings.capped c.now).length + 1
      = w.circuit.settings.limit.toNat) :
    (c.hear text).dog.circuit = c.dog.circuit.undergo
      { breaker := (c.breaker.count (.text (String.ofList text))).fire.endCycle
        emissions := [.counter .errors, .gauge (c.breaker.current + 1), .counter .trips, .gauge 0,
          .notice (Scan.tripNotice c.breaker.cycle
            (scan.pending w.circuit.settings.capped c.now ++ [String.ofList text]))] } := by
  have printed : Report.printList (c.breaker.errors ++ [.text (String.ofList text)])
      = .ok (Text.bracketed
        ((scan.pending w.circuit.settings.capped c.now ++ [String.ofList text]).map Text.quote)) := by
    rw [tracks.errors, ← Report.printList_map_text, List.map_append]
    rfl
  have hle : w.circuit.settings.limit.toNat ≤ c.breaker.current + 1 := by
    rw [tracks.current]
    exact Nat.le_of_eq reached.symm
  rw [tracks.circuit_hear, Breaker.addError_of_le tracks.active hle printed]
  rfl

/-- Behind a line that reaches the limit the record about the trip is written. -/
theorem trip (tracks : Tracks w scan c) (text : List Char)
    (reached : (scan.pending w.circuit.settings.capped c.now).length + 1
      = w.circuit.settings.limit.toNat) :
    (c.hear text).breaker.isTripped (c.hear text).cycle = true ∧
      Sums w (scan.step w.circuit.settings.capped w.watch.rearm ⟨c.now, String.ofList text⟩)
        (c.hear text).noteTrip := by
  have hcircuit := tracks.circuit_hear_of_trip text reached
  have hfired : (c.hear text).breaker.fired = c.breaker.cycle :: c.breaker.fired := by
    rw [breaker, hcircuit]
    exact tracks.ticking.sound.fired_trip tracks.active _
  refine ⟨?_, ?_⟩
  · rw [Breaker.isTripped_iff, hfired]
    exact tracks.begun ▸ List.mem_cons_self
  rw [Scan.step_of_eq tracks.running reached]
  have htally := tracks.tally.append (.of_emissions c.dog.circuit
    [.counter .errors, .gauge (c.breaker.current + 1), .counter .trips, .gauge 0,
      .notice (Scan.tripNotice c.breaker.cycle
        (scan.pending w.circuit.settings.capped c.now ++ [String.ofList text]))])
  exact
    { settings := by
        show (c.hear text).dog.circuit.settings = _
        rw [hcircuit]
        exact tracks.settings
      sink := by
        show (c.hear text).dog.circuit.sink = _
        rw [hcircuit]
        exact tracks.sink
      watch := tracks.watch
      reported := congrArg (· + 1) tracks.reported
      trips := by
        rw [List.length_append, ← tracks.trips]
        rfl
      full := by
        intro lines hlines
        rcases List.mem_append.mp hlines with hlines | hlines
        · exact tracks.full lines hlines
        · rw [List.mem_singleton.mp hlines, List.length_append]
          exact reached
      tally := by
        obtain ⟨record, hevents, hrecord⟩ := events_noteTrip (c.hear text)
        have hall := htally.append hrecord
        rw [hevents, events, hcircuit, Circuit.events_undergo, Scan.warnings, List.mapIdx_concat,
          ← tracks.cycle_eq, List.length_append]
        simpa [List.filter, Emission.warns, Scan.tripNotice, Notice.isWarning, Scan.warnings,
          tracks.eventOf, events] using hall }

end Tracks

/-- A watch that begins a cycle looks for lines from the beginning. -/
theorem Sums.activate (sums : Sums w scan c) (tame : c.dog.circuit.Tame)
    (running : scan.stopped = false) (window : scan.window = [])
    (cycle_eq : c.breaker.cycle + 1 = w.circuit.breaker.cycle + 1 + scan.segments.length) :
    Tracks w scan c.activate := by
  have hcircuit : c.activate.dog.circuit = c.dog.circuit.undergo c.breaker.activate :=
    Circuit.perform_of_quiet tame.quiet .activate
  have hbreaker : c.activate.breaker = c.breaker.activate.breaker :=
    congrArg Circuit.breaker hcircuit
  have htally := sums.tally.append (.of_emissions c.dog.circuit c.breaker.activate.emissions)
  exact
    { settings := by rw [hcircuit]; exact sums.settings
      sink := by rw [hcircuit]; exact sums.sink
      watch := sums.watch
      reported := sums.reported
      trips := sums.trips
      full := sums.full
      tally := by
        rw [events, hcircuit, Circuit.events_undergo]
        cases hactive : c.breaker.active <;>
          simpa [Breaker.activate, hactive, List.filter, Emission.warns, Notice.isWarning, events]
            using htally
      running := running
      ticking := by
        rw [hcircuit]
        exact .ofActivate tame scan.last
      active := by rw [hbreaker]; rfl
      begun := rfl
      cycle_eq := by rw [hbreaker]; exact cycle_eq
      errors := by
        have herrors : c.breaker.activate.breaker.errors = [] := tame.sound.errors_activate
        rw [hbreaker, herrors, Scan.pending, window, ite_self]
        rfl }

/-- While nothing arrives lines count until a cooldown has passed. -/
theorem Tracks.pause (tracks : Tracks w scan c) (ms : Nat) :
    Tracks w scan (c.onCircuit fun circuit => circuit.pass ms) := by
  obtain ⟨ticking, later, -, active, cycle, -, errors⟩ :=
    Circuit.lapses_pass tracks.ticking ms
  obtain ⟨emissions, resets, tells⟩ := Circuit.tells_pass tracks.ticking.quiet ms
  have htally := tracks.tally.append (.of_resets c.dog.circuit resets)
  exact
    { settings := tells.settings.trans tracks.settings
      sink := tells.sink.trans tracks.sink
      watch := tracks.watch
      reported := tracks.reported
      trips := tracks.trips
      full := tracks.full
      tally := by
        rw [events, onCircuit, tells.events]
        simpa [events] using htally
      running := tracks.running
      ticking := ticking
      active := active.trans tracks.active
      begun := tracks.begun.trans cycle.symm
      cycle_eq := cycle.trans tracks.cycle_eq
      errors := by
        have hquiet : Breaker.quietEnd c.dog.circuit.settings scan.last
            = scan.last + w.circuit.settings.capped.cooldownMs.toNat := by
          rw [tracks.settings, Breaker.quietEnd_capped]
        have hpending : c.dog.circuit.breaker.errors = _ := tracks.errors
        rw [hquiet, hpending] at errors
        refine errors.trans ?_
        show _ = (scan.pending _ (c.dog.circuit.pass ms).now).map Report.text
        rw [← scan.pending_of_le _ later]
        split <;> rfl }

/-- A line is to a watch that nobody disturbs what it is to the scan. -/
theorem Tracks.line (tracks : Tracks w scan c) (valid : 0 < w.circuit.settings.capped.cooldownMs.toNat)
    (text : List Char) :
    let next := scan.step w.circuit.settings.capped w.watch.rearm ⟨c.now, String.ofList text⟩
    (next.stopped = false ∧ (c.report text).2 = none ∧ Tracks w next (c.report text).1) ∨
      (next.stopped = true ∧ (c.report text).2 = some (.reason .tripped) ∧
        Sums w next (c.report text).1) := by
  intro next
  by_cases reached : (scan.pending w.circuit.settings.capped c.now).length + 1
      = w.circuit.settings.limit.toNat
  · obtain ⟨tripped, sums⟩ := tracks.trip text reached
    have hnext : next = _ := Scan.step_of_eq tracks.running reached
    have hstopped : next.stopped = !w.watch.rearm := by rw [hnext]
    rw [report_eq, if_pos tripped, onTrip_eq,
      show (c.hear text).dog.watch = w.watch from tracks.watch]
    cases hrearm : w.watch.rearm with
    | true =>
        have running : next.stopped = false := by rw [hstopped, hrearm]; rfl
        have tame : (c.hear text).noteTrip.dog.circuit.Tame :=
          (tracks.ticking.toTame.perform _).congr rfl rfl rfl
        have cycle_eq : (c.hear text).breaker.cycle = c.breaker.cycle := by
          rw [breaker, tracks.circuit_hear_of_trip text reached, Circuit.breaker_undergo,
            Breaker.fire]
          split <;> rfl
        have segments : next.segments.length = scan.segments.length + 1 := by
          rw [hnext, List.length_append]
          rfl
        refine .inl ⟨running, rfl, sums.activate tame running (congrArg Scan.window hnext) ?_⟩
        show (c.hear text).breaker.cycle + 1 = _ + next.segments.length
        rw [cycle_eq, tracks.cycle_eq, segments]
        rfl
    | false => exact .inr ⟨by rw [hstopped, hrearm]; rfl, rfl, sums⟩
  · obtain ⟨hnone, tracks'⟩ := tracks.count valid text reached
    exact .inl ⟨tracks'.running, hnone, tracks'⟩

/-- The entries of a watch: the lines among its cues, and when it takes them. -/
def entries (c : Course) : List Cue → List Entry
  | [] => []
  | .line text :: cues => ⟨c.now, String.ofList text⟩ :: (c.report text).1.entries cues
  | .pause ms :: cues => (c.onCircuit fun circuit => circuit.pass ms).entries cues

/-- **What a watch that nobody disturbs finds is what the scan finds.** -/
theorem Tracks.walk (valid : 0 < w.circuit.settings.capped.cooldownMs.toNat) (cues : List Cue) :
    ∀ {scan : Scan} {c : Course}, Tracks w scan c →
      let last := scan.run w.circuit.settings.capped w.watch.rearm (c.entries cues)
      (c.walk cues).2 = (if last.stopped then some (.reason .tripped) else none) ∧
        Sums w last (c.walk cues).1 := by
  induction cues with
  | nil =>
      intro scan c tracks
      exact ⟨by simp [Course.walk, entries, Scan.run, tracks.running], tracks.toSums⟩
  | cons cue cues ih =>
      intro scan c tracks
      cases cue with
      | line text =>
          rw [Course.walk, entries]
          cases hreport : c.report text with
          | mk next ending =>
              rcases tracks.line valid text with ⟨running, hnone, tracks'⟩ |
                ⟨stopped, hsome, sums⟩
              · rw [hreport] at hnone tracks'
                obtain rfl : ending = none := hnone
                exact ih tracks'
              · rw [hreport] at hsome sums
                obtain rfl : ending = _ := hsome
                intro last
                have hlast : last = scan.step w.circuit.settings.capped w.watch.rearm
                    ⟨c.now, String.ofList text⟩ := Scan.run_of_stopped _ _ stopped _
                rw [hlast, stopped]
                exact ⟨rfl, sums⟩
      | pause ms =>
          rw [Course.walk, entries]
          exact ih (tracks.pause ms)

/-! ### When lines are taken -/

theorem chores_now (time : Nat) : Chores fun c => c.now = time where
  hold _ _ h := h
  begin _ _ h := h
  count _ h := h
  noteTrip _ h := h
  operate c op h := (Circuit.now_perform c.dog.circuit op).trans h

/-- **Lines are taken when the script has them**, but for pauses of more than thirty years. -/
theorem entries_eq_timetable (cues : List Cue) :
    ∀ c : Course, c.entries cues = timetable (min · Alarm.farthest) c.now cues := by
  induction cues with
  | nil => intro c; rfl
  | cons cue cues ih =>
      intro c
      cases cue with
      | line text =>
          have hnow : (c.report text).1.now = c.now := (chores_now c.now).report rfl text
          rw [entries, timetable, ih, hnow]
      | pause ms =>
          have hnow : (c.onCircuit fun circuit => circuit.pass ms).now
              = c.now + min ms Alarm.farthest := (Circuit.pass_spec c.dog.circuit ms).1
          rw [entries, timetable, ih, hnow]

/-- The scan of a watch ends in a number of lines; so many there are among its cues. -/
theorem length_entries (cues : List Cue) : ∀ c : Course,
    (c.entries cues).length = (cues.filterMap Cue.line?).length := by
  induction cues with
  | nil => intro c; rfl
  | cons cue cues ih =>
      intro c
      cases cue with
      | line text =>
          have hline : (Cue.line text).line? = some text := rfl
          rw [entries, List.filterMap_cons_some hline, List.length_cons, List.length_cons, ih]
      | pause ms => exact ih _

/-- Without pauses all lines are taken at once. -/
theorem time_of_entries (cues : List Cue) (pauseless : ∀ ms, .pause ms ∉ cues) :
    ∀ {c : Course}, ∀ e ∈ c.entries cues, e.time = c.now := by
  induction cues with
  | nil => intro c e he; simp [entries] at he
  | cons cue cues ih =>
      intro c e he
      have ih := @ih fun ms h => pauseless ms (List.mem_cons_of_mem _ h)
      cases cue with
      | line text =>
          rw [entries] at he
          rcases List.mem_cons.mp he with rfl | he
          · rfl
          · exact (ih e he).trans ((chores_now c.now).report rfl text)
      | pause ms => exact absurd List.mem_cons_self (pauseless ms)

/-! ### Whole runs -/

/-- A watch that has just begun has found nothing. -/
theorem tracks_start (tame : w.circuit.Tame) (events : w.circuit.events = #[]) (script : Script) :
    Tracks w {} (w.start script) := by
  have sums (listeners : Nat) : Sums w {} { dog := { w with listeners }, cycle := 0 } :=
    { settings := rfl
      sink := rfl
      watch := rfl
      reported := rfl
      trips := rfl
      full := by simp
      tally := by
        rw [Course.events, events]
        exact ⟨rfl, rfl, rfl, rfl⟩ }
  exact (sums _).activate tame rfl rfl rfl

/-- A watch that is over has found what it had found before. -/
theorem Sums.conclude (sums : Sums w scan c) (quiet : w.circuit.sink.queued = 0) (r : Reason) :
    (c.conclude (.reason r)).2 = some (.ok
        { reason := r, reported := scan.scanned, trips := scan.segments.length }) ∧
      Tally scan.scanned scan.segments.length scan.segments.length
        (Scan.warnings w.circuit scan.segments) (c.conclude (.reason r)).1.events := by
  have hcircuit : (c.operate .deactivate).dog.circuit = c.dog.circuit.undergo c.breaker.deactivate :=
    Circuit.perform_of_quiet (sums.sink ▸ quiet) .deactivate
  have hevents : (c.operate .deactivate).events
      = c.events ++ c.breaker.deactivate.emissions.map c.dog.circuit.eventOf := by
    rw [events, hcircuit, Circuit.events_undergo]
    rfl
  have stopped := sums.tally.append (.of_emissions c.dog.circuit c.breaker.deactivate.emissions)
  refine ⟨?_, ?_⟩
  · rw [← sums.reported, ← sums.trips]
    rfl
  · obtain ⟨record, hlog, silent⟩ : ∃ record,
        (c.conclude (.reason r)).1.events = (c.operate .deactivate).events ++ [record] ∧
          Tally 0 0 0 [] [record] := by
      refine ⟨_, Array.toList_push, ?_⟩
      constructor <;> simp [Event.isCounter, isTripRecord, isWarning]
    have all := stopped.append silent
    rw [← hevents, ← hlog] at all
    cases hactive : c.breaker.active <;>
      simpa [Breaker.deactivate, hactive, Emission.warns, Notice.isWarning, List.filter] using all

end Course

/-- The pauses among the cues of a script are its own. -/
theorem sleep_of_pause (watch : WatchSettings) {ms : Nat} (items : List Item) :
    ∀ held, .pause ms ∈ cues watch held items → .sleep ms ∈ items := by
  have unheard (lines : List (List UInt8)) : Cue.pause ms ∉ heard watch lines := by
    simp [heard]
  induction items with
  | nil => intro held h; simp [cues] at h
  | cons item items ih =>
      intro held h
      cases item with
      | data bytes =>
          rw [cues, List.mem_append] at h
          exact List.mem_cons_of_mem _ (ih _ (h.resolve_left (unheard _)))
      | endOfInput =>
          rw [cues] at h
          split at h
          · simp at h
          · rw [List.mem_append] at h
            exact List.mem_cons_of_mem _ (ih _ (h.resolve_left (unheard _)))
      | sleep rest =>
          rw [cues] at h
          rcases List.mem_cons.mp h with heq | h
          · obtain rfl : ms = rest := Cue.pause.inj heq
            exact List.mem_cons_self
          · exact List.mem_cons_of_mem _ (ih _ h)
      | _ => exact List.mem_cons_of_mem _ (ih _ h)

/-! ### Whole runs -/

section Runs

variable {w : Watchdog} {script : Script}

/-- The settings stay as they are, and so does a sink that has no reactions. -/
theorem upkeep_made {sink : Sink Empty} (quiet : sink.queued = 0) (settings : BreakerSettings) :
    Upkeep fun c => c.dog.circuit.settings = settings ∧ c.dog.circuit.sink = sink := by
  refine .ofCircuit (p := fun c => c.settings = settings ∧ c.sink = sink) ?_
    (fun _ _ _ h => h) ?_
  · intro c op h
    have tells := Circuit.tells_perform (c := c) (h.2 ▸ quiet) op
    exact ⟨tells.settings.trans h.1, tells.sink.trans h.2⟩
  · intro c ms h
    obtain ⟨_, -, tells⟩ := Circuit.tells_pass (c := c) (h.2 ▸ quiet) ms
    exact ⟨tells.settings.trans h.1, tells.sink.trans h.2⟩

theorem made_run (quiet : w.circuit.sink.queued = 0) (script : Script) :
    (w.run script).1.circuit.settings = w.circuit.settings ∧
      (w.run script).1.circuit.sink = w.circuit.sink := by
  have upkeep := upkeep_made quiet w.circuit.settings
  have begun : (w.start script).dog.circuit.settings = w.circuit.settings ∧
      (w.start script).dog.circuit.sink = w.circuit.sink :=
    upkeep.operate { dog := w, cycle := 0 } .activate ⟨rfl, rfl⟩
  obtain ⟨last, ending, made, hrun⟩ := upkeep.run begun
  rw [hrun]
  cases ending with
  | never => exact made
  | failure e => exact upkeep.operate last .deactivate made
  | reason r => exact upkeep.operate last .deactivate made

theorem made_after (quiet : w.circuit.sink.queued = 0) (scripts : List Script) :
    (w.after scripts).circuit.settings = w.circuit.settings ∧
      (w.after scripts).circuit.sink = w.circuit.sink := by
  induction scripts generalizing w with
  | nil => exact ⟨rfl, rfl⟩
  | cons script scripts ih =>
      obtain ⟨settings, sink⟩ := made_run quiet script
      have quiet' : (w.run script).1.drained.circuit.sink.queued = 0 :=
        (congrArg Sink.queued sink).trans quiet
      exact ⟨(ih quiet').1.trans settings, (ih quiet').2.trans sink⟩

/-- A run comes to what the scan of its cues comes to. -/
theorem run_of_scan (tame : w.circuit.Tame) (events : w.circuit.events = #[])
    (positive : 0 < w.circuit.settings.capped.cooldownMs.toNat)
    (unasked : script.requests = 0) (input : ∀ item ∈ script.items, item.isInput = true) :
    let found := Scan.run w.circuit.settings.capped w.watch.rearm {}
      ((w.start script).entries (cues w.watch [] (script.items ++ [.endOfInput])))
    (w.run script).2 = some (.ok found.summary) ∧
      Tally found.scanned found.segments.length found.segments.length
        (Scan.warnings w.circuit found.segments) (w.run script).1.circuit.events.toList ∧
      (∀ lines ∈ found.segments, lines.length = w.circuit.settings.limit.toNat) := by
  rw [run_of_input unasked input]
  generalize cues w.watch [] (script.items ++ [.endOfInput]) = heard
  intro found
  obtain ⟨hending, sums⟩ := (Course.tracks_start tame events script).walk positive heard
  have hreason : ((w.start script).walk heard).2.getD (.reason .inputClosed)
      = .reason found.summary.reason := by
    rw [hending, Scan.summary]
    cases found.stopped <;> rfl
  obtain ⟨hresult, tally⟩ := sums.conclude tame.quiet found.summary.reason
  dsimp only
  rw [hreason]
  exact ⟨hresult, tally, sums.full⟩

end Runs

/-- **A watch that nobody disturbs finds what the scan of its input finds.**

Its summary is that of the scan.  It counts an error for each line that it reports and a trip for
each trip in the scan, writes as many records about trips, and warns of nothing but the trips, each
with the lines that it is made of.  Two inputs with the same cues make no difference at all, so
other lines do not matter.  The cooldown is taken for thirty years if it is longer.  The lines are
taken when the script has them, as far as no pause is cut off at thirty years, and if one is the
scan finds the same; without any pause the times do not matter. -/
theorem finds_what_scan_finds {hasRuntime : Bool} {settings : BreakerSettings} {sink : Sink Empty}
    {c : Circuit Empty} (made : Circuit.create hasRuntime settings sink = .ok c)
    (quiet : sink.queued = 0) (watch : WatchSettings) (scripts : List Script) (script : Script)
    (unasked : script.requests = 0) (input : ∀ item ∈ script.items, item.isInput = true) :
    let w : Watchdog := ({ watch, circuit := c } : Watchdog).after scripts
    let cues' := cues watch [] (script.items ++ [.endOfInput])
    let entries := (w.start script).entries cues'
    let found := Scan.run settings.capped watch.rearm {} entries
    let meant := Scan.run settings.capped watch.rearm {} (timetable id w.circuit.now cues')
    let trips := found.segments.length
    (w.run script).2 = some (.ok found.summary) ∧
      Tally found.scanned trips trips (Scan.warnings w.circuit found.segments)
        (w.run script).1.circuit.events.toList ∧
      (∀ lines ∈ found.segments, lines.length = settings.limit.toNat) ∧
      (∀ items, (∀ item ∈ items, item.isInput = true) →
        cues watch [] (items ++ [.endOfInput]) = cues' →
        w.run { script with items } = w.run script) ∧
      entries = timetable (min · Alarm.farthest) w.circuit.now cues' ∧
      (meant.segments = found.segments ∧ meant.summary = found.summary) ∧
      ((∀ ms, .sleep ms ∉ script.items) → found.summary
        = Scan.countOnly settings.limit.toNat watch.rearm (cues'.filterMap Cue.line?).length) := by
  obtain ⟨rfl, valid, positive⟩ := Circuit.of_create made
  have hwatch := watch_after { watch, circuit := { settings, sink } } scripts
  have hsettings := (made_after (w := { watch, circuit := { settings, sink } }) quiet scripts).1
  have tame := tame_after (w := { watch, circuit := { settings, sink } }) (.ofFresh quiet valid)
    scripts
  have events := events_after (w := { watch, circuit := { settings, sink } }) rfl scripts
  generalize ({ watch, circuit := { settings, sink } } : Watchdog).after scripts = w
    at hwatch hsettings tame events ⊢
  obtain rfl : w.watch = watch := hwatch
  obtain rfl : w.circuit.settings = settings := hsettings
  intro w' cues' entries found meant trips
  have times : entries = timetable (min · Alarm.farthest) w.circuit.now cues' := by
    have hnow : (w.start script).now = w.circuit.now := by
      rw [Course.now, circuit_start tame script]
      rfl
    exact hnow ▸ Course.entries_eq_timetable cues' (w.start script)
  have positive' : 0 < w.circuit.settings.capped.cooldownMs.toNat :=
    BreakerSettings.capped_pos positive
  obtain ⟨hresult, tally, full⟩ := run_of_scan tame events positive' unasked input
  refine ⟨hresult, tally, full, ?_, times, ?_, ?_⟩
  · intro items input' same
    have unasked' : Script.requests { script with items } = 0 := unasked
    have hitems := run_of_input (w := w) unasked' input'
    rw [same] at hitems
    exact hitems.trans (run_of_input unasked input).symm
  · have begun : Scan.Alike w.circuit.settings.capped w.circuit.now w.circuit.now {} {} :=
      ⟨rfl, rfl, rfl, rfl, ⟨Nat.zero_le _, Nat.zero_le _⟩, rfl⟩
    have near : w.circuit.settings.capped.cooldownMs.toNat ≤ Alarm.farthest := by
      rw [BreakerSettings.cooldown_capped]
      exact Nat.min_le_right _ _
    have same := Scan.same_of_timetables near w.watch.rearm cues' begun
    rwa [← times] at same
  · intro pauseless
    have none (ms : Nat) : .pause ms ∉ cues' := fun h =>
      pauseless ms (by simpa using sleep_of_pause w.watch _ _ h)
    rw [← Course.length_entries cues' (w.start script)]
    exact Scan.summary_run_of_pauseless positive' valid w.watch.rearm entries
      (Course.time_of_entries cues' none)

/-- A line that stands alone, and two lines behind a pause of a cooldown. -/
def oneLineThenTwo : Script :=
  { items := [.data [0x61, 0x0a], .sleep 10, .data [0x62, 0x0a, 0x63], .endOfInput] }

/-- Two lines trip a watch that another line has not brought nearer to its limit, also behind another
run. -/
theorem finds_what_scan_finds_of_pause :
    Circuit.create true ofTwoLines.circuit.settings .logging = .ok ofTwoLines.circuit ∧
      oneLineThenTwo.requests = 0 ∧ (∀ item ∈ oneLineThenTwo.items, item.isInput = true) ∧
      ((ofTwoLines.after [oneLineThenPause]).run oneLineThenTwo).2
        = some (.ok { reason := .inputClosed, reported := 3, trips := 1 }) ∧
      Scan.run ofTwoLines.circuit.settings.capped true {}
          (((ofTwoLines.after [oneLineThenPause]).start oneLineThenTwo).entries
            (cues {} [] (oneLineThenTwo.items ++ [.endOfInput])))
        = { last := 30, segments := [["b", "c"]], scanned := 3 } := by
  have made : Circuit.create true ofTwoLines.circuit.settings (.logging : Sink Empty)
      = .ok ofTwoLines.circuit := rfl
  have input : ∀ item ∈ oneLineThenTwo.items, item.isInput = true := by decide
  obtain ⟨hresult, -, -, -, times, -⟩ := finds_what_scan_finds made rfl { rearm := true }
    [oneLineThenPause] oneLineThenTwo rfl input
  have found : Scan.run ofTwoLines.circuit.settings.capped true {}
      (((ofTwoLines.after [oneLineThenPause]).start oneLineThenTwo).entries
        (cues {} [] (oneLineThenTwo.items ++ [.endOfInput])))
      = { last := 30, segments := [["b", "c"]], scanned := 3 } :=
    (congrArg _ times).trans (by rfl)
  refine ⟨made, rfl, input, ?_, found⟩
  exact hresult.trans (congrArg (fun found : Scan => some (Except.ok found.summary)) found)

/-- A watch with a limit of two errors. -/
def ofCooldown (cooldownMs : UInt64) : Watchdog :=
  { watch := {}, circuit := { settings := { limit := 2, cooldownMs }, sink := .logging } }

/-- Two lines that are decades apart. -/
def decadesApart : Script :=
  { items := [.data [0x61, 0x0a], .sleep 1099511627775, .data [0x62, 0x0a]] }

/-- A cooldown of more than thirty years is over after thirty years, so a watch can find less than
the scan by the whole cooldown. -/
theorem differs_from_scan :
    let decades := ofCooldown 1099511627776
    let cues' := cues {} [] (decadesApart.items ++ [.endOfInput])
    let scan := Scan.run decades.circuit.settings false {}
    Circuit.create true decades.circuit.settings .logging = .ok decades.circuit ∧
      decadesApart.requests = 0 ∧ (∀ item ∈ decadesApart.items, item.isInput = true) ∧
      (decades.run decadesApart).2
        = some (.ok { reason := .inputClosed, reported := 2, trips := 0 }) ∧
      (scan ((decades.start decadesApart).entries cues')).summary
        = { reason := .tripped, reported := 2, trips := 1 } ∧
      (scan (timetable id 0 cues')).summary = { reason := .tripped, reported := 2, trips := 1 } :=
  ⟨by rfl, by rfl, by decide, by rfl, by rfl, by rfl⟩

end Watchdog

end Tripwire
