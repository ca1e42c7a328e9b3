/-
Watches that are more sensitive than others.

A lower limit, a longer cooldown and a pattern that occurs in the pattern of the other make a
watch more sensitive.  It takes all lines that the other takes, and forgets none of them
sooner.  And yet it can be behind at times: it trips at an earlier line, begins to count
anew, and may then count fewer lines than the other, which has not tripped.

So what is kept from line to line compares the trips first, and the lines that count only if
there are as many trips, `Scan.Leads`.  In that case the more sensitive scan counts at least
as many lines, and its last line is no longer ago, so it cannot forget them while the other
still counts some.  A scan that trips counts no lines, and can only have drawn level.

A cooldown that is cut off at thirty years is still no shorter than another one, so this goes for
watches with any cooldowns, `Watchdog.misses_no_trip_of_moreSensitive`.
-/
import Tripwire.Proofs.Watchdog.Scan

namespace Tripwire

namespace Watchdog

/-! ### Lines for one watch and for another -/

/-- The cue is a pause, or a line that the pattern picks. -/
def Cue.isFor (watch : WatchSettings) : Cue → Bool
  | .line text => watch.picks text
  | .pause _ => true

theorem heard_eq_filter (watch : WatchSettings) (lines : List (List UInt8)) :
    heard watch lines = (heard {} lines).filter (Cue.isFor watch) := by
  have all (text : List Char) : WatchSettings.picks {} text = true :=
    WatchSettings.picks_of_pattern_empty rfl text
  simp [heard, List.filter_map, all, Cue.isFor, Function.comp_def]

/-- The cues for a watch are among the cues for one that picks every line. -/
theorem cues_eq_filter (watch : WatchSettings) (items : List Item) : ∀ held,
    cues watch held items = (cues {} held items).filter (Cue.isFor watch) := by
  induction items with
  | nil => intro held; rfl
  | cons item items ih =>
      intro held
      cases item with
      | data bytes => rw [cues, cues, List.filter_append, ih, heard_eq_filter]
      | endOfInput =>
          rw [cues, cues]
          split
          · rfl
          · rw [List.filter_append, ih, heard_eq_filter]
      | sleep ms => rw [cues, cues, ih, List.filter_cons_of_pos rfl]
      | _ => exact ih held

namespace Scan

variable {s s' : BreakerSettings} {rearm : Bool} {time time' : Nat} {scan scan' : Scan}

/-! ### Scans as they come -/

/-- The lines of the window are fewer than the limit, the last line is not to come, and the scan has
stopped if it has tripped and is not to go on. -/
structure Fits (s : BreakerSettings) (rearm : Bool) (time : Nat) (scan : Scan) : Prop where
  below : scan.window.length < s.limit.toNat
  last_le : scan.last ≤ time
  stopped : scan.stopped = (!rearm && decide (0 < scan.segments.length))

theorem length_pending_le (s : BreakerSettings) (scan : Scan) (time : Nat) :
    (scan.pending s time).length ≤ scan.window.length := by
  rw [pending]
  split
  · exact Nat.zero_le _
  · exact Nat.le_refl _

theorem reason_summary_iff : scan.summary.reason = .tripped ↔ scan.stopped = true := by
  rw [summary]
  cases scan.stopped <;> simp

namespace Fits

theorem fresh (positive : 0 < s.limit.toNat) (rearm : Bool) (time : Nat) :
    Fits s rearm time {} where
  below := positive
  last_le := Nat.zero_le _
  stopped := by simp

theorem pause (fits : Fits s rearm time scan) (ms : Nat) : Fits s rearm (time + ms) scan where
  below := fits.below
  last_le := Nat.le_add_right_of_le fits.last_le
  stopped := fits.stopped

theorem line (fits : Fits s rearm time scan) (text : String) :
    Fits s rearm time (scan.step s rearm ⟨time, text⟩) := by
  cases running : scan.stopped with
  | true =>
      rw [show scan.step s rearm ⟨time, text⟩ = scan by simp [step, running]]
      exact fits
  | false =>
      by_cases reached : (scan.pending s time).length + 1 = s.limit.toNat
      · rw [step_of_eq running reached]
        refine ⟨?_, Nat.le_refl _, by simp⟩
        rw [List.length_nil]
        omega
      · rw [step_of_ne running reached]
        have hle := length_pending_le s scan time
        have hlt := fits.below
        refine ⟨?_, Nat.le_refl _, fits.stopped⟩
        show (scan.pending s time ++ [text]).length < s.limit.toNat
        rw [List.length_append, List.length_singleton]
        omega

end Fits

/-! ### One scan ahead of another -/

/-- The second scan has more trips, each scan at a time of its own, or it has as many and counts at
least as many lines, the last of them no longer ago. -/
def Leads (s s' : BreakerSettings) (time time' : Nat) (scan scan' : Scan) : Prop :=
  scan.segments.length < scan'.segments.length ∨
    scan.segments.length = scan'.segments.length ∧
      (scan.pending s time).length ≤ (scan'.pending s' time').length ∧
      (scan.pending s time ≠ [] → scan.last + time' ≤ scan'.last + time)

theorem last_step (running : scan.stopped = false) (s : BreakerSettings) (rearm : Bool)
    (e : Entry) : (scan.step s rearm e).last = e.time := by
  rw [step]
  simp only [running, Bool.false_eq_true, if_false]
  split <;> rfl

theorem step_of_stopped (stopped : scan.stopped = true) (s : BreakerSettings) (rearm : Bool)
    (e : Entry) : scan.step s rearm e = scan := by
  simp [step, stopped]

namespace Leads

theorem segments_le (leads : Leads s s' time time' scan scan') :
    scan.segments.length ≤ scan'.segments.length := by
  rcases leads with h | ⟨h, -⟩ <;> omega

/-- A scan that counts nothing is not ahead of one with as many trips. -/
theorem of_pending_nil (none : (scan.pending s time).length = 0)
    (h : scan.segments.length ≤ scan'.segments.length) :
    Leads s s' time time' scan scan' := by
  refine (Nat.lt_or_eq_of_le h).imp_right fun heq => ⟨heq, ?_, fun counts => ?_⟩
  · rw [none]
    exact Nat.zero_le _
  · exact absurd (List.length_eq_zero_iff.mp none) counts

theorem fresh (time time' : Nat) : Leads s s' time time' {} {} :=
  of_pending_nil (congrArg List.length (ite_self [])) (Nat.le_refl _)

/-- Lines that count longer still count behind a pause if the others do. -/
theorem pause (cooldown : s.cooldownMs.toNat ≤ s'.cooldownMs.toNat)
    (leads : Leads s s' time time' scan scan') (ms : Nat) :
    Leads s s' (time + ms) (time' + ms) scan scan' := by
  refine leads.imp_right fun ⟨trips, counts, recent⟩ => ⟨trips, ?_⟩
  by_cases lapsed : scan.last + s.cooldownMs.toNat ≤ time + ms
  · have none : scan.pending s (time + ms) = [] := if_pos lapsed
    rw [none]
    exact ⟨Nat.zero_le _, fun h => absurd rfl h⟩
  · have now : scan.pending s time = scan.window := if_neg (by omega)
    have later : scan.pending s (time + ms) = scan.window := if_neg lapsed
    rw [now] at counts recent
    rw [later]
    by_cases none : scan.window = []
    · rw [none]
      exact ⟨Nat.zero_le _, fun h => absurd rfl h⟩
    · have recent := recent none
      have now' : scan'.pending s' time' = scan'.window := if_neg (by omega)
      have later' : scan'.pending s' (time' + ms) = scan'.window := if_neg (by omega)
      rw [now'] at counts
      rw [later']
      exact ⟨counts, fun _ => by omega⟩

/-- A line that only the second scan takes puts it further ahead. -/
theorem line (valid' : 0 < s'.cooldownMs.toNat) (fits : Fits s rearm time scan)
    (fits' : Fits s' rearm time' scan') (leads : Leads s s' time time' scan scan')
    (text : String) :
    Leads s s' time time' scan (scan'.step s' rearm ⟨time', text⟩) := by
  cases running' : scan'.stopped with
  | true => rwa [step_of_stopped running']
  | false =>
      have below' := Nat.lt_of_le_of_lt (length_pending_le s' scan' time') fits'.below
      have hlast' := last_step running' s' rearm ⟨time', text⟩
      obtain ⟨-, next⟩ := step_cases valid' rearm running' below' text
      generalize scan'.step s' rearm ⟨time', text⟩ = next' at hlast' next ⊢
      have hle := leads.segments_le
      rcases next with ⟨-, -, -, trips⟩ | ⟨-, -, counts, trips⟩
      · exact .inl (by omega)
      · rcases leads with h | ⟨h, hcounts, -⟩
        · exact .inl (by omega)
        · refine .inr ⟨by omega, by omega, fun _ => ?_⟩
          rw [hlast', Nat.add_comm]
          exact Nat.add_le_add_left fits.last_le time'

/-- A line that both scans take leaves the second one ahead. -/
theorem lines (limit : s'.limit ≤ s.limit) (valid : 0 < s.cooldownMs.toNat)
    (valid' : 0 < s'.cooldownMs.toNat) (fits : Fits s rearm time scan)
    (fits' : Fits s' rearm time' scan') (leads : Leads s s' time time' scan scan')
    (text : String) :
    Leads s s' time time' (scan.step s rearm ⟨time, text⟩)
      (scan'.step s' rearm ⟨time', text⟩) := by
  have hlimit : s'.limit.toNat ≤ s.limit.toNat := UInt64.le_iff_toNat_le.mp limit
  cases running : scan.stopped with
  | true =>
      rw [step_of_stopped running]
      exact leads.line valid' fits fits' text
  | false =>
      have below := Nat.lt_of_le_of_lt (length_pending_le s scan time) fits.below
      have hlast := last_step running s rearm ⟨time, text⟩
      obtain ⟨-, next⟩ := step_cases valid rearm running below text
      cases running' : scan'.stopped with
      | true =>
          -- Only the second scan has tripped, and it is not to go on.
          have ahead : scan.segments.length < scan'.segments.length := by
            have hstopped := fits.stopped
            have hstopped' := fits'.stopped
            cases rearm <;> simp_all
          rw [step_of_stopped running']
          rcases next with ⟨-, -, none, trips⟩ | ⟨-, -, -, trips⟩
          · exact of_pending_nil none (by omega)
          · exact .inl (by omega)
      | false =>
          have below' := Nat.lt_of_le_of_lt (length_pending_le s' scan' time') fits'.below
          have hlast' := last_step running' s' rearm ⟨time', text⟩
          obtain ⟨-, next'⟩ := step_cases valid' rearm running' below' text
          have hle := leads.segments_le
          rcases next with ⟨reached, -, none, trips⟩ | ⟨-, -, counts, trips⟩
          · rcases next' with ⟨-, -, -, trips'⟩ | ⟨below', -, -, trips'⟩
            · exact of_pending_nil none (by omega)
            · -- The second scan would have reached its limit if it were not ahead in trips.
              refine of_pending_nil none ?_
              rcases leads with h | ⟨-, h, -⟩ <;> omega
          · rcases next' with ⟨-, -, -, trips'⟩ | ⟨-, -, counts', trips'⟩
            · exact .inl (by omega)
            · rcases leads with h | ⟨h, hcounts, -⟩
              · exact .inl (by omega)
              · refine .inr ⟨by omega, by omega, fun _ => ?_⟩
                rw [hlast, hlast', Nat.add_comm]

/-- **A more sensitive scan never falls behind**, whatever lines and pauses come. -/
theorem run {watch watch' : WatchSettings} (lasts : Nat → Nat) (limit : s'.limit ≤ s.limit)
    (cooldown : s.cooldownMs.toNat ≤ s'.cooldownMs.toNat) (valid : 0 < s.cooldownMs.toNat)
    (picks : ∀ text, watch.picks text = true → watch'.picks text = true) (cues : List Cue) :
    ∀ {time time' : Nat} {scan scan' : Scan}, Fits s rearm time scan → Fits s' rearm time' scan' →
      Leads s s' time time' scan scan' →
      let last := scan.run s rearm (timetable lasts time (cues.filter (Cue.isFor watch)))
      let last' := scan'.run s' rearm (timetable lasts time' (cues.filter (Cue.isFor watch')))
      last.segments.length ≤ last'.segments.length ∧
        (last.stopped = true → last'.stopped = true) := by
  have valid' : 0 < s'.cooldownMs.toNat := Nat.lt_of_lt_of_le valid cooldown
  induction cues with
  | nil =>
      intro time time' scan scan' fits fits' leads
      refine ⟨leads.segments_le, fun stopped => ?_⟩
      have hle := leads.segments_le
      have hstopped := fits.stopped.symm.trans stopped
      rw [Bool.and_eq_true, decide_eq_true_eq] at hstopped
      refine fits'.stopped.trans ?_
      rw [hstopped.1, Bool.true_and, decide_eq_true_eq]
      exact Nat.lt_of_lt_of_le hstopped.2 hle
  | cons cue cues ih =>
      intro time time' scan scan' fits fits' leads
      cases cue with
      | pause ms =>
          rw [List.filter_cons_of_pos rfl, List.filter_cons_of_pos rfl]
          exact ih (fits.pause _) (fits'.pause _) (leads.pause cooldown _)
      | line text =>
          by_cases picked : (Cue.line text).isFor watch = true
          · have picked' : (Cue.line text).isFor watch' = true := picks text picked
            rw [List.filter_cons_of_pos picked, List.filter_cons_of_pos picked']
            exact ih (fits.line _) (fits'.line _) (leads.lines limit valid valid' fits fits' _)
          · rw [List.filter_cons_of_neg picked]
            by_cases picked' : (Cue.line text).isFor watch' = true
            · rw [List.filter_cons_of_pos picked']
              exact ih fits (fits'.line _) (leads.line valid' fits fits' _)
            · rw [List.filter_cons_of_neg picked']
              exact ih fits fits' leads

end Leads

end Scan

/-! ### Beginnings of an input -/

/-- The items are a beginning of the others; it may end within the bytes of an item. -/
inductive Opening : List Item → List Item → Prop
  | nil (items : List Item) : Opening [] items
  | part {bytes whole : List UInt8} (h : bytes <+: whole) (items : List Item) :
      Opening [.data bytes] (.data whole :: items)
  | cons (item : Item) {before items : List Item} (h : Opening before items) :
      Opening (item :: before) (item :: items)

namespace Opening

variable {before items : List Item}

/-- A beginning of an input is an input. -/
theorem input (opening : Opening before items) (h : ∀ item ∈ items, item.isInput = true) :
    ∀ item ∈ before, item.isInput = true := by
  induction opening with
  | nil => simp
  | part => simp [Item.isInput]
  | cons item _ ih =>
      rw [List.forall_mem_cons] at h ⊢
      exact ⟨h.1, ih h.2⟩

end Opening

/-! ### Whole runs -/

/-- The second settings make a watch more sensitive than the first do. -/
structure MoreSensitive (settings : BreakerSettings) (watch : WatchSettings)
    (settings' : BreakerSettings) (watch' : WatchSettings) : Prop where
  limit : settings'.limit ≤ settings.limit
  cooldown : settings.cooldownMs ≤ settings'.cooldownMs
  pattern : Text.occursIn watch'.pattern.toList watch.pattern.toList = true
  rearm : watch'.rearm = watch.rearm

/-- A run comes to what the scan by the times of its input does. -/
theorem run_of_timetable {settings : BreakerSettings} {sink : Sink Empty} {c : Circuit Empty}
    {hasRuntime : Bool} (made : Circuit.create hasRuntime settings sink = .ok c)
    (quiet : sink.queued = 0) (watch : WatchSettings) (scripts : List Script) (script : Script)
    (unasked : script.requests = 0) (input : ∀ item ∈ script.items, item.isInput = true) :
    let w : Watchdog := ({ watch, circuit := c } : Watchdog).after scripts
    let found := Scan.run settings.capped watch.rearm {} (timetable (min · Alarm.farthest)
      (w.start script).now ((cues {} [] (script.items ++ [.endOfInput])).filter (Cue.isFor watch)))
    (w.run script).2 = some (.ok found.summary) := by
  obtain ⟨rfl, valid, positive⟩ := Circuit.of_create made
  have hwatch := watch_after { watch, circuit := { settings, sink } } scripts
  have hsettings := (made_after (w := { watch, circuit := { settings, sink } }) quiet scripts).1
  have tame := tame_after (w := { watch, circuit := { settings, sink } }) (.ofFresh quiet valid)
    scripts
  have events := events_after (w := { watch, circuit := { settings, sink } }) rfl scripts
  generalize ({ watch, circuit := { settings, sink } } : Watchdog).after scripts = w
    at hwatch hsettings tame events ⊢
  obtain rfl : w.watch = watch := hwatch
  obtain rfl : w.circuit.settings = settings := hsettings
  obtain ⟨hresult, -⟩ :=
    run_of_scan tame events (BreakerSettings.capped_pos positive) unasked input
  rw [Course.entries_eq_timetable, cues_eq_filter] at hresult
  exact hresult

/-- **A more sensitive watch misses no trip.**

Take two watches that nobody disturbs, each behind runs of its own, and let the second one have
a limit that is no higher, a cooldown that is no shorter and a pattern that occurs in that of the
first.  At every point of the same input the second watch has counted at least as many trips as
the first if both go on behind a trip; and if both end there, the second has tripped wherever the
first has, so it trips at the same line or at an earlier one. -/
theorem misses_no_trip_of_moreSensitive {hasRuntime hasRuntime' : Bool}
    {settings settings' : BreakerSettings} {sink sink' : Sink Empty} {c c' : Circuit Empty}
    (made : Circuit.create hasRuntime settings sink = .ok c)
    (made' : Circuit.create hasRuntime' settings' sink' = .ok c')
    (quiet : sink.queued = 0) (quiet' : sink'.queued = 0) {watch watch' : WatchSettings}
    (more : MoreSensitive settings watch settings' watch')
    (scripts scripts' : List Script) (script : Script) (unasked : script.requests = 0)
    (input : ∀ item ∈ script.items, item.isInput = true) :
    let w : Watchdog := ({ watch, circuit := c } : Watchdog).after scripts
    let w' : Watchdog := ({ watch := watch', circuit := c' } : Watchdog).after scripts'
    ∀ items, Opening items script.items → ∃ found found' : Summary,
      (w.run { script with items }).2 = some (.ok found) ∧
      (w'.run { script with items }).2 = some (.ok found') ∧
      (watch.rearm = true → found.trips ≤ found'.trips) ∧
      (watch.rearm = false → found.reason = .tripped → found'.reason = .tripped) := by
  intro w w' items opening
  have input' := opening.input input
  have hrun := run_of_timetable made quiet watch scripts { script with items } unasked input'
  have hrun' := run_of_timetable made' quiet' watch' scripts' { script with items } unasked input'
  rw [more.rearm] at hrun'
  obtain ⟨-, limit, positive⟩ := Circuit.of_create made
  obtain ⟨-, limit', -⟩ := Circuit.of_create made'
  -- Cutting off both cooldowns leaves the second one no shorter.
  have cooldown : settings.capped.cooldownMs.toNat ≤ settings'.capped.cooldownMs.toNat := by
    have hle := UInt64.le_iff_toNat_le.mp more.cooldown
    rw [BreakerSettings.cooldown_capped, BreakerSettings.cooldown_capped]
    omega
  have picks (text : List Char) (h : watch.picks text = true) : watch'.picks text = true :=
    Text.occursIn_trans more.pattern h
  have lower : settings'.capped.limit ≤ settings.capped.limit := more.limit
  have fits (time : Nat) : Scan.Fits settings.capped watch.rearm time {} :=
    .fresh (s := settings.capped) limit _ _
  have fits' (time : Nat) : Scan.Fits settings'.capped watch.rearm time {} :=
    .fresh (s := settings'.capped) limit' _ _
  obtain ⟨trips, stopped⟩ := Scan.Leads.run (min · Alarm.farthest) lower cooldown
    (BreakerSettings.capped_pos positive) picks (cues {} [] (items ++ [.endOfInput]))
    (fits (w.start { script with items }).now) (fits' (w'.start { script with items }).now)
    (.fresh _ _)
  refine ⟨_, _, hrun, hrun', fun _ => ?_, fun _ tripped => ?_⟩
  · exact trips
  · rw [Scan.reason_summary_iff] at tripped ⊢
    exact stopped tripped

/-- A watch that logs. -/
def watchFor (pattern : String) (rearm : Bool) (limit cooldownMs : UInt64) : Watchdog :=
  { watch := { pattern, rearm }, circuit := { settings := { limit, cooldownMs }, sink := .logging } }

/-- A watch for two letters, one after the other. -/
def forTwoLetters : Watchdog := watchFor "ab" true 3 10

/-- A watch for the first of the two letters. -/
def forFirstLetter : Watchdog := watchFor "a" true 2 20

/-- Four lines, with a pause behind the first two. -/
def fourLines : Script :=
  { items := [.data [0x61, 0x0a, 0x61, 0x62, 0x0a], .sleep 15,
      .data [0x61, 0x62, 0x0a, 0x61, 0x62, 0x0a]] }

/-- The same, up to a character of the last line. -/
def nearlyFourLines : List Item :=
  [.data [0x61, 0x0a, 0x61, 0x62, 0x0a], .sleep 15, .data [0x61, 0x62, 0x0a, 0x61]]

/-- A watch for shorter texts, with a longer cooldown, trips twice before the last line has ended,
and the other not at all. -/
theorem misses_no_trip_of_moreSensitive_behind_pause :
    MoreSensitive forTwoLetters.circuit.settings forTwoLetters.watch
        forFirstLetter.circuit.settings forFirstLetter.watch ∧
      Opening nearlyFourLines fourLines.items ∧ ∃ found found' : Summary,
        ((forTwoLetters.after [oneLineThenPause]).run
          { fourLines with items := nearlyFourLines }).2 = some (.ok found) ∧
        ((forFirstLetter.after []).run
          { fourLines with items := nearlyFourLines }).2 = some (.ok found') ∧
        found.trips ≤ found'.trips ∧ found.trips = 0 ∧ found'.trips = 2 := by
  have made : Circuit.create true forTwoLetters.circuit.settings (.logging : Sink Empty)
      = .ok forTwoLetters.circuit := by rfl
  have made' : Circuit.create true forFirstLetter.circuit.settings (.logging : Sink Empty)
      = .ok forFirstLetter.circuit := by rfl
  have more : MoreSensitive forTwoLetters.circuit.settings forTwoLetters.watch
      forFirstLetter.circuit.settings forFirstLetter.watch :=
    ⟨by decide, by decide, by decide, rfl⟩
  have opening : Opening nearlyFourLines fourLines.items :=
    .cons _ (.cons _ (.part ⟨[0x62, 0x0a], rfl⟩ []))
  have h : ((forTwoLetters.after [oneLineThenPause]).run
      { fourLines with items := nearlyFourLines }).2
      = some (.ok { reason := .inputClosed, reported := 2, trips := 0 }) := by rfl
  have h' : ((forFirstLetter.after []).run { fourLines with items := nearlyFourLines }).2
      = some (.ok { reason := .inputClosed, reported := 4, trips := 2 }) := by rfl
  obtain ⟨found, found', hrun, hrun', trips, -⟩ := misses_no_trip_of_moreSensitive made made' rfl
    rfl more [oneLineThenPause] [] fourLines rfl (by decide) _ opening
  obtain rfl : found = _ := Except.ok.inj (Option.some.inj (hrun.symm.trans h))
  obtain rfl : found' = _ := Except.ok.inj (Option.some.inj (hrun'.symm.trans h'))
  exact ⟨more, opening, _, _, hrun, hrun', trips rfl, rfl, rfl⟩

end Watchdog

end Tripwire
