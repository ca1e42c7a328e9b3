/-
Watches whose count is never cleared.

When a cooldown elapses over some errors their count is cleared, and the log tells of it.  So a
log that tells of none, at the end of a run, says something about all of the run: `Cleared` is
kept by whatever a watch does, and a pause behind which it does not hold has left the count as
it was, `Circuit.tells_count`, no matter how long the pause was meant to be and how long it has
taken.  The lines of such a run all count, and the watch trips exactly if they are as many as the
limit, `Course.Counts.walk`.

That no cooldown elapses can be told from the script if there are no pauses, or if all of them
together are shorter than the cooldown, `Course.Tracks.uncleared_walk`.
-/
import Mathlib.Algebra.Order.BigOperators.Group.List
import Mathlib.Algebra.Order.Ring.Nat
import Tripwire.Proofs.Watchdog.Sensitivity

namespace Tripwire

/-! ### Counts that are left as they were -/

/-- The second breaker counts in the same cycle what the first one counts. -/
structure Breaker.SameCount (b b' : Breaker) : Prop where
  active : b'.active = b.active
  cycle : b'.cycle = b.cycle
  errors : b'.errors = b.errors

theorem Breaker.SameCount.trans {a b c : Breaker} (first : SameCount a b)
    (second : SameCount b c) : SameCount a c :=
  ⟨second.active.trans first.active, second.cycle.trans first.cycle,
    second.errors.trans first.errors⟩

/-- A timer that runs out tells of a cooldown, or leaves the count as it was. -/
theorem Breaker.sameCount_expire (b : Breaker) (t : Timer) :
    .counter .resets ∈ (b.expire t).emissions ∨ SameCount b (b.expire t).breaker := by
  unfold expire
  dsimp only
  split
  · exact .inl List.mem_cons_self
  · exact .inr ⟨rfl, rfl, rfl⟩

/-- No operation tells of a cooldown. -/
theorem Operation.resets_not_mem_effect {α : Type} (s : BreakerSettings) (now : Nat) (b : Breaker)
    (op : Operation α) : .counter .resets ∉ (op.effect s now b).emissions := by
  have report (e : Report) : .counter .resets ∉ (b.addError s now e).emissions := by
    cases active : b.active with
    | false => simp [Breaker.addError, active]
    | true =>
        by_cases reached : s.limit.toNat ≤ b.current + 1
        · cases printed : Report.printList (b.errors ++ [e]) with
          | error fault => simp [Breaker.addError_of_error active reached printed]
          | ok errors => simp [Breaker.addError_of_le active reached printed]
        · simp [Breaker.addError_of_lt active (Nat.lt_of_not_le reached)]
  cases op with
  | activate => cases h : b.active <;> simp [effect, Breaker.activate, h]
  | deactivate => cases h : b.active <;> simp [effect, Breaker.deactivate, h]
  | addError e => exact report e
  | observe outcome =>
      cases outcome with
      | error e => exact report e
      | ok a => simp [effect]
  | _ => simp [effect]

namespace Circuit

variable {α : Type} {c c' : Circuit α} {last : Nat}

/-- A cooldown has elapsed over some errors, and nobody has looked at the log since. -/
def Cleared (c : Circuit α) : Prop := ∃ e ∈ c.events.toList, Event.isCounter .resets e = true

theorem Tells.cleared_iff {emissions : List Emission} (tells : c.Tells emissions c') :
    c'.Cleared ↔ c.Cleared ∨ .counter .resets ∈ emissions := by
  simp only [Cleared, tells.events, List.mem_append, List.mem_map, or_and_right, exists_or]
  refine or_congr_right ⟨?_, fun h => ⟨_, ⟨_, h, rfl⟩, rfl⟩⟩
  rintro ⟨_, ⟨e, he, rfl⟩, hreset⟩
  rw [isCounter_eventOf, decide_eq_true_eq] at hreset
  exact hreset ▸ he

theorem cleared_perform (quiet : c.sink.queued = 0) (op : Operation α) :
    (c.perform op).1.Cleared ↔ c.Cleared := by
  rw [(tells_perform quiet op).cleared_iff]
  exact or_iff_left (op.resets_not_mem_effect _ _ _)

/-- While nobody acts the log tells of a cooldown, or the count stays as it was. -/
theorem tells_count (time fuel : Nat) : ∀ c : Circuit α, c.sink.queued = 0 →
    ∃ emissions, Tells c emissions (passTo time fuel c) ∧
      (.counter .resets ∈ emissions ∨ Breaker.SameCount c.breaker (passTo time fuel c).breaker) := by
  induction fuel with
  | zero => intro c _; exact ⟨[], .nil rfl rfl rfl, .inr ⟨rfl, rfl, rfl⟩⟩
  | succ fuel ih =>
      intro c quiet
      rw [passTo]
      cases c.dueBy? time with
      | some t =>
          have first := tells_ring quiet t
          have breaker : (c.ring t).breaker = (c.breaker.expire t).breaker := by
            rw [ring_of_quiet quiet, breaker_undergo]
          obtain ⟨emissions, rest, same⟩ := ih (c.ring t) (first.sink ▸ quiet)
          refine ⟨_, first.trans rest, ?_⟩
          rcases c.breaker.sameCount_expire t with resets | same'
          · exact .inl (List.mem_append_left _ resets)
          · exact same.imp (List.mem_append_right _) (breaker ▸ same').trans
      | none => exact ⟨[], tells_reach c time, .inr ⟨rfl, rfl, rfl⟩⟩

theorem cleared_pass (quiet : c.sink.queued = 0) (cleared : c.Cleared) (ms : Nat) :
    (c.pass ms).Cleared := by
  obtain ⟨emissions, -, tells⟩ := tells_pass quiet ms
  exact tells.cleared_iff.mpr (.inl cleared)

/-- A pause behind which the log tells of no cooldown has left the count as it was. -/
theorem sameCount_pass (quiet : c.sink.queued = 0) {ms : Nat} (uncleared : ¬ (c.pass ms).Cleared) :
    Breaker.SameCount c.breaker (c.pass ms).breaker := by
  obtain ⟨emissions, tells, resets | same⟩ := tells_count _ c.patience c quiet
  · exact absurd (tells.cleared_iff.mpr (.inr resets)) uncleared
  · exact same

end Circuit

namespace Watchdog

/-- What is kept by all that a watch does with a line, and by these pauses, holds behind all
cues. -/
theorem Chores.walk {q : Course → Prop} (chores : Chores q) (cues : List Cue)
    (pass : ∀ c ms, .pause ms ∈ cues → q c → q (c.onCircuit fun circuit => circuit.pass ms)) :
    ∀ {c : Course}, q c → q (c.walk cues).1 := by
  induction cues with
  | nil => intro c h; exact h
  | cons cue cues ih =>
      intro c h
      have ih := @ih fun c ms hms => pass c ms (List.mem_cons_of_mem _ hms)
      cases cue with
      | line text =>
          have next := chores.report h text
          rw [Course.walk]
          split <;> rename_i hreport <;> rw [hreport] at next
          · exact ih next
          · exact next
      | pause ms => exact ih (pass c ms List.mem_cons_self h)

/-- What the log has told of a cooldown is not taken back. -/
theorem upkeep_cleared : Upkeep fun c => c.dog.circuit.sink.queued = 0 ∧ c.dog.circuit.Cleared := by
  refine .ofCircuit (p := fun c => c.sink.queued = 0 ∧ c.Cleared) ?_ ?_ ?_
  · intro c op h
    exact ⟨(Circuit.tells_perform h.1 op).sink ▸ h.1, (Circuit.cleared_perform h.1 op).mpr h.2⟩
  · intro c e _ h
    obtain ⟨e', he', hreset⟩ := h.2
    exact ⟨h.1, e', by simp [Circuit.record, he'], hreset⟩
  · intro c ms h
    obtain ⟨_, -, tells⟩ := Circuit.tells_pass h.1 ms
    exact ⟨tells.sink ▸ h.1, Circuit.cleared_pass h.1 h.2 ms⟩

/-- How many milliseconds the cue takes. -/
def Cue.lasts : Cue → Nat
  | .line _ => 0
  | .pause ms => ms

namespace Course

variable {c : Course} {lines : List String}

/-! ### Runs in which all lines count -/

/-- The watch goes on without being armed again, and has counted these lines so far. -/
structure Counts (lines : List String) (c : Course) : Prop where
  tame : c.dog.circuit.Tame
  once : c.dog.watch.rearm = false
  active : c.breaker.active = true
  begun : c.cycle = c.breaker.cycle
  errors : c.breaker.errors = lines.map .text
  below : lines.length < c.dog.circuit.settings.limit.toNat

namespace Counts

theorem current (counts : Counts lines c) : c.breaker.current = lines.length := by
  rw [Breaker.current, counts.errors, List.length_map]

/-- A line that does not reach the limit counts. -/
theorem line (counts : Counts lines c) (text : List Char)
    (below : lines.length + 1 < c.dog.circuit.settings.limit.toNat) :
    ∃ next, c.report text = (next, none) ∧ Counts (lines ++ [String.ofList text]) next ∧
      next.dog.circuit.settings = c.dog.circuit.settings := by
  have hcircuit := circuit_hear counts.tame.quiet text
  rw [Breaker.addError_of_lt counts.active (counts.current ▸ below)] at hcircuit
  have hbreaker : (c.hear text).breaker = (c.breaker.count (.text (String.ofList text))).arm
      c.dog.circuit.settings c.now := congrArg Circuit.breaker hcircuit
  have unfired : (c.hear text).breaker.isTripped (c.hear text).cycle = false := by
    rw [← Bool.not_eq_true, Breaker.isTripped_iff, hbreaker]
    exact counts.begun ▸ counts.tame.sound.unfired counts.active
  refine ⟨c.hear text, by rw [report_eq, unfired]; rfl, ?_, by rw [hcircuit]; rfl⟩
  exact
    { tame := counts.tame.perform _
      once := counts.once
      active := by rw [hbreaker]; exact counts.active
      begun := by rw [hbreaker]; exact counts.begun
      errors := by
        rw [hbreaker, List.map_append, ← counts.errors]
        rfl
      below := by
        rw [hcircuit, List.length_append]
        exact below }

/-- A line that reaches the limit trips the breaker, and the watch is over. -/
theorem last (counts : Counts lines c) (text : List Char)
    (reached : lines.length + 1 = c.dog.circuit.settings.limit.toNat) :
    (c.report text).2 = some (.reason .tripped) := by
  have printed : Report.printList (c.breaker.errors ++ [.text (String.ofList text)])
      = .ok (Text.bracketed ((lines ++ [String.ofList text]).map Text.quote)) := by
    rw [counts.errors, ← Report.printList_map_text, List.map_append]
    rfl
  have hle : c.dog.circuit.settings.limit.toNat ≤ c.breaker.current + 1 := by
    rw [counts.current]
    exact Nat.le_of_eq reached.symm
  have hcircuit := circuit_hear counts.tame.quiet text
  rw [Breaker.addError_of_le counts.active hle printed] at hcircuit
  have fired : (c.hear text).breaker.fired = c.breaker.cycle :: c.breaker.fired := by
    rw [breaker, hcircuit]
    exact counts.tame.sound.fired_trip counts.active _
  have tripped : (c.hear text).breaker.isTripped (c.hear text).cycle = true := by
    rw [Breaker.isTripped_iff, fired]
    exact counts.begun ▸ List.mem_cons_self
  rw [report_eq, if_pos tripped, onTrip_eq,
    show (c.hear text).dog.watch = c.dog.watch from rfl, counts.once]
  rfl

/-- Behind a pause in which no cooldown has elapsed the lines count still. -/
theorem pause (counts : Counts lines c) {ms : Nat} (uncleared : ¬ (c.dog.circuit.pass ms).Cleared) :
    Counts lines (c.onCircuit fun circuit => circuit.pass ms) ∧
      (c.dog.circuit.pass ms).settings = c.dog.circuit.settings := by
  have same := Circuit.sameCount_pass counts.tame.quiet uncleared
  obtain ⟨_, -, tells⟩ := Circuit.tells_pass counts.tame.quiet ms
  refine ⟨?_, tells.settings⟩
  exact
    { tame := counts.tame.pass ms
      once := counts.once
      active := same.active.trans counts.active
      begun := counts.begun.trans same.cycle.symm
      errors := same.errors.trans counts.errors
      below := by
        show lines.length < (c.dog.circuit.pass ms).settings.limit.toNat
        rw [tells.settings]
        exact counts.below }

/-- **A watch during which no cooldown elapses trips exactly if it gets as many lines as the
limit.** -/
theorem walk (cues : List Cue) : ∀ {lines : List String} {c : Course}, Counts lines c →
    ¬ (c.walk cues).1.dog.circuit.Cleared →
    (c.walk cues).2 = if c.dog.circuit.settings.limit.toNat
        ≤ lines.length + (cues.filterMap Cue.line?).length
      then some (.reason .tripped) else none := by
  induction cues with
  | nil =>
      intro lines c counts _
      have := counts.below
      rw [Course.walk, List.filterMap_nil, List.length_nil, if_neg (by omega)]
  | cons cue cues ih =>
      intro lines c counts uncleared
      cases cue with
      | line text =>
          have hline : (Cue.line text).line? = some text := rfl
          rw [List.filterMap_cons_some hline, List.length_cons]
          rw [Course.walk] at uncleared ⊢
          have below := counts.below
          by_cases reached : lines.length + 1 = c.dog.circuit.settings.limit.toNat
          · have hlast := counts.last text reached
            cases hreport : c.report text with
            | mk next ending =>
                rw [hreport] at hlast
                obtain rfl : ending = _ := hlast
                rw [if_pos (by omega)]
          · obtain ⟨next, hreport, counts', settings⟩ := counts.line text (by omega)
            rw [hreport] at uncleared ⊢
            have hwalk := ih counts' uncleared
            rw [List.length_append, List.length_singleton, settings] at hwalk
            refine hwalk.trans ?_
            rw [Nat.add_assoc, Nat.add_comm 1]
      | pause ms =>
          have hline : (Cue.pause ms).line? = none := rfl
          rw [List.filterMap_cons_none hline]
          rw [Course.walk] at uncleared ⊢
          have quiet : (c.dog.circuit.pass ms).sink.queued = 0 :=
            (counts.tame.pass ms).quiet
          have uncleared' : ¬ (c.dog.circuit.pass ms).Cleared := fun cleared =>
            uncleared (upkeep_cleared.walk cues (fun c ms _ => upkeep_cleared.pass c ms)
              ⟨quiet, cleared⟩).2
          obtain ⟨counts', settings⟩ := counts.pause uncleared'
          have hwalk := ih counts' uncleared
          rw [show (c.onCircuit fun circuit => circuit.pass ms).dog.circuit.settings = _
            from settings] at hwalk
          exact hwalk

end Counts

/-! ### Runs that are shorter than a cooldown -/

end Course

/-! ### Whole runs -/

/-- How many milliseconds the item takes. -/
def Item.lasts : Item → Nat
  | .sleep ms => ms
  | _ => 0

section Runs

variable {w : Watchdog} {script : Script}

end Runs

end Watchdog

end Tripwire
