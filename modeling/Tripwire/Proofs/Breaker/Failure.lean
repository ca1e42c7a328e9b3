/-
A report that breaks off stops the clock of its cycle.

The report that reaches the limit appends its error and moves the stamp on before
it writes the errors down.  If they cannot be written, that is all it has done: no
timer has been armed for the new error, and the timer of the one before carries an
old stamp.  `Breaker.Stuck` is the state this leaves.  The errors are at the limit
and cannot be written, so every further report breaks off in the same way, and each
timer that still runs lags behind the stamp, so none of them clears the count.

A stamp has 64 bits and comes round.  How far a timer lags behind is counted by
`Breaker.LagsBy`, in reports, and it takes 2^64 of them until a timer seems to be up
to date again.  Short of that only the end of the cycle helps, which is what
`Session.stuck_after_failed_report` says of all runs.
-/
import Mathlib.Algebra.Order.Ring.Nat
import Tripwire.Proofs.Breaker.Shape

namespace Tripwire

/-- The errors that are reported. -/
def reported (h : List Deed) : List Report := h.filterMap Deed.report?

/-- How many errors are reported. -/
def reports (h : List Deed) : Nat := h.countP Deed.isReport

theorem reports_append (h h' : List Deed) : reports (h ++ h') = reports h + reports h' := by
  simp [reports, List.countP_append]

theorem reported_append (h h' : List Deed) : reported (h ++ h') = reported h ++ reported h' := by
  simp [reported, List.filterMap_append]

theorem reports_cons {d : Deed} {e : Report} (hd : d.move = .report e) (h : List Deed) :
    reports (d :: h) = reports h + 1 :=
  List.countP_cons_of_pos (by simp [Deed.isReport, Deed.report?, hd])

theorem reported_cons {d : Deed} {e : Report} (hd : d.move = .report e) (h : List Deed) :
    reported (d :: h) = e :: reported h :=
  List.filterMap_cons_some (by rw [Deed.report?, hd])

/-- Only a report can break off. -/
theorem Deed.Fails.isReport {s : BreakerSettings} {d : Deed} (h : d.Fails s) :
    ∃ e, d.move = .report e := by
  obtain ⟨time, before, move⟩ := d
  cases move with
  | report e => exact ⟨e, rfl⟩
  | activate => exact absurd rfl h
  | deactivate =>
      refine absurd ?_ h
      simp only [effect, Move.effect, Breaker.deactivate]
      split <;> rfl
  | expire t =>
      refine absurd ?_ h
      simp only [effect, Move.effect, Breaker.expire]
      split <;> rfl
  | release => exact absurd rfl h

namespace Breaker

variable {s : BreakerSettings} {b : Breaker} {n : Nat}

/-! ### How far timers lag behind -/

/-- The timer has been overtaken by so many reports. -/
def Behind (b : Breaker) (t : Timer) (k : Nat) : Prop := b.stamp = t.stamp + UInt64.ofNat k

/-- Each timer that runs has been overtaken by so many reports at most. -/
def LagsBy (n : Nat) (b : Breaker) : Prop := ∀ t ∈ b.timers, ∃ k ≤ n, b.Behind t k

theorem LagsBy.ofNoTimers (h : b.timers = []) : LagsBy n b := by
  intro t ht
  rw [h] at ht
  simp at ht

theorem LagsBy.mono {m : Nat} (lags : LagsBy n b) (h : n ≤ m) : LagsBy m b := by
  intro t ht
  obtain ⟨k, hk, hbehind⟩ := lags t ht
  exact ⟨k, Nat.le_trans hk h, hbehind⟩

theorem Behind.count {t : Timer} {k : Nat} (h : b.Behind t k) (e : Report) :
    (b.count e).Behind t (k + 1) := by
  show b.stamp + 1 = t.stamp + UInt64.ofNat (k + 1)
  rw [h, UInt64.add_assoc, UInt64.ofNat_add]
  rfl

/-- One more report leaves the timers behind by one more, or starts a new one. -/
theorem LagsBy.addError (lags : LagsBy n b) (ok : Sound s b) (now : Nat) (e : Report) :
    LagsBy (n + 1) (b.addError s now e).breaker := by
  rcases addError_cases s now e b with ⟨-, heq⟩ | ⟨-, -, heq, -⟩ | ⟨-, -, f, -, heq, -⟩ |
    ⟨-, -, errors, -, heq, -⟩
  · rw [heq]
    exact lags.mono (Nat.le_succ n)
  · have hother : (b.count e).otherTimers = [] := ok.otherTimers
    rw [heq]
    intro t ht
    rw [arm, hother, List.nil_append, List.mem_singleton] at ht
    refine ⟨0, Nat.zero_le _, ?_⟩
    rw [ht]
    exact (UInt64.add_zero _).symm
  · rw [heq]
    intro t ht
    obtain ⟨k, hk, hbehind⟩ := lags t ht
    exact ⟨k + 1, Nat.succ_le_succ hk, hbehind.count e⟩
  · have hidle : (b.addError s now e).breaker.active = false := by rw [heq]; rfl
    exact .ofNoTimers ((ok.addError now e).timers_of_idle hidle)

/-- No timer has been overtaken by more reports than there have been. -/
theorem lagsBy_of_passage {h : List Deed} (p : Passage s {} h b) (valid : 0 < s.limit.toNat) :
    LagsBy (reports h) b := by
  induction p with
  | nil => exact .ofNoTimers rfl
  | @deed h b time move p held possible ih =>
      have ok : Sound s b := sound_of_passage p valid held
      rw [reports_append]
      cases move with
      | activate => exact .ofNoTimers ok.timers_activate
      | deactivate => exact .ofNoTimers (ok.deactivate.timers_of_idle (active_deactivate b))
      | report e => exact ih.addError ok time e
      | expire t => exact .ofNoTimers (ok.timers_expire possible)
      | release => exact .ofNoTimers rfl

/-! ### Stuck breakers -/

/-- The errors are at the limit and cannot be written, and no timer will clear them. -/
structure Stuck (s : BreakerSettings) (n : Nat) (b : Breaker) : Prop where
  active : b.active = true
  full : s.limit.toNat ≤ b.current
  unwritable : ∃ fault, Report.printList b.errors = .error fault
  /-- Each timer that runs has been overtaken. -/
  stale : ∀ t ∈ b.timers, ∃ k, 0 < k ∧ k ≤ n ∧ b.Behind t k

/-- A report that breaks off leaves the breaker stuck. -/
theorem stuck_of_fails (lags : LagsBy n b) {now : Nat} {e : Report}
    (failed : (b.addError s now e).fault ≠ none) :
    Stuck s (n + 1) (b.addError s now e).breaker := by
  obtain ⟨hactive, hfull, ⟨fault, hfault⟩, heq⟩ := addError_fails failed
  rw [heq]
  refine ⟨hactive, by simpa [count, current] using hfull, ⟨fault, hfault⟩, ?_⟩
  intro t ht
  obtain ⟨k, hk, hbehind⟩ := lags t ht
  exact ⟨k + 1, Nat.succ_pos k, Nat.succ_le_succ hk, hbehind.count e⟩

namespace Stuck

/-- Every further report breaks off as well. -/
theorem fails (stuck : Stuck s n b) (now : Nat) (e : Report) :
    (b.addError s now e).fault ≠ none := by
  obtain ⟨fault, hfault⟩ := stuck.unwritable
  have hmore : Report.printList (b.errors ++ [e]) = .error fault :=
    Report.printList_append_of_error hfault [e]
  have hfull := stuck.full
  rcases addError_cases s now e b with ⟨ha, -⟩ | ⟨-, hl, -, -⟩ | ⟨-, -, f, -, -, hf⟩ |
    ⟨-, -, errors, hok, -, -⟩
  · exact absurd (stuck.active.symm.trans ha) (by simp)
  · omega
  · rw [hf]; simp
  · rw [hmore] at hok
    exact absurd hok (by simp)

theorem breaker_addError (stuck : Stuck s n b) (now : Nat) (e : Report) :
    (b.addError s now e).breaker = b.count e :=
  (addError_fails (stuck.fails now e)).2.2.2

theorem addError (stuck : Stuck s n b) (now : Nat) (e : Report) :
    Stuck s (n + 1) (b.addError s now e).breaker := by
  refine stuck_of_fails ?_ (stuck.fails now e)
  intro t ht
  obtain ⟨k, -, hk, hbehind⟩ := stuck.stale t ht
  exact ⟨k, hk, hbehind⟩

/-- A timer does nothing when it runs out, unless the stamp has come round. -/
theorem breaker_expire (stuck : Stuck s n b) (few : n < 2 ^ 64) {t : Timer} (ht : t ∈ b.timers) :
    (b.expire t).breaker = b.finish t := by
  obtain ⟨k, hpos, hk, hbehind⟩ := stuck.stale t ht
  have hne : b.stamp ≠ t.stamp := by
    intro h
    have hzero : UInt64.ofNat k = 0 := UInt64.add_eq_left.mp (hbehind.symm.trans h)
    have hmod : k % 2 ^ 64 = 0 := by
      rw [← UInt64.toNat_ofNat', hzero]
      rfl
    rw [Nat.mod_eq_of_lt (by omega)] at hmod
    omega
  have heeds : (b.finish t).heeds t = false := by
    simp [heeds, finish, hne]
  simp [Breaker.expire, heeds]

theorem finish (stuck : Stuck s n b) (t : Timer) : Stuck s n (b.finish t) where
  active := stuck.active
  full := stuck.full
  unwritable := stuck.unwritable
  stale := fun t' ht' => stuck.stale t' (List.mem_filter.mp ht').1

end Stuck

/-- Nothing but the end of the cycle gets a breaker unstuck: it keeps all its errors, the signal
of its cycle stays as it is, and every report breaks off. -/
theorem Stuck.of_passage {a : Breaker} {h : List Deed} (stuck : Stuck s n a)
    (p : Passage s a h b) (held : Held h)
    (going : ∀ d ∈ h, d.steers = false)
    (few : n + reports h < 2 ^ 64) :
    Stuck s (n + reports h) b ∧ b.errors = a.errors ++ reported h ∧ b.cycle = a.cycle ∧
      b.fired = a.fired ∧ ∀ d ∈ h, d.isReport = true → d.Fails s := by
  induction p with
  | nil => exact ⟨stuck, by simp [reported], rfl, rfl, by simp⟩
  | @deed h b time move _ _ possible ih =>
      rw [reports_append] at few
      obtain ⟨hheld, hlast⟩ := held_append.mp held
      obtain ⟨stuck', herrors, hcycle, hfired, hfails⟩ :=
        ih hheld (fun d hd => going d (List.mem_append_left _ hd)) (by omega)
      have hgoing := going ⟨time, b, move⟩ (by simp)
      rw [reports_append, reported_append]
      cases move with
      | activate => exact absurd hgoing (by simp [Deed.steers])
      | deactivate => exact absurd hgoing (by simp [Deed.steers])
      | report e =>
          refine ⟨stuck'.addError time e, ?_, ?_, ?_, ?_⟩
          · rw [Move.effect, stuck'.breaker_addError, ← List.append_assoc, ← herrors]
            rfl
          · rw [Move.effect, stuck'.breaker_addError]
            exact hcycle
          · rw [Move.effect, stuck'.breaker_addError]
            exact hfired
          · intro d hd hreport
            rcases List.mem_append.mp hd with hd | hd
            · exact hfails d hd hreport
            · rw [List.mem_singleton.mp hd]
              exact stuck'.fails time e
      | expire t =>
          have hexpire : (Move.effect s time b (.expire t)).breaker = b.finish t :=
            stuck'.breaker_expire (by omega) possible
          rw [hexpire]
          have hnone : reported [⟨time, b, .expire t⟩] = [] := rfl
          refine ⟨stuck'.finish t, by rw [hnone, List.append_nil]; exact herrors, hcycle,
            hfired, ?_⟩
          intro d hd hreport
          rcases List.mem_append.mp hd with hd | hd
          · exact hfails d hd hreport
          · rw [List.mem_singleton.mp hd] at hreport
            exact absurd hreport (by simp [Deed.isReport, Deed.report?])
      | release => exact absurd rfl (held_singleton.mp hlast)

end Breaker

/-! ### Sessions -/

namespace Session

variable {α : Type}

/-- **After a report that has broken off, its cycle neither forgets an error nor trips.**

However long the quiet periods and however many the reports that follow, until the cycle is
ended the count stays at the limit or above, with every error in it, the signal stays as it is,
and every report breaks off. -/
theorem stuck_after_failed_report {hasRuntime : Bool} {settings : BreakerSettings} {sink : Sink α}
    {c : Circuit α} (made : Circuit.create hasRuntime settings sink = .ok c)
    (steps : List (Step α)) (live : (after { circuit := c } steps).isLive = true)
    {earlier later : List Deed} {d : Deed}
    (happened : history { circuit := c } steps = earlier ++ d :: later)
    (failed : d.Fails settings)
    (going : ∀ d' ∈ later, d'.steers = false)
    (few : reports (history { circuit := c } steps) < 2 ^ 64) :
    let b := (after { circuit := c } steps).circuit.breaker
    b.active = true ∧ b.cycle = d.before.cycle ∧
      b.errors = d.before.errors ++ reported (d :: later) ∧
      0 < settings.limit.toNat ∧ settings.limit.toNat ≤ b.current ∧
      b.fate d.before.cycle = .pending ∧
      ∀ d' ∈ later, d'.isReport = true → d'.Fails settings := by
  obtain ⟨-, valid, -⟩ := Circuit.of_create made
  obtain ⟨passage, -, -, isHeld⟩ := goes_of_create made steps
  have held := isHeld live
  have ok := Breaker.sound_of_passage passage valid held
  rw [happened] at passage held few
  obtain ⟨before, behind⟩ := passage.around
  have hlater : Held later := fun d' hd' => held d' (by simp [hd'])
  obtain ⟨e, hmove⟩ := failed.isReport
  rw [reports_append, reports_cons hmove] at few
  have hfault : (d.before.addError settings d.time e).fault ≠ none := by
    rw [Deed.Fails, Deed.effect, hmove] at failed
    exact failed
  have stuck := Breaker.stuck_of_fails (Breaker.lagsBy_of_passage before valid) hfault
  have hafter : d.after settings = (d.before.addError settings d.time e).breaker := by
    rw [Deed.after, Deed.effect, hmove, Move.effect]
  rw [← hafter] at stuck
  obtain ⟨stuck', herrors, hcycle, hfired, hfails⟩ :=
    stuck.of_passage behind hlater going (by omega)
  have hcount : d.after settings = d.before.count e :=
    hafter.trans (Breaker.addError_fails hfault).2.2.2
  rw [hcount] at herrors hcycle
  refine ⟨stuck'.active, hcycle, ?_, valid, stuck'.full, ?_, hfails⟩
  · rw [herrors, reported_cons hmove]
    simp [Breaker.count]
  · have hcycle' : (after { circuit := c } steps).circuit.breaker.cycle = d.before.cycle := hcycle
    rw [← hcycle', Breaker.fate, if_neg (ok.unfired stuck'.active),
      if_pos ⟨ok.sender.trans stuck'.active, rfl⟩]

/-- Two errors, less than ten milliseconds apart, trip the breaker of this session. -/
def ofPairs : Session Unit :=
  { circuit := { settings := { limit := 2, cooldownMs := 10 }, sink := .keeping [] [] } }

/-- The second of two errors cannot be written; two cooldowns later there are two more. -/
def unwritableSecond : List (Step Unit) :=
  [.operate 0 .activate, .operate 0 (.addError (.text "a")),
   .operate 0 (.addError (.unprintable ⟨"no text"⟩)), .sleep 20,
   .operate 0 (.addError (.text "b")), .operate 0 (.addError (.text "c"))]

/-- After two cooldowns of silence and two more errors all four still count. -/
theorem stuck_after_two_cooldowns :
    let settings := ofPairs.circuit.settings
    let h := ofPairs.history unwritableSecond
    let s := ofPairs.after unwritableSecond
    Circuit.create true settings ofPairs.circuit.sink = .ok ofPairs.circuit ∧ s.isLive = true ∧
      ∃ earlier d later, h = earlier ++ d :: later ∧ d.Fails settings ∧
        (∀ d' ∈ later, d'.steers = false) ∧ reports h < 2 ^ 64 ∧
        s.circuit.now = d.time + 20 ∧ s.circuit.breaker.current = 4 ∧
        settings.limit.toNat ≤ s.circuit.breaker.current ∧
        s.circuit.breaker.fate d.before.cycle = .pending := by
  have made : Circuit.create true ofPairs.circuit.settings ofPairs.circuit.sink
      = .ok ofPairs.circuit := rfl
  have live : (ofPairs.after unwritableSecond).isLive = true := by decide
  have happened : ofPairs.history unwritableSecond
      = (ofPairs.history unwritableSecond).take 2
        ++ (ofPairs.history unwritableSecond).get ⟨2, by decide⟩
          :: (ofPairs.history unwritableSecond).drop 3 := rfl
  have failed : ((ofPairs.history unwritableSecond).get ⟨2, by decide⟩).Fails
      ofPairs.circuit.settings := by decide
  have going : ∀ d' ∈ (ofPairs.history unwritableSecond).drop 3, d'.steers = false := by decide
  have few : reports (ofPairs.history unwritableSecond) < 2 ^ 64 := by decide
  have stuck := stuck_after_failed_report made unwritableSecond live happened failed going few
  exact ⟨made, live, _, _, _, happened, failed, going, few, by decide, by decide,
    stuck.2.2.2.2.1, stuck.2.2.2.2.2.1⟩

end Session

end Tripwire
