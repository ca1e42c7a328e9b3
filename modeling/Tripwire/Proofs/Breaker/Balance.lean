/-
No counted error gets lost.

An error that counts leaves the log in one of four ways: a quiet period clears the
count, the breaker trips, somebody deactivates it, or somebody activates it anew while a
cycle goes on.  `Breaker.Balanced` is the account of that between any two breakers.  On
one side stand the errors that counted at first and those that came since, on the other
those that count still and what has left by each way.  Accounts of one passage after the
other add up, and what each kind of move enters is read off its outcome, so the account
of a run is an induction over its chronicle.

How many errors a reset line speaks of needs one more fact.  The timer that clears the
count was started over a log below the limit, and the log has grown since then by as many
errors as the timer lags behind (`Breaker.Trailing`).  The timer acts only if its stamp
is the present one, so it lags behind by none, or by a multiple of 2^64.  In the second
case the log has more errors than a machine word can count.
-/
import Mathlib.Algebra.Order.BigOperators.Group.List
import Tripwire.Proofs.Breaker.Failure
import Tripwire.Proofs.Breaker.Outcome
import Tripwire.Proofs.Breaker.Signal
import Tripwire.Proofs.Record

namespace Tripwire

variable {α : Type}

/-! ### What is added up -/

/-- The number of errors that a reset line speaks of. -/
@[simp] def Notice.cleared? : Notice → Option Nat
  | cleared count => some count
  | _ => none

/-- The numbers of errors that the reset lines speak of. -/
def figures (es : List Emission) : List Nat := (lines es).filterMap Notice.cleared?

/-- How many errors somebody has thrown away who ended a cycle at will. -/
def Deed.discarded (d : Deed) : Nat :=
  if d.steers && d.before.active then d.before.current else 0

section Simp

variable (es es' : List Emission)

@[simp] theorem figures_nil : figures [] = [] := rfl

@[simp] theorem figures_counter (k : Counter) : figures (.counter k :: es) = figures es := rfl

@[simp] theorem figures_gauge (count : Nat) : figures (.gauge count :: es) = figures es := rfl

@[simp] theorem figures_notice (n : Notice) :
    figures (.notice n :: es) = n.cleared?.toList ++ figures es := by
  cases n <;> rfl

theorem figures_append : figures (es ++ es') = figures es ++ figures es' := by
  rw [figures, lines_append, List.filterMap_append]
  rfl

end Simp

/-- What the counters show is what has been told about them. -/
theorem Circuit.countP_events (c : Circuit α) (k : Counter) (j : List (Happening α)) :
    (Journal.events c.eventOf j).countP (Event.isCounter k)
      = (Journal.told j).count (.counter k) := by
  induction j with
  | nil => rfl
  | cons x j ih =>
      cases x with
      | did d => exact ih
      | told b e =>
          rw [Journal.events_told, Journal.told_told, List.countP_cons, List.count_cons, ih,
            isCounter_eventOf]
          simp
      | answered op a => simpa [List.countP_cons, Event.isCounter] using ih

namespace Breaker

variable {s : BreakerSettings}

/-! ### How much a timer clears -/

/-- Each timer that runs was started over a log below the limit, which has grown since by as many
errors as the timer lags behind. -/
def Trailing (s : BreakerSettings) (b : Breaker) : Prop :=
  ∀ t ∈ b.timers, ∃ k m, b.Behind t k ∧ b.current = m + k ∧ m < s.limit.toNat

namespace Trailing

variable {b : Breaker}

theorem ofNoTimers (h : b.timers = []) : Trailing s b := by
  intro t ht
  rw [h] at ht
  simp at ht

theorem addError (trailing : Trailing s b) (ok : Sound s b) (now : Nat) (e : Report) :
    Trailing s (b.addError s now e).breaker := by
  rcases addError_cases s now e b with ⟨-, heq⟩ | ⟨-, hl, heq, -⟩ | ⟨-, -, f, -, heq, -⟩ |
    ⟨-, -, errors, -, heq, -⟩
  · rwa [heq]
  · have hother : (b.count e).otherTimers = [] := ok.otherTimers
    rw [heq]
    intro t ht
    rw [arm, hother, List.nil_append, List.mem_singleton] at ht
    refine ⟨0, b.current + 1, ?_, ?_, hl⟩
    · rw [ht]
      exact (UInt64.add_zero _).symm
    · simp [arm, count, current]
  · rw [heq]
    intro t ht
    obtain ⟨k, m, hbehind, hgrown, hm⟩ := trailing t ht
    refine ⟨k + 1, m, hbehind.count e, ?_, hm⟩
    rw [← Nat.add_assoc, ← hgrown]
    simp [count, current]
  · have hidle : (b.addError s now e).breaker.active = false := by rw [heq]; rfl
    exact .ofNoTimers ((ok.addError now e).timers_of_idle hidle)

/-- A timer that acts clears fewer errors than the limit, unless a word cannot count them. -/
theorem lt_limit (trailing : Trailing s b) {t : Timer} (ht : t ∈ b.timers)
    (due : b.stamp = t.stamp) (word : b.current < 2 ^ 64) : b.current < s.limit.toNat := by
  obtain ⟨k, m, hbehind, hgrown, hm⟩ := trailing t ht
  have hzero : UInt64.ofNat k = 0 := UInt64.add_eq_left.mp (hbehind.symm.trans due)
  have hmod : k % 2 ^ 64 = 0 := by
    rw [← UInt64.toNat_ofNat', hzero]
    rfl
  rw [Nat.mod_eq_of_lt (by omega)] at hmod
  omega

end Trailing

theorem trailing_of_passage {b : Breaker} {h : List Deed} (p : Passage s {} h b)
    (valid : 0 < s.limit.toNat) : Trailing s b := by
  induction p with
  | nil => exact .ofNoTimers rfl
  | @deed h b time move p held possible ih =>
      have ok : Sound s b := sound_of_passage p valid held
      cases move with
      | activate => exact .ofNoTimers ok.timers_activate
      | deactivate => exact .ofNoTimers (ok.deactivate.timers_of_idle (active_deactivate b))
      | report e => exact ih.addError ok time e
      | expire t => exact .ofNoTimers (ok.timers_expire possible)
      | release => exact .ofNoTimers rfl

/-! ### The account -/

/-- From one breaker to another the books balance. -/
structure Balanced (s : BreakerSettings) (a : Breaker) (h : List Deed) (es : List Emission)
    (b : Breaker) : Prop where
  /-- Each report that finds the breaker active goes into the total. -/
  errors : es.count (.counter .errors) = h.countP Deed.counts
  /-- An error counts still or has left the log in one of four ways. -/
  balance : a.current + es.count (.counter .errors)
    = b.current + (figures es).sum + s.limit.toNat * es.count (.counter .trips)
      + (h.map Deed.discarded).sum
  /-- Each trip has its warning. -/
  warnings : es.count (.counter .trips) = (lines es).countP Notice.isWarning
  /-- Each trip fires one signal. -/
  signals : b.fired.length = a.fired.length + es.count (.counter .trips)
  /-- Each reset has its line. -/
  resets : es.count (.counter .resets) = (figures es).length
  cleared : ∀ n ∈ figures es, 0 < n ∧ (n < 2 ^ 64 → n < s.limit.toNat)

namespace Balanced

variable {a b c : Breaker} {h h' : List Deed} {es es' : List Emission}

/-- Nothing is entered where nothing counts, leaves or is told. -/
theorem idle (errors : b.errors = a.errors) (fired : b.fired = a.fired) :
    Balanced s a [] [] b where
  errors := rfl
  balance := by simp [current, errors]
  warnings := rfl
  signals := by simp [fired]
  resets := rfl
  cleared := by simp

theorem trans (first : Balanced s a h es b) (second : Balanced s b h' es' c) :
    Balanced s a (h ++ h') (es ++ es') c where
  errors := by rw [List.count_append, List.countP_append, first.errors, second.errors]
  balance := by
    have left := first.balance
    have right := second.balance
    rw [figures_append, List.count_append, List.count_append, Nat.mul_add, List.map_append,
      List.sum_append, List.sum_append]
    omega
  warnings := by
    rw [lines_append, List.count_append, List.countP_append, first.warnings, second.warnings]
  signals := by rw [second.signals, first.signals, List.count_append, Nat.add_assoc]
  resets := by
    rw [figures_append, List.count_append, List.length_append, first.resets, second.resets]
  cleared := by
    intro n hn
    rw [figures_append] at hn
    rcases List.mem_append.mp hn with hn | hn
    · exact first.cleared n hn
    · exact second.cleared n hn

/-- That a cycle has started is told without being entered. -/
theorem start (b : Breaker) (k : Nat) : Balanced s b [] [.notice (.started k)] b where
  errors := rfl
  balance := by simp
  warnings := rfl
  signals := rfl
  resets := rfl
  cleared := by simp

/-- Where nothing trips and no reset clears anything, what counts more has come in and what counts
less has been thrown away. -/
theorem plain {d : Deed} (errors : es.count (.counter .errors) = [d].countP Deed.counts)
    (balance : a.current + es.count (.counter .errors) = b.current + d.discarded)
    (trips : es.count (.counter .trips) = 0) (warnings : (lines es).countP Notice.isWarning = 0)
    (fired : b.fired = a.fired) (resets : es.count (.counter .resets) = 0)
    (figures : figures es = []) : Balanced s a [d] es b where
  errors := errors
  balance := by simp [balance, trips, figures]
  warnings := trips.trans warnings.symm
  signals := by rw [fired, trips, Nat.add_zero]
  resets := by rw [resets, figures, List.length_nil]
  cleared := by simp [figures]

end Balanced

/-- What a move enters in the books. -/
theorem Outcome.balanced {b : Breaker} {move : Move} {effect : Effect}
    (outcome : Outcome s b move effect) (trailing : Trailing s b) (possible : move.Possible b)
    (time : Nat) :
    Balanced s b [⟨time, b, move⟩] (promptly effect.emissions) effect.breaker := by
  cases outcome with
  | idle uncounted unsteered _ emissions errors _ _ fired =>
      rw [emissions]
      have discarded : Deed.discarded ⟨time, b, move⟩ = 0 := by
        cases move with
        | activate => simp [Deed.discarded, (unsteered (.inl rfl)).1]
        | deactivate => simp [Deed.discarded, (unsteered (.inr rfl)).1]
        | _ => rfl
      refine .plain ?_ ?_ rfl rfl fired rfl rfl
      · simp [counts_of_uncounted uncounted time, promptly]
      · simp [current, errors, discarded, promptly]
  | begins idle emissions errors _ _ fired =>
      rw [emissions]
      cases going : b.active with
      | false =>
          refine .plain rfl ?_ rfl rfl fired rfl rfl
          simp [promptly, current, errors, idle going, Deed.discarded, Deed.steers, going]
      | true =>
          refine .plain rfl ?_ rfl rfl fired rfl rfl
          simp [promptly, current, errors, Deed.discarded, Deed.steers, going]
  | ends going emissions errors _ _ fired =>
      rw [emissions]
      refine .plain rfl ?_ rfl rfl fired rfl rfl
      simp [current, errors, promptly, Deed.discarded, Deed.steers, going]
  | counts e going _ emissions errors _ _ fired =>
      rw [emissions]
      refine .plain ?_ ?_ rfl rfl fired rfl rfl
      · simp [promptly, Deed.counts_of_report, going]
      · simp [promptly, current, errors, Deed.discarded, Deed.steers]
  | trips e text going full _ emissions errors _ _ fired =>
      rw [emissions]
      exact
        { errors := by simp [promptly, Deed.counts_of_report, going]
          balance := by
            simpa [promptly, current, errors, Deed.discarded, Deed.steers] using full
          warnings := rfl
          signals := by simp [fired, promptly]
          resets := rfl
          cleared := by simp [promptly] }
  | clears t going due some _ emissions errors _ _ fired =>
      rw [emissions]
      exact
        { errors := rfl
          balance := by simp [promptly, current, errors, Deed.discarded, Deed.steers]
          warnings := rfl
          signals := by simp [fired, promptly]
          resets := rfl
          cleared := by
            intro n hn
            obtain rfl : n = b.current := by simpa [promptly] using hn
            exact ⟨some, trailing.lt_limit possible due⟩ }

/-! ### Cycles that have tripped -/

/-- No cycle trips twice. -/
theorem nodup_fired_of_passage {b : Breaker} {h : List Deed} (p : Passage s {} h b)
    (valid : 0 < s.limit.toNat) : b.fired.Nodup := by
  induction p with
  | nil => exact List.nodup_nil
  | @deed h b time move p held _ ih =>
      have ok : Sound s b := sound_of_passage p valid held
      rcases (ok.outcome time move).fired_cases with fired | ⟨-, -, going, -, fired⟩
      · exact fired ▸ ih
      · rw [fired]
        exact List.nodup_cons.mpr ⟨ok.unfired going, ih⟩

/-- The cycles noted as tripped are those whose signal has fired. -/
theorem length_fired {b : Breaker} {h : List Deed} (p : Passage s {} h b)
    (valid : 0 < s.limit.toNat) :
    b.fired.length = (List.range' 1 b.cycle).countP b.isTripped := by
  have ledger := ledger_of_passage p valid
  have same : ((List.range' 1 b.cycle).filter b.isTripped).Perm b.fired := by
    refine (List.perm_ext_iff_of_nodup (List.filter_sublist.nodup List.nodup_range')
      (nodup_fired_of_passage p valid)).mpr fun k => ?_
    rw [List.mem_filter, isTripped_iff, List.mem_range'_1]
    refine ⟨And.right, fun hk => ⟨?_, hk⟩⟩
    have range := ledger.range k (.inl ((ledger.fired k).mp hk))
    omega
  rw [List.countP_eq_length_filter, same.length_eq]

end Breaker

/-! ### Runs -/

/-- **The books of a chronicle balance.** -/
theorem Chronicle.balanced {s : BreakerSettings} {b : Breaker} {j : List (Happening α)}
    (chronicle : Chronicle s {} j b) (valid : 0 < s.limit.toNat) :
    Breaker.Balanced s {} (Journal.deeds j) (Journal.told j) b := by
  induction chronicle with
  | nil => exact .idle rfl rfl
  | @deed j b time move chronicle held possible ih =>
      have passage := chronicle.passage
      have outcome := (Breaker.sound_of_passage passage valid held).outcome time move
      rw [Journal.deeds_append, Journal.deeds_did, Journal.deeds_news, Journal.told_append,
        Journal.told_did, Journal.told_news]
      exact ih.trans
        (outcome.balanced (Breaker.trailing_of_passage passage valid) possible time)
  | @late j b k _ ih =>
      rw [Journal.deeds_append, Journal.told_append]
      exact ih.trans (.start b k)
  | answer op a _ ih => simpa using ih

namespace Session

/-- How the totals of a run, what it has told, and the state it ends in go together. -/
structure Conserves (s : Session α) (steps : List (Step α)) (total : Counter → Nat)
    (told : List Emission) : Prop where
  /-- The errors that are counted are the reports that found the breaker active. -/
  errors : total .errors = (s.history steps).countP Deed.counts
  /-- Each of them counts still, or a reset has cleared it, or a trip, or somebody who ended a
  cycle at will. -/
  balance : total .errors = (s.after steps).circuit.breaker.current + (figures told).sum
    + s.circuit.settings.limit.toNat * total .trips + ((s.history steps).map Deed.discarded).sum
  warnings : total .trips = (lines told).countP Notice.isWarning
  /-- The trips that are counted are the cycles whose signal has fired. -/
  signals : total .trips = (List.range' 1 (s.after steps).circuit.breaker.cycle).countP
    (s.after steps).circuit.breaker.isTripped
  resets : total .resets = (figures told).length
  /-- A reset clears at least one error and fewer than the limit; a log has fewer errors than a
  word of 64 bits can count. -/
  cleared : ∀ n ∈ figures told, 0 < n ∧ (n < 2 ^ 64 → n < s.circuit.settings.limit.toNat)

/-- **Counted errors are conserved.** -/
theorem conserves_errors {hasRuntime : Bool} {settings : BreakerSettings} {sink : Sink α}
    {c : Circuit α} (made : Circuit.create hasRuntime settings sink = .ok c)
    (steps : List (Step α)) :
    let start : Session α := { circuit := c }
    Recorded start steps ∧
      Conserves start steps
        (fun k => ((start.run steps).flatMap Snapshot.events).countP (Event.isCounter k))
        (Journal.told (start.journal steps)) := by
  obtain ⟨rfl, valid, -⟩ := Circuit.of_create made
  have recorded := records_after (s := { circuit := { settings, sink } }) (fun _ => rfl) rfl steps
  have books := recorded.chronicle.balanced valid
  have fired := Breaker.length_fired recorded.chronicle.passage valid
  refine ⟨recorded, ?_⟩
  rw [recorded.events]
  simp only [Circuit.countP_events]
  rw [recorded.deeds] at books
  exact
    { errors := books.errors
      balance := (Nat.zero_add _).symm.trans books.balance
      warnings := books.warnings
      signals := by rw [← fired, books.signals]; simp
      resets := books.resets
      cleared := books.cleared }

/-- A run in which errors leave the log in each of the four ways.  The reaction to the reset line
reports an error that an activation then discards, the reaction to the start behind that breaks off,
and the reaction to the warning activates the breaker, which keeps one error to the end. -/
theorem conserves_errors_of_each_kind :
    let settings : BreakerSettings := { limit := 2, cooldownMs := 10 }
    let sink : Sink Unit :=
      .keeping [.activate] [.isActive, .addError (.text "b"), .isActive, .fail ⟨"no disk"⟩]
    let c : Circuit Unit := { settings, sink }
    let start : Session Unit := { circuit := c }
    let steps : List (Step Unit) :=
      [.operate 0 .activate, .operate 0 (.addError (.text "a")), .sleep 10, .operate 0 .activate,
       .operate 0 (.addError (.text "c")), .operate 0 (.addError (.text "d")),
       .operate 0 (.addError (.text "e")), .operate 0 .deactivate, .operate 0 .activate,
       .operate 0 (.addError (.text "f"))]
    let total := fun k =>
      ((start.run steps).flatMap Snapshot.events).countP (Event.isCounter k)
    Circuit.create true settings sink = .ok c ∧
      (Recorded start steps ∧ Conserves start steps total (Journal.told (start.journal steps))) ∧
      total .errors = 6 ∧ (start.after steps).circuit.breaker.current = 1 ∧
      figures (Journal.told (start.journal steps)) = [1] ∧ total .trips = 1 ∧
      (start.history steps).map Deed.discarded = [0, 0, 0, 0, 1, 0, 0, 0, 0, 1, 0, 0] :=
  have made : Circuit.create true { limit := 2, cooldownMs := 10 }
      (.keeping [.activate] [.isActive, .addError (.text "b"), .isActive, .fail ⟨"no disk"⟩]
        : Sink Unit) = .ok _ := rfl
  ⟨made, conserves_errors made _, by decide, by decide, by decide, by decide, by decide⟩

end Session

end Tripwire
