/-
What comes of a move.

To a breaker that is sound a move can do one of six things: nothing that shows, begin
a cycle, end one, count an error, trip, or clear the count.  `Breaker.Outcome` says of
each what the outside is told and what becomes of the log, of the cycle and of the
cycles that have tripped, and `Breaker.Sound.outcome` that there is nothing else.  What
is to be shown of every run of what is told can then be shown of these six.

Two facts come in here that no single function of the breaker shows.  An error that
trips the breaker brings its log to the limit exactly, as a log beyond the limit cannot
be written.  And the count that a timer clears is above zero.
-/
import Tripwire.Proofs.Breaker.Shape

namespace Tripwire

namespace Breaker

variable {s : BreakerSettings} {b : Breaker}

/-- What a move can do to a breaker that is sound. -/
inductive Outcome (s : BreakerSettings) (b : Breaker) : Move → Effect → Prop
  /-- Nothing is told, and nothing is counted, begun or ended. -/
  | idle {move : Move} {effect : Effect} (uncounted : ∀ e, move = .report e → b.active = false)
      (unsteered : move = .activate ∨ move = .deactivate → b.active = false ∧ move = .deactivate)
      (uncleared : ∀ t, move = .expire t → (b.finish t).heeds t = false)
      (emissions : effect.emissions = []) (errors : effect.breaker.errors = b.errors)
      (active : effect.breaker.active = b.active) (cycle : effect.breaker.cycle = b.cycle)
      (fired : effect.breaker.fired = b.fired) : Outcome s b move effect
  /-- A cycle begins, and one that goes on ends. -/
  | begins {effect : Effect} (idle : b.active = false → b.errors = [])
      (emissions : effect.emissions = .gauge 0 ::
        (if b.active then [.notice (.superseded b.cycle)] else [])
          ++ [.notice (.started (b.cycle + 1))])
      (errors : effect.breaker.errors = []) (active : effect.breaker.active = true)
      (cycle : effect.breaker.cycle = b.cycle + 1) (fired : effect.breaker.fired = b.fired) :
      Outcome s b .activate effect
  /-- The cycle that goes on ends. -/
  | ends {effect : Effect} (going : b.active = true)
      (emissions : effect.emissions = [.gauge 0, .notice (.deactivated b.cycle)])
      (errors : effect.breaker.errors = []) (active : effect.breaker.active = false)
      (cycle : effect.breaker.cycle = b.cycle) (fired : effect.breaker.fired = b.fired) :
      Outcome s b .deactivate effect
  /-- An error counts: it does not reach the limit, or the log cannot be written. -/
  | counts {effect : Effect} (e : Report) (going : b.active = true)
      (short : b.current + 1 < s.limit.toNat ∨
        ∃ fault, Report.printList (b.errors ++ [e]) = .error fault)
      (emissions : effect.emissions = [.counter .errors, .gauge (b.current + 1)])
      (errors : effect.breaker.errors = b.errors ++ [e]) (active : effect.breaker.active = true)
      (cycle : effect.breaker.cycle = b.cycle) (fired : effect.breaker.fired = b.fired) :
      Outcome s b (.report e) effect
  /-- An error counts and brings the log to the limit, and the log can be written. -/
  | trips {effect : Effect} (e : Report) (text : String) (going : b.active = true)
      (full : b.current + 1 = s.limit.toNat)
      (printed : Report.printList (b.errors ++ [e]) = .ok text)
      (emissions : effect.emissions = [.counter .errors, .gauge (b.current + 1), .counter .trips,
        .gauge 0, .notice (.tripped b.cycle text)])
      (errors : effect.breaker.errors = []) (active : effect.breaker.active = false)
      (cycle : effect.breaker.cycle = b.cycle) (fired : effect.breaker.fired = b.cycle :: b.fired) :
      Outcome s b (.report e) effect
  /-- A timer runs out and clears the count. -/
  | clears {effect : Effect} (t : Timer) (going : b.active = true) (due : b.stamp = t.stamp)
      (some : 0 < b.current) (heeds : (b.finish t).heeds t = true)
      (emissions : effect.emissions = [.counter .resets, .gauge 0, .notice (.cleared b.current)])
      (errors : effect.breaker.errors = []) (active : effect.breaker.active = true)
      (cycle : effect.breaker.cycle = b.cycle) (fired : effect.breaker.fired = b.fired) :
      Outcome s b (.expire t) effect

/-- A move that is not counted makes a deed that does not count. -/
theorem counts_of_uncounted {move : Move} (uncounted : ∀ e, move = .report e → b.active = false)
    (time : Nat) : Deed.counts ⟨time, b, move⟩ = false := by
  cases move with
  | report e => exact (Deed.counts_of_report rfl).trans (uncounted e rfl)
  | _ => rfl

/-- Only the cycle of a trip is noted as tripped. -/
theorem Outcome.fired_cases {move : Move} {effect : Effect} (outcome : Outcome s b move effect) :
    effect.breaker.fired = b.fired ∨
      ∃ e, move = .report e ∧ b.active = true ∧ b.current + 1 = s.limit.toNat ∧
        effect.breaker.fired = b.cycle :: b.fired := by
  cases outcome with
  | idle _ _ _ _ _ _ _ fired => exact .inl fired
  | begins _ _ _ _ _ fired => exact .inl fired
  | ends _ _ _ _ _ fired => exact .inl fired
  | counts _ _ _ _ _ _ _ fired => exact .inl fired
  | trips e _ going full _ _ _ _ _ fired => exact .inr ⟨e, rfl, going, full, fired⟩
  | clears _ _ _ _ _ _ _ _ _ fired => exact .inl fired

namespace Sound

/-- An error that trips the breaker brings the log to the limit and not beyond. -/
theorem full_of_printed (ok : Sound s b) (going : b.active = true) {e : Report} {text : String}
    (reached : s.limit.toNat ≤ b.current + 1)
    (printed : Report.printList (b.errors ++ [e]) = .ok text) :
    b.current + 1 = s.limit.toNat := by
  refine (Nat.le_antisymm reached ?_).symm
  refine Nat.succ_le_of_lt (Nat.lt_of_not_le fun beyond => ?_)
  obtain ⟨fault, unwritable⟩ := ok.overfull going beyond
  have still := Report.printList_append_of_error unwritable [e]
  exact absurd (printed.symm.trans still) (by simp)

theorem outcome_report (ok : Sound s b) (now : Nat) (e : Report) :
    Outcome s b (.report e) (b.addError s now e) := by
  cases going : b.active with
  | false =>
      have same : b.addError s now e = { breaker := b } := by simp [Breaker.addError, going]
      rw [same]
      exact .idle (fun _ _ => going) (by simp) (by simp) rfl rfl rfl rfl rfl
  | true =>
      by_cases below : b.current + 1 < s.limit.toNat
      · rw [addError_of_lt going below]
        exact .counts e going (.inl below) rfl rfl going rfl rfl
      · have reached := Nat.le_of_not_lt below
        cases printed : Report.printList (b.errors ++ [e]) with
        | error fault =>
            rw [addError_of_error going reached printed]
            exact .counts e going (.inr ⟨fault, printed⟩) rfl rfl going rfl rfl
        | ok text =>
            rw [addError_of_le going reached printed]
            have full := ok.full_of_printed going reached printed
            refine .trips e text going full printed rfl rfl rfl ?_ (ok.fired_trip going e)
            rw [ok.fire_count going]
            rfl

theorem outcome_expire (b : Breaker) (t : Timer) : Outcome s b (.expire t) (b.expire t) := by
  unfold Breaker.expire
  dsimp only
  split
  · rename_i heeds
    have hheeds := heeds
    simp only [Breaker.heeds, Breaker.finish, Bool.and_eq_true, Bool.not_eq_true',
      List.isEmpty_eq_false_iff] at hheeds
    obtain ⟨⟨going, due⟩, counted⟩ := hheeds
    exact .clears t going (of_decide_eq_true due) (List.length_pos_iff.mpr counted) heeds rfl rfl
      going rfl rfl
  · rename_i heeds
    refine .idle (by simp) (by simp) (fun t' h => ?_) rfl rfl rfl rfl rfl
    obtain rfl := Move.expire.inj h
    simpa using heeds

/-- **Of every move comes one of six things.** -/
theorem outcome (ok : Sound s b) (now : Nat) (move : Move) :
    Outcome s b move (move.effect s now b) := by
  cases move with
  | activate =>
      exact .begins (fun idle => (ok.idle idle).1) rfl ok.errors_activate rfl rfl (fired_activate b)
  | deactivate =>
      show Outcome s b .deactivate b.deactivate
      cases going : b.active with
      | true =>
          rw [Breaker.deactivate, if_pos going]
          exact .ends going rfl rfl rfl rfl rfl
      | false =>
          rw [Breaker.deactivate, if_neg (by simp [going])]
          exact .idle (by simp) (by simp [going]) (by simp) rfl rfl rfl rfl rfl
  | report e => exact ok.outcome_report now e
  | expire t => exact outcome_expire b t
  | release => exact .idle (by simp) (by simp) (by simp) rfl rfl rfl rfl rfl

end Sound

end Breaker

end Tripwire
