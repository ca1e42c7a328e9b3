/-
A signal tells the fate of its own cycle.

The breaker keeps little about its signals: the cycles that have tripped, and whether
the signal of the last one can still fire.  What a signal shows is worked out from
that whenever somebody looks.  Here it is set against the history of the run.  A
cycle has tripped if some deed of the history brought its errors to the limit and
could write them (`Tripped`), it has ended without a trip if somebody ended it while
it went on (`Closed`), and otherwise it is still going on (`Alive`).

`Breaker.Ledger` is the account that ties the two together.  Moves fall into four
kinds by what they do to it: most do nothing, a trip adds a cycle to those that have
tripped, an end only takes the sender away, and an activation does the latter to a
cycle that still goes on and then opens the next.

Sessions then follow.  What they record of signals and of waiting tasks are cycles, so
`Session.Truthful` reads off the ledger what is shown at the end of a step, and
`Session.Lasting` compares two ledgers of one run.
-/
import Mathlib.Data.List.Induction
import Mathlib.Tactic.ByContra
import Tripwire.Proofs.Patience

namespace Tripwire

/-! ### The fate of a cycle in a history -/

namespace Deed

/-- The deed reports the error that brings those of a cycle to the limit, and all of them can be
written. -/
def Trips (s : BreakerSettings) (cycle : Nat) (d : Deed) : Prop :=
  d.before.active = true ∧ d.before.cycle = cycle ∧
    ∃ e, d.move = .report e ∧ s.limit.toNat ≤ d.before.current + 1 ∧
      ∃ errors, Report.printList (d.before.errors ++ [e]) = .ok errors

/-- The deed deactivates the breaker, activates it anew or lets go of it while a cycle goes on. -/
def Closes (cycle : Nat) (d : Deed) : Prop :=
  d.before.active = true ∧ d.before.cycle = cycle ∧
    (d.move = .deactivate ∨ d.move = .activate ∨ d.move = .release)

theorem not_trips {s : BreakerSettings} {d : Deed} (h : ∀ e, d.move ≠ .report e) (k : Nat) :
    ¬ d.Trips s k := by
  rintro ⟨-, -, e, he, -⟩
  exact h e he

theorem not_closes {d : Deed}
    (h : d.move ≠ .deactivate ∧ d.move ≠ .activate ∧ d.move ≠ .release) (k : Nat) :
    ¬ d.Closes k := by
  rintro ⟨-, -, he | he | he⟩
  · exact h.1 he
  · exact h.2.1 he
  · exact h.2.2 he

end Deed

/-- How many cycles have begun. -/
def begun (h : List Deed) : Nat := h.countP Deed.begins

/-- The cycle has tripped. -/
def Tripped (s : BreakerSettings) (h : List Deed) (cycle : Nat) : Prop :=
  ∃ d ∈ h, d.Trips s cycle

/-- The cycle has ended without a trip. -/
def Closed (h : List Deed) (cycle : Nat) : Prop := ∃ d ∈ h, d.Closes cycle

/-- The cycle has begun and goes on. -/
def Alive (s : BreakerSettings) (h : List Deed) (cycle : Nat) : Prop :=
  0 < cycle ∧ cycle ≤ begun h ∧ ¬ Tripped s h cycle ∧ ¬ Closed h cycle

variable {s : BreakerSettings} {h h' : List Deed} {d : Deed}

theorem tripped_append {k : Nat} :
    Tripped s (h ++ h') k ↔ Tripped s h k ∨ Tripped s h' k := by
  simp only [Tripped, List.mem_append, or_and_right, exists_or]

theorem closed_append {k : Nat} : Closed (h ++ h') k ↔ Closed h k ∨ Closed h' k := by
  simp only [Closed, List.mem_append, or_and_right, exists_or]

theorem tripped_concat (k : Nat) : Tripped s (h ++ [d]) k ↔ Tripped s h k ∨ d.Trips s k := by
  rw [tripped_append]
  simp [Tripped]

theorem closed_concat (k : Nat) : Closed (h ++ [d]) k ↔ Closed h k ∨ d.Closes k := by
  rw [closed_append]
  simp [Closed]

theorem tripped_concat_of_not (trips : ∀ k, ¬ d.Trips s k) (k : Nat) :
    Tripped s (h ++ [d]) k ↔ Tripped s h k :=
  (tripped_concat k).trans (or_iff_left (trips k))

theorem closed_concat_of_not (closes : ∀ k, ¬ d.Closes k) (k : Nat) :
    Closed (h ++ [d]) k ↔ Closed h k :=
  (closed_concat k).trans (or_iff_left (closes k))

theorem begun_le_append (h h' : List Deed) : begun h ≤ begun (h ++ h') := by
  rw [begun, begun, List.countP_append]
  exact Nat.le_add_right _ _

theorem begun_concat : begun (h ++ [d]) = begun h + if d.begins = true then 1 else 0 := by
  simp [begun, List.countP_append, List.countP_singleton]

namespace Breaker

/-! ### The ledger -/

/-- What a breaker keeps of its cycles agrees with what has happened. -/
structure Ledger (s : BreakerSettings) (h : List Deed) (b : Breaker) : Prop where
  cycle : b.cycle = begun h
  fired : ∀ k, k ∈ b.fired ↔ Tripped s h k
  /-- Only cycles that have begun come to an end. -/
  range : ∀ k, Tripped s h k ∨ Closed h k → 0 < k ∧ k ≤ b.cycle
  /-- A cycle comes to one end only. -/
  once : ∀ k, Tripped s h k → ¬ Closed h k
  /-- All cycles but the last have come to an end. -/
  past : ∀ k, 0 < k → k < b.cycle → Tripped s h k ∨ Closed h k
  /-- With a sender the last cycle goes on. -/
  going : b.sender = true → 0 < b.cycle ∧ ¬ Tripped s h b.cycle ∧ ¬ Closed h b.cycle
  /-- Without one it is over, or there has been none. -/
  ended : b.sender = false → b.cycle = 0 ∨ Tripped s h b.cycle ∨ Closed h b.cycle

namespace Ledger

variable {b b' : Breaker}

theorem fresh : Ledger s [] {} where
  cycle := rfl
  fired := by simp [Tripped]
  range := by simp [Tripped, Closed]
  once := by simp [Tripped]
  past := by simp
  going := by simp
  ended := fun _ => .inl rfl

/-- A deed that neither trips nor ends a cycle nor begins one is not entered. -/
theorem skip (led : Ledger s h b) (begins : d.begins = false) (trips : ∀ k, ¬ d.Trips s k)
    (closes : ∀ k, ¬ d.Closes k) (cycle : b'.cycle = b.cycle) (fired : b'.fired = b.fired)
    (sender : b'.sender = b.sender) : Ledger s (h ++ [d]) b' := by
  have htrip := tripped_concat_of_not (h := h) trips
  have hclose := closed_concat_of_not (h := h) closes
  have hbegun : begun (h ++ [d]) = begun h := by simp [begun_concat, begins]
  constructor <;> simp only [htrip, hclose, hbegun, cycle, fired, sender]
  · exact led.cycle
  · exact led.fired
  · exact led.range
  · exact led.once
  · exact led.past
  · exact led.going
  · exact led.ended

/-- A trip of the cycle that goes on. -/
theorem trip (led : Ledger s h b) (going : b.sender = true) (begins : d.begins = false)
    (trips : ∀ k, d.Trips s k ↔ k = b.cycle) (closes : ∀ k, ¬ d.Closes k)
    (cycle : b'.cycle = b.cycle) (fired : b'.fired = b.cycle :: b.fired)
    (sender : b'.sender = false) : Ledger s (h ++ [d]) b' := by
  obtain ⟨hpos, -, hunclosed⟩ := led.going going
  have htrip : ∀ k, Tripped s (h ++ [d]) k ↔ Tripped s h k ∨ k = b.cycle := by
    intro k
    rw [tripped_concat, trips]
  have hclose := closed_concat_of_not (h := h) closes
  have hbegun : begun (h ++ [d]) = begun h := by simp [begun_concat, begins]
  constructor <;> simp only [htrip, hclose, hbegun, cycle, fired, sender]
  · exact led.cycle
  · intro k
    rw [List.mem_cons, led.fired k]
    exact or_comm
  · rintro k ((ht | rfl) | hc)
    · exact led.range k (.inl ht)
    · exact ⟨hpos, Nat.le_refl _⟩
    · exact led.range k (.inr hc)
  · rintro k (ht | rfl)
    · exact led.once k ht
    · exact hunclosed
  · intro k hk hlt
    exact (led.past k hk hlt).imp_left .inl
  · simp
  · exact fun _ => .inr (.inl (.inr trivial))

/-- The end of the cycle that goes on, without a trip. -/
theorem close (led : Ledger s h b) (going : b.sender = true) (begins : d.begins = false)
    (trips : ∀ k, ¬ d.Trips s k) (closes : ∀ k, d.Closes k ↔ k = b.cycle)
    (cycle : b'.cycle = b.cycle) (fired : b'.fired = b.fired) (sender : b'.sender = false) :
    Ledger s (h ++ [d]) b' := by
  obtain ⟨hpos, huntripped, -⟩ := led.going going
  have htrip := tripped_concat_of_not (h := h) trips
  have hclose : ∀ k, Closed (h ++ [d]) k ↔ Closed h k ∨ k = b.cycle := by
    intro k
    rw [closed_concat, closes]
  have hbegun : begun (h ++ [d]) = begun h := by simp [begun_concat, begins]
  constructor <;> simp only [htrip, hclose, hbegun, cycle, fired, sender]
  · exact led.cycle
  · exact led.fired
  · rintro k (ht | hc | rfl)
    · exact led.range k (.inl ht)
    · exact led.range k (.inr hc)
    · exact ⟨hpos, Nat.le_refl _⟩
  · rintro k ht (hc | rfl)
    · exact led.once k ht hc
    · exact huntripped ht
  · intro k hk hlt
    exact (led.past k hk hlt).imp_right .inl
  · simp
  · exact fun _ => .inr (.inr (.inr trivial))

/-- The beginning of the next cycle, which ends one that goes on. -/
theorem next (led : Ledger s h b) (begins : d.begins = true) (trips : ∀ k, ¬ d.Trips s k)
    (closes : ∀ k, d.Closes k ↔ b.sender = true ∧ k = b.cycle) (cycle : b'.cycle = b.cycle + 1)
    (fired : b'.fired = b.fired) (sender : b'.sender = true) : Ledger s (h ++ [d]) b' := by
  have htrip := tripped_concat_of_not (h := h) trips
  have hclose : ∀ k, Closed (h ++ [d]) k ↔ Closed h k ∨ b.sender = true ∧ k = b.cycle := by
    intro k
    rw [closed_concat, closes]
  have hbegun : begun (h ++ [d]) = begun h + 1 := by simp [begun_concat, begins]
  have hnew : ¬ Tripped s h (b.cycle + 1) ∧ ¬ Closed h (b.cycle + 1) :=
    ⟨fun ht => Nat.not_succ_le_self _ (led.range _ (.inl ht)).2,
      fun hc => Nat.not_succ_le_self _ (led.range _ (.inr hc)).2⟩
  constructor <;> simp only [htrip, hclose, hbegun, cycle, fired, sender]
  · rw [led.cycle]
  · exact led.fired
  · rintro k (ht | hc | ⟨hs, rfl⟩)
    · obtain ⟨hpos, hle⟩ := led.range k (.inl ht)
      exact ⟨hpos, Nat.le_succ_of_le hle⟩
    · obtain ⟨hpos, hle⟩ := led.range k (.inr hc)
      exact ⟨hpos, Nat.le_succ_of_le hle⟩
    · exact ⟨(led.going hs).1, Nat.le_succ _⟩
  · rintro k ht (hc | ⟨hs, rfl⟩)
    · exact led.once k ht hc
    · exact (led.going hs).2.1 ht
  · intro k hk hlt
    rcases Nat.lt_succ_iff_lt_or_eq.mp hlt with hlt | rfl
    · exact (led.past k hk hlt).imp_right .inl
    · cases hs : b.sender with
      | true => exact .inr (.inr ⟨rfl, rfl⟩)
      | false =>
          rcases led.ended hs with hzero | ht | hc
          · omega
          · exact .inl ht
          · exact .inr (.inl hc)
  · rintro -
    refine ⟨Nat.succ_pos _, hnew.1, ?_⟩
    rintro (hc | ⟨-, heq⟩)
    · exact hnew.2 hc
    · omega
  · simp

end Ledger

namespace Ledger

variable {b : Breaker}

theorem activate (led : Ledger s h b) (ok : Sound s b) (time : Nat) :
    Ledger s (h ++ [⟨time, b, .activate⟩]) b.activate.breaker := by
  refine led.next rfl (Deed.not_trips (by simp)) (fun k => ?_) rfl (fired_activate b) rfl
  rw [Deed.Closes, ok.sender, eq_comm (a := k)]
  simp

theorem deactivate (led : Ledger s h b) (ok : Sound s b) (time : Nat) :
    Ledger s (h ++ [⟨time, b, .deactivate⟩]) b.deactivate.breaker := by
  have htrips : ∀ k, ¬ Deed.Trips s k ⟨time, b, .deactivate⟩ := Deed.not_trips (by simp)
  unfold Breaker.deactivate
  cases hactive : b.active with
  | true =>
      exact led.close (ok.sender.trans hactive) rfl htrips
        (fun k => by simp [Deed.Closes, hactive, eq_comm]) rfl rfl rfl
  | false =>
      exact led.skip rfl htrips (fun k => by simp [Deed.Closes, hactive]) rfl rfl rfl

theorem release (led : Ledger s h b) (ok : Sound s b) (time : Nat) :
    Ledger s (h ++ [⟨time, b, .release⟩]) b.release := by
  have htrips : ∀ k, ¬ Deed.Trips s k ⟨time, b, .release⟩ := Deed.not_trips (by simp)
  cases hactive : b.active with
  | true =>
      exact led.close (ok.sender.trans hactive) rfl htrips
        (fun k => by simp [Deed.Closes, hactive, eq_comm]) rfl rfl rfl
  | false =>
      exact led.skip rfl htrips (fun k => by simp [Deed.Closes, hactive]) rfl rfl
        (ok.sender.trans hactive).symm

theorem addError (led : Ledger s h b) (ok : Sound s b) (time : Nat) (e : Report) :
    Ledger s (h ++ [⟨time, b, .report e⟩]) (b.addError s time e).breaker := by
  have hcloses : ∀ k, ¬ Deed.Closes k ⟨time, b, .report e⟩ := Deed.not_closes (by simp)
  -- What the deed needs to trip, apart from the cycle it trips.
  have htrips : ∀ k, Deed.Trips s k ⟨time, b, .report e⟩ ↔
      b.active = true ∧ b.cycle = k ∧ s.limit.toNat ≤ b.current + 1 ∧
        ∃ errors, Report.printList (b.errors ++ [e]) = .ok errors := by
    intro k
    simp [Deed.Trips]
  rcases addError_cases s time e b with ⟨ha, heq⟩ | ⟨-, hl, heq, -⟩ | ⟨-, -, f, hf, heq, -⟩ |
    ⟨ha, hl, errors, hok, heq, -⟩
  · rw [heq]
    refine led.skip rfl (fun k hk => ?_) hcloses rfl rfl rfl
    exact absurd (((htrips k).mp hk).1.symm.trans ha) (by simp)
  · rw [heq]
    refine led.skip rfl (fun k hk => ?_) hcloses rfl rfl rfl
    have := ((htrips k).mp hk).2.2.1
    omega
  · rw [heq]
    refine led.skip rfl (fun k hk => ?_) hcloses rfl rfl rfl
    obtain ⟨errors, hok⟩ := ((htrips k).mp hk).2.2.2
    exact absurd (hok.symm.trans hf) (by simp)
  · rw [heq, ok.fire_count ha]
    refine led.trip (ok.sender.trans ha) rfl (fun k => ?_) hcloses rfl rfl rfl
    rw [htrips]
    exact ⟨fun hk => hk.2.1.symm, fun hk => ⟨ha, hk.symm, hl, errors, hok⟩⟩

theorem expire (led : Ledger s h b) (time : Nat) (t : Timer) :
    Ledger s (h ++ [⟨time, b, .expire t⟩]) (b.expire t).breaker :=
  led.skip rfl (Deed.not_trips (by simp)) (Deed.not_closes (by simp)) (cycle_expire b t)
    (fired_expire b t) (sender_expire b t)

end Ledger

/-- Whatever has happened, the ledger is right. -/
theorem ledger_of_passage {b : Breaker} (p : Passage s {} h b) (valid : 0 < s.limit.toNat) :
    Ledger s h b := by
  induction p with
  | nil => exact .fresh
  | @deed h b time move p held _ ih =>
      have ok : Sound s b := sound_of_passage p valid held
      cases move with
      | activate => exact ih.activate ok time
      | deactivate => exact ih.deactivate ok time
      | report e => exact ih.addError ok time e
      | expire t => exact ih.expire time t
      | release => exact ih.release ok time

/-! ### What signals show -/

namespace Ledger

variable {b : Breaker} {k : Nat}

theorem isTripped_iff (led : Ledger s h b) : b.isTripped k = true ↔ Tripped s h k := by
  rw [Breaker.isTripped_iff, led.fired]

theorem fate_eq_fired (led : Ledger s h b) : b.fate k = .fired ↔ Tripped s h k := by
  rw [← led.isTripped_iff, isTripped, decide_eq_true_iff]

theorem fate_eq_pending (led : Ledger s h b) (hk : k ≤ begun h) :
    b.fate k = .pending ↔ Alive s h k := by
  constructor
  · intro hfate
    have huntripped : ¬ Tripped s h k := by
      rw [← led.fate_eq_fired, hfate]
      simp
    have hgoes : b.sender = true ∧ k = b.cycle := by
      by_contra hnot
      rw [fate, if_neg (fun hmem => huntripped ((led.fired k).mp hmem)), if_neg hnot] at hfate
      simp at hfate
    obtain ⟨hsender, rfl⟩ := hgoes
    obtain ⟨hpos, -, hunclosed⟩ := led.going hsender
    exact ⟨hpos, hk, huntripped, hunclosed⟩
  · rintro ⟨hpos, -, huntripped, hunclosed⟩
    rw [← led.cycle] at hk
    have hlast : k = b.cycle := by
      by_contra hne
      rcases led.past k hpos (by omega) with ht | hc
      · exact huntripped ht
      · exact hunclosed hc
    have hsender : b.sender = true := by
      by_contra hnot
      rcases led.ended (by simpa using hnot) with hzero | ht | hc
      · omega
      · exact huntripped (hlast ▸ ht)
      · exact hunclosed (hlast ▸ hc)
    rw [fate, if_neg (fun hmem => huntripped ((led.fired k).mp hmem)), if_pos ⟨hsender, hlast⟩]

theorem fate_eq_closed (led : Ledger s h b) (hk : k ≤ begun h) :
    b.fate k = .closed ↔ k = 0 ∨ Closed h k := by
  have hfired := led.fate_eq_fired (k := k)
  have hpending := led.fate_eq_pending hk
  constructor
  · intro hfate
    rw [hfate] at hfired hpending
    by_contra hnot
    have hpos : 0 < k := Nat.pos_of_ne_zero fun hzero => hnot (.inl hzero)
    exact absurd (hpending.mpr ⟨hpos, hk, fun ht => by simpa using hfired.mpr ht,
      fun hc => hnot (.inr hc)⟩) (by simp)
  · intro hover
    have huntripped : ¬ Tripped s h k := by
      intro ht
      rcases hover with rfl | hc
      · exact Nat.lt_irrefl 0 (led.range 0 (.inl ht)).1
      · exact led.once k ht hc
    have hdead : ¬ Alive s h k := by
      rintro ⟨hpos, -, -, hunclosed⟩
      rcases hover with rfl | hc
      · exact Nat.lt_irrefl 0 hpos
      · exact hunclosed hc
    cases hfate : b.fate k with
    | fired => exact absurd (hfired.mp hfate) huntripped
    | pending => exact absurd (hpending.mp hfate) hdead
    | closed => rfl

end Ledger

end Breaker

/-! ### Waiting -/

namespace Circuit

variable {α : Type}

/-- A wait that has learnt something stops where the signal says so. -/
theorem verdict_awaitTo {cycle time : Nat} {v : Bool} (fuel : Nat) :
    ∀ c : Circuit α, (awaitTo cycle time fuel c).2 = some v →
      ((awaitTo cycle time fuel c).1.breaker.fate cycle).verdict? = some v := by
  induction fuel with
  | zero => intro c hv; simp [awaitTo] at hv
  | succ fuel ih =>
      intro c hv
      rw [awaitTo] at hv ⊢
      cases hfate : (c.breaker.fate cycle).verdict? with
      | some v' =>
          rw [hfate] at hv
          dsimp only at hv ⊢
          rw [hfate]
          exact hv
      | none =>
          rw [hfate] at hv
          dsimp only at hv ⊢
          cases hd : c.dueBefore? time with
          | some t =>
              rw [hd] at hv
              exact ih _ hv
          | none =>
              rw [hd] at hv
              simp at hv

/-- What a wait learns is what the signal says at its end. -/
theorem verdict_await (c : Circuit α) (cycle ms : Nat) :
    (c.await cycle ms).2 = ((c.await cycle ms).1.breaker.fate cycle).verdict? := by
  cases hv : (c.await cycle ms).2 with
  | none => exact (await_spec c cycle ms hv).1.symm
  | some v => exact (verdict_awaitTo _ _ hv).symm

end Circuit

namespace Breaker

/-- What a waiting task is told, by what has happened. -/
theorem Ledger.verdict {b : Breaker} {k : Nat} (led : Ledger s h b) (hk : k ≤ begun h) :
    ((b.fate k).verdict? = some true ↔ Tripped s h k) ∧
      ((b.fate k).verdict? = some false ↔ k = 0 ∨ Closed h k) ∧
      ((b.fate k).verdict? = none ↔ Alive s h k) := by
  rw [← led.fate_eq_fired, ← led.fate_eq_closed hk, ← led.fate_eq_pending hk]
  cases b.fate k <;> simp [Fate.verdict?]

/-- A cycle whose fate has changed has seen a deed while it went on. -/
theorem Ledger.fate_eq {b b' : Breaker} {k : Nat} (led : Ledger s h b)
    (led' : Ledger s (h ++ h') b') (hk : k ≤ begun h)
    (others : ∀ d ∈ h', d.before.active = true → d.before.cycle ≠ k) : b'.fate k = b.fate k := by
  have htrip : Tripped s (h ++ h') k ↔ Tripped s h k := by
    rw [tripped_append]
    refine or_iff_left ?_
    rintro ⟨d, hd, hactive, hcycle, -⟩
    exact others d hd hactive hcycle
  have hclose : Closed (h ++ h') k ↔ Closed h k := by
    rw [closed_append]
    refine or_iff_left ?_
    rintro ⟨d, hd, hactive, hcycle, -⟩
    exact others d hd hactive hcycle
  have hk' : k ≤ begun (h ++ h') := Nat.le_trans hk (begun_le_append h h')
  cases hfate : b.fate k with
  | fired =>
      rw [led'.fate_eq_fired, htrip]
      exact led.fate_eq_fired.mp hfate
  | closed =>
      rw [led'.fate_eq_closed hk', hclose]
      exact (led.fate_eq_closed hk).mp hfate
  | pending =>
      obtain ⟨hpos, -, huntripped, hunclosed⟩ := (led.fate_eq_pending hk).mp hfate
      rw [led'.fate_eq_pending hk']
      exact ⟨hpos, hk', htrip.not.mpr huntripped, hclose.not.mpr hunclosed⟩

end Breaker

/-! ### Sessions -/

namespace Session

variable {α : Type}

/-- What signals and waiting tasks show is the fate of their cycles, by what has happened so far. -/
structure Truthful (settings : BreakerSettings) (h : List Deed) (s : Session α) : Prop where
  /-- A signal that is taken from a handle is that of the cycle that has begun last. -/
  recent : ∀ handle, s.holds handle = true → s.cycle? handle none = some (begun h)
  /-- So is one that is captured. -/
  captured : ∀ handle, s.holds handle = true →
    (s.perform (.capture handle)).1.signals = s.signals ++ [begun h]
  /-- A task waits for the signal it was started with. -/
  spawned : ∀ handle signal k, s.cycle? handle signal = some k →
    (s.perform (.spawn handle signal)).1.waiters = s.waiters ++ [k]
  /-- At a glance the breaker shows whether the last cycle has tripped. -/
  glance : ∀ reply status, (s.snapshot reply).status = some status →
    (status.tripped = true ↔ Tripped settings h (begun h))
  /-- A captured signal shows whether its cycle has tripped. -/
  shows : ∀ reply (i k : Nat), s.signals[i]? = some k →
    ∃ shown, (s.snapshot reply).signals[i]? = some shown ∧ (shown = true ↔ Tripped settings h k)
  /-- A waiting task has been told that its cycle has tripped, or that it has ended without a trip
  or never was one, or nothing while the cycle goes on. -/
  tells : ∀ reply (i k : Nat), s.waiters[i]? = some k →
    ∃ told, (s.snapshot reply).waiters[i]? = some told ∧
      (told = some true ↔ Tripped settings h k) ∧
      (told = some false ↔ k = 0 ∨ Closed h k) ∧ (told = none ↔ Alive settings h k)
  /-- So has whoever waits for a limited time, at the end of the wait. -/
  awaited : ∀ handle signal ms k, s.cycle? handle signal = some k →
    ∃ v, (s.perform (.wait handle signal ms)).2 = .verdict v ∧
      (v = some true ↔ Tripped settings (h ++ s.circuit.awaitDeeds k ms) k) ∧
      (v = some false ↔ k = 0 ∨ Closed (h ++ s.circuit.awaitDeeds k ms) k) ∧
      (v = none ↔ Alive settings (h ++ s.circuit.awaitDeeds k ms) k)

/-- What has been said of a cycle stays said, whatever happens later. -/
structure Lasting (s : Session α) (later : List Deed) (s' : Session α) : Prop where
  /-- Signals and waiting tasks keep their places and their cycles. -/
  signals : s.signals <+: s'.signals
  waiters : s.waiters <+: s'.waiters
  /-- A signal that has fired never goes back. -/
  fired : ∀ reply reply' (i : Nat), (s.snapshot reply).signals[i]? = some true →
    (s'.snapshot reply').signals[i]? = some true
  /-- A task that has been told something is never told anything else. -/
  told : ∀ reply reply' (i : Nat) v, (s.snapshot reply).waiters[i]? = some (some v) →
    (s'.snapshot reply').waiters[i]? = some (some v)
  /-- What happens while other cycles go on, or none does, changes nothing. -/
  others : ∀ reply reply' k, (∀ d ∈ later, d.before.active = true → d.before.cycle ≠ k) →
    (∀ i : Nat, s.signals[i]? = some k →
      (s'.snapshot reply').signals[i]? = (s.snapshot reply).signals[i]?) ∧
    (∀ i : Nat, s.waiters[i]? = some k →
      (s'.snapshot reply').waiters[i]? = (s.snapshot reply).waiters[i]?)

/-- A step keeps the records of signals and waiting tasks, and adds cycles that have begun. -/
theorem records_step (s : Session α) (step : Step α) :
    ∃ captured spawned, (s.step step).1.signals = s.signals ++ captured ∧
      (s.step step).1.waiters = s.waiters ++ spawned ∧
      ∀ k, k ∈ captured ∨ k ∈ spawned → k = s.circuit.breaker.cycle ∨ k ∈ s.signals := by
  suffices h : ∃ captured spawned, (s.perform step).1.signals = s.signals ++ captured ∧
      (s.perform step).1.waiters = s.waiters ++ spawned ∧
      ∀ k, k ∈ captured ∨ k ∈ spawned → k = s.circuit.breaker.cycle ∨ k ∈ s.signals from h
  have same : ∀ s' : Session α, s'.signals = s.signals → s'.waiters = s.waiters →
      ∃ captured spawned, s'.signals = s.signals ++ captured ∧
        s'.waiters = s.waiters ++ spawned ∧
        ∀ k, k ∈ captured ∨ k ∈ spawned → k = s.circuit.breaker.cycle ∨ k ∈ s.signals :=
    fun s' hs hw => ⟨[], [], by simp [hs], by simp [hw], by simp⟩
  cases step with
  | operate handle op =>
      by_cases held : s.holds handle = true
      · rw [perform_operate held]
        exact same _ rfl rfl
      · rw [perform, if_neg held]
        exact same _ rfl rfl
  | sleep ms => exact same _ rfl rfl
  | capture handle =>
      rw [perform]
      split
      · exact ⟨[s.circuit.breaker.cycle], [], rfl, by simp, by simp⟩
      · exact same _ rfl rfl
  | wait handle signal ms =>
      rw [perform]
      cases s.cycle? handle signal with
      | none => exact same _ rfl rfl
      | some cycle => exact same _ rfl rfl
  | spawn handle signal =>
      rw [perform]
      cases hc : s.cycle? handle signal with
      | none => exact same _ rfl rfl
      | some cycle =>
          refine ⟨[], [cycle], by simp, rfl, ?_⟩
          intro k hk
          obtain rfl : k = cycle := by simpa using hk
          cases signal with
          | some i => exact .inr (List.mem_of_getElem? hc)
          | none =>
              rw [cycle?] at hc
              split at hc
              · exact .inl (Option.some.inj hc).symm
              · simp at hc
  | clone handle => rw [perform]; split <;> exact same _ rfl rfl
  | drop handle =>
      rw [perform]
      split
      · rw [drop]
        dsimp only
        split <;> exact same _ rfl rfl
      · exact same _ rfl rfl

theorem prefix_after (s : Session α) (steps : List (Step α)) :
    s.signals <+: (s.after steps).signals ∧ s.waiters <+: (s.after steps).waiters := by
  induction steps generalizing s with
  | nil => exact ⟨List.prefix_refl _, List.prefix_refl _⟩
  | cons step steps ih =>
      obtain ⟨captured, spawned, hsignals, hwaiters, -⟩ := records_step s step
      obtain ⟨hs, hw⟩ := ih (s.step step).1
      rw [hsignals] at hs
      rw [hwaiters] at hw
      exact ⟨(List.prefix_append _ captured).trans hs, (List.prefix_append _ spawned).trans hw⟩

variable {hasRuntime : Bool} {settings : BreakerSettings} {sink : Sink α} {c : Circuit α}

/-- After any run on a new circuit the ledger of its breaker is right. -/
theorem ledger_after (made : Circuit.create hasRuntime settings sink = .ok c)
    (steps : List (Step α)) :
    Breaker.Ledger settings (history { circuit := c } steps)
      (after { circuit := c } steps).circuit.breaker :=
  Breaker.ledger_of_passage (goes_of_create made steps).1 (Circuit.of_create made).2.1

/-- Signals and waiting tasks belong to cycles that have begun. -/
theorem recorded_after (made : Circuit.create hasRuntime settings sink = .ok c)
    (steps : List (Step α)) (k : Nat)
    (hk : k ∈ (after { circuit := c } steps).signals ∨ k ∈ (after { circuit := c } steps).waiters) :
    k ≤ begun (history { circuit := c } steps) := by
  induction steps using List.reverseRecOn generalizing k with
  | nil => exact absurd hk (by simp [after])
  | append_singleton steps step ih =>
      have hgrows : begun (history { circuit := c } steps)
          ≤ begun (history { circuit := c } (steps ++ [step])) := by
        rw [history_append]
        exact begun_le_append _ _
      obtain ⟨captured, spawned, hsignals, hwaiters, hnew⟩ :=
        records_step (after { circuit := c } steps) step
      have hlast : after { circuit := c } (steps ++ [step])
          = ((after { circuit := c } steps).step step).1 := after_append _ _ _
      rw [hlast, hsignals, hwaiters, List.mem_append, List.mem_append] at hk
      have hadded : k ∈ captured ∨ k ∈ spawned → k ≤ begun (history { circuit := c } steps) := by
        intro h
        rcases hnew k h with heq | hold
        · rw [heq, (ledger_after made steps).cycle]
        · exact ih k (.inl hold)
      refine Nat.le_trans ?_ hgrows
      rcases hk with (hk | hk) | (hk | hk)
      · exact ih k (.inl hk)
      · exact hadded (.inl hk)
      · exact ih k (.inr hk)
      · exact hadded (.inr hk)

/-- After every run signals and waiting tasks show the fate of their cycles. -/
theorem truthful_after (made : Circuit.create hasRuntime settings sink = .ok c)
    (steps : List (Step α)) :
    Truthful settings (history { circuit := c } steps) (after { circuit := c } steps) := by
  have led := ledger_after made steps
  have recorded := recorded_after made steps
  obtain ⟨passage, hsettings, settled, -⟩ := goes_of_create made steps
  have goes := goes_after (s := { circuit := c })
    (fun _ => by rw [(Circuit.of_create made).1]) steps
  generalize after { circuit := c } steps = s at *
  generalize history { circuit := c } steps = h at *
  have recent : ∀ handle, s.holds handle = true → s.cycle? handle none = some (begun h) := by
    intro handle held
    rw [cycle?, if_pos held, led.cycle]
  have known : ∀ {handle signal k}, s.cycle? handle signal = some k → k ≤ begun h := by
    intro handle signal k hk
    cases signal with
    | some i => exact recorded k (.inl (List.mem_of_getElem? hk))
    | none =>
        rw [cycle?] at hk
        split at hk
        · rw [← Option.some.inj hk, led.cycle]
        · simp at hk
  constructor
  · exact recent
  · intro handle held
    rw [perform, if_pos held, led.cycle]
  · intro handle signal k hk
    rw [perform, hk]
  · intro reply status hstatus
    obtain rfl : s.circuit.breaker.status = status := by
      rw [snapshot] at hstatus
      dsimp only at hstatus
      split at hstatus
      · exact Option.some.inj hstatus
      · simp at hstatus
    rw [← led.cycle]
    exact led.isTripped_iff
  · intro reply i k hi
    exact ⟨s.circuit.breaker.isTripped k, by simp [snapshot, hi], led.isTripped_iff⟩
  · intro reply i k hi
    exact ⟨(s.circuit.breaker.fate k).verdict?, by simp [snapshot, hi],
      led.verdict (recorded k (.inr (List.mem_of_getElem? hi)))⟩
  · intro handle signal ms k hk
    have waited := goes.trans (Goes.ofCircuit settled (Circuit.goes_await s.circuit k ms)
      fun none => .inl (Circuit.awaitToDeeds_of_timers_nil k _ _ none))
    have led' : Breaker.Ledger settings (h ++ s.circuit.awaitDeeds k ms)
        (s.circuit.await k ms).1.breaker := by
      refine Breaker.ledger_of_passage ?_ (Circuit.of_create made).2.1
      have := waited.passage
      rw [(Circuit.of_create made).1] at this
      exact this
    refine ⟨(s.circuit.await k ms).2, by rw [perform, hk], ?_⟩
    rw [Circuit.verdict_await]
    exact led'.verdict (Nat.le_trans (known hk) (begun_le_append _ _))

/-- Whatever happens later, what has been said of a cycle stays said. -/
theorem lasting_after (made : Circuit.create hasRuntime settings sink = .ok c)
    (steps more : List (Step α)) :
    let s := after { circuit := c } steps
    Lasting s (s.history more) (s.after more) := by
  have now := truthful_after made steps
  have later := truthful_after made (steps ++ more)
  have led := ledger_after made steps
  have led' := ledger_after made (steps ++ more)
  have recorded := recorded_after made steps
  rw [history_append, after_append] at later led'
  generalize hs : after { circuit := c } steps = s at *
  dsimp only
  obtain ⟨hsignals, hwaiters⟩ := prefix_after s more
  have stays : ∀ {l l' : List Nat} {i k : Nat}, l <+: l' → l[i]? = some k → l'[i]? = some k := by
    rintro l _ i k ⟨rest, rfl⟩ hi
    rw [List.getElem?_append_left (List.getElem?_eq_some_iff.mp hi).1, hi]
  refine ⟨hsignals, hwaiters, ?_, ?_, ?_⟩
  · intro reply reply' i hi
    obtain ⟨k, hk, -⟩ : ∃ k, s.signals[i]? = some k ∧ s.circuit.breaker.isTripped k = true := by
      simpa [snapshot] using hi
    obtain ⟨shown, hshown, htripped⟩ := now.shows reply i k hk
    obtain ⟨shown', hshown', htripped'⟩ := later.shows reply' i k (stays hsignals hk)
    have hfired : Tripped settings (history { circuit := c } steps) k :=
      htripped.mp (Option.some.inj (hshown.symm.trans hi))
    rw [hshown', htripped'.mpr (tripped_append.mpr (.inl hfired))]
  · intro reply reply' i v hi
    obtain ⟨k, hk, -⟩ : ∃ k, s.waiters[i]? = some k ∧
        (s.circuit.breaker.fate k).verdict? = some v := by
      simpa [snapshot] using hi
    obtain ⟨told, htold, htripped, hclosed, -⟩ := now.tells reply i k hk
    obtain ⟨told', htold', htripped', hclosed', -⟩ := later.tells reply' i k (stays hwaiters hk)
    obtain rfl : told = some v := Option.some.inj (htold.symm.trans hi)
    rw [htold']
    cases v with
    | true => rw [htripped'.mpr (tripped_append.mpr (.inl (htripped.mp rfl)))]
    | false =>
        rw [hclosed'.mpr ((hclosed.mp rfl).imp_right fun h => closed_append.mpr (.inl h))]
  · intro reply reply' k others
    have hfate : k ≤ begun (history { circuit := c } steps) →
        (s.after more).circuit.breaker.fate k = s.circuit.breaker.fate k :=
      fun hk => led.fate_eq led' hk others
    constructor
    · intro i hi
      have heq := hfate (recorded k (.inl (List.mem_of_getElem? hi)))
      simp [snapshot, hi, stays hsignals hi, Breaker.isTripped, heq]
    · intro i hi
      have heq := hfate (recorded k (.inr (List.mem_of_getElem? hi)))
      simp [snapshot, hi, stays hwaiters hi, heq]

/-- **Every signal tells the fate of its own cycle, and goes on to tell it whatever happens.** -/
theorem signals_tell_their_cycles (made : Circuit.create hasRuntime settings sink = .ok c)
    (steps more : List (Step α)) :
    let start : Session α := { circuit := c }
    let s := start.after steps
    Truthful settings (start.history steps) s ∧
      Truthful settings (start.history (steps ++ more)) (s.after more) ∧
      Lasting s (s.history more) (s.after more) := by
  refine ⟨truthful_after made steps, ?_, lasting_after made steps more⟩
  rw [← after_append]
  exact truthful_after made (steps ++ more)

/-- A breaker that trips with its first error. -/
def ofSingles : Session Unit :=
  { circuit := { settings := { limit := 1 }, sink := .keeping [] [] } }

/-- One cycle trips, and the next one goes on; a task waits for each. -/
def tripThenGoOn : List (Step Unit) :=
  [.operate 0 .activate, .capture 0, .spawn 0 none, .operate 0 (.addError (.text "a")),
   .operate 0 .activate, .capture 0, .spawn 0 (some 1)]

/-- The last handle is dropped, and the second cycle ends with it. -/
theorem signals_tell_after_last_drop :
    let settings := ofSingles.circuit.settings
    let s := ofSingles.after tripThenGoOn
    let s' := s.after [.drop 0]
    Circuit.create true settings ofSingles.circuit.sink = .ok ofSingles.circuit ∧
      Truthful settings (ofSingles.history tripThenGoOn) s ∧
      Truthful settings (ofSingles.history (tripThenGoOn ++ [.drop 0])) s' ∧
      Lasting s (s.history [.drop 0]) s' ∧
      (s.snapshot .gone).signals = [true, false] ∧
      (s.snapshot .gone).waiters = [some true, none] ∧
      (s'.snapshot .gone).waiters = [some true, some false] := by
  have made : Circuit.create true ofSingles.circuit.settings ofSingles.circuit.sink
      = .ok ofSingles.circuit := rfl
  obtain ⟨truthful, truthful', lasting⟩ :=
    signals_tell_their_cycles made tripThenGoOn [.drop 0]
  exact ⟨made, truthful, truthful', lasting, by decide, by decide, by decide⟩

end Session

end Tripwire
