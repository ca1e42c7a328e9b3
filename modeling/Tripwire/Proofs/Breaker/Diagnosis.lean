/-
A trip says what it is about.

The error that brings the log to the limit fires the signal, counts a trip and has a
warning told that lists the log.  After that the breaker takes no errors until somebody
begins the next cycle.  What the log is can be told from the history alone.  `tally` has
the reports that an active breaker has counted since a cycle has begun or a timer has
cleared the count, whichever is later, and the log has their errors, in their order
(`Breaker.Tallied`).  So a warning lists a tally.  Two trips have a beginning of a cycle
between them, and the later tally starts behind it.

That the reports of a tally follow closely on one another does not show in the log.  Each
of them but the last has started a timer that is due a cooldown later, and as none of
these has cleared the count, the next report came while the timer ran.  It came in time
(`Deed.InTime`), so the two are less than a cooldown apart.
-/
import Mathlib.Data.List.Chain
import Mathlib.Data.List.DropRight
import Mathlib.Data.List.Nodup
import Tripwire.Proofs.Breaker.Balance
import Tripwire.Proofs.Punctual

namespace Tripwire

variable {α : Type}

/-! ### What counts, by the history -/

namespace Deed

/-- The deed is a timer that runs out and clears the count. -/
def clears (d : Deed) : Bool :=
  match d.move with
  | .expire t => (d.before.finish t).heeds t
  | _ => false

/-- The deed is the report of an error that counts and brings the log to the limit. -/
def fills (s : BreakerSettings) (d : Deed) : Bool :=
  d.counts && d.before.current + 1 = s.limit.toNat

theorem exists_report {d : Deed} (hd : d.counts = true) :
    ∃ e, d.move = .report e ∧ d.before.active = true := by
  obtain ⟨time, before, move⟩ := d
  cases move with
  | report e => exact ⟨e, rfl, (counts_of_report rfl).symm.trans hd⟩
  | _ => exact absurd hd (by simp [counts_of_not_report])

end Deed

/-- The reports that an active breaker has counted since a cycle has begun or a timer has cleared
the count, whichever is later. -/
def tally (h : List Deed) : List Deed :=
  (h.rtakeWhile fun d => !(d.begins || d.clears)).filter Deed.counts

section Tally

variable {h : List Deed} {d : Deed}

/-- Behind the beginning of a cycle and behind a reset there is nothing to count yet. -/
theorem tally_of_cut (cut : d.begins = true ∨ d.clears = true) : tally (h ++ [d]) = [] := by
  rw [tally, List.rtakeWhile_concat_neg _ _ _ (by rcases cut with hd | hd <;> simp [hd]),
    List.filter_nil]

/-- Any other deed leaves the tally as it is, or adds itself. -/
theorem tally_concat (uncut : ¬ (d.begins = true ∨ d.clears = true)) :
    tally (h ++ [d]) = tally h ++ [d].filter Deed.counts := by
  rw [tally, List.rtakeWhile_concat_pos _ _ _ (by simpa using uncut), List.filter_append]
  rfl

theorem tally_of_counts (hd : d.counts = true) : tally (h ++ [d]) = tally h ++ [d] := by
  obtain ⟨e, he, -⟩ := Deed.exists_report hd
  have uncut : ¬ (d.begins = true ∨ d.clears = true) := by simp [Deed.begins, Deed.clears, he]
  rw [tally_concat uncut, List.filter_cons_of_pos hd, List.filter_nil]

theorem tally_of_idle (uncut : ¬ (d.begins = true ∨ d.clears = true)) (counts : d.counts = false) :
    tally (h ++ [d]) = tally h := by
  rw [tally_concat uncut, List.filter_cons_of_neg (by simp [counts]), List.filter_nil,
    List.append_nil]

/-- A tally starts anew, stays as it is, or grows by a report that counts. -/
theorem tally_cases (h : List Deed) (d : Deed) :
    tally (h ++ [d]) = [] ∨ tally (h ++ [d]) = tally h ∨
      d.counts = true ∧ tally (h ++ [d]) = tally h ++ [d] := by
  by_cases cut : d.begins = true ∨ d.clears = true
  · exact .inl (tally_of_cut cut)
  · cases counts : d.counts with
    | true => exact .inr (.inr ⟨rfl, tally_of_counts counts⟩)
    | false => exact .inr (.inl (tally_of_idle cut counts))

theorem tally_suffix (h : List Deed) : tally h <:+ h.filter Deed.counts :=
  (List.rtakeWhile_suffix _ h).filter _

theorem counts_of_mem_tally (hd : d ∈ tally h) : d.counts = true := (List.mem_filter.mp hd).2

/-- Behind the beginning of a cycle it does not matter what was before. -/
theorem tally_append_of_begins {g : List Deed} (hg : ∃ d ∈ g, d.begins = true) :
    tally (h ++ g) = tally g := by
  induction g using List.reverseRecOn with
  | nil => simp at hg
  | append_singleton g d ih =>
      rw [← List.append_assoc]
      by_cases cut : d.begins = true ∨ d.clears = true
      · rw [tally_of_cut cut, tally_of_cut cut]
      · rw [tally_concat cut, tally_concat cut, ih]
        obtain ⟨x, hx, begins⟩ := hg
        rcases List.mem_append.mp hx with hx | hx
        · exact ⟨x, hx, begins⟩
        · exact absurd (.inl (List.mem_singleton.mp hx ▸ begins)) cut

/-- What is reported up to a deed is reported. -/
theorem mem_reported_of_concat {past rest : List Deed} {e : Report}
    (he : e ∈ reported (past ++ [d])) : e ∈ reported (past ++ d :: rest) := by
  rw [List.append_cons, reported_append]
  exact List.mem_append_left _ he

/-- Each report of a tally has an error. -/
theorem length_reported_tally (h : List Deed) : (reported (tally h)).length = (tally h).length := by
  rw [reported, List.length_filterMap_eq_countP, List.countP_eq_length]
  intro d hd
  obtain ⟨e, he, -⟩ := Deed.exists_report (counts_of_mem_tally hd)
  rw [Deed.report?, he]
  rfl

/-- The error of the last report of a tally is the last one that counted. -/
theorem lastCounted_of_tally (hd : d ∈ (tally h).getLast?) :
    Breaker.lastCounted h = some d.time := by
  obtain ⟨front, hfront⟩ := tally_suffix h
  rw [Breaker.lastCounted, ← hfront, List.getLast?_append, Option.mem_def.mp hd]
  rfl

theorem mem_reported_of_tally {e : Report} (he : e ∈ reported (tally h)) : e ∈ reported h := by
  have sublist : (tally h).Sublist h := (tally_suffix h).sublist.trans List.filter_sublist
  exact (sublist.filterMap _).subset he

end Tally

namespace Breaker

variable {s : BreakerSettings} {b : Breaker} {move : Move} {effect : Effect}
  {h past rest : List Deed} {d : Deed}

/-! ### The log -/

/-- What the tally of a history has to do with the breaker. -/
structure Tallied (h : List Deed) (b : Breaker) : Prop where
  /-- The log of an active breaker has the errors of the tally. -/
  errors : b.active = true → b.errors = reported (tally h)
  /-- The reports of the tally are of the cycle that has begun last. -/
  cycle : ∀ d ∈ tally h, d.before.cycle = b.cycle

namespace Tallied

theorem ofEmpty (tally : tally h = []) (errors : b.errors = []) : Tallied h b where
  errors := fun _ => by rw [errors, tally]; rfl
  cycle := by simp [tally]

/-- What the breaker does not count is not added to the tally. -/
theorem idle {b' : Breaker} (tallied : Tallied h b) (tally : tally (h ++ [d]) = tally h)
    (active : b'.active = true → b.active = true) (errors : b'.active = true → b'.errors = b.errors)
    (cycle : b'.cycle = b.cycle) : Tallied (h ++ [d]) b' where
  errors := fun going => by rw [errors going, tally]; exact tallied.errors (active going)
  cycle := by rw [tally, cycle]; exact tallied.cycle

/-- An error that counts is added to it. -/
theorem count {b' : Breaker} (tallied : Tallied h b) (going : b.active = true) (time : Nat)
    (e : Report) (errors : b'.active = true → b'.errors = b.errors ++ [e])
    (cycle : b'.cycle = b.cycle) : Tallied (h ++ [⟨time, b, .report e⟩]) b' := by
  have more : tally (h ++ [⟨time, b, .report e⟩]) = tally h ++ [⟨time, b, .report e⟩] :=
    tally_of_counts ((Deed.counts_of_report rfl).trans going)
  refine ⟨fun going' => ?_, ?_⟩
  · rw [errors going', more, reported_append, tallied.errors going]
    rfl
  · rw [more, cycle]
    exact List.forall_mem_append.mpr ⟨tallied.cycle, by simp⟩

end Tallied

/-- Each outcome keeps the tally. -/
theorem Outcome.tallied (outcome : Outcome s b move effect) (tallied : Tallied h b) (time : Nat) :
    Tallied (h ++ [⟨time, b, move⟩]) effect.breaker := by
  cases outcome with
  | idle uncounted unsteered uncleared _ errors active cycle _ =>
      have begins : Deed.begins ⟨time, b, move⟩ = false := by
        cases move with
        | activate => exact absurd (unsteered (.inl rfl)).2 (by simp)
        | _ => rfl
      have clears : Deed.clears ⟨time, b, move⟩ = false := by
        cases move with
        | expire t => exact uncleared t rfl
        | _ => rfl
      have same := tally_of_idle (h := h) (by simp [begins, clears])
        (counts_of_uncounted uncounted time)
      exact tallied.idle same (by rw [active]; exact id) (fun _ => errors) cycle
  | begins _ _ errors _ _ _ => exact .ofEmpty (tally_of_cut (.inl rfl)) errors
  | ends _ _ _ active cycle _ =>
      have same : tally (h ++ [⟨time, b, .deactivate⟩]) = tally h :=
        tally_of_idle (by simp [Deed.begins, Deed.clears]) rfl
      exact tallied.idle same (by simp [active]) (by simp [active]) cycle
  | counts e going _ _ errors _ cycle _ => exact tallied.count going time e (fun _ => errors) cycle
  | trips e _ going _ _ _ _ active cycle _ =>
      exact tallied.count going time e (by simp [active]) cycle
  | clears _ _ _ _ heeds _ errors _ _ _ => exact .ofEmpty (tally_of_cut (.inr heeds)) errors

/-- **The log has the errors of the tally.** -/
theorem tallied_of_passage (p : Passage s {} h b) (valid : 0 < s.limit.toNat) : Tallied h b := by
  induction p with
  | nil => exact .ofEmpty rfl rfl
  | deed time move p held _ ih =>
      exact ((sound_of_passage p valid held).outcome time move).tallied ih time

/-! ### Deeds that trip the breaker -/

/-- What a deed of a history finds, and what comes of it. -/
structure Finds (s : BreakerSettings) (past : List Deed) (d : Deed) : Prop where
  sound : Sound s d.before
  tallied : Tallied past d.before
  outcome : Outcome s d.before d.move (d.effect s)

theorem finds_of_passage (p : Passage s {} (past ++ d :: rest) b) (valid : 0 < s.limit.toNat) :
    Finds s past d := by
  have passage := p.around.1
  have sound := sound_of_passage passage valid p.held_before
  exact ⟨sound, tallied_of_passage passage valid, sound.outcome d.time d.move⟩

namespace Finds

/-- With an error that counts the log is the tally. -/
theorem errors_append (finds : Finds s past d) {e : Report} (he : d.move = .report e)
    (going : d.before.active = true) :
    d.before.errors ++ [e] = reported (tally (past ++ [d])) := by
  have counts := (Deed.counts_of_report he).trans going
  rw [tally_of_counts counts, reported_append, finds.tallied.errors going, reported_cons he]
  rfl

/-- It can be written if all errors can. -/
theorem exists_printList (finds : Finds s past d) {e : Report} (he : d.move = .report e)
    (going : d.before.active = true) (printable : ∀ e ∈ reported (past ++ [d]), e.Printable) :
    ∃ text, Report.printList (d.before.errors ++ [e]) = .ok text := by
  rw [finds.errors_append he going]
  exact Report.exists_printList fun e he => printable e (mem_reported_of_tally he)

theorem not_fails (finds : Finds s past d) (printable : ∀ e ∈ reported (past ++ [d]), e.Printable) :
    ¬ d.Fails s := by
  intro fails
  obtain ⟨e, he⟩ := fails.isReport
  have fault : (d.before.addError s d.time e).fault ≠ none := by
    rw [Deed.Fails, Deed.effect, he] at fails
    exact fails
  obtain ⟨going, -, ⟨f, hf⟩, -⟩ := addError_fails fault
  obtain ⟨text, ht⟩ := finds.exists_printList he going printable
  exact absurd (ht.symm.trans hf) (by simp)

/-- The report that fills the log trips the breaker. -/
theorem trips_of_fills (finds : Finds s past d)
    (printable : ∀ e ∈ reported (past ++ [d]), e.Printable) (fills : d.fills s = true) :
    ∃ text, Report.printList (reported (tally (past ++ [d]))) = .ok text ∧
      (d.effect s).emissions = [.counter .errors, .gauge s.limit.toNat, .counter .trips, .gauge 0,
        .notice (.tripped d.before.cycle text)] ∧
      (d.after s).active = false ∧ (d.after s).fired = d.before.cycle :: d.before.fired := by
  obtain ⟨hcounts, hfull⟩ := Bool.and_eq_true_iff.mp fills
  obtain ⟨e, he, going⟩ := Deed.exists_report hcounts
  have limit := of_decide_eq_true hfull
  obtain ⟨text, ht⟩ := finds.exists_printList he going printable
  have outcome := finds.outcome
  rw [he] at outcome
  cases outcome with
  | idle uncounted _ _ _ _ _ _ _ =>
      exact absurd (going.symm.trans (uncounted e rfl)) (by simp)
  | counts _ _ short _ _ _ _ _ =>
      rcases short with below | ⟨fault, hfault⟩
      · exact absurd limit (Nat.ne_of_lt below)
      · exact absurd (ht.symm.trans hfault) (by simp)
  | trips _ text' _ _ printed emissions _ active _ fired =>
      rw [finds.errors_append he going] at printed
      exact ⟨text', printed, by rw [emissions, limit], active, fired⟩

/-- No other deed fires a signal. -/
theorem fired_of_not_fills (finds : Finds s past d) (fills : d.fills s = false) :
    (d.after s).fired = d.before.fired := by
  rcases finds.outcome.fired_cases with fired | ⟨e, he, going, full, -⟩
  · exact fired
  · rw [Deed.fills, Deed.counts_of_report he, going, decide_eq_true full] at fills
    simp at fills

/-- The signal of a cycle fires in the report that fills the log, and only there. -/
theorem signal_iff (finds : Finds s past d) (printable : ∀ e ∈ reported (past ++ [d]), e.Printable)
    (k : Nat) :
    d.before.isTripped k = false ∧ (d.after s).isTripped k = true ↔
      d.fills s = true ∧ k = d.before.cycle := by
  rw [← Bool.not_eq_true, isTripped_iff, isTripped_iff]
  cases fills : d.fills s with
  | false =>
      rw [finds.fired_of_not_fills fills]
      simp
  | true =>
      obtain ⟨-, -, -, -, fired⟩ := finds.trips_of_fills printable fills
      obtain ⟨e, -, going⟩ := Deed.exists_report (Bool.and_eq_true_iff.mp fills).1
      rw [fired, List.mem_cons]
      constructor
      · rintro ⟨old, rfl | new⟩
        · exact ⟨rfl, rfl⟩
        · exact absurd new old
      · rintro ⟨-, rfl⟩
        exact ⟨finds.sound.unfired going, .inl rfl⟩

/-- The tally that fills the log has as many errors as the limit says. -/
theorem length_tally (finds : Finds s past d) (fills : d.fills s = true) :
    (tally (past ++ [d])).length = s.limit.toNat := by
  obtain ⟨hcounts, hfull⟩ := Bool.and_eq_true_iff.mp fills
  obtain ⟨e, he, going⟩ := Deed.exists_report hcounts
  rw [← length_reported_tally, ← finds.errors_append he going, List.length_append]
  exact of_decide_eq_true hfull

/-- All of them have counted in the cycle that goes on. -/
theorem cycle_of_mem_tally (finds : Finds s past d) (fills : d.fills s = true) {x : Deed}
    (hx : x ∈ tally (past ++ [d])) : x.before.cycle = d.before.cycle := by
  rw [tally_of_counts (Bool.and_eq_true_iff.mp fills).1] at hx
  rcases List.mem_append.mp hx with hx | hx
  · exact finds.tallied.cycle x hx
  · rw [List.mem_singleton.mp hx]

end Finds

/-- No deed breaks off if all errors can be written. -/
theorem not_fails_of_passage (p : Passage s {} h b) (valid : 0 < s.limit.toNat)
    (printable : ∀ e ∈ reported h, e.Printable) : ∀ d ∈ h, ¬ d.Fails s := by
  intro d hd
  obtain ⟨past, rest, rfl⟩ := List.append_of_mem hd
  exact (finds_of_passage p valid).not_fails fun e he => printable e (mem_reported_of_concat he)

/-- The cycles noted as tripped are those in which a report has filled the log. -/
theorem fired_of_passage (p : Passage s {} h b) (valid : 0 < s.limit.toNat)
    (printable : ∀ e ∈ reported h, e.Printable) :
    b.fired = ((h.filter (Deed.fills s)).map (·.before.cycle)).reverse := by
  induction p with
  | nil => rfl
  | @deed h b time move p held possible ih =>
      have finds : Finds s h ⟨time, b, move⟩ :=
        finds_of_passage (.deed time move p held possible) valid
      have before := ih fun e he => printable e <| by
        rw [reported_append]
        exact List.mem_append_left _ he
      show (Deed.after s ⟨time, b, move⟩).fired = _
      rw [List.filter_append]
      cases fills : Deed.fills s ⟨time, b, move⟩ with
      | false =>
          rw [finds.fired_of_not_fills fills, before]
          simp [fills]
      | true =>
          obtain ⟨-, -, -, -, fired⟩ := finds.trips_of_fills printable fills
          rw [fired, before]
          simp [fills]

/-- Only by an activation does a breaker become active. -/
theorem begins_of_active {a : Breaker} (p : Passage s a h b) (idle : a.active = false)
    (going : b.active = true) : ∃ d ∈ h, d.begins = true := by
  induction p with
  | nil => exact absurd (going.symm.trans idle) (by simp)
  | @deed h b time move _ _ _ ih =>
      cases active : b.active with
      | true =>
          obtain ⟨d, hd, begins⟩ := ih active
          exact ⟨d, List.mem_append_left _ hd, begins⟩
      | false =>
          refine ⟨⟨time, b, move⟩, by simp, ?_⟩
          cases move with
          | activate => rfl
          | deactivate => exact absurd (going.symm.trans (active_deactivate b)) (by simp)
          | report e => simp [Move.effect, addError, active] at going
          | expire t =>
              rw [Move.effect, active_expire, active] at going
              simp at going
          | release => exact absurd (going.symm.trans active) (by simp)

/-- Behind a deed that leaves the breaker inactive every tally starts anew. -/
theorem tally_of_active {between : List Deed} {d' : Deed}
    (p : Passage s {} (past ++ d :: (between ++ d' :: rest)) b) (idle : (d.after s).active = false)
    (going : d'.before.active = true) :
    tally (past ++ d :: (between ++ [d'])) = tally (between ++ [d']) := by
  obtain ⟨x, hx, begins⟩ := begins_of_active p.around.2.around.1 idle going
  rw [List.append_cons]
  exact tally_append_of_begins ⟨x, List.mem_append_left _ hx, begins⟩

/-! ### How close the reports of a tally are -/

theorem quietEnd_le (s : BreakerSettings) (last : Nat) :
    quietEnd s last ≤ last + s.cooldownMs.toNat :=
  Nat.add_le_add_left (Nat.min_le_left _ _) last

/-- A report that counts and comes in time comes less than a cooldown after the last one of the
tally. -/
theorem lt_of_inTime (p : Passage s {} h d.before) (valid : 0 < s.limit.toNat) (held : Held h)
    (unfailing : ∀ d ∈ h, ¬ d.Fails s) (counts : d.counts = true) (inTime : d.InTime) {x : Deed}
    (hx : x ∈ (tally h).getLast?) : d.time < x.time + s.cooldownMs.toNat := by
  obtain ⟨e, he, going⟩ := Deed.exists_report counts
  obtain ⟨last, calm, hlast⟩ := calm_of_passage p valid held going fun d hd _ => unfailing d hd
  have some : d.before.errors ≠ [] := by
    rw [(tallied_of_passage p valid).errors going, ← List.length_pos_iff, length_reported_tally,
      List.length_pos_iff]
    exact List.ne_nil_of_mem (List.mem_of_getLast? hx)
  obtain ⟨t, htimers, -, -, due⟩ := calm.waits some
  have same : last = x.time := Option.some.inj ((hlast some).symm.trans (lastCounted_of_tally hx))
  have early := inTime (Bool.and_eq_true_iff.mp counts).1 t (by simp [htimers])
  rw [due, same] at early
  exact Nat.lt_of_lt_of_le early (quietEnd_le s x.time)

/-- **If every report comes in time, those of a tally are less than a cooldown apart.** -/
theorem isChain_tally (p : Passage s {} h b) (valid : 0 < s.limit.toNat)
    (unfailing : ∀ d ∈ h, ¬ d.Fails s) (inTime : ∀ d ∈ h, d.InTime) :
    (tally h).IsChain fun d d' => d'.time < d.time + s.cooldownMs.toNat := by
  induction p with
  | nil => exact .nil
  | @deed h b time move p held _ ih =>
      obtain ⟨unfailing', -⟩ := List.forall_mem_append.mp unfailing
      obtain ⟨inTime', last⟩ := List.forall_mem_append.mp inTime
      have before := ih unfailing' inTime'
      rcases tally_cases h ⟨time, b, move⟩ with empty | same | ⟨counts, more⟩
      · rw [empty]
        exact .nil
      · rw [same]
        exact before
      · -- Only the new report can be far from the one before it.
        rw [more]
        refine List.isChain_append.mpr ⟨before, .singleton _, ?_⟩
        rintro x hx _ ⟨⟩
        exact lt_of_inTime p valid held unfailing' counts (last _ (List.mem_singleton.mpr rfl)) hx

end Breaker

/-! ### Sessions -/

namespace Session

/-- What the trips of a history are about, and what has been told of them. -/
structure Diagnoses (s : BreakerSettings) (h : List Deed) (j : List (Happening α)) : Prop where
  /-- The signal of a cycle fires in the report that fills its log, and only there. -/
  signal : ∀ d ∈ h, ∀ k, d.before.isTripped k = false ∧ (d.after s).isTripped k = true ↔
    d.fills s = true ∧ k = d.before.cycle
  /-- No cycle has its log filled twice. -/
  once : ((h.filter (Deed.fills s)).map (·.before.cycle)).Nodup
  /-- There are as many trips counted as logs filled, and as many warnings told. -/
  counted : (Journal.told j).count (.counter .trips) = h.countP (Deed.fills s)
  warned : (lines (Journal.told j)).countP Notice.isWarning = h.countP (Deed.fills s)
  /-- The report that fills the log has all three at once.  The warning names the cycle and lists
  the errors of the tally. -/
  news : ∀ before d after, j = before ++ .did d :: after → d.fills s = true →
    ∃ text later, Report.printList (reported (tally (Journal.deeds before ++ [d]))) = .ok text ∧
      after = [.counter .errors, .gauge s.limit.toNat, .counter .trips, .gauge 0,
        .notice (.tripped d.before.cycle text)].map (.told (d.after s)) ++ later
  /-- There are as many errors in it as the limit says. -/
  full : ∀ past d rest, h = past ++ d :: rest → d.fills s = true →
    (tally (past ++ [d])).length = s.limit.toNat
  /-- All of them have counted in that cycle. -/
  listed : ∀ past d rest, h = past ++ d :: rest → d.fills s = true →
    ∀ x ∈ tally (past ++ [d]), x.counts = true ∧ x.before.cycle = d.before.cycle
  /-- None of them is in an earlier warning: a tally is the same without all that was up to any
  earlier trip. -/
  apart : ∀ past d between d' rest, h = past ++ d :: (between ++ d' :: rest) →
    d.fills s = true → d'.fills s = true →
    tally (past ++ d :: (between ++ [d'])) = tally (between ++ [d'])

theorem diagnoses_of_chronicle {s : BreakerSettings} {j : List (Happening α)} {b : Breaker}
    (chronicle : Chronicle s {} j b) (valid : 0 < s.limit.toNat)
    (printable : ∀ e ∈ reported (Journal.deeds j), e.Printable) :
    Diagnoses s (Journal.deeds j) j := by
  have passage := chronicle.passage
  have books := chronicle.balanced valid
  have hfired := Breaker.fired_of_passage passage valid printable
  have nodup := Breaker.nodup_fired_of_passage passage valid
  have finds : ∀ {past d rest}, Journal.deeds j = past ++ d :: rest → Breaker.Finds s past d := by
    intro past d rest heq
    rw [heq] at passage
    exact Breaker.finds_of_passage passage valid
  have upTo : ∀ {past d rest}, Journal.deeds j = past ++ d :: rest →
      ∀ e ∈ reported (past ++ [d]), e.Printable := by
    intro past d rest heq e he
    exact printable e (heq ▸ mem_reported_of_concat he)
  have counted :
      (Journal.told j).count (.counter .trips) = (Journal.deeds j).countP (Deed.fills s) := by
    have signals := books.signals
    rw [hfired, List.length_reverse, List.length_map, ← List.countP_eq_length_filter] at signals
    exact (Nat.zero_add _).symm.trans signals.symm
  refine
    { signal := ?_
      once := by rwa [hfired, List.nodup_reverse] at nodup
      counted
      warned := books.warnings.symm.trans counted
      news := ?_
      full := ?_
      listed := ?_
      apart := ?_ }
  · intro d hd k
    obtain ⟨past, rest, heq⟩ := List.append_of_mem hd
    exact (finds heq).signal_iff (upTo heq) k
  · intro before d after happened fills
    obtain ⟨later, rfl⟩ := chronicle.news_of_did happened
    have heq : Journal.deeds j = Journal.deeds before ++ d :: Journal.deeds later := by
      rw [happened]
      simp
    obtain ⟨text, printed, emissions, -⟩ := (finds heq).trips_of_fills (upTo heq) fills
    exact ⟨text, later, printed, by rw [Deed.news, emissions]; rfl⟩
  · intro past d rest heq fills
    exact (finds heq).length_tally fills
  · intro past d rest heq fills x hx
    exact ⟨counts_of_mem_tally hx, (finds heq).cycle_of_mem_tally fills hx⟩
  · intro past d between d' rest heq fills fills'
    obtain ⟨-, -, -, idle, -⟩ := (finds heq).trips_of_fills (upTo heq) fills
    obtain ⟨-, -, going⟩ := Deed.exists_report (Bool.and_eq_true_iff.mp fills').1
    rw [heq] at passage
    exact Breaker.tally_of_active passage idle going

/-- The reports of each tally are less than a cooldown apart. -/
theorem isChain_tally_of_create {hasRuntime : Bool} {settings : BreakerSettings} {sink : Sink α}
    {c : Circuit α} (made : Circuit.create hasRuntime settings sink = .ok c)
    {steps : List (Step α)} {past rest : List Deed}
    (heq : history { circuit := c } steps = past ++ rest)
    (printable : ∀ e ∈ reported past, e.Printable) :
    (tally past).IsChain fun d d' => d'.time < d.time + settings.cooldownMs.toNat := by
  have valid := (Circuit.of_create made).2.1
  have inTime := (ready_after made steps).2
  have passage := (goes_of_create made steps).1
  rw [heq] at inTime passage
  obtain ⟨b, first, -⟩ := passage.split
  have unfailing := Breaker.not_fails_of_passage first valid printable
  exact Breaker.isChain_tally first valid unfailing (List.forall_mem_append.mp inTime).1

/-- **Trip diagnostics are exact.**

If all errors can be written, then the report that fills the log of a cycle fires the signal, counts
the trip and has the warning told, which lists the errors of the tally, and nothing else does any of
that.  The reports of every tally are less than a cooldown apart. -/
theorem diagnoses_trips {hasRuntime : Bool} {settings : BreakerSettings} {sink : Sink α}
    {c : Circuit α} (made : Circuit.create hasRuntime settings sink = .ok c)
    (steps : List (Step α))
    (printable : ∀ e ∈ reported (history { circuit := c } steps), e.Printable) :
    let start : Session α := { circuit := c }
    Recorded start steps ∧ Diagnoses settings (start.history steps) (start.journal steps) ∧
      ∀ past rest, start.history steps = past ++ rest →
        (tally past).IsChain fun d d' => d'.time < d.time + settings.cooldownMs.toNat := by
  obtain ⟨rfl, valid, -⟩ := Circuit.of_create made
  have recorded := records_after (s := { circuit := { settings, sink } }) (fun _ => rfl) rfl steps
  have diagnoses := diagnoses_of_chronicle recorded.chronicle valid (recorded.deeds ▸ printable)
  rw [recorded.deeds] at diagnoses
  refine ⟨recorded, diagnoses, fun past rest heq => ?_⟩
  rw [heq, reported_append] at printable
  exact isChain_tally_of_create made heq (List.forall_mem_append.mp printable).1

/-- A breaker with reactions: the first line has an error reported, and the first warning has the
breaker activated. -/
def ofReactions : Session Unit :=
  { circuit :=
      { settings := { limit := 2, cooldownMs := 10 }
        sink := .keeping [.activate] [.addError (.text "z")] } }

/-- A reset, two trips, and an error that finds the breaker inactive. -/
def tripTwice : List (Step Unit) :=
  [.operate 0 .activate, .sleep 10, .operate 0 (.addError (.text "a")), .sleep 9,
   .operate 0 (.addError .unit), .operate 0 (.addError (.number 3)),
   .operate 0 (.addError (.truth true)), .operate 0 (.addError (.text "x"))]

/-- The first warning does not have the error that the reset has cleared, and the second one does
not have those of the first. -/
theorem diagnoses_two_trips :
    Circuit.create true ofReactions.circuit.settings ofReactions.circuit.sink
        = .ok ofReactions.circuit ∧
      (∀ e ∈ reported (ofReactions.history tripTwice), e.Printable) ∧
      Diagnoses ofReactions.circuit.settings (ofReactions.history tripTwice)
        (ofReactions.journal tripTwice) ∧
      (∀ past rest, ofReactions.history tripTwice = past ++ rest →
        (tally past).IsChain fun d d' => d'.time < d.time + 10) ∧
      ((ofReactions.run tripTwice).flatMap Snapshot.events).filterMap Event.notice?
        = [.started 1, .cleared 1, .tripped 1 "[\"a\", ()]", .started 2,
          .tripped 2 "[3, true]"] := by
  have made : Circuit.create true ofReactions.circuit.settings ofReactions.circuit.sink
      = .ok ofReactions.circuit := rfl
  have all : reported (ofReactions.history tripTwice)
      = [.text "z", .text "a", .unit, .number 3, .truth true, .text "x"] := rfl
  have printable : ∀ e ∈ reported (ofReactions.history tripTwice), e.Printable := by
    rw [all]
    simp [Report.Printable, Report.print]
  obtain ⟨-, diagnoses, apart⟩ := diagnoses_trips made tripTwice printable
  exact ⟨made, printable, diagnoses, apart, by decide +kernel⟩

end Session

end Tripwire
