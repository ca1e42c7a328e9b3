/-
Calls that come at once.

A call holds the breaker's lock while it takes effect, and tells the outside about it when it
has let go of the lock.  So the calls of several threads come in some order, but what they
tell can be mixed in any way: `Crowd.Step` is one call, one thing told, or time that passes
without a cooldown being over.

The calls of a phase are all the same, so it does not matter which thread is next.  As many
calls in a row lead to the same breaker, up to when its alarms are due, and what has been told
so far together with what is still to be told is what they tell, up to the order,
`Crowd.Follows`.  At the end nothing is still to be told, and a phase shows what its calls show
in a row.  What that is can be said without running them, `Phase.Comes`.
-/
import Mathlib.Algebra.Order.BigOperators.Group.List
import Mathlib.Algebra.Order.Ring.Nat
import Mathlib.Logic.Relation
import Tripwire.Proofs.Sequel

namespace Tripwire

variable {α : Type}

/-! ### Threads at work -/

/-- A thread that makes calls. -/
structure Caller where
  /-- How many calls it still has to make. -/
  calls : Nat
  /-- What it still has to tell the outside about its last call. -/
  pending : List Emission := []

/-- A thread that has made all of its calls and told everything about them. -/
def Caller.Done (w : Caller) : Prop := w.calls = 0 ∧ w.pending = []

/-- Threads that use the same circuit. -/
structure Crowd (α : Type) where
  circuit : Circuit α
  callers : List Caller

namespace Crowd

/-- One thing that happens while threads call an operation. -/
inductive Step (op : Operation α) : Crowd α → Crowd α → Prop
  /-- A thread that has told everything takes the lock, and its next call takes effect. -/
  | call (c : Circuit α) (front back : List Caller) (calls : Nat) {effect : Effect}
      (h : op.effect c.settings c.now c.breaker = effect) (whole : effect.fault = none) :
      Step op ⟨c, front ++ ⟨calls + 1, []⟩ :: back⟩
        ⟨{ c with breaker := effect.breaker }, front ++ ⟨calls, effect.emissions⟩ :: back⟩
  /-- A thread without the lock tells the outside one thing. -/
  | tell (c : Circuit α) (front back : List Caller) (calls : Nat) (e : Emission)
      (pending : List Emission) :
      Step op ⟨c, front ++ ⟨calls, e :: pending⟩ :: back⟩
        ⟨c.emit e, front ++ ⟨calls, pending⟩ :: back⟩
  /-- Time passes, and no cooldown is over. -/
  | tick (c : Circuit α) (callers : List Caller) (time : Nat) (later : c.now ≤ time) :
      Step op ⟨c, callers⟩ ⟨{ c with now := time }, callers⟩

end Crowd

/-- Threads can make the calls of the phase on the first circuit and leave the second one. -/
def Phase.Races (phase : Phase α) (c c' : Circuit α) : Prop :=
  ∃ callers : List Caller, (∀ w ∈ callers, w.Done) ∧
    Relation.ReflTransGen (Crowd.Step phase.op)
      ⟨c, List.replicate phase.threads ⟨phase.times, []⟩⟩ ⟨c', callers⟩

/-- Threads can go through the phases, show this and leave the second circuit. -/
inductive Circuit.Races : Circuit α → List (Phase α) → List PhaseSummary → Circuit α → Prop
  | nil (c : Circuit α) : Races c [] [] c
  | cons {c mid last : Circuit α} {phase : Phase α} {phases : List (Phase α)}
      {summaries : List PhaseSummary} (race : phase.Races c mid)
      (rest : Races { mid with events := #[] } phases summaries last) :
      Races c (phase :: phases) (mid.summary :: summaries) last

/-- Both phases have come to the same, with the lines for the log in any order. -/
structure PhaseSummary.Alike (p p' : PhaseSummary) : Prop where
  status : p'.status = p.status
  text : p'.text = p.text
  notices : p'.notices.Perm p.notices
  errors : p'.errors = p.errors
  trips : p'.trips = p.trips

/-! ### Calls in a row -/

namespace Circuit

theorem repeatOp_add (op : Operation α) (m n : Nat) (c : Circuit α) :
    repeatOp op (m + n) c = repeatOp op n (repeatOp op m c) := by
  induction m generalizing c with
  | zero => rw [Nat.zero_add]; rfl
  | succ m ih => rw [Nat.succ_add]; exact ih _

theorem repeatOp_succ (op : Operation α) (n : Nat) (c : Circuit α) :
    repeatOp op (n + 1) c = ((repeatOp op n c).perform op).1 :=
  repeatOp_add op n 1 c

/-- Calls that do nothing do nothing however often they are made. -/
theorem repeatOp_of_ignored {op : Operation α} {c : Circuit α} (ignored : (c.perform op).1 = c)
    (n : Nat) : repeatOp op n c = c := by
  induction n with
  | zero => rfl
  | succ n ih => rw [repeatOp, ignored, ih]

end Circuit

/-! ### Calls in any order -/

/-- Without a past no cycles come before. -/
theorem Emission.later_zero (e : Emission) : e.later 0 = e := by
  cases e with
  | notice n => cases n <;> simp [later, Notice.later]
  | _ => rfl

/-- The breakers differ at most in when their alarms are due. -/
abbrev Breaker.Mates (b b' : Breaker) : Prop := Breaker.Later {} (fun _ _ => True) b b'

namespace Breaker.Mates

variable {b b' : Breaker}

theorem refl (b : Breaker) : b.Mates b where
  active := rfl
  errors := rfl
  stamp := (UInt64.zero_add _).symm
  cycle := (Nat.zero_add _).symm
  sender := rfl
  fired := by simp
  armed := by simp
  timers := List.forall₂_same.mpr fun t _ =>
    ⟨(Nat.zero_add _).symm, (UInt64.zero_add _).symm, trivial⟩
  spawned := (Nat.zero_add _).symm

theorem cycle_eq (mates : b.Mates b') : b'.cycle = b.cycle :=
  mates.cycle.trans (Nat.zero_add _)

theorem status_eq (mates : b.Mates b') : b'.status = b.status := by
  have tripped : b'.isTripped b.cycle = b.isTripped b.cycle := by
    rw [Bool.eq_iff_iff, isTripped_iff, isTripped_iff, mates.fired]
    simp
  rw [status, status, mates.active, mates.current, mates.cycle_eq, tripped]

theorem text_eq (mates : b.Mates b') (s : BreakerSettings) : b'.text s = b.text s := by
  rw [mates.text s]
  simp [Breaker.text, parts, current]

end Breaker.Mates

/-- The circuits have the same settings and the same sink, and breakers that differ at most in when
their alarms are due. -/
structure Circuit.Mates (c c' : Circuit α) : Prop where
  quiet : c.sink.queued = 0
  settings : c'.settings = c.settings
  sink : c'.sink = c.sink
  breaker : c.breaker.Mates c'.breaker

theorem Circuit.Mates.refl {c : Circuit α} (quiet : c.sink.queued = 0) : c.Mates c :=
  ⟨quiet, rfl, rfl, .refl _⟩

theorem Circuit.Mates.eventOf {c c' : Circuit α} (mates : c.Mates c') : c'.eventOf = c.eventOf :=
  Circuit.eventOf_congr mates.settings mates.sink

namespace Crowd

/-- What the threads still have to tell. -/
def pending (w : Crowd α) : List Emission := w.callers.flatMap Caller.pending

/-- How many calls the threads still have to make. -/
def calls (w : Crowd α) : Nat := (w.callers.map Caller.calls).sum

theorem pending_mk (c : Circuit α) (front back : List Caller) (w : Caller) :
    pending ⟨c, front ++ w :: back⟩
      = front.flatMap Caller.pending ++ (w.pending ++ back.flatMap Caller.pending) := by
  rw [pending, List.flatMap_append, List.flatMap_cons]

theorem calls_mk (c : Circuit α) (front back : List Caller) (w : Caller) :
    calls ⟨c, front ++ w :: back⟩
      = (front.map Caller.calls).sum + (w.calls + (back.map Caller.calls).sum) := by
  rw [calls, List.map_append, List.sum_append, List.map_cons, List.sum_cons]

/-- The calls that threads have made so far come to the same as some calls in a row, up to the order
in which the outside is told. -/
structure Follows (row : Circuit α) (w : Crowd α) : Prop where
  mates : row.Mates w.circuit
  told : (w.circuit.events.toList ++ w.pending.map w.circuit.eventOf).Perm row.events.toList

/-- **A step of the threads is a call in a row, or nothing.** -/
theorem Follows.step {op : Operation α} {row : Circuit α} {w w' : Crowd α}
    (follows : Follows row w) (step : Step op w w') :
    Follows row w' ∧ w'.calls = w.calls ∨
      Follows (row.perform op).1 w' ∧ w.calls = w'.calls + 1 := by
  obtain ⟨mates, told⟩ := follows
  cases step with
  | call c front back calls h whole =>
      rename_i effect
      have same : Effect.Later {} (fun _ _ => True)
          (op.effect row.settings row.now row.breaker) effect := by
        rw [← h, mates.settings]
        exact mates.breaker.effect trivial op
      have emissions : effect.emissions
          = (op.effect row.settings row.now row.breaker).emissions := by
        rw [same.emissions]
        exact List.map_id'' Emission.later_zero _
      rw [pending_mk, List.nil_append] at told
      rw [Circuit.perform_of_quiet mates.quiet]
      refine .inr ⟨⟨⟨mates.quiet, mates.settings, mates.sink, same.breaker⟩, ?_⟩, ?_⟩
      -- In a row the news of this call come last, and here before those of the threads behind it.
      · rw [pending_mk, Circuit.events_undergo, ← emissions, ← mates.eventOf]
        refine .trans ?_ (told.append_right _)
        rw [List.append_assoc, ← List.map_append]
        refine .append_left _ (.map _ ?_)
        rw [List.append_assoc]
        exact .append_left _ List.perm_append_comm
      · rw [calls_mk, calls_mk]
        dsimp only
        omega
  | tell c front back calls e pending =>
      rw [Circuit.emit_eq_record]
      refine .inl ⟨⟨⟨mates.quiet, mates.settings, mates.sink, mates.breaker⟩, ?_⟩, ?_⟩
      · refine .trans ?_ told
        rw [pending_mk, pending_mk, Circuit.record, Array.toList_push, List.append_assoc]
        refine .append_left _ ?_
        show ([e].map c.eventOf ++ List.map c.eventOf _).Perm _
        rw [← List.map_append]
        refine .map _ ?_
        rw [List.singleton_append, List.cons_append]
        exact List.perm_middle.symm
      · rw [calls_mk, calls_mk]
  | tick c callers time later =>
      exact .inl ⟨⟨⟨mates.quiet, mates.settings, mates.sink, mates.breaker⟩, told⟩, rfl⟩

/-- **However the calls of threads are mixed, they come to the same as calls in a row.** -/
theorem Follows.run {op : Operation α} {row : Circuit α} {w w' : Crowd α}
    (follows : Follows row w) (steps : Relation.ReflTransGen (Step op) w w') :
    ∃ made, made + w'.calls = w.calls ∧ Follows (Circuit.repeatOp op made row) w' := by
  induction steps with
  | refl => exact ⟨0, Nat.zero_add _, follows⟩
  | tail _ step ih =>
      obtain ⟨made, hmade, follows⟩ := ih
      rcases follows.step step with ⟨follows', same⟩ | ⟨follows', less⟩
      · exact ⟨made, by omega, follows'⟩
      · exact ⟨made + 1, by omega, Circuit.repeatOp_succ op made row ▸ follows'⟩

end Crowd

/-! ### Phases in any order -/

/-- Circuits with the same breakers show the same of a phase if the same has happened in them. -/
theorem Circuit.Mates.summary {c c' : Circuit α} (mates : c.Mates c')
    (events : c'.events.toList.Perm c.events.toList) : c.summary.Alike c'.summary where
  status := mates.breaker.status_eq
  text := by
    rw [Circuit.summary, Circuit.summary, mates.settings]
    exact mates.breaker.text_eq _
  notices := events.filterMap _
  errors := events.countP_eq _
  trips := events.countP_eq _

theorem Phase.Races.follows {phase : Phase α} {c c' d' : Circuit α} (race : phase.Races c' d')
    (mates : c.Mates c') (events : c'.events.toList.Perm c.events.toList) :
    (Circuit.repeatOp phase.op (phase.threads * phase.times) c).Mates d' ∧
      d'.events.toList.Perm
        (Circuit.repeatOp phase.op (phase.threads * phase.times) c).events.toList := by
  obtain ⟨callers, done, steps⟩ := race
  have begun : Crowd.Follows c ⟨c', List.replicate phase.threads ⟨phase.times, []⟩⟩ := by
    refine ⟨mates, ?_⟩
    rw [Crowd.pending, List.flatMap_replicate]
    simpa using events
  obtain ⟨made, hmade, mates', told⟩ := begun.run steps
  have told_all : Crowd.pending ⟨d', callers⟩ = [] := by
    rw [Crowd.pending, List.flatMap_eq_nil_iff]
    exact fun w hw => (done w hw).2
  have made_all : Crowd.calls ⟨d', callers⟩ = 0 := by
    rw [Crowd.calls, List.sum_eq_zero_iff]
    intro n hn
    obtain ⟨w, hw, rfl⟩ := List.mem_map.mp hn
    exact (done w hw).1
  have to_make : Crowd.calls ⟨c', List.replicate phase.threads ⟨phase.times, []⟩⟩
      = phase.threads * phase.times := by
    rw [Crowd.calls, List.map_replicate, List.sum_replicate_nat]
  rw [made_all, to_make, Nat.add_zero] at hmade
  rw [told_all, List.map_nil, List.append_nil] at told
  rw [hmade] at mates' told
  exact ⟨mates', told⟩

/-- **Phases show what they show if their calls are made one after the other.** -/
theorem Circuit.Races.alike {c' last : Circuit α} {phases : List (Phase α)}
    {summaries : List PhaseSummary} (races : c'.Races phases summaries last) :
    ∀ {c : Circuit α}, c.Mates c' → c.events = #[] → c'.events = #[] →
      List.Forall₂ PhaseSummary.Alike (c.runPhases phases) summaries := by
  induction races with
  | nil c' => intro c _ _ _; exact .nil
  | cons race _ ih =>
      intro c mates events events'
      obtain ⟨mates', told⟩ := race.follows mates (by rw [events, events'])
      exact .cons (mates'.summary told)
        (ih ⟨mates'.quiet, mates'.settings, mates'.sink, mates'.breaker⟩ rfl rfl)

/-! ### Calls that do not break off -/

/-- The operation is one that the threads of a phase call. -/
def Operation.IsCall : Operation α → Prop
  | activate | deactivate => True
  | addError e => e.Printable
  | _ => False

/-- So many errors and trips are counted in the emissions, and these are their lines. -/
structure Emission.Amount (emissions : List Emission) (errors trips : Nat) (notices : List Notice) :
    Prop where
  errors : emissions.count (.counter .errors) = errors
  trips : emissions.count (.counter .trips) = trips
  notices : emissions.filterMap Emission.notice? = notices

theorem Emission.Amount.append {emissions emissions' : List Emission}
    {errors trips errors' trips' : Nat} {notices notices' : List Notice}
    (first : Amount emissions errors trips notices)
    (second : Amount emissions' errors' trips' notices') :
    Amount (emissions ++ emissions') (errors + errors') (trips + trips') (notices ++ notices') where
  errors := by rw [List.count_append, first.errors, second.errors]
  trips := by rw [List.count_append, first.trips, second.trips]
  notices := by rw [List.filterMap_append, first.notices, second.notices]

namespace Circuit

variable {c d : Circuit α} {e : Report}

/-- A tame circuit that keeps its lines, with errors that can be written. -/
structure Legible (c : Circuit α) : Prop extends Tame c where
  keeps : c.sink = .keeping [] []
  printable : ∀ e ∈ c.breaker.errors, e.Printable

/-- What the outside has been told is what a circuit shows if it had been looked at before. -/
theorem summary_of_tells (keeps : c.sink = .keeping [] []) (looked : c.events = #[])
    {emissions : List Emission} (tells : c.Tells emissions d) {errors trips : Nat}
    {notices : List Notice} (amount : Emission.Amount emissions errors trips notices) :
    d.summary = { status := d.breaker.status, text := d.breaker.text c.settings,
                  notices, errors, trips } := by
  have events : d.events.toList = emissions.map c.eventOf := by
    rw [tells.events, looked]
    rfl
  have counted (k : Counter) :
      d.events.toList.countP (Event.isCounter k) = emissions.count (.counter k) := by
    rw [events, List.countP_map, List.count]
    refine List.countP_congr fun e _ => ?_
    simp [isCounter_eventOf]
  have lines : d.events.toList.filterMap Event.notice? = emissions.filterMap Emission.notice? := by
    rw [events, List.filterMap_map]
    refine List.filterMap_congr fun e _ => ?_
    cases e <;> simp [eventOf, keeps, Sink.event, Event.notice?, Emission.notice?]
  rw [summary, tells.settings, counted, counted, lines, amount.errors, amount.trips, amount.notices]

namespace Legible

/-- Nothing but the sink, the settings and the breaker matters. -/
theorem congr {c' : Circuit α} (ok : c.Legible) (sink : c'.sink = c.sink)
    (settings : c'.settings = c.settings) (breaker : c'.breaker = c.breaker) : c'.Legible :=
  ⟨ok.toTame.congr sink settings breaker, sink.trans ok.keeps, breaker ▸ ok.printable⟩

theorem drained (ok : c.Legible) : Legible { c with events := #[] } := ok.congr rfl rfl rfl

/-- As all errors can be written there are fewer than the limit. -/
theorem below (ok : c.Legible) (active : c.breaker.active = true) :
    c.breaker.current < c.settings.limit.toNat := by
  refine Nat.lt_of_not_le fun reached => ?_
  obtain ⟨fault, failed⟩ := ok.sound.overfull active reached
  obtain ⟨text, printed⟩ := Report.exists_printList ok.printable
  rw [printed] at failed
  simp at failed

theorem exists_printed (ok : c.Legible) {more : List Report} (h : ∀ e ∈ more, e.Printable) :
    ∃ text, Report.printList (c.breaker.errors ++ more) = .ok text := by
  refine Report.exists_printList fun e he => ?_
  rcases List.mem_append.mp he with he | he
  · exact ok.printable e he
  · exact h e he

/-- No call of a phase breaks off, and the errors that count can still be written. -/
theorem perform (ok : c.Legible) {op : Operation α} (call : op.IsCall) :
    (op.effect c.settings c.now c.breaker).fault = none ∧ (c.perform op).1.Legible := by
  suffices h : (op.effect c.settings c.now c.breaker).fault = none ∧
      ∀ e ∈ (op.effect c.settings c.now c.breaker).breaker.errors, e.Printable by
    refine ⟨h.1, ok.toTame.perform op, (tells_perform ok.quiet op).sink.trans ok.keeps, ?_⟩
    rw [perform_of_quiet ok.quiet]
    exact h.2
  cases op with
  | activate =>
      refine ⟨rfl, ?_⟩
      rw [Operation.effect, ok.sound.errors_activate]
      simp
  | deactivate =>
      rw [Operation.effect, Breaker.deactivate]
      split
      · exact ⟨rfl, by simp [Breaker.endCycle]⟩
      · exact ⟨rfl, ok.printable⟩
  | addError e =>
      have printable : e.Printable := call
      have more : ∀ e' ∈ [e], e'.Printable := by simpa using printable
      rw [Operation.effect]
      rcases Breaker.addError_cases c.settings c.now e c.breaker with
        ⟨-, heq⟩ | ⟨-, -, heq, whole⟩ | ⟨-, -, fault, failed, -⟩ | ⟨-, -, text, -, heq, whole⟩
      · rw [heq]
        exact ⟨rfl, ok.printable⟩
      · rw [heq]
        refine ⟨whole, fun e' he' => ?_⟩
        rcases List.mem_append.mp he' with he' | he'
        · exact ok.printable e' he'
        · exact more e' he'
      · obtain ⟨text, printed⟩ := ok.exists_printed more
        rw [printed] at failed
        simp at failed
      · rw [heq]
        exact ⟨whole, by simp [Breaker.endCycle]⟩
  | _ => exact call.elim

theorem repeatOp (ok : c.Legible) {op : Operation α} (call : op.IsCall) (n : Nat) :
    (Circuit.repeatOp op n c).Legible := by
  induction n generalizing c with
  | zero => exact ok
  | succ n ih => exact ih (ok.perform call).2

end Legible

/-! ### What phases come to -/

/-- Between the circuits so many errors have been counted, and nothing else has happened. -/
structure Counts (e : Report) (n : Nat) (c d : Circuit α) : Prop where
  active : d.breaker.active = true
  errors : d.breaker.errors = c.breaker.errors ++ List.replicate n e
  cycle : d.breaker.cycle = c.breaker.cycle
  told : ∃ emissions, c.Tells emissions d ∧ Emission.Amount emissions n 0 []

namespace Legible

/-- An inactive breaker ignores errors. -/
theorem ignores_addError (ok : c.Legible) (inactive : c.breaker.active = false) (e : Report) :
    (c.perform (.addError e)).1 = c := by
  rw [perform_of_quiet ok.quiet, Operation.effect, Breaker.addError, inactive]
  exact tell_nil c

/-- An inactive breaker cannot be deactivated once more. -/
theorem ignores_deactivate (ok : c.Legible) (inactive : c.breaker.active = false) :
    (c.perform .deactivate).1 = c := by
  rw [perform_of_quiet ok.quiet, Operation.effect, Breaker.deactivate, inactive]
  exact tell_nil c

/-- An error counts that does not reach the limit. -/
theorem counts_one (ok : c.Legible) (active : c.breaker.active = true)
    (below : c.breaker.current + 1 < c.settings.limit.toNat) (e : Report) :
    Counts e 1 c (c.perform (.addError e)).1 := by
  have tells := tells_perform ok.quiet (.addError e)
  rw [perform_of_quiet ok.quiet, Operation.effect, Breaker.addError_of_lt active below] at tells ⊢
  exact ⟨active, rfl, rfl, _, tells, ⟨rfl, rfl, rfl⟩⟩

/-- Below the limit errors count. -/
theorem counts (printable : e.Printable) (n : Nat) : ∀ {c : Circuit α}, c.Legible →
    c.breaker.active = true → c.breaker.current + n < c.settings.limit.toNat →
      Counts e n c (Circuit.repeatOp (.addError e) n c) := by
  induction n with
  | zero =>
      intro c _ active _
      exact ⟨active, by simp [Circuit.repeatOp], rfl, [], .nil rfl rfl rfl, ⟨rfl, rfl, rfl⟩⟩
  | succ n ih =>
      intro c ok active below
      have call : (Operation.addError e : Operation α).IsCall := printable
      have ok' := (ok.perform call).2
      obtain ⟨active', errors, cycle, emissions, tells, amount⟩ :=
        ok.counts_one active (by omega) e
      have below' : (c.perform (.addError e)).1.breaker.current + n
          < (c.perform (.addError e)).1.settings.limit.toNat := by
        rw [Breaker.current, errors, tells.settings, List.length_append, List.length_replicate]
        have : c.breaker.errors.length + (n + 1) < c.settings.limit.toNat := below
        omega
      obtain ⟨active'', errors', cycle', emissions', tells', amount'⟩ := ih ok' active' below'
      refine ⟨active'', ?_, cycle'.trans cycle, _, tells.trans tells', ?_⟩
      · rw [Circuit.repeatOp, errors', errors, List.append_assoc, List.replicate_append_replicate,
          Nat.add_comm 1 n]
      · rw [Nat.add_comm n 1]
        exact amount.append amount'

/-- The error that reaches the limit trips the breaker. -/
theorem trips (ok : c.Legible) (active : c.breaker.active = true)
    (reached : c.settings.limit.toNat ≤ c.breaker.current + 1) {text : String}
    (printed : Report.printList (c.breaker.errors ++ [e]) = .ok text) :
    let d := (c.perform (.addError e)).1
    d.breaker.status = ⟨false, 0, true⟩ ∧ d.breaker.errors = [] ∧
      d.breaker.cycle = c.breaker.cycle ∧ ∃ emissions, c.Tells emissions d ∧
        Emission.Amount emissions 1 1 [.tripped c.breaker.cycle text] := by
  have tells := tells_perform ok.quiet (.addError e)
  rw [perform_of_quiet ok.quiet, Operation.effect, Breaker.addError_of_le active reached printed,
    ok.sound.fire_count active] at tells ⊢
  refine ⟨?_, rfl, rfl, _, tells, ⟨rfl, rfl, rfl⟩⟩
  have tripped : Breaker.isTripped
      (Breaker.endCycle { c.breaker.count e with
        sender := false, fired := c.breaker.cycle :: c.breaker.fired }) c.breaker.cycle = true := by
    rw [Breaker.isTripped_iff]
    exact List.mem_cons_self
  exact congrArg (Status.mk false 0) tripped

/-- Errors that stay below the limit are counted, and nothing is logged. -/
theorem summary_of_below (ok : c.Legible) (looked : c.events = #[])
    (active : c.breaker.active = true) (printable : e.Printable) {n : Nat}
    (below : c.breaker.current + n < c.settings.limit.toNat) :
    (Circuit.repeatOp (.addError e) n c).summary =
      { status := ⟨true, c.breaker.current + n, false⟩
        text := Breaker.text c.settings
          { active := true, errors := c.breaker.errors ++ List.replicate n e
            cycle := c.breaker.cycle }
        notices := [], errors := n, trips := 0 } := by
  have call : (Operation.addError e : Operation α).IsCall := printable
  have ok' := ok.repeatOp call n
  obtain ⟨active', errors, cycle, emissions, tells, amount⟩ := counts printable n ok active below
  have untripped :
      (Circuit.repeatOp (.addError e) n c).breaker.isTripped c.breaker.cycle = false := by
    rw [Bool.eq_false_iff, Ne, Breaker.isTripped_iff, ← cycle]
    exact ok'.sound.unfired active'
  rw [summary_of_tells ok.keeps looked tells amount, Breaker.status, active', cycle, untripped]
  simp [Breaker.text, Breaker.parts, Breaker.current, active', errors, cycle]

/-- The error that reaches the limit is the last one that is counted, and there is one warning. -/
theorem summary_of_reached (ok : c.Legible) (looked : c.events = #[])
    (active : c.breaker.active = true) (printable : e.Printable) {n : Nat}
    (reached : c.settings.limit.toNat ≤ c.breaker.current + n) {text : String}
    (printed : Report.printList (c.breaker.errors
      ++ List.replicate (c.settings.limit.toNat - c.breaker.current) e) = .ok text) :
    (Circuit.repeatOp (.addError e) n c).summary =
      { status := ⟨false, 0, true⟩
        text := Breaker.text c.settings { cycle := c.breaker.cycle }
        notices := [.tripped c.breaker.cycle text]
        errors := c.settings.limit.toNat - c.breaker.current, trips := 1 } := by
  have room := ok.below active
  -- The calls before the one that trips count, and the rest are ignored.
  obtain ⟨before, hbefore⟩ : ∃ before,
      c.settings.limit.toNat - c.breaker.current = before + 1 :=
    Nat.exists_eq_add_one.mpr (Nat.sub_pos_of_lt room)
  obtain ⟨rest, hrest⟩ : ∃ rest, n = before + (1 + rest) := ⟨n - (before + 1), by omega⟩
  have call : (Operation.addError e : Operation α).IsCall := printable
  have ok' := ok.repeatOp call before
  obtain ⟨active', errors, cycle, emissions, tells, amount⟩ :=
    counts printable before ok active (by omega)
  rw [hrest, repeatOp_add, repeatOp_add]
  generalize Circuit.repeatOp (.addError e) before c = d at *
  have current : d.breaker.current = c.breaker.current + before := by
    rw [Breaker.current, errors, List.length_append, List.length_replicate]
    rfl
  have printed' : Report.printList (d.breaker.errors ++ [e]) = .ok text := by
    rw [errors, List.append_assoc, ← List.replicate_succ', ← hbefore]
    exact printed
  obtain ⟨status, dropped, cycle', emissions', tells', amount'⟩ :=
    ok'.trips active' (by rw [tells.settings, current]; omega) printed'
  have inactive : (d.perform (.addError e)).1.breaker.active = false :=
    congrArg Status.active status
  have ok'' := (ok'.perform call).2
  rw [show Circuit.repeatOp (.addError e) 1 d = (d.perform (.addError e)).1 from rfl,
    repeatOp_of_ignored (ok''.ignores_addError inactive e), hbefore,
    summary_of_tells ok.keeps looked (tells.trans tells') (amount.append amount'), status]
  simp [Breaker.text, Breaker.parts, Breaker.current, inactive, dropped, cycle', cycle]

/-- Of all calls that deactivate an active breaker the first one does, and there is one line. -/
theorem summary_of_deactivate (ok : c.Legible) (looked : c.events = #[])
    (active : c.breaker.active = true) {n : Nat} (called : 1 ≤ n) :
    (Circuit.repeatOp .deactivate n c).summary =
      { status := ⟨false, 0, false⟩
        text := Breaker.text c.settings { cycle := c.breaker.cycle }
        notices := [.deactivated c.breaker.cycle], errors := 0, trips := 0 } := by
  obtain ⟨rest, rfl⟩ := Nat.exists_eq_add_of_le called
  have effect : c.breaker.deactivate =
      { breaker := c.breaker.endCycle
        emissions := [.gauge 0, .notice (.deactivated c.breaker.cycle)] } := if_pos active
  have tells := tells_perform ok.quiet (.deactivate : Operation α)
  have breaker : (c.perform .deactivate).1.breaker = c.breaker.endCycle := by
    rw [perform_of_quiet ok.quiet, Operation.effect, effect]
    rfl
  rw [Operation.effect, effect] at tells
  have untripped : c.breaker.endCycle.isTripped c.breaker.cycle = false := by
    rw [Bool.eq_false_iff, Ne, Breaker.isTripped_iff]
    exact ok.sound.unfired active
  have call : (Operation.deactivate : Operation α).IsCall := trivial
  have ignored := (ok.perform call).2.ignores_deactivate (by rw [breaker]; rfl)
  rw [repeatOp_add, show Circuit.repeatOp .deactivate 1 c = (c.perform .deactivate).1 from rfl,
    repeatOp_of_ignored ignored, summary_of_tells ok.keeps looked tells ⟨rfl, rfl, rfl⟩, breaker]
  show PhaseSummary.mk ⟨false, 0, c.breaker.endCycle.isTripped c.breaker.cycle⟩ _ _ _ _ = _
  rw [untripped]
  rfl

/-- Every call that activates a breaker begins a cycle. -/
theorem cycle_of_activate (ok : c.Legible) (n : Nat) :
    (Circuit.repeatOp .activate n c).breaker.cycle = c.breaker.cycle + n := by
  induction n generalizing c with
  | zero => rfl
  | succ n ih =>
      have call : (Operation.activate : Operation α).IsCall := trivial
      have ok' := (ok.perform call).2
      have cycle : (c.perform .activate).1.breaker.cycle = c.breaker.cycle + 1 := by
        rw [perform_of_quiet ok.quiet]
        rfl
      rw [Circuit.repeatOp, ih ok', cycle, Nat.add_assoc, Nat.add_comm 1 n]

end Legible

end Circuit

/-! ### Calls in a row are calls of threads -/

namespace Crowd

variable {op : Operation α}

/-- A thread can tell everything at once. -/
theorem steps_tell (front back : List Caller) (calls : Nat) (emissions : List Emission) :
    ∀ c : Circuit α, Relation.ReflTransGen (Step op)
      ⟨c, front ++ ⟨calls, emissions⟩ :: back⟩
      ⟨c.tell emissions, front ++ ⟨calls, []⟩ :: back⟩ := by
  induction emissions with
  | nil => intro c; rw [Circuit.tell_nil]
  | cons e emissions ih =>
      intro c
      rw [Circuit.tell_cons]
      exact .head (.tell c front back calls e emissions) (ih (c.emit e))

/-- A thread can make all of its calls at once. -/
theorem steps_calls (call : op.IsCall) (front back : List Caller) (n : Nat) :
    ∀ {c : Circuit α}, c.Legible → Relation.ReflTransGen (Step op)
      ⟨c, front ++ ⟨n, []⟩ :: back⟩ ⟨Circuit.repeatOp op n c, front ++ ⟨0, []⟩ :: back⟩ := by
  induction n with
  | zero => intro c _; rfl
  | succ n ih =>
      intro c ok
      obtain ⟨whole, ok'⟩ := ok.perform call
      refine .head (.call c front back n rfl whole) ((steps_tell front back n _ _).trans ?_)
      have rest := ih ok'
      rw [Circuit.perform_of_quiet ok.quiet] at rest
      rw [Circuit.repeatOp, Circuit.perform_of_quiet ok.quiet]
      exact rest

/-- Threads can make their calls one after the other. -/
theorem steps_threads (call : op.IsCall) (n threads : Nat) :
    ∀ {c : Circuit α} (front : List Caller), c.Legible → Relation.ReflTransGen (Step op)
      ⟨c, front ++ List.replicate threads ⟨n, []⟩⟩
      ⟨Circuit.repeatOp op (threads * n) c, front ++ List.replicate threads ⟨0, []⟩⟩ := by
  induction threads with
  | zero => intro c front _; rw [Nat.zero_mul]; rfl
  | succ threads ih =>
      intro c front ok
      have rest := ih (front ++ [⟨0, []⟩]) (ok.repeatOp call n)
      rw [List.append_assoc, List.append_assoc, ← Circuit.repeatOp_add] at rest
      rw [List.replicate_succ, List.replicate_succ, Nat.succ_mul, Nat.add_comm (threads * n)]
      exact (steps_calls call front _ n ok).trans rest

end Crowd

theorem Phase.races_in_a_row {phase : Phase α} {c : Circuit α} (ok : c.Legible)
    (call : phase.op.IsCall) :
    phase.Races c (Circuit.repeatOp phase.op (phase.threads * phase.times) c) := by
  refine ⟨List.replicate phase.threads ⟨0, []⟩, fun w hw => ?_, ?_⟩
  · rw [List.eq_of_mem_replicate hw]
    exact ⟨rfl, rfl⟩
  · exact Crowd.steps_threads call phase.times phase.threads [] ok

theorem Circuit.Legible.races (phases : List (Phase α))
    (calls : ∀ phase ∈ phases, phase.op.IsCall) :
    ∀ {c : Circuit α}, c.Legible → ∃ last, c.Races phases (c.runPhases phases) last := by
  induction phases with
  | nil => intro c _; exact ⟨c, .nil c⟩
  | cons phase phases ih =>
      intro c ok
      rw [List.forall_mem_cons] at calls
      obtain ⟨last, rest⟩ := ih calls.2 (ok.repeatOp calls.1 _).drained
      exact ⟨last, .cons (phase.races_in_a_row ok calls.1) rest⟩

/-! ### Circuits that threads leave -/

/-- Whatever the threads do next, the errors that count can still be written. -/
theorem Crowd.Step.legible {op : Operation α} {w w' : Crowd α} (step : Step op w w')
    (call : op.IsCall) (ok : w.circuit.Legible) : w'.circuit.Legible := by
  cases step with
  | call c front back calls h _ =>
      have ok' := (ok.perform call).2
      rw [Circuit.perform_of_quiet ok.quiet, h] at ok'
      exact ok'.congr rfl rfl rfl
  | tell c front back calls e pending =>
      rw [Circuit.emit_eq_record]
      exact ok.congr rfl rfl rfl
  | tick c callers time later => exact ok.congr rfl rfl rfl

theorem Crowd.legible_of_steps {op : Operation α} {w w' : Crowd α}
    (steps : Relation.ReflTransGen (Step op) w w') (call : op.IsCall) (ok : w.circuit.Legible) :
    w'.circuit.Legible := by
  induction steps with
  | refl => exact ok
  | tail _ step ih => exact step.legible call ih

theorem Phase.Races.legible {phase : Phase α} {c c' : Circuit α} (race : phase.Races c c')
    (call : phase.op.IsCall) (ok : c.Legible) : c'.Legible := by
  obtain ⟨callers, -, steps⟩ := race
  exact Crowd.legible_of_steps steps call ok

theorem Circuit.Races.legible {c last : Circuit α} {phases : List (Phase α)}
    {summaries : List PhaseSummary} (races : c.Races phases summaries last)
    (calls : ∀ phase ∈ phases, phase.op.IsCall) (ok : c.Legible) (looked : c.events = #[]) :
    last.Legible ∧ last.events = #[] := by
  induction races with
  | nil c => exact ⟨ok, looked⟩
  | cons race _ ih =>
      rw [List.forall_mem_cons] at calls
      exact ih calls.2 (race.legible calls.1 ok).drained rfl

/-! ### Phases of threads -/

/-- What a phase comes to that finds a circuit in a state and leaves it in another. -/
structure Phase.Comes (phase : Phase α) (entry exit : Circuit α) : Prop where
  /-- An inactive breaker ignores all errors. -/
  ignored : ∀ e, phase.op = .addError e → entry.breaker.active = false →
    exit.summary = entry.summary
  /-- Errors that stay below the limit are counted, and nothing is logged. -/
  counted : ∀ e, phase.op = .addError e → entry.breaker.active = true →
    entry.breaker.current + phase.threads * phase.times < entry.settings.limit.toNat →
      exit.summary =
        { status := ⟨true, entry.breaker.current + phase.threads * phase.times, false⟩
          text := Breaker.text entry.settings
            { active := true
              errors := entry.breaker.errors ++ List.replicate (phase.threads * phase.times) e
              cycle := entry.breaker.cycle }
          notices := [], errors := phase.threads * phase.times, trips := 0 }
  /-- Errors are counted up to the limit, and then there is one trip with one warning. -/
  tripped : ∀ e, phase.op = .addError e → entry.breaker.active = true →
    entry.settings.limit.toNat ≤ entry.breaker.current + phase.threads * phase.times →
      ∃ text, Report.printList (entry.breaker.errors
          ++ List.replicate (entry.settings.limit.toNat - entry.breaker.current) e) = .ok text ∧
        exit.summary =
          { status := ⟨false, 0, true⟩
            text := Breaker.text entry.settings { cycle := entry.breaker.cycle }
            notices := [.tripped entry.breaker.cycle text]
            errors := entry.settings.limit.toNat - entry.breaker.current, trips := 1 }
  /-- The cycle is ended once, with one line. -/
  deactivated : phase.op = .deactivate → entry.breaker.active = true →
    1 ≤ phase.threads * phase.times →
      exit.summary =
        { status := ⟨false, 0, false⟩
          text := Breaker.text entry.settings { cycle := entry.breaker.cycle }
          notices := [.deactivated entry.breaker.cycle], errors := 0, trips := 0 }
  /-- Every call begins a cycle. -/
  activated : phase.op = .activate →
    exit.breaker.cycle = entry.breaker.cycle + phase.threads * phase.times

/-- There is only one order for a single line. -/
theorem PhaseSummary.Alike.eq {p p' : PhaseSummary} (alike : p.Alike p')
    (few : p.notices.length ≤ 1) : p' = p := by
  obtain ⟨status, text, notices, errors, trips⟩ := alike
  have same : p'.notices = p.notices := by
    rcases Nat.le_one_iff_eq_zero_or_eq_one.mp few with zero | one
    · rw [List.length_eq_zero_iff] at zero
      rw [zero] at notices ⊢
      exact notices.eq_nil
    · obtain ⟨n, single⟩ := List.length_eq_one_iff.mp one
      rw [single] at notices ⊢
      exact notices.eq_singleton
  cases p
  cases p'
  rw [PhaseSummary.mk.injEq]
  exact ⟨status, text, same, errors, trips⟩

theorem Phase.Races.comes {phase : Phase α} {entry exit : Circuit α}
    (race : phase.Races entry exit) (call : phase.op.IsCall) (ok : entry.Legible)
    (looked : entry.events = #[]) : phase.Comes entry exit := by
  obtain ⟨mates, told⟩ := race.follows (.refl ok.quiet) (.refl _)
  have alike := mates.summary told
  refine ⟨fun e he inactive => ?_, fun e he active below => ?_, fun e he active reached => ?_,
    fun he active called => ?_, fun he => ?_⟩ <;> rw [he] at call alike mates
  · rw [Circuit.repeatOp_of_ignored (ok.ignores_addError inactive e)] at alike
    exact alike.eq (by simp [Circuit.summary, looked])
  · have comes := ok.summary_of_below looked active call below
    exact (alike.eq (by rw [comes]; exact Nat.zero_le 1)).trans comes
  · have printable : ∀ e' ∈ List.replicate (entry.settings.limit.toNat - entry.breaker.current) e,
        e'.Printable := fun e' he' => List.eq_of_mem_replicate he' ▸ call
    obtain ⟨text, printed⟩ := ok.exists_printed printable
    have comes := ok.summary_of_reached looked active call reached printed
    exact ⟨text, printed, (alike.eq (by rw [comes]; exact Nat.le_refl 1)).trans comes⟩
  · have comes := ok.summary_of_deactivate looked active called
    exact (alike.eq (by rw [comes]; exact Nat.le_refl 1)).trans comes
  · rw [mates.breaker.cycle_eq]
    exact ok.cycle_of_activate _

/-- **What phases show does not depend on how the calls of their threads are mixed.**

They show what they show if all calls are made one after the other, up to the order of the lines
for the log, and threads can always make them so.  Whatever phases have come before, the threads
can go through one more, and what it comes to can be told from the state that it finds. -/
theorem shows_as_in_a_row {hasRuntime : Bool} {settings : BreakerSettings} {c : Circuit α}
    (made : Circuit.create hasRuntime settings (.keeping [] []) = .ok c) (phases : List (Phase α))
    (calls : ∀ phase ∈ phases, phase.op.IsCall) :
    (∃ last, c.Races phases (c.runPhases phases) last) ∧
      ∀ summaries last, c.Races phases summaries last →
        List.Forall₂ PhaseSummary.Alike (c.runPhases phases) summaries ∧
          ∀ phase : Phase α, phase.op.IsCall →
            (∃ exit, phase.Races last exit) ∧
              ∀ exit, phase.Races last exit → phase.Comes last exit := by
  obtain ⟨rfl, valid, -⟩ := Circuit.of_create made
  have fresh : Circuit.Legible ({ settings, sink := .keeping [] [] } : Circuit α) :=
    ⟨.ofFresh rfl valid, rfl, by simp⟩
  refine ⟨fresh.races phases calls, fun summaries last races => ⟨?_, fun phase call => ?_⟩⟩
  · exact races.alike (.refl rfl) rfl rfl
  · obtain ⟨ok, looked⟩ := races.legible calls fresh rfl
    exact ⟨⟨_, phase.races_in_a_row ok call⟩, fun exit race => race.comes call ok looked⟩

/-- A window is opened, and then two threads report two errors each, one more than the limit. -/
theorem shows_as_in_a_row_of_two_threads :
    let settings : BreakerSettings := { limit := 3 }
    let c : Circuit Unit := { settings, sink := .keeping [] [] }
    let phases : List (Phase Unit) :=
      [⟨.activate, 1, 1⟩, ⟨.addError (.list [.text "timeout", .number 504]), 2, 2⟩]
    Circuit.create true settings (.keeping [] []) = .ok c ∧
      (∀ phase ∈ phases, phase.op.IsCall) ∧
      (∃ last, c.Races phases (c.runPhases phases) last) ∧
      ∀ summaries last, c.Races phases summaries last →
        List.Forall₂ PhaseSummary.Alike (c.runPhases phases) summaries ∧
          ∀ phase : Phase Unit, phase.op.IsCall →
            (∃ exit, phase.Races last exit) ∧
              ∀ exit, phase.Races last exit → phase.Comes last exit := by
  have made : Circuit.create true { limit := 3 } (.keeping [] [] : Sink Unit) = .ok _ := rfl
  have calls : ∀ phase ∈ ([⟨.activate, 1, 1⟩,
      ⟨.addError (.list [.text "timeout", .number 504]), 2, 2⟩] : List (Phase Unit)),
      phase.op.IsCall := by
    rw [List.forall_mem_cons, List.forall_mem_singleton]
    exact ⟨trivial, _, rfl⟩
  exact ⟨made, calls, shows_as_in_a_row made _ calls⟩

end Tripwire
