/-
Circuits whose sink has no reactions.

Only a reaction can put something on an agenda behind its beginning.  Without any, an
operation does to the circuit what its effect says and then tells the outside about it,
and that is all: `Circuit.perform_of_quiet`.  The same goes for a timer that runs out.

A circuit without reactions also stays as it should be while it is used.  `Circuit.Tame`
says that it has none, that its breaker is sound and that its limit is above zero, and is
kept by operations and by time.  A circuit whose breaker has no timers has nothing to wait
for at all, and all that a sleep does to it is that time passes.
-/
import Tripwire.Circuit.Phase
import Tripwire.Proofs.Patience

namespace Tripwire

/-- The emission is part of the news that the count has been cleared. -/
def Emission.isReset : Emission → Bool
  | .counter .resets | .gauge 0 | .notice (.cleared _) => true
  | _ => false

/-- The line for the log, if the emission is one. -/
def Emission.notice? : Emission → Option Notice
  | notice n => some n
  | _ => none

/-- The lines for the log among some emissions. -/
def lines (es : List Emission) : List Notice := es.filterMap Emission.notice?

section Lines

variable (es es' : List Emission)

@[simp] theorem lines_nil : lines [] = [] := rfl

@[simp] theorem lines_counter (k : Counter) : lines (.counter k :: es) = lines es := rfl

@[simp] theorem lines_gauge (count : Nat) : lines (.gauge count :: es) = lines es := rfl

@[simp] theorem lines_notice (n : Notice) : lines (.notice n :: es) = n :: lines es := rfl

theorem lines_append : lines (es ++ es') = lines es ++ lines es' := List.filterMap_append

end Lines

/-- The event is a line for a breaker's log. -/
def Event.isLine {α : Type} : Event α → Bool
  | .notice _ => true
  | .record r => r.target = "rate_breaker"
  | _ => false

/-- A timer that runs out has no other news. -/
theorem Breaker.isReset_of_expire {b : Breaker} {t : Timer} {e : Emission}
    (he : e ∈ (b.expire t).emissions) : e.isReset = true := by
  unfold Breaker.expire at he
  dsimp only at he
  split at he
  · simp only [List.mem_cons, List.not_mem_nil, or_false] at he
    rcases he with rfl | rfl | rfl <;> rfl
  · simp at he

namespace Circuit

variable {α : Type} {c : Circuit α}

/-! ### What the outside is told -/

/-- What an emission is to the outside. -/
def eventOf (c : Circuit α) : Emission → Event α
  | .counter k => .counter k
  | .gauge count => .gauge count
  | .notice n => c.sink.event c.settings n

theorem isCounter_eventOf (c : Circuit α) (k : Counter) (e : Emission) :
    Event.isCounter k (c.eventOf e) = decide (e = .counter k) := by
  cases e with
  | counter k' => simp [eventOf, Event.isCounter]
  | gauge count => rfl
  | notice n => cases hsink : c.sink <;> simp [eventOf, Sink.event, Event.isCounter, hsink]

/-- Nothing but the settings and the sink matters. -/
theorem eventOf_congr {c' : Circuit α} (settings : c'.settings = c.settings)
    (sink : c'.sink = c.sink) : c'.eventOf = c.eventOf := by
  funext e
  cases e <;> simp [eventOf, settings, sink]

theorem emit_eq_record (c : Circuit α) (e : Emission) : c.emit e = c.record (c.eventOf e) := by
  cases e <;> rfl

/-- The circuit once the outside has been told about some emissions. -/
def tell (c : Circuit α) (emissions : List Emission) : Circuit α :=
  { c with events := c.events ++ (emissions.map c.eventOf).toArray }

section Tell

variable (c : Circuit α) (emissions : List Emission)

@[simp] theorem events_tell :
    (c.tell emissions).events.toList = c.events.toList ++ emissions.map c.eventOf := by
  simp [tell]

@[simp] theorem tell_nil : c.tell [] = c := by
  simp [tell]

theorem tell_cons (e : Emission) : c.tell (e :: emissions) = (c.emit e).tell emissions := by
  cases e <;> simp [tell, emit, record, eventOf] <;> rfl

end Tell

/-- The circuit once an effect has taken place and the outside has been told about it. -/
def undergo (c : Circuit α) (effect : Effect) : Circuit α :=
  { c with breaker := effect.breaker }.tell effect.emissions

section Undergo

variable (c : Circuit α) (effect : Effect)

@[simp] theorem breaker_undergo : (c.undergo effect).breaker = effect.breaker := rfl

@[simp] theorem settings_undergo : (c.undergo effect).settings = c.settings := rfl

@[simp] theorem events_undergo : (c.undergo effect).events.toList
    = c.events.toList ++ effect.emissions.map c.eventOf := by
  rw [undergo, events_tell]
  rfl

end Undergo

/-! ### Operations and timers without reactions -/

theorem react?_of_quiet (quiet : c.sink.queued = 0) (e : Emission) : c.react? e = none := by
  cases e with
  | notice n =>
      rw [react?, Option.map_eq_none_iff]
      cases hr : c.sink.react? n with
      | none => rfl
      | some reaction =>
          have := Sink.queued_of_react? hr
          omega
  | counter k => rfl
  | gauge count => rfl

/-- Without reactions an agenda is told to its end, and then comes the fault. -/
theorem settle_agenda_of_quiet (quiet : c.sink.queued = 0) (effect : Effect) :
    c.settle effect.agenda = .done (c.tell effect.emissions) effect.fault := by
  obtain ⟨breaker, emissions, fault⟩ := effect
  show c.settle (emissions.map .deliver ++ fault.toList.map .fail) = .done (c.tell emissions) fault
  induction emissions generalizing c with
  | nil => cases fault <;> simp [settle]
  | cons e emissions ih =>
      have quiet' : (c.emit e).sink.queued = 0 := (congrArg _ (sink_emit c e)).trans quiet
      rw [List.map_cons, List.cons_append, settle, react?_of_quiet quiet', tell_cons]
      exact ih quiet'

theorem finish_agenda_of_quiet (quiet : c.sink.queued = 0) (effect : Effect) :
    c.finish effect.agenda = (c.tell effect.emissions, effect.fault) := by
  rw [finish, quiet, run, settle_agenda_of_quiet quiet]

/-- Without reactions an operation is its effect. -/
theorem perform_of_quiet (quiet : c.sink.queued = 0) (op : Operation α) :
    (c.perform op).1 = c.undergo (op.effect c.settings c.now c.breaker) := by
  rw [perform_fst]
  exact congrArg Prod.fst (finish_agenda_of_quiet (c := (c.begin op).1) quiet _)

/-- Without reactions a timer that runs out does what it does and nothing else. -/
theorem expire_of_quiet (quiet : c.sink.queued = 0) (t : Timer) :
    c.expire t = c.undergo (c.breaker.expire t) :=
  congrArg Prod.fst
    (finish_agenda_of_quiet (c := { c with breaker := (c.breaker.expire t).breaker }) quiet _)

theorem ring_of_quiet (quiet : c.sink.queued = 0) (t : Timer) :
    c.ring t = (c.reach t.alarm.due).undergo (c.breaker.expire t) :=
  expire_of_quiet (c := c.reach t.alarm.due) quiet t

/-! ### What is told as time goes on -/

/-- From one circuit to another the outside has been told about some emissions. -/
structure Tells (c : Circuit α) (emissions : List Emission) (c' : Circuit α) : Prop where
  settings : c'.settings = c.settings
  sink : c'.sink = c.sink
  events : c'.events.toList = c.events.toList ++ emissions.map c.eventOf

namespace Tells

variable {c' c'' : Circuit α} {emissions emissions' : List Emission}

theorem nil (settings : c'.settings = c.settings) (sink : c'.sink = c.sink)
    (events : c'.events = c.events) : Tells c [] c' :=
  ⟨settings, sink, by simp [events]⟩

theorem trans (first : Tells c emissions c') (second : Tells c' emissions' c'') :
    Tells c (emissions ++ emissions') c'' where
  settings := second.settings.trans first.settings
  sink := second.sink.trans first.sink
  events := by
    rw [second.events, first.events, eventOf_congr first.settings first.sink, List.map_append,
      List.append_assoc]

theorem undergo (c : Circuit α) (effect : Effect) :
    Tells c effect.emissions (c.undergo effect) :=
  ⟨rfl, rfl, events_undergo c effect⟩

end Tells

theorem tells_perform (quiet : c.sink.queued = 0) (op : Operation α) :
    Tells c (op.effect c.settings c.now c.breaker).emissions (c.perform op).1 := by
  rw [perform_of_quiet quiet]
  exact .undergo c _

theorem tells_expire (quiet : c.sink.queued = 0) (t : Timer) :
    Tells c (c.breaker.expire t).emissions (c.expire t) := by
  rw [expire_of_quiet quiet]
  exact .undergo c _

theorem tells_reach (c : Circuit α) (time : Nat) : Tells c [] (c.reach time) := .nil rfl rfl rfl

theorem tells_ring (quiet : c.sink.queued = 0) (t : Timer) :
    Tells c (c.breaker.expire t).emissions (c.ring t) :=
  (tells_reach c t.alarm.due).trans (tells_expire (c := c.reach t.alarm.due) quiet t)

/-- While nobody acts, all that the outside is told is that the count has been cleared. -/
theorem tells_passTo (time fuel : Nat) : ∀ c : Circuit α, c.sink.queued = 0 →
    ∃ emissions, (∀ e ∈ emissions, e.isReset = true) ∧ Tells c emissions (passTo time fuel c) := by
  induction fuel with
  | zero => intro c _; exact ⟨[], by simp, .nil rfl rfl rfl⟩
  | succ fuel ih =>
      intro c quiet
      rw [passTo]
      cases hd : c.dueBy? time with
      | some t =>
          have first := tells_ring quiet t
          have quiet' : (c.ring t).sink.queued = 0 := first.sink ▸ quiet
          obtain ⟨emissions, resets, rest⟩ := ih (c.ring t) quiet'
          refine ⟨_, ?_, first.trans rest⟩
          intro e he
          rcases List.mem_append.mp he with he | he
          · exact Breaker.isReset_of_expire he
          · exact resets e he
      | none => exact ⟨[], by simp, tells_reach c time⟩

theorem tells_pass (quiet : c.sink.queued = 0) (ms : Nat) :
    ∃ emissions, (∀ e ∈ emissions, e.isReset = true) ∧ Tells c emissions (c.pass ms) :=
  tells_passTo _ _ c quiet

/-! ### Circuits that stay as they should be -/

/-- The sink has no reactions, the limit is above zero, and the breaker is sound. -/
structure Tame (c : Circuit α) : Prop where
  quiet : c.sink.queued = 0
  valid : 0 < c.settings.limit.toNat
  sound : Breaker.Sound c.settings c.breaker

namespace Tame

theorem ofFresh {settings : BreakerSettings} {sink : Sink α} (quiet : sink.queued = 0)
    (valid : 0 < settings.limit.toNat) : Tame { settings, sink } :=
  ⟨quiet, valid, .fresh⟩

/-- Nothing but the sink, the settings and the breaker matters. -/
theorem congr {c' : Circuit α} (tame : c.Tame) (sink : c'.sink = c.sink)
    (settings : c'.settings = c.settings) (breaker : c'.breaker = c.breaker) : c'.Tame where
  quiet := sink ▸ tame.quiet
  valid := settings ▸ tame.valid
  sound := settings ▸ breaker ▸ tame.sound

theorem perform (tame : c.Tame) (op : Operation α) : (c.perform op).1.Tame := by
  rw [perform_of_quiet tame.quiet]
  refine ⟨tame.quiet, tame.valid, ?_⟩
  rw [breaker_undergo, settings_undergo, Operation.breaker_effect]
  cases hm : op.move? with
  | none => exact tame.sound
  | some move =>
      obtain ⟨possible, held⟩ := Operation.possible_of_move? c.breaker hm
      exact tame.sound.effect tame.valid c.now possible held

theorem expire (tame : c.Tame) {t : Timer} (ht : t ∈ c.breaker.timers) : (c.expire t).Tame := by
  rw [expire_of_quiet tame.quiet]
  exact ⟨tame.quiet, tame.valid, tame.sound.expire tame.valid ht⟩

theorem reach (tame : c.Tame) (time : Nat) : (c.reach time).Tame := tame.congr rfl rfl rfl

theorem ring (tame : c.Tame) {t : Timer} (ht : t ∈ c.breaker.timers) : (c.ring t).Tame :=
  (tame.reach t.alarm.due).expire ht

theorem passTo (time fuel : Nat) : ∀ c : Circuit α, c.Tame → (passTo time fuel c).Tame := by
  induction fuel with
  | zero => intro c tame; exact tame
  | succ fuel ih =>
      intro c tame
      rw [Circuit.passTo]
      cases hd : c.dueBy? time with
      | some t => exact ih _ (tame.ring (mem_of_next? (dueBy?_eq_some.mp hd).1))
      | none => exact tame.reach time

theorem pass (tame : c.Tame) (ms : Nat) : (c.pass ms).Tame := passTo _ _ c tame

end Tame

/-! ### Circuits that have nothing to wait for -/

/-- Where no timer runs time passes, and nothing else happens. -/
theorem pass_of_timers_nil (h : c.breaker.timers = []) (ms : Nat) :
    c.pass ms = { c with now := c.now + min ms Alarm.farthest } := by
  rw [pass, patience, passTo, dueBy?_of_timers_nil h]
  exact congrArg (fun now => { c with now }) (Nat.max_eq_right (Nat.le_add_right _ _))

end Circuit

end Tripwire
