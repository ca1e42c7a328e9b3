/-
The journal of a run records the run.

`Session.records_after` says that the journal has it all.  Without what was told it is
the history, without the deeds it is what the snapshots show, and it is a chronicle that
leads from the breaker at the beginning to the one at the end.

The work on an agenda is where this has to be shown.  In the middle of a run an agenda
begins with what the last effect has to tell, and behind that there is what the effects
before it have still to tell (`Late`).  `Circuit.chronicle_run` is the induction over
the reactions: what an effect tells at once is entered at once, and the rest is a
chronicle, with what was late on the agenda in it or dropped.
-/
import Tripwire.Proofs.Journal

namespace Tripwire

variable {α : Type}

/-! ### The journal of an agenda -/

namespace Circuit

/-- How a circuit that only tells the outside shows its lines stays as it is. -/
theorem eventOf_of_react? {c c' : Circuit α} {e : Emission} {op : Operation α}
    (h : c.react? e = some (op, c')) : c'.eventOf = c.eventOf := by
  cases e with
  | notice n =>
      simp only [react?, Option.map_eq_some_iff] at h
      obtain ⟨⟨op', sink⟩, hsink, heq⟩ := h
      cases heq
      -- Lines that are kept are kept still, with a reaction less.
      funext e
      cases hkind : c.sink with
      | logging => rw [hkind] at hsink; simp [Sink.react?] at hsink
      | keeping onWarning onOther =>
          rw [hkind] at hsink
          cases hn : n.isWarning <;> cases onWarning <;> cases onOther <;>
            simp [Sink.react?, hn] at hsink <;> obtain ⟨-, rfl⟩ := hsink <;>
            cases e <;> simp [eventOf, Sink.event, hkind]
  | counter k => simp [react?] at h
  | gauge count => simp [react?] at h

theorem events_of_react? {c c' : Circuit α} {e : Emission} {op : Operation α}
    (h : c.react? e = some (op, c')) : c'.events = c.events := by
  cases e with
  | notice n =>
      simp only [react?, Option.map_eq_some_iff] at h
      obtain ⟨⟨op', sink⟩, -, heq⟩ := h
      cases heq
      rfl
  | counter k => simp [react?] at h
  | gauge count => simp [react?] at h

/-- From one circuit to another there is to see what the journal says. -/
structure Shows (c : Circuit α) (j : List (Happening α)) (c' : Circuit α) : Prop where
  /-- Lines are shown as before. -/
  voice : c'.eventOf = c.eventOf
  events : c'.events.toList = c.events.toList ++ Journal.events c.eventOf j

namespace Shows

variable {c c' c'' : Circuit α} {j j' : List (Happening α)}

/-- Where nothing is seen the journal has nothing to show. -/
theorem idle (voice : c'.eventOf = c.eventOf) (events : c'.events = c.events)
    (silent : Journal.events c.eventOf j = []) : Shows c j c' :=
  ⟨voice, by rw [silent, events, List.append_nil]⟩

theorem trans (first : Shows c j c') (second : Shows c' j' c'') : Shows c (j ++ j') c'' where
  voice := second.voice.trans first.voice
  events := by
    rw [second.events, first.events, first.voice, Journal.events_append, List.append_assoc]

theorem emit (c : Circuit α) (b : Breaker) (e : Emission) : Shows c [.told b e] (c.emit e) where
  voice := eventOf_congr (by cases e <;> rfl) (sink_emit c e)
  events := by simp [emit_eq_record, record]

theorem answer (c : Circuit α) (op : Operation α) (a : Answer α) :
    Shows c [.answered op a] (c.record (.reaction op a)) where
  voice := rfl
  events := by simp [record]

end Shows

theorem shows_settle (c : Circuit α) (tasks : List (Task α)) :
    Shows c (c.settleJournal tasks) (c.settle tasks).circuit := by
  induction tasks generalizing c with
  | nil => exact .idle rfl rfl rfl
  | cons task tasks ih =>
      cases task with
      | fail fault => exact .idle rfl rfl rfl
      | conclude op a => exact (Shows.answer c op a).trans (ih _)
      | deliver e =>
          have told := Shows.emit c c.breaker e
          rw [settle, settleJournal]
          cases hr : (c.emit e).react? e with
          | none => exact told.trans (ih _)
          | some reaction =>
              have rest : Shows (c.emit e) [] reaction.2 :=
                .idle (eventOf_of_react? hr) (events_of_react? hr) rfl
              exact told.trans rest

theorem shows_begin (c : Circuit α) (op : Operation α) :
    Shows c ((c.ownDeeds op).map .did) (c.begin op).1 :=
  .idle rfl rfl (by simp)

theorem shows_run (fuel : Nat) : ∀ (c : Circuit α) (tasks : List (Task α)),
    Shows c (runJournal fuel c tasks) (run fuel c tasks).1 := by
  induction fuel with
  | zero =>
      intro c tasks
      have halt := shows_settle c tasks
      rw [run, runJournal]
      cases hs : c.settle tasks with
      | done last fault => rw [hs] at halt; simpa [Halt.circuit] using halt
      | reaction op next rest => rw [hs] at halt; simpa [Halt.circuit] using halt
  | succ fuel ih =>
      intro c tasks
      have halt := shows_settle c tasks
      rw [run, runJournal]
      cases hs : c.settle tasks with
      | done last fault => rw [hs] at halt; simpa [Halt.circuit] using halt
      | reaction op next rest =>
          rw [hs] at halt
          exact halt.trans ((shows_begin next op).trans (ih _ _))

theorem deeds_settleJournal (c : Circuit α) (tasks : List (Task α)) :
    Journal.deeds (c.settleJournal tasks) = [] := by
  induction tasks generalizing c with
  | nil => rfl
  | cons task tasks ih =>
      cases task with
      | fail fault => rfl
      | conclude op a => exact ih (c.record (.reaction op a))
      | deliver e =>
          rw [settleJournal, Journal.deeds_told]
          split
          · exact ih _
          · rfl

theorem deeds_runJournal (fuel : Nat) : ∀ (c : Circuit α) (tasks : List (Task α)),
    Journal.deeds (runJournal fuel c tasks) = runDeeds fuel c tasks := by
  induction fuel with
  | zero =>
      intro c tasks
      rw [runJournal, runDeeds, Journal.deeds_append, deeds_settleJournal]
      cases c.settle tasks <;> rfl
  | succ fuel ih =>
      intro c tasks
      rw [runJournal, runDeeds, Journal.deeds_append, deeds_settleJournal]
      cases c.settle tasks with
      | done last fault => rfl
      | reaction op next rest =>
          simp only [List.nil_append, Journal.deeds_append, Journal.deeds_map_did, ih]

/-! ### Agendas in the middle of a run

An agenda begins with what an effect has to tell.  Behind that there is what earlier
effects have still to tell, and it is late.
-/

end Circuit

/-- All that is left to tell on the agenda is that a cycle has started. -/
def Late (tasks : List (Task α)) : Prop := ∀ e, .deliver e ∈ tasks → e.IsStart

theorem late_cons {task : Task α} {tasks : List (Task α)} (late : Late (task :: tasks)) :
    Late tasks :=
  fun e he => late e (List.mem_cons_of_mem _ he)

theorem Late.conclude {tasks : List (Task α)} (late : Late tasks) (op : Operation α)
    (a : Answer α) : Late (.conclude op a :: tasks) := by
  intro e he
  exact late e (by simpa using he)

theorem Operation.isStart_of_belatedly (s : BreakerSettings) (now : Nat) (b : Breaker)
    (op : Operation α) : ∀ e ∈ belatedly (op.effect s now b).emissions, e.IsStart := by
  cases hm : op.move? with
  | none =>
      rw [(effect_of_idle s now b hm).2]
      simp [belatedly]
  | some move =>
      rw [effect_of_move? s now b hm]
      exact move.isStart_of_belatedly s now b

namespace Circuit

variable {s : BreakerSettings}

/-- What is told late is a line about a start, one after the other. -/
theorem chronicle_settle_of_late (c : Circuit α) {tasks : List (Task α)} (late : Late tasks) :
    Chronicle s c.breaker (c.settleJournal tasks) c.breaker ∧
      ∀ op next rest, c.settle tasks = .reaction op next rest → Late rest := by
  induction tasks generalizing c with
  | nil => exact ⟨.nil, by simp [settle]⟩
  | cons task tasks ih =>
      cases task with
      | fail fault => exact ⟨.nil, by simp [settle]⟩
      | conclude op a =>
          obtain ⟨rest, halts⟩ := ih (c.record (.reaction op a)) (late_cons late)
          exact ⟨(Chronicle.answer op a .nil).trans rest (.inl held_nil), halts⟩
      | deliver e =>
          obtain ⟨k, rfl⟩ := late e (by simp)
          have told : Chronicle s c.breaker
              ([.told c.breaker (.notice (.started k))] : List (Happening α)) c.breaker :=
            .late k .nil
          rw [settle, settleJournal]
          cases hr : (c.emit (.notice (.started k))).react? (.notice (.started k)) with
          | none =>
              obtain ⟨rest, halts⟩ := ih (c.emit (.notice (.started k))) (late_cons late)
              exact ⟨told.trans rest (.inl held_nil), halts⟩
          | some reaction =>
              refine ⟨told, fun op next rest heq => ?_⟩
              cases heq
              exact late_cons late

/-- An agenda is told up to its first line, and what comes then is late. -/
theorem chronicle_settle (c : Circuit α) (es : List Emission) {tasks : List (Task α)}
    (late : Late ((belatedly es).map .deliver ++ tasks)) :
    (∃ j, c.settleJournal (es.map .deliver ++ tasks)
        = (promptly es).map (.told c.breaker) ++ j ∧ Chronicle s c.breaker j c.breaker) ∧
      ∀ op next rest, c.settle (es.map .deliver ++ tasks) = .reaction op next rest →
        Late rest := by
  induction es generalizing c with
  | nil =>
      obtain ⟨chronicle, halts⟩ := chronicle_settle_of_late c late
      exact ⟨⟨_, rfl, chronicle⟩, halts⟩
  | cons e es ih =>
      rw [List.map_cons, List.cons_append, settle, settleJournal]
      cases e with
      | counter k =>
          obtain ⟨⟨j, heq, chronicle⟩, halts⟩ := ih (c.emit (.counter k)) late
          exact ⟨⟨j, congrArg _ heq, chronicle⟩, halts⟩
      | gauge count =>
          obtain ⟨⟨j, heq, chronicle⟩, halts⟩ := ih (c.emit (.gauge count)) late
          exact ⟨⟨j, congrArg _ heq, chronicle⟩, halts⟩
      | notice n =>
          cases hr : (c.emit (.notice n)).react? (.notice n) with
          | none =>
              obtain ⟨chronicle, halts⟩ := chronicle_settle_of_late (c.emit (.notice n)) late
              exact ⟨⟨_, rfl, chronicle⟩, halts⟩
          | some reaction =>
              refine ⟨⟨[], rfl, .nil⟩, fun op next rest heq => ?_⟩
              cases heq
              exact late

/-- The agenda of an effect is told up to its first line, and what comes then is late. -/
theorem chronicle_settle_agenda (c : Circuit α) {effect : Effect} {tasks : List (Task α)}
    (starts : ∀ e ∈ belatedly effect.emissions, e.IsStart) (late : Late tasks) :
    (∃ j, c.settleJournal (effect.agenda ++ tasks)
        = (promptly effect.emissions).map (.told c.breaker) ++ j ∧
          Chronicle s c.breaker j c.breaker) ∧
      ∀ op next rest, c.settle (effect.agenda ++ tasks) = .reaction op next rest → Late rest := by
  rw [Effect.agenda, List.append_assoc]
  refine chronicle_settle c effect.emissions fun e he => ?_
  simp only [List.mem_append, List.mem_map, Task.deliver.injEq, exists_eq_right] at he
  rcases he with he | ⟨fault, -, hfault⟩ | he
  · exact starts e he
  · exact absurd hfault (by simp)
  · exact late e he

/-- What an operation enters at once: its deed and the news of that, if it makes a move. -/
def opening (c : Circuit α) (op : Operation α) : List (Happening α) :=
  let effect := op.effect c.settings c.now c.breaker
  (c.ownDeeds op).map .did ++ (promptly effect.emissions).map (.told effect.breaker)

theorem held_opening (c : Circuit α) (op : Operation α) : Held (Journal.deeds (c.opening op)) := by
  rw [opening, Journal.deeds_append, Journal.deeds_map_did, Journal.deeds_map_told,
    List.append_nil]
  exact (goes_begin c op).held

theorem chronicle_opening (c : Circuit α) (op : Operation α) :
    Chronicle c.settings c.breaker (c.opening op) (c.begin op).1.breaker := by
  show Chronicle _ _ _ (op.effect c.settings c.now c.breaker).breaker
  rw [opening, ownDeeds]
  cases hm : op.move? with
  | none =>
      obtain ⟨hbreaker, hemissions⟩ := Operation.effect_of_idle c.settings c.now c.breaker hm
      rw [hbreaker, hemissions]
      exact .nil
  | some move =>
      rw [Operation.effect_of_move? c.settings c.now c.breaker hm]
      exact .single c.now move (Operation.possible_of_move? _ hm).1

/-- Work on the agenda of an effect is a chronicle, but for what is told at once. -/
theorem chronicle_run (fuel : Nat) : ∀ (c : Circuit α) (effect : Effect) (tasks : List (Task α)),
    (∀ e ∈ belatedly effect.emissions, e.IsStart) → Late tasks →
      ∃ j, runJournal fuel c (effect.agenda ++ tasks)
          = (promptly effect.emissions).map (.told c.breaker) ++ j ∧
        Chronicle c.settings c.breaker j (run fuel c (effect.agenda ++ tasks)).1.breaker := by
  induction fuel with
  | zero =>
      intro c effect tasks starts late
      have alike := alike_settle c (effect.agenda ++ tasks)
      obtain ⟨⟨j, heq, chronicle⟩, -⟩ := chronicle_settle_agenda c starts late
      refine ⟨j, ?_, ?_⟩
      · rw [runJournal, heq]
        cases c.settle (effect.agenda ++ tasks) <;> exact List.append_nil _
      · have still : (run 0 c (effect.agenda ++ tasks)).1.breaker = c.breaker := by
          rw [run, ← alike.2.1]
          cases c.settle (effect.agenda ++ tasks) <;> rfl
        rwa [still]
  | succ fuel ih =>
      intro c effect tasks starts late
      have alike := alike_settle c (effect.agenda ++ tasks)
      obtain ⟨⟨j, heq, chronicle⟩, halts⟩ := chronicle_settle_agenda c starts late
      rw [run, runJournal, heq]
      cases hs : c.settle (effect.agenda ++ tasks) with
      | done last fault =>
          rw [hs] at alike
          have hbreaker : last.breaker = c.breaker := alike.2.1
          refine ⟨j, List.append_nil _, ?_⟩
          rwa [hbreaker]
      | reaction op next rest =>
          rw [hs] at alike
          have hsettings : next.settings = c.settings := alike.1
          have hbreaker : next.breaker = c.breaker := alike.2.1
          have silent := deeds_settleJournal c (effect.agenda ++ tasks)
          rw [heq, Journal.deeds_append, Journal.deeds_map_told, List.nil_append] at silent
          rw [← hsettings, ← hbreaker] at chronicle ⊢
          obtain ⟨j', heq', chronicle'⟩ := ih (next.begin op).1
            (op.effect next.settings next.now next.breaker)
            (.conclude op (op.answer next.settings next.breaker) :: rest)
            (op.isStart_of_belatedly _ _ _) ((halts op next rest hs).conclude op _)
          refine ⟨j ++ (next.opening op ++ j'), ?_, chronicle.trans
            ((chronicle_opening next op).trans chronicle' (.inl (held_opening next op)))
            (.inl (silent ▸ held_nil))⟩
          rw [opening, List.append_assoc, List.append_assoc]
          exact congrArg _ (congrArg _ (congrArg _ heq'))

/-! ### Without reactions -/

section Quiet

variable {c : Circuit α} (quiet : c.sink.queued = 0)

include quiet

theorem told_settleJournal_of_quiet (effect : Effect) :
    Journal.told (c.settleJournal effect.agenda) = effect.emissions := by
  obtain ⟨breaker, emissions, fault⟩ := effect
  show Journal.told (c.settleJournal (emissions.map .deliver ++ fault.toList.map .fail)) = emissions
  induction emissions generalizing c with
  | nil => cases fault <;> rfl
  | cons e emissions ih =>
      have quiet' : (c.emit e).sink.queued = 0 := (congrArg _ (sink_emit c e)).trans quiet
      rw [List.map_cons, List.cons_append, settleJournal, react?_of_quiet quiet',
        Journal.told_told]
      exact congrArg _ (ih quiet')

theorem told_finishJournal_of_quiet (effect : Effect) :
    Journal.told (c.finishJournal effect.agenda) = effect.emissions := by
  rw [finishJournal, quiet, runJournal, settle_agenda_of_quiet quiet, List.append_nil]
  exact told_settleJournal_of_quiet quiet effect

theorem finishDeeds_of_quiet (effect : Effect) : c.finishDeeds effect.agenda = [] := by
  rw [finishDeeds, quiet, runDeeds, settle_agenda_of_quiet quiet]

/-- Without reactions an operation tells what its own deed has to tell. -/
theorem told_performJournal_of_quiet (op : Operation α) :
    Journal.told (c.performJournal op) = tidings c.settings (c.performDeeds op) := by
  have told : Journal.told (c.performJournal op)
      = (op.effect c.settings c.now c.breaker).emissions := by
    rw [performJournal, Journal.told_append, Journal.told_map_did, List.nil_append]
    exact told_finishJournal_of_quiet (c := (c.begin op).1) quiet _
  have own : c.performDeeds op = c.ownDeeds op :=
    (congrArg (c.ownDeeds op ++ ·) (finishDeeds_of_quiet (c := (c.begin op).1) quiet _)).trans
      (List.append_nil _)
  rw [told, own, ownDeeds]
  cases hm : op.move? with
  | none => exact (Operation.effect_of_idle c.settings c.now c.breaker hm).2
  | some move =>
      rw [Operation.effect_of_move? c.settings c.now c.breaker hm]
      exact (tidings_singleton c.settings ⟨c.now, c.breaker, move⟩).symm

/-- Without reactions a timer that runs out tells what its own deed has to tell. -/
theorem told_expireJournal_of_quiet (t : Timer) :
    Journal.told (c.expireJournal t) = tidings c.settings (c.expireDeeds t) := by
  have told := told_finishJournal_of_quiet
    (c := { c with breaker := (c.breaker.expire t).breaker }) quiet (c.breaker.expire t)
  have own := finishDeeds_of_quiet
    (c := { c with breaker := (c.breaker.expire t).breaker }) quiet (c.breaker.expire t)
  rw [expireJournal, expireDeeds, own, Journal.told_did, told]
  exact (tidings_singleton c.settings ⟨c.now, c.breaker, .expire t⟩).symm

end Quiet

/-! ### The journal of a circuit -/

/-- The journal records how one circuit becomes another. -/
structure Records (c : Circuit α) (h : List Deed) (j : List (Happening α)) (c' : Circuit α) :
    Prop where
  deeds : Journal.deeds j = h
  /-- Nobody lets go of the breaker. -/
  held : Held h
  settings : c'.settings = c.settings
  shows : Shows c j c'
  chronicle : Chronicle c.settings c.breaker j c'.breaker
  /-- Without reactions it stays like that, and all that the deeds have to tell is told. -/
  quiet : c.sink.queued = 0 → c'.sink = c.sink ∧ Journal.told j = tidings c.settings h

namespace Records

variable {c c' c'' : Circuit α} {h h' : List Deed} {j j' : List (Happening α)}

theorem refl (c : Circuit α) : Records c [] [] c :=
  ⟨rfl, held_nil, rfl, .idle rfl rfl rfl, .nil, fun _ => ⟨rfl, rfl⟩⟩

theorem trans (first : Records c h j c') (second : Records c' h' j' c'') :
    Records c (h ++ h') (j ++ j') c'' where
  deeds := by rw [Journal.deeds_append, first.deeds, second.deeds]
  held := held_append.mpr ⟨first.held, second.held⟩
  settings := second.settings.trans first.settings
  shows := first.shows.trans second.shows
  chronicle := first.chronicle.trans (first.settings ▸ second.chronicle)
    (.inl (first.deeds ▸ first.held))
  quiet := by
    intro quiet
    obtain ⟨hsink, htold⟩ := first.quiet quiet
    obtain ⟨hsink', htold'⟩ := second.quiet (hsink ▸ quiet)
    refine ⟨hsink'.trans hsink, ?_⟩
    rw [Journal.told_append, htold, htold', first.settings, tidings_append]

end Records

theorem records_perform (c : Circuit α) (op : Operation α) :
    Records c (c.performDeeds op) (c.performJournal op) (c.perform op).1 := by
  have goes := goes_perform c op
  obtain ⟨j, heq, chronicle⟩ := chronicle_run (c.begin op).1.sink.queued (c.begin op).1
    (op.effect c.settings c.now c.breaker) [] (op.isStart_of_belatedly _ _ _) (by simp [Late])
  rw [List.append_nil] at heq chronicle
  refine ⟨?_, goes.held, goes.settings, ?_, ?_, fun quiet =>
    ⟨(tells_perform quiet op).sink, told_performJournal_of_quiet quiet op⟩⟩
  · exact (Journal.deeds_append _ _).trans
      (congr (congrArg _ (Journal.deeds_map_did _)) (deeds_runJournal _ _ _))
  · rw [perform_fst]
    exact (shows_begin c op).trans (shows_run _ _ _)
  · have entered : c.performJournal op = c.opening op ++ j := by
      rw [opening, List.append_assoc]
      exact congrArg _ heq
    rw [perform_fst, entered]
    exact (chronicle_opening c op).trans chronicle (.inl (held_opening c op))

theorem records_expire (c : Circuit α) {t : Timer} (ht : t ∈ c.breaker.timers) :
    Records c (c.expireDeeds t) (c.expireJournal t) (c.expire t) := by
  have goes := goes_expire c ht
  obtain ⟨j, heq, chronicle⟩ := chronicle_run c.sink.queued
    { c with breaker := (c.breaker.expire t).breaker } (c.breaker.expire t) []
    (Move.isStart_of_belatedly c.settings c.now c.breaker (.expire t)) (by simp [Late])
  rw [List.append_nil] at heq chronicle
  refine ⟨?_, goes.held, goes.settings, ?_, ?_, fun quiet =>
    ⟨(tells_expire quiet t).sink, told_expireJournal_of_quiet quiet t⟩⟩
  · exact congrArg _ (deeds_runJournal _ _ _)
  · have silent : Shows c [.did ⟨c.now, c.breaker, .expire t⟩]
        { c with breaker := (c.breaker.expire t).breaker } := .idle rfl rfl rfl
    exact silent.trans (shows_run _ _ _)
  · have entered : c.expireJournal t
        = .did ⟨c.now, c.breaker, .expire t⟩ ::
          Deed.news c.settings ⟨c.now, c.breaker, .expire t⟩ ++ j := congrArg _ heq
    rw [entered]
    refine (Chronicle.single c.now (.expire t) ht).trans chronicle (.inl ?_)
    rw [Journal.deeds_did, Journal.deeds_news]
    exact held_singleton.mpr (by simp)

theorem records_reach (c : Circuit α) (time : Nat) : Records c [] [] (c.reach time) where
  deeds := rfl
  held := held_nil
  settings := rfl
  shows := .idle rfl rfl rfl
  chronicle := .nil
  quiet := fun _ => ⟨rfl, rfl⟩

theorem records_ring (c : Circuit α) {t : Timer} (ht : t ∈ c.breaker.timers) :
    Records c (c.ringDeeds t) (c.ringJournal t) (c.ring t) :=
  (records_reach c t.alarm.due).trans (records_expire (c.reach t.alarm.due) ht)

theorem records_passTo (time fuel : Nat) : ∀ c : Circuit α,
    Records c (passToDeeds time fuel c) (passToJournal time fuel c) (passTo time fuel c) := by
  induction fuel with
  | zero => intro c; exact .refl c
  | succ fuel ih =>
      intro c
      rw [passTo, passToDeeds, passToJournal]
      cases hd : c.dueBy? time with
      | some t => exact (records_ring c (mem_of_next? (dueBy?_eq_some.mp hd).1)).trans (ih _)
      | none => exact records_reach c time

theorem records_pass (c : Circuit α) (ms : Nat) :
    Records c (c.passDeeds ms) (c.passJournal ms) (c.pass ms) :=
  records_passTo _ _ c

theorem records_awaitTo (cycle time fuel : Nat) : ∀ c : Circuit α,
    Records c (awaitToDeeds cycle time fuel c) (awaitToJournal cycle time fuel c)
      (awaitTo cycle time fuel c).1 := by
  induction fuel with
  | zero => intro c; exact .refl c
  | succ fuel ih =>
      intro c
      rw [awaitTo, awaitToDeeds, awaitToJournal]
      cases hv : (c.breaker.fate cycle).verdict? with
      | some v => exact .refl c
      | none =>
          dsimp only
          cases hd : c.dueBefore? time with
          | some t => exact (records_ring c (mem_of_next? (dueBefore?_eq_some.mp hd).1)).trans (ih _)
          | none => exact records_reach c time

theorem records_await (c : Circuit α) (cycle ms : Nat) :
    Records c (c.awaitDeeds cycle ms) (c.awaitJournal cycle ms) (c.await cycle ms).1 :=
  records_awaitTo cycle _ _ c

end Circuit

/-! ### The journal of a session -/

namespace Session

/-- The journal records how one session becomes another. -/
structure Records (s : Session α) (h : List Deed) (j : List (Happening α)) (s' : Session α) :
    Prop where
  deeds : Journal.deeds j = h
  settings : s'.circuit.settings = s.circuit.settings
  shows : s.circuit.Shows j s'.circuit
  chronicle : Chronicle s.circuit.settings s.circuit.breaker j s'.circuit.breaker
  quiet : s.circuit.sink.queued = 0 → s'.circuit.sink = s.circuit.sink ∧
    Journal.told j = tidings s.circuit.settings h

namespace Records

variable {s s' : Session α} {c : Circuit α} {h : List Deed} {j : List (Happening α)}

/-- A step that leaves the circuit alone has nothing to enter. -/
theorem idle (circuit : s'.circuit = s.circuit) : Records s [] [] s' where
  deeds := rfl
  settings := by rw [circuit]
  shows := .idle (by rw [circuit]) (by rw [circuit]) rfl
  chronicle := circuit ▸ .nil
  quiet := fun _ => ⟨by rw [circuit], rfl⟩

theorem ofCircuit (records : s.circuit.Records h j c) : Records s h j { s with circuit := c } :=
  ⟨records.deeds, records.settings, records.shows, records.chronicle, records.quiet⟩

end Records

theorem records_drop {s : Session α} {handle : Nat} (held : s.holds handle = true) :
    Records s (s.deeds (.drop handle)) (s.stepJournal (.drop handle)) (s.drop handle) := by
  rw [deeds, stepJournal, if_pos held, if_pos held]
  cases hany : (s.handles.set handle false).any id with
  | true =>
      have hdrop : s.drop handle = { s with handles := s.handles.set handle false } := by
        rw [drop, if_pos hany]
      have hlive : (s.drop handle).isLive = true := by rw [hdrop]; exact hany
      rw [if_pos hlive, if_pos hlive, hdrop]
      exact .idle rfl
  | false =>
      have hdrop : s.drop handle
          = { s with
              handles := s.handles.set handle false
              circuit := { s.circuit with breaker := s.circuit.breaker.release } } := by
        rw [drop, if_neg (by simp [hany])]
      have hdead : (s.drop handle).isLive = false := by rw [hdrop]; exact hany
      rw [if_neg (by simp [hdead]), if_neg (by simp [hdead]), hdrop]
      exact ⟨rfl, rfl, .idle rfl rfl rfl, .single s.circuit.now .release trivial,
        fun _ => ⟨rfl, rfl⟩⟩

/-- The journal of a step records what the step does. -/
theorem records_perform (s : Session α) (step : Step α) :
    Records s (s.deeds step) (s.stepJournal step) (s.perform step).1 := by
  cases step with
  | operate handle op =>
      rw [stepJournal, deeds]
      by_cases held : s.holds handle = true
      · rw [if_pos held, if_pos held, perform_operate held]
        exact .ofCircuit (Circuit.records_perform s.circuit op)
      · rw [if_neg held, if_neg held, perform, if_neg held]
        exact .idle rfl
  | sleep ms => exact .ofCircuit (Circuit.records_pass s.circuit ms)
  | capture handle =>
      rw [perform]
      split <;> exact .idle rfl
  | wait handle signal ms =>
      rw [stepJournal, deeds, perform]
      cases hc : s.cycle? handle signal with
      | none => exact .idle rfl
      | some cycle =>
          exact .ofCircuit ((Circuit.records_await s.circuit cycle ms).trans
            (Circuit.records_pass (s.circuit.await cycle ms).1 0))
  | spawn handle signal =>
      rw [perform]
      split <;> exact .idle rfl
  | clone handle =>
      rw [perform]
      split <;> exact .idle rfl
  | drop handle =>
      by_cases held : s.holds handle = true
      · rw [perform, if_pos held]
        exact records_drop held
      · rw [stepJournal, deeds, perform, if_neg held, if_neg held, if_neg held]
        exact .idle rfl

/-- What the journal of a run has to do with the run. -/
structure Recorded (s : Session α) (steps : List (Step α)) : Prop where
  /-- The deeds are those of the history. -/
  deeds : Journal.deeds (s.journal steps) = s.history steps
  /-- What there is to see is what the snapshots show. -/
  events : (s.run steps).flatMap Snapshot.events
    = Journal.events s.circuit.eventOf (s.journal steps)
  chronicle : Chronicle s.circuit.settings s.circuit.breaker (s.journal steps)
    (s.after steps).circuit.breaker
  /-- Without reactions all that the deeds have to tell is told. -/
  quiet : s.circuit.sink.queued = 0 →
    Journal.told (s.journal steps) = tidings s.circuit.settings (s.history steps)

/-- **The journal of a run records the run.** -/
theorem records_after {s : Session α} (settled : s.Settled) (fresh : s.circuit.events = #[])
    (steps : List (Step α)) : Recorded s steps := by
  induction steps generalizing s with
  | nil => exact ⟨rfl, rfl, .nil, fun _ => rfl⟩
  | cons step steps ih =>
      have first := records_perform s step
      have goes := goes_step settled step
      have rest := ih goes.settled rfl
      have settings : (s.step step).1.circuit.settings = s.circuit.settings := first.settings
      have voice : (s.step step).1.circuit.eventOf = s.circuit.eventOf := first.shows.voice
      refine ⟨?_, ?_, ?_, ?_⟩
      · rw [journal, history, Journal.deeds_append, first.deeds, rest.deeds]
      · have shown : (s.perform step).1.circuit.events.toList
            = Journal.events s.circuit.eventOf (s.stepJournal step) := by
          simpa [fresh] using first.shows.events
        rw [journal, Journal.events_append, ← shown, ← voice, ← rest.events]
        rfl
      · refine first.chronicle.trans (settings ▸ rest.chronicle) ?_
        cases live : (s.step step).1.isLive with
        | true => exact .inl (first.deeds ▸ (goes.held live).2)
        | false => exact .inr (rest.deeds.trans ((goes_after goes.settled steps).still live))
      · intro quiet
        obtain ⟨hsink, htold⟩ := first.quiet quiet
        have quiet' : (s.step step).1.circuit.sink.queued = 0 := (congrArg _ hsink).trans quiet
        rw [journal, history, Journal.told_append, htold, rest.quiet quiet', settings,
          tidings_append]

end Session

end Tripwire
