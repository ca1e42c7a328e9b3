/-
What has happened to a breaker.

A run of a session nests: a line for the log has a reaction, the lines of that
reaction have reactions in turn, and a fault cuts all of them short.  Underneath,
the breaker only ever sees one move after the other, each from beginning to end.
This file writes these moves down.  `Session.history` lists the deeds of a run in
the order in which they began, each with its time and the breaker it found, and
follows the definitions of the run case by case.

What ties it to the run is `Session.goes_after`: the deeds of a run lead from
the breaker at its beginning to the one at its end, with nothing in between but
time.  A property of all runs is thus proved by an induction over `Passage`, one
move at a time, and no such proof looks at agendas, reactions or fuel again.

Letting go of the breaker is a move like any other, and the last one: whoever has
no handle can neither operate the breaker nor have timers run out.
-/
import Tripwire.Circuit.Session

namespace Tripwire

/-! ### Moves and deeds -/

/-- What can be done to a breaker in one go. -/
inductive Move where
  | activate
  | deactivate
  | report (e : Report)
  | expire (t : Timer)
  | release

namespace Move

/-- What the move does to a breaker. -/
def effect (s : BreakerSettings) (now : Nat) (b : Breaker) : Move → Effect
  | activate => b.activate
  | deactivate => b.deactivate
  | report e => b.addError s now e
  | expire t => b.expire t
  | release => { breaker := b.release }

/-- The move can be made: only a timer that runs can run out. -/
def Possible (b : Breaker) : Move → Prop
  | expire t => t ∈ b.timers
  | _ => True

end Move

/-- A move that has been made: when, and on which breaker. -/
structure Deed where
  time : Nat
  before : Breaker
  move : Move

namespace Deed

/-- What the deed has done. -/
def effect (s : BreakerSettings) (d : Deed) : Effect := d.move.effect s d.time d.before

/-- The breaker after the deed. -/
def after (s : BreakerSettings) (d : Deed) : Breaker := (d.effect s).breaker

/-- The deed has broken off. -/
def Fails (s : BreakerSettings) (d : Deed) : Prop := (d.effect s).fault ≠ none

instance (s : BreakerSettings) (d : Deed) : Decidable (d.Fails s) :=
  inferInstanceAs (Decidable ((d.effect s).fault ≠ none))

/-- The error that the deed reports, if it reports one. -/
def report? (d : Deed) : Option Report :=
  match d.move with
  | .report e => some e
  | _ => none

/-- The deed is a report, counted or not. -/
def isReport (d : Deed) : Bool := d.report?.isSome

/-- The deed is a report that an active breaker has counted. -/
def counts (d : Deed) : Bool := d.isReport && d.before.active

theorem counts_of_report {d : Deed} {e : Report} (hd : d.move = .report e) :
    d.counts = d.before.active := by
  simp [counts, isReport, report?, hd]

theorem counts_of_not_report {d : Deed} (hd : ∀ e, d.move ≠ .report e) : d.counts = false := by
  obtain ⟨time, b, move⟩ := d
  cases move with
  | report e => exact absurd rfl (hd e)
  | _ => rfl

/-- The deed has begun a cycle. -/
def begins (d : Deed) : Bool :=
  match d.move with
  | .activate => true
  | _ => false

/-- The deed is one by which somebody begins or ends a cycle at will. -/
def steers (d : Deed) : Bool :=
  match d.move with
  | .activate | .deactivate => true
  | _ => false

end Deed

/-- Nobody has let go of the breaker. -/
def Held (h : List Deed) : Prop := ∀ d ∈ h, d.move ≠ .release

theorem held_nil : Held [] := by
  intro d hd
  simp at hd

theorem held_append {h h' : List Deed} : Held (h ++ h') ↔ Held h ∧ Held h' := by
  simp [Held, List.mem_append, or_imp, forall_and]

theorem held_singleton {d : Deed} : Held [d] ↔ d.move ≠ .release := by
  simp [Held]

/-! ### Passages

A list of deeds leads from one breaker to another if each deed found the breaker
that the one before it left.  Time passes between deeds, and does nothing to the
breaker.
-/

/-- The deeds lead from one breaker to another. -/
inductive Passage (s : BreakerSettings) (origin : Breaker) : List Deed → Breaker → Prop
  | nil : Passage s origin [] origin
  | deed {h : List Deed} {b : Breaker} (time : Nat) (move : Move) :
      Passage s origin h b → Held h → move.Possible b →
      Passage s origin (h ++ [⟨time, b, move⟩]) (move.effect s time b).breaker

namespace Passage

variable {s : BreakerSettings} {a b c : Breaker} {h h' : List Deed}

/-- A single move. -/
theorem single (time : Nat) {b : Breaker} (move : Move) (possible : move.Possible b) :
    Passage s b [⟨time, b, move⟩] (move.effect s time b).breaker :=
  .deed time move .nil held_nil possible

/-- Passages follow one another, unless the first one has let go and the second goes on. -/
theorem trans (first : Passage s a h b) (second : Passage s b h' c) (held : Held h ∨ h' = []) :
    Passage s a (h ++ h') c := by
  induction second with
  | nil => simpa using first
  | deed time move _ held' possible ih =>
      have hh : Held h := by
        rcases held with hh | hnil
        · exact hh
        · simp at hnil
      rw [← List.append_assoc]
      exact .deed time move (ih (.inl hh)) (held_append.mpr ⟨hh, held'⟩) possible

/-- A passage can be stopped after any of its deeds. -/
theorem split (p : Passage s a (h ++ h') c) : ∃ b, Passage s a h b ∧ Passage s b h' c := by
  generalize hall : h ++ h' = all at p
  induction p generalizing h' with
  | nil =>
      obtain ⟨rfl, rfl⟩ := List.append_eq_nil_iff.mp hall
      exact ⟨_, .nil, .nil⟩
  | @deed g m time move p held possible ih =>
      rcases List.eq_nil_or_concat h' with rfl | ⟨front, last, rfl⟩
      · rw [List.append_nil] at hall
        subst hall
        exact ⟨_, .deed time move p held possible, .nil⟩
      · rw [List.concat_eq_append, ← List.append_assoc] at hall
        obtain ⟨rfl, hlast⟩ := List.append_inj' hall rfl
        obtain ⟨b, hb, hrest⟩ := ih rfl
        rw [List.concat_eq_append, hlast]
        exact ⟨b, hb, .deed time move hrest (held_append.mp held).2 possible⟩

/-- What leads up to a deed and what follows it. -/
theorem around {d : Deed} (p : Passage s a (h ++ d :: h') c) :
    Passage s a h d.before ∧ Passage s (d.after s) h' c := by
  rw [show h ++ d :: h' = (h ++ [d]) ++ h' by simp] at p
  obtain ⟨b, first, rest⟩ := p.split
  suffices last : Passage s a h d.before ∧ Passage s (d.after s) [] b from
    ⟨last.1, last.2.trans rest (.inl held_nil)⟩
  generalize hall : h ++ [d] = all at first
  clear p rest
  induction first with
  | nil => simp at hall
  | deed time move p _ _ _ =>
      obtain ⟨rfl, hd⟩ := List.append_inj' hall rfl
      obtain rfl := List.singleton_inj.mp hd
      exact ⟨p, .nil⟩

/-- Before a deed nobody has let go of the breaker. -/
theorem held_before {d : Deed} (p : Passage s a (h ++ d :: h') c) : Held h := by
  rw [show h ++ d :: h' = (h ++ [d]) ++ h' by simp] at p
  obtain ⟨b, first, -⟩ := p.split
  generalize hall : h ++ [d] = all at first
  clear p
  induction first with
  | nil => simp at hall
  | deed time move _ held _ _ =>
      obtain ⟨rfl, -⟩ := List.append_inj' hall rfl
      exact held

end Passage

/-! ### The deeds of a circuit -/

/-- The move that an operation makes, if it makes one. -/
def Operation.move? {α : Type} : Operation α → Option Move
  | activate => some .activate
  | deactivate => some .deactivate
  | addError e | observe (.error e) => some (.report e)
  | _ => none

namespace Circuit

variable {α : Type}

/-- The deed of an operation itself, without those of reactions. -/
def ownDeeds (c : Circuit α) (op : Operation α) : List Deed :=
  (op.move?.map fun move => ⟨c.now, c.breaker, move⟩).toList

/-- The deeds of the work on an agenda, with at most so many reactions. -/
def runDeeds : Nat → Circuit α → List (Task α) → List Deed
  | fuel, c, tasks =>
      match c.settle tasks with
      | .done .. => []
      | .reaction op c rest =>
          match fuel with
          | 0 => []
          | fuel + 1 =>
              let (next, agenda) := c.begin op
              let conclusion := .conclude op (op.answer c.settings c.breaker)
              c.ownDeeds op ++ runDeeds fuel next (agenda ++ conclusion :: rest)

/-- The deeds of the work on an agenda to its end. -/
def finishDeeds (c : Circuit α) (tasks : List (Task α)) : List Deed :=
  runDeeds c.sink.queued c tasks

/-- The deeds of an operation and of its reactions. -/
def performDeeds (c : Circuit α) (op : Operation α) : List Deed :=
  let (next, agenda) := c.begin op
  c.ownDeeds op ++ next.finishDeeds agenda

/-- The deeds of a timer that runs out and of the reactions to that. -/
def expireDeeds (c : Circuit α) (t : Timer) : List Deed :=
  let effect := c.breaker.expire t
  ⟨c.now, c.breaker, .expire t⟩ :: { c with breaker := effect.breaker }.finishDeeds effect.agenda

/-- The deeds of a timer that runs out when it is due. -/
def ringDeeds (c : Circuit α) (t : Timer) : List Deed := (c.reach t.alarm.due).expireDeeds t

/-- The deeds on the way to a time, in at most so many steps. -/
def passToDeeds (time : Nat) : Nat → Circuit α → List Deed
  | 0, _ => []
  | fuel + 1, c =>
      match c.dueBy? time with
      | some t => c.ringDeeds t ++ passToDeeds time fuel (c.ring t)
      | none => []

/-- The deeds of so many milliseconds. -/
def passDeeds (c : Circuit α) (ms : Nat) : List Deed :=
  passToDeeds (Alarm.set c.now ms).due c.patience c

/-- The deeds of a wait until a time, in at most so many steps. -/
def awaitToDeeds (cycle time : Nat) : Nat → Circuit α → List Deed
  | 0, _ => []
  | fuel + 1, c =>
      match (c.breaker.fate cycle).verdict? with
      | some _ => []
      | none =>
          match c.dueBefore? time with
          | some t => c.ringDeeds t ++ awaitToDeeds cycle time fuel (c.ring t)
          | none => []

/-- The deeds of a wait. -/
def awaitDeeds (c : Circuit α) (cycle ms : Nat) : List Deed :=
  awaitToDeeds cycle (Alarm.set c.now ms).due c.patience c

end Circuit

/-! ### What the deeds of a circuit lead to -/

theorem Operation.breaker_effect {α : Type} (s : BreakerSettings) (now : Nat) (b : Breaker)
    (op : Operation α) :
    (op.effect s now b).breaker
      = match op.move? with
        | some move => (move.effect s now b).breaker
        | none => b := by
  cases op with
  | observe outcome => cases outcome <;> rfl
  | _ => rfl

theorem Operation.possible_of_move? {α : Type} {op : Operation α} {move : Move} (b : Breaker)
    (h : op.move? = some move) : move.Possible b ∧ move ≠ .release := by
  cases op with
  | observe outcome =>
      cases outcome with
      | ok a => simp [move?] at h
      | error e =>
          obtain rfl : .report e = move := by simpa [move?] using h
          simp [Move.Possible]
  | _ => simp [move?] at h <;> subst h <;> simp [Move.Possible]

theorem Operation.effect_of_move? {α : Type} {op : Operation α} {move : Move} (s : BreakerSettings)
    (now : Nat) (b : Breaker) (h : op.move? = some move) :
    op.effect s now b = move.effect s now b := by
  cases op with
  | observe outcome =>
      cases outcome with
      | ok a => simp [move?] at h
      | error e =>
          obtain rfl : .report e = move := by simpa [move?] using h
          rfl
  | _ => simp [move?] at h <;> subst h <;> rfl

/-- Whatever makes no move has nothing to tell. -/
theorem Operation.effect_of_idle {α : Type} {op : Operation α} (s : BreakerSettings) (now : Nat)
    (b : Breaker) (h : op.move? = none) :
    (op.effect s now b).breaker = b ∧ (op.effect s now b).emissions = [] := by
  cases op with
  | observe outcome =>
      cases outcome with
      | ok a => exact ⟨rfl, rfl⟩
      | error e => simp [move?] at h
  | _ => first | exact ⟨rfl, rfl⟩ | simp [move?] at h

namespace Circuit

variable {α : Type}

/-- The deeds lead from one circuit to another, and nobody lets go of the breaker. -/
structure Goes (c : Circuit α) (h : List Deed) (c' : Circuit α) : Prop where
  /-- The settings stay as they are. -/
  settings : c'.settings = c.settings
  passage : Passage c.settings c.breaker h c'.breaker
  held : Held h

namespace Goes

variable {c c' c'' : Circuit α} {h h' : List Deed}

/-- What leaves the breaker and the settings alone needs no deeds. -/
theorem idle (settings : c'.settings = c.settings) (breaker : c'.breaker = c.breaker) :
    Goes c [] c' :=
  ⟨settings, breaker ▸ .nil, held_nil⟩

theorem trans (first : Goes c h c') (second : Goes c' h' c'') : Goes c (h ++ h') c'' where
  settings := second.settings.trans first.settings
  passage := first.passage.trans (first.settings ▸ second.passage) (.inl first.held)
  held := held_append.mpr ⟨first.held, second.held⟩

end Goes

/-- Two circuits that differ at most in their sinks and in what has happened. -/
def Alike (c c' : Circuit α) : Prop :=
  c'.settings = c.settings ∧ c'.breaker = c.breaker ∧ c'.now = c.now

theorem Alike.goes {c c' : Circuit α} (h : Alike c c') : Goes c [] c' := .idle h.1 h.2.1

theorem alike_emit (c : Circuit α) (e : Emission) : Alike c (c.emit e) := by
  cases e <;> exact ⟨rfl, rfl, rfl⟩

theorem alike_of_react? {c c' : Circuit α} {e : Emission} {op : Operation α}
    (h : c.react? e = some (op, c')) : Alike c c' := by
  cases e with
  | notice n =>
      simp only [react?, Option.map_eq_some_iff] at h
      obtain ⟨⟨op', sink⟩, -, heq⟩ := h
      cases heq
      exact ⟨rfl, rfl, rfl⟩
  | counter k => simp [react?] at h
  | gauge count => simp [react?] at h

theorem Alike.trans {c c' c'' : Circuit α} (h : Alike c c') (h' : Alike c' c'') : Alike c c'' :=
  ⟨h'.1.trans h.1, h'.2.1.trans h.2.1, h'.2.2.trans h.2.2⟩

/-- The circuit at which work on an agenda comes to a halt. -/
def Halt.circuit : Halt α → Circuit α
  | .done c _ => c
  | .reaction _ c _ => c

/-- Telling the outside changes neither the breaker nor the time. -/
theorem alike_settle (c : Circuit α) (tasks : List (Task α)) :
    Alike c (c.settle tasks).circuit := by
  induction tasks generalizing c with
  | nil => exact ⟨rfl, rfl, rfl⟩
  | cons task tasks ih =>
      cases task with
      | fail fault => exact ⟨rfl, rfl, rfl⟩
      | conclude op a => exact ih (c.record (.reaction op a))
      | deliver e =>
          rw [settle]
          split
          · exact (alike_emit c e).trans (ih _)
          · rename_i hr
            exact (alike_emit c e).trans (alike_of_react? hr)

theorem goes_begin (c : Circuit α) (op : Operation α) :
    Goes c (c.ownDeeds op) (c.begin op).1 := by
  refine ⟨rfl, ?_, ?_⟩
  · show Passage c.settings c.breaker (c.ownDeeds op) (op.effect c.settings c.now c.breaker).breaker
    rw [Operation.breaker_effect, ownDeeds]
    cases hm : op.move? with
    | none => exact .nil
    | some move => exact .single c.now move (Operation.possible_of_move? _ hm).1
  · rw [ownDeeds]
    cases hm : op.move? with
    | none => exact held_nil
    | some move => exact held_singleton.mpr (Operation.possible_of_move? c.breaker hm).2

theorem goes_run (fuel : Nat) : ∀ (c : Circuit α) (tasks : List (Task α)),
    Goes c (c.runDeeds fuel tasks) (run fuel c tasks).1 := by
  induction fuel with
  | zero =>
      intro c tasks
      have halt := (alike_settle c tasks).goes
      rw [run, runDeeds]
      cases hs : c.settle tasks with
      | done last fault => rw [hs] at halt; exact halt
      | reaction op next rest => rw [hs] at halt; exact halt
  | succ fuel ih =>
      intro c tasks
      have halt := (alike_settle c tasks).goes
      rw [run, runDeeds]
      cases hs : c.settle tasks with
      | done last fault => rw [hs] at halt; exact halt
      | reaction op next rest =>
          rw [hs] at halt
          exact halt.trans ((goes_begin next op).trans (ih _ _))

theorem goes_finish (c : Circuit α) (tasks : List (Task α)) :
    Goes c (c.finishDeeds tasks) (c.finish tasks).1 :=
  goes_run _ c tasks

theorem perform_fst (c : Circuit α) (op : Operation α) :
    (c.perform op).1 = ((c.begin op).1.finish (c.begin op).2).1 := by
  unfold perform
  cases hb : c.begin op with
  | mk next agenda =>
      dsimp only
      cases hf : next.finish agenda with
      | mk last fault => cases fault <;> rfl

theorem goes_perform (c : Circuit α) (op : Operation α) :
    Goes c (c.performDeeds op) (c.perform op).1 := by
  rw [perform_fst]
  exact (goes_begin c op).trans (goes_finish (c.begin op).1 (c.begin op).2)

theorem goes_expire (c : Circuit α) {t : Timer} (ht : t ∈ c.breaker.timers) :
    Goes c (c.expireDeeds t) (c.expire t) := by
  have own : Goes c [⟨c.now, c.breaker, .expire t⟩]
      { c with breaker := (c.breaker.expire t).breaker } :=
    ⟨rfl, .single c.now (.expire t) ht, held_singleton.mpr (by simp)⟩
  exact own.trans (goes_finish _ _)

theorem mem_of_next? {c : Circuit α} {t : Timer} (h : c.next? = some t) : t ∈ c.breaker.timers :=
  List.mem_of_find?_eq_some h

theorem dueBy?_eq_some {c : Circuit α} {time : Nat} {t : Timer} :
    c.dueBy? time = some t ↔ c.next? = some t ∧ t.alarm.due ≤ time := by
  simp [dueBy?, Option.filter_eq_some_iff]

theorem dueBefore?_eq_some {c : Circuit α} {time : Nat} {t : Timer} :
    c.dueBefore? time = some t ↔ c.next? = some t ∧ t.alarm.due < time := by
  simp [dueBefore?, Option.filter_eq_some_iff]

theorem goes_reach (c : Circuit α) (time : Nat) : Goes c [] (c.reach time) := .idle rfl rfl

theorem goes_ring (c : Circuit α) {t : Timer} (ht : t ∈ c.breaker.timers) :
    Goes c (c.ringDeeds t) (c.ring t) :=
  (goes_reach c t.alarm.due).trans (goes_expire (c.reach t.alarm.due) ht)

theorem goes_passTo (time fuel : Nat) (c : Circuit α) :
    Goes c (passToDeeds time fuel c) (passTo time fuel c) := by
  induction fuel generalizing c with
  | zero => exact .idle rfl rfl
  | succ fuel ih =>
      rw [passTo, passToDeeds]
      cases hd : c.dueBy? time with
      | some t => exact (goes_ring c (mem_of_next? (dueBy?_eq_some.mp hd).1)).trans (ih _)
      | none => exact goes_reach c time

theorem goes_pass (c : Circuit α) (ms : Nat) : Goes c (c.passDeeds ms) (c.pass ms) :=
  goes_passTo _ _ c

theorem goes_awaitTo (cycle time fuel : Nat) (c : Circuit α) :
    Goes c (awaitToDeeds cycle time fuel c) (awaitTo cycle time fuel c).1 := by
  induction fuel generalizing c with
  | zero => exact .idle rfl rfl
  | succ fuel ih =>
      rw [awaitTo, awaitToDeeds]
      cases hv : (c.breaker.fate cycle).verdict? with
      | some v => exact .idle rfl rfl
      | none =>
          dsimp only
          cases hd : c.dueBefore? time with
          | some t => exact (goes_ring c (mem_of_next? (dueBefore?_eq_some.mp hd).1)).trans (ih _)
          | none => exact goes_reach c time

theorem goes_await (c : Circuit α) (cycle ms : Nat) :
    Goes c (c.awaitDeeds cycle ms) (c.await cycle ms).1 :=
  goes_awaitTo cycle _ _ c

end Circuit

/-! ### The deeds of a session

While there is a handle nobody has let go of the breaker.  Without one no operation
goes through, and as letting go stops all timers, nothing runs out either.
-/

namespace Circuit

variable {α : Type}

theorem next?_of_timers_nil {c : Circuit α} (h : c.breaker.timers = []) : c.next? = none := by
  rw [next?, h]
  rfl

theorem dueBy?_of_timers_nil {c : Circuit α} (h : c.breaker.timers = []) (time : Nat) :
    c.dueBy? time = none := by
  rw [dueBy?, next?_of_timers_nil h]
  rfl

theorem dueBefore?_of_timers_nil {c : Circuit α} (h : c.breaker.timers = []) (time : Nat) :
    c.dueBefore? time = none := by
  rw [dueBefore?, next?_of_timers_nil h]
  rfl

theorem passToDeeds_of_timers_nil (time fuel : Nat) {c : Circuit α} (h : c.breaker.timers = []) :
    passToDeeds time fuel c = [] := by
  cases fuel with
  | zero => rfl
  | succ fuel => rw [passToDeeds, dueBy?_of_timers_nil h]

theorem awaitToDeeds_of_timers_nil (cycle time fuel : Nat) {c : Circuit α}
    (h : c.breaker.timers = []) : awaitToDeeds cycle time fuel c = [] := by
  cases fuel with
  | zero => rfl
  | succ fuel =>
      rw [awaitToDeeds, dueBefore?_of_timers_nil h]
      split <;> rfl

end Circuit

/-- A breaker without timers gets none without deeds. -/
theorem Passage.timers_nil {s : BreakerSettings} {a b : Breaker} (p : Passage s a [] b)
    (h : a.timers = []) : b.timers = [] := by
  generalize hnil : ([] : List Deed) = g at p
  induction p with
  | nil => exact h
  | deed time move _ _ _ _ => simp at hnil

namespace Session

variable {α : Type}

/-- There is a handle. -/
def isLive (s : Session α) : Bool := s.handles.any id

/-- The deeds of a step. -/
def deeds (s : Session α) : Step α → List Deed
  | .operate handle op => if s.holds handle then s.circuit.performDeeds op else []
  | .sleep ms => s.circuit.passDeeds ms
  | .wait handle signal ms =>
      match s.cycle? handle signal with
      | some cycle => s.circuit.awaitDeeds cycle ms ++ (s.circuit.await cycle ms).1.passDeeds 0
      | none => []
  | .drop handle =>
      if s.holds handle then
        if (s.drop handle).isLive then [] else [⟨s.circuit.now, s.circuit.breaker, .release⟩]
      else []
  | .capture _ | .spawn .. | .clone _ => []

/-- The session after some steps. -/
def after (s : Session α) : List (Step α) → Session α
  | [] => s
  | step :: steps => (s.step step).1.after steps

/-- What has happened to the breaker after some steps. -/
def history (s : Session α) : List (Step α) → List Deed
  | [] => []
  | step :: steps => s.deeds step ++ (s.step step).1.history steps

theorem after_append (s : Session α) (steps more : List (Step α)) :
    s.after (steps ++ more) = (s.after steps).after more := by
  induction steps generalizing s with
  | nil => rfl
  | cons step steps ih => exact ih _

theorem history_append (s : Session α) (steps more : List (Step α)) :
    s.history (steps ++ more) = s.history steps ++ (s.after steps).history more := by
  induction steps generalizing s with
  | nil => rfl
  | cons step steps ih =>
      rw [List.cons_append, history, history, ih, List.append_assoc]
      rfl

theorem isLive_of_holds {s : Session α} {handle : Nat} (h : s.holds handle = true) :
    s.isLive = true := by
  rw [holds, List.getD_eq_getElem?_getD] at h
  cases hg : s.handles[handle]? with
  | none => simp [hg] at h
  | some held =>
      rw [hg] at h
      exact List.any_eq_true.mpr ⟨held, List.mem_of_getElem? hg, h⟩

/-- Without a handle no timer runs. -/
def Settled (s : Session α) : Prop := s.isLive = false → s.circuit.breaker.timers = []

/-- The deeds lead from one session to another. -/
structure Goes (s : Session α) (h : List Deed) (s' : Session α) : Prop where
  settings : s'.circuit.settings = s.circuit.settings
  passage : Passage s.circuit.settings s.circuit.breaker h s'.circuit.breaker
  /-- A session with a handle has always had one. -/
  held : s'.isLive = true → s.isLive = true ∧ Held h
  settled : s'.Settled
  /-- Without a handle nothing happens. -/
  still : s.isLive = false → h = []

namespace Goes

variable {s s' s'' : Session α} {h h' : List Deed}

theorem refl (settled : s.Settled) : Goes s [] s :=
  ⟨rfl, .nil, fun live => ⟨live, held_nil⟩, settled, fun _ => rfl⟩

theorem trans (first : Goes s h s') (second : Goes s' h' s'') : Goes s (h ++ h') s'' where
  settings := second.settings.trans first.settings
  passage := by
    refine first.passage.trans (first.settings ▸ second.passage) ?_
    cases live : s'.isLive with
    | true => exact .inl (first.held live).2
    | false => exact .inr (second.still live)
  held := by
    intro live
    obtain ⟨live', held'⟩ := second.held live
    obtain ⟨live'', held''⟩ := first.held live'
    exact ⟨live'', held_append.mpr ⟨held'', held'⟩⟩
  settled := second.settled
  still := by
    intro dead
    have dead' : s'.isLive = false := by
      cases live : s'.isLive with
      | true => rw [(first.held live).1] at dead; exact dead
      | false => rfl
    rw [first.still dead, second.still dead', List.append_nil]

/-- What happens in the circuit happens in the session, if a handle is there or no timer runs. -/
theorem ofCircuit {c : Circuit α} (settled : s.Settled) (goes : s.circuit.Goes h c)
    (still : s.circuit.breaker.timers = [] → h = [] ∨ s.isLive = true) :
    Goes s h { s with circuit := c } where
  settings := goes.settings
  passage := goes.passage
  held := fun live => ⟨live, goes.held⟩
  settled := by
    intro dead
    have none := settled dead
    rcases still none with rfl | live
    · exact goes.passage.timers_nil none
    · exact absurd live (by rw [show s.isLive = false from dead]; simp)
  still := by
    intro dead
    rcases still (settled dead) with hnil | live
    · exact hnil
    · rw [live] at dead
      exact absurd dead (by simp)

/-- Whatever else is kept in the session, only the circuit and the handles matter. -/
theorem congr (goes : Goes s h s') (circuit : s''.circuit.breaker = s'.circuit.breaker)
    (settings : s''.circuit.settings = s'.circuit.settings) (live : s''.isLive = s'.isLive) :
    Goes s h s'' where
  settings := settings.trans goes.settings
  passage := circuit ▸ goes.passage
  held := live ▸ goes.held
  settled := by
    intro dead
    rw [circuit]
    exact goes.settled (live ▸ dead)
  still := goes.still

end Goes

/-- An operation changes the session only in its circuit. -/
theorem perform_operate {s : Session α} {handle : Nat} (held : s.holds handle = true)
    (op : Operation α) :
    (s.perform (.operate handle op)).1 = { s with circuit := (s.circuit.perform op).1 } := by
  rw [perform, if_pos held]
  cases hp : s.circuit.perform op with
  | mk c result => cases result <;> rfl

theorem goes_drop {s : Session α} {handle : Nat} (settled : s.Settled)
    (held : s.holds handle = true) :
    Goes s (s.deeds (.drop handle)) (s.drop handle) := by
  have live : s.isLive = true := isLive_of_holds held
  rw [deeds, if_pos held]
  cases hany : (s.handles.set handle false).any id with
  | true =>
      have hdrop : s.drop handle = { s with handles := s.handles.set handle false } := by
        rw [drop, if_pos hany]
      have hlive : (s.drop handle).isLive = true := by rw [hdrop]; exact hany
      rw [if_pos hlive]
      refine (Goes.refl settled).congr ?_ ?_ (hlive.trans live.symm) <;> rw [hdrop]
  | false =>
      have hdrop : s.drop handle
          = { s with
              handles := s.handles.set handle false
              circuit := { s.circuit with breaker := s.circuit.breaker.release } } := by
        rw [drop, if_neg (by simp [hany])]
      have hdead : (s.drop handle).isLive = false := by rw [hdrop]; exact hany
      rw [if_neg (by simp [hdead]), hdrop]
      exact
        { settings := rfl
          passage := .single _ .release trivial
          held := fun live' => absurd (live'.symm.trans hany) (by simp)
          settled := fun _ => rfl
          still := fun dead => absurd (live.symm.trans dead) (by simp) }

/-- A step does the deeds it is said to do. -/
theorem goes_perform {s : Session α} (settled : s.Settled) (step : Step α) :
    Goes s (s.deeds step) (s.perform step).1 := by
  have same : Goes s [] s := .refl settled
  cases step with
  | operate handle op =>
      by_cases held : s.holds handle = true
      · rw [deeds, if_pos held, perform_operate held]
        exact Goes.ofCircuit settled (Circuit.goes_perform s.circuit op)
          fun _ => .inr (isLive_of_holds held)
      · rw [deeds, perform, if_neg held, if_neg held]
        exact same
  | sleep ms =>
      exact Goes.ofCircuit settled (Circuit.goes_pass s.circuit ms)
        fun none => .inl (Circuit.passToDeeds_of_timers_nil _ _ none)
  | capture handle =>
      rw [deeds, perform]
      split
      · exact same.congr rfl rfl rfl
      · exact same
  | wait handle signal ms =>
      rw [deeds, perform]
      cases hc : s.cycle? handle signal with
      | none => exact same
      | some cycle =>
          dsimp only
          have goes := (Circuit.goes_await s.circuit cycle ms).trans
            (Circuit.goes_pass (s.circuit.await cycle ms).1 0)
          refine Goes.ofCircuit settled goes fun none => .inl ?_
          have first : s.circuit.awaitDeeds cycle ms = [] :=
            Circuit.awaitToDeeds_of_timers_nil cycle _ _ none
          have rest := (Circuit.goes_await s.circuit cycle ms).passage
          rw [first] at rest ⊢
          exact Circuit.passToDeeds_of_timers_nil _ _ (rest.timers_nil none)
  | spawn handle signal =>
      rw [deeds, perform]
      split
      · exact same.congr rfl rfl rfl
      · exact same
  | clone handle =>
      rw [deeds, perform]
      by_cases held : s.holds handle = true
      · rw [if_pos held]
        exact same.congr rfl rfl (by rw [isLive_of_holds held]; simp [isLive])
      · rw [if_neg held]
        exact same
  | drop handle =>
      by_cases held : s.holds handle = true
      · rw [perform, if_pos held]
        exact goes_drop settled held
      · rw [deeds, perform, if_neg held, if_neg held]
        exact same

theorem goes_step {s : Session α} (settled : s.Settled) (step : Step α) :
    Goes s (s.deeds step) (s.step step).1 :=
  (goes_perform settled step).congr rfl rfl rfl

/-- **The deeds of a run lead from the breaker at its beginning to the one at its end.** -/
theorem goes_after {s : Session α} (settled : s.Settled) (steps : List (Step α)) :
    Goes s (s.history steps) (s.after steps) := by
  induction steps generalizing s with
  | nil => exact .refl settled
  | cons step steps ih =>
      have first := goes_step settled step
      exact first.trans (ih first.settled)

end Session

end Tripwire
