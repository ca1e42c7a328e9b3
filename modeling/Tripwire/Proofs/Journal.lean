/-
What a run has done and what it has said, in one list.

The history of a run has its deeds, and the events of its snapshots have what the
outside was told.  Neither shows which deed a line belongs to, and with reactions that
cannot be read off the order of the lines: a line is delivered, its reaction does its
own deeds, and only then comes the line behind it, if nothing has broken off.
`Session.journal` keeps both lists in one.  It follows the definitions of the run case
by case, and an entry for something told also has the breaker as it was when it was
told, before any reaction.

The relation `Chronicle` is the form in which journals are used.  An effect tells its
metrics and its first line before any reaction comes in between, so these follow the
deed at once.  All that can be told later is the second line of an activation over a
live cycle, that the next cycle has started.  So a chronicle is put together from deeds
with their news, lines about a start, and reactions that are over, and whatever is to be
shown of all runs is an induction over that.
-/
import Tripwire.Proofs.Quiet

namespace Tripwire

variable {α : Type}

/-! ### Journals -/

/-- An entry of a journal. -/
inductive Happening (α : Type) where
  /-- A move has been made. -/
  | did (d : Deed)
  /-- The outside has been told something; the breaker is the one at that time. -/
  | told (b : Breaker) (e : Emission)
  /-- A reaction is over. -/
  | answered (op : Operation α) (a : Answer α)

namespace Happening

/-- The deed, if the entry is one. -/
def deed? : Happening α → Option Deed
  | did d => some d
  | _ => none

/-- What the outside has been told, if the entry says so. -/
def told? : Happening α → Option Emission
  | told _ e => some e
  | _ => none

/-- What there is to see of the entry, if emissions are seen in some way. -/
def event? (voice : Emission → Event α) : Happening α → Option (Event α)
  | did _ => none
  | told _ e => some (voice e)
  | answered op a => some (.reaction op a)

end Happening

namespace Journal

/-- The deeds of a journal. -/
def deeds (j : List (Happening α)) : List Deed := j.filterMap Happening.deed?

/-- What the outside has been told, in order. -/
def told (j : List (Happening α)) : List Emission := j.filterMap Happening.told?

/-- What there is to see of a journal. -/
def events (voice : Emission → Event α) (j : List (Happening α)) : List (Event α) :=
  j.filterMap (Happening.event? voice)

section Simp

variable (voice : Emission → Event α) (j j' : List (Happening α)) (b : Breaker) (d : Deed)
  (e : Emission) (op : Operation α) (a : Answer α)

@[simp] theorem deeds_nil : deeds ([] : List (Happening α)) = [] := rfl

@[simp] theorem deeds_append : deeds (j ++ j') = deeds j ++ deeds j' := List.filterMap_append

@[simp] theorem deeds_did : deeds (.did d :: j) = d :: deeds j := rfl

@[simp] theorem deeds_told : deeds (.told b e :: j) = deeds j := rfl

@[simp] theorem deeds_answered : deeds (.answered op a :: j) = deeds j := rfl

@[simp] theorem told_nil : told ([] : List (Happening α)) = [] := rfl

@[simp] theorem told_append : told (j ++ j') = told j ++ told j' := List.filterMap_append

@[simp] theorem told_did : told (.did d :: j) = told j := rfl

@[simp] theorem told_told : told (.told b e :: j) = e :: told j := rfl

@[simp] theorem told_answered : told (.answered op a :: j) = told j := rfl

@[simp] theorem events_nil : events voice [] = [] := rfl

@[simp] theorem events_append : events voice (j ++ j') = events voice j ++ events voice j' :=
  List.filterMap_append

@[simp] theorem events_did : events voice (.did d :: j) = events voice j := rfl

@[simp] theorem events_told : events voice (.told b e :: j) = voice e :: events voice j := rfl

@[simp] theorem events_answered :
    events voice (.answered op a :: j) = .reaction op a :: events voice j := rfl

end Simp

@[simp] theorem deeds_map_told (b : Breaker) (es : List Emission) :
    deeds (es.map (.told b) : List (Happening α)) = [] := by
  induction es with
  | nil => rfl
  | cons e es ih => exact ih

@[simp] theorem told_map_told (b : Breaker) (es : List Emission) :
    told (es.map (.told b) : List (Happening α)) = es := by
  induction es with
  | nil => rfl
  | cons e es ih => exact congrArg (e :: ·) ih

@[simp] theorem deeds_map_did (h : List Deed) :
    deeds (h.map .did : List (Happening α)) = h := by
  induction h with
  | nil => rfl
  | cons d h ih => exact congrArg (d :: ·) ih

@[simp] theorem told_map_did (h : List Deed) : told (h.map .did : List (Happening α)) = [] := by
  induction h with
  | nil => rfl
  | cons d h ih => exact ih

@[simp] theorem events_map_did (voice : Emission → Event α) (h : List Deed) :
    events voice (h.map .did) = [] := by
  induction h with
  | nil => rfl
  | cons d h ih => exact ih

end Journal

/-! ### The journal of a run -/

namespace Circuit

/-- The journal of the work on an agenda up to the next reaction. -/
def settleJournal (c : Circuit α) : List (Task α) → List (Happening α)
  | [] => []
  | .fail _ :: _ => []
  | .conclude op a :: rest => .answered op a :: (c.record (.reaction op a)).settleJournal rest
  | .deliver e :: rest =>
      .told c.breaker e ::
        match (c.emit e).react? e with
        | none => (c.emit e).settleJournal rest
        | some _ => []

/-- The journal of the work on an agenda, with at most so many reactions. -/
def runJournal : Nat → Circuit α → List (Task α) → List (Happening α)
  | fuel, c, tasks =>
      c.settleJournal tasks ++
        match c.settle tasks with
        | .done .. => []
        | .reaction op c rest =>
            match fuel with
            | 0 => []
            | fuel + 1 =>
                let (next, agenda) := c.begin op
                let conclusion := .conclude op (op.answer c.settings c.breaker)
                (c.ownDeeds op).map .did ++ runJournal fuel next (agenda ++ conclusion :: rest)

/-- The journal of the work on an agenda to its end. -/
def finishJournal (c : Circuit α) (tasks : List (Task α)) : List (Happening α) :=
  runJournal c.sink.queued c tasks

/-- The journal of an operation and of its reactions. -/
def performJournal (c : Circuit α) (op : Operation α) : List (Happening α) :=
  let (next, agenda) := c.begin op
  (c.ownDeeds op).map .did ++ next.finishJournal agenda

/-- The journal of a timer that runs out and of the reactions to that. -/
def expireJournal (c : Circuit α) (t : Timer) : List (Happening α) :=
  let effect := c.breaker.expire t
  .did ⟨c.now, c.breaker, .expire t⟩ ::
    { c with breaker := effect.breaker }.finishJournal effect.agenda

/-- The journal of a timer that runs out when it is due. -/
def ringJournal (c : Circuit α) (t : Timer) : List (Happening α) :=
  (c.reach t.alarm.due).expireJournal t

/-- The journal on the way to a time, in at most so many steps. -/
def passToJournal (time : Nat) : Nat → Circuit α → List (Happening α)
  | 0, _ => []
  | fuel + 1, c =>
      match c.dueBy? time with
      | some t => c.ringJournal t ++ passToJournal time fuel (c.ring t)
      | none => []

/-- The journal of so many milliseconds. -/
def passJournal (c : Circuit α) (ms : Nat) : List (Happening α) :=
  passToJournal (Alarm.set c.now ms).due c.patience c

/-- The journal of a wait until a time, in at most so many steps. -/
def awaitToJournal (cycle time : Nat) : Nat → Circuit α → List (Happening α)
  | 0, _ => []
  | fuel + 1, c =>
      match (c.breaker.fate cycle).verdict? with
      | some _ => []
      | none =>
          match c.dueBefore? time with
          | some t => c.ringJournal t ++ awaitToJournal cycle time fuel (c.ring t)
          | none => []

/-- The journal of a wait. -/
def awaitJournal (c : Circuit α) (cycle ms : Nat) : List (Happening α) :=
  awaitToJournal cycle (Alarm.set c.now ms).due c.patience c

end Circuit

namespace Session

/-- The journal of a step. -/
def stepJournal (s : Session α) : Step α → List (Happening α)
  | .operate handle op => if s.holds handle then s.circuit.performJournal op else []
  | .sleep ms => s.circuit.passJournal ms
  | .wait handle signal ms =>
      match s.cycle? handle signal with
      | some cycle =>
          s.circuit.awaitJournal cycle ms ++ (s.circuit.await cycle ms).1.passJournal 0
      | none => []
  | .drop handle =>
      if s.holds handle then
        if (s.drop handle).isLive then []
        else [.did ⟨s.circuit.now, s.circuit.breaker, .release⟩]
      else []
  | .capture _ | .spawn .. | .clone _ => []

/-- The journal of some steps. -/
def journal (s : Session α) : List (Step α) → List (Happening α)
  | [] => []
  | step :: steps => s.stepJournal step ++ (s.step step).1.journal steps

end Session

/-! ### What an effect tells at once

Only a line can have a reaction, so everything up to the first line is told without a
break.  What is left behind that line can be told much later, or never.
-/

/-- The emissions up to the first line, with that line. -/
def promptly : List Emission → List Emission
  | [] => []
  | .notice n :: _ => [.notice n]
  | e :: rest => e :: promptly rest

/-- The emissions behind the first line. -/
def belatedly : List Emission → List Emission
  | [] => []
  | .notice _ :: rest => rest
  | _ :: rest => belatedly rest

theorem mem_of_mem_promptly {es : List Emission} {e : Emission} (h : e ∈ promptly es) : e ∈ es := by
  induction es with
  | nil => exact h
  | cons e' es ih =>
      cases e' with
      | notice n => exact List.mem_cons.mpr (.inl (List.mem_singleton.mp h))
      | _ => exact List.mem_cons.mpr ((List.mem_cons.mp h).imp_right ih)

/-- The emission is the line that a cycle has started. -/
def Emission.IsStart (e : Emission) : Prop := ∃ k, e = .notice (.started k)

/-- Only that a cycle has started can be told late. -/
theorem Move.isStart_of_belatedly (s : BreakerSettings) (now : Nat) (b : Breaker) (move : Move) :
    ∀ e ∈ belatedly (move.effect s now b).emissions, e.IsStart := by
  cases move with
  | activate =>
      cases h : b.active <;>
        simp [effect, Breaker.activate, h, belatedly, Emission.IsStart]
  | deactivate =>
      cases h : b.active <;> simp [effect, Breaker.deactivate, h, belatedly]
  | report e =>
      rw [effect]
      cases ha : b.active with
      | false => simp [Breaker.addError, ha, belatedly]
      | true =>
          by_cases below : b.current + 1 < s.limit.toNat
          · rw [Breaker.addError_of_lt ha below]
            simp [belatedly]
          · have reached := Nat.le_of_not_lt below
            cases hp : Report.printList (b.errors ++ [e]) with
            | error fault =>
                rw [Breaker.addError_of_error ha reached hp]
                simp [belatedly]
            | ok errors =>
                rw [Breaker.addError_of_le ha reached hp]
                simp [belatedly]
  | expire t =>
      rw [effect]
      unfold Breaker.expire
      dsimp only
      split <;> simp [belatedly]
  | release => simp [effect, belatedly]

/-- What a deed tells at once, as entries of a journal. -/
def Deed.news (s : BreakerSettings) (d : Deed) : List (Happening α) :=
  (promptly (d.effect s).emissions).map (.told (d.after s))

@[simp] theorem Journal.deeds_news (s : BreakerSettings) (d : Deed) :
    Journal.deeds (d.news s : List (Happening α)) = [] :=
  deeds_map_told _ _

@[simp] theorem Journal.told_news (s : BreakerSettings) (d : Deed) :
    Journal.told (d.news s : List (Happening α)) = promptly (d.effect s).emissions :=
  told_map_told _ _

/-- All that some deeds have to tell, in their order. -/
def tidings (s : BreakerSettings) (h : List Deed) : List Emission :=
  h.flatMap fun d => (d.effect s).emissions

theorem tidings_append (s : BreakerSettings) (h h' : List Deed) :
    tidings s (h ++ h') = tidings s h ++ tidings s h' := List.flatMap_append

theorem tidings_singleton (s : BreakerSettings) (d : Deed) :
    tidings s [d] = (d.effect s).emissions := by
  simp [tidings]

/-! ### Chronicles -/

/-- The journal leads from one breaker to another. -/
inductive Chronicle (s : BreakerSettings) (origin : Breaker) :
    List (Happening α) → Breaker → Prop
  | nil : Chronicle s origin [] origin
  /-- Every deed is followed by its news. -/
  | deed {j : List (Happening α)} {b : Breaker} (time : Nat) (move : Move) :
      Chronicle s origin j b → Held (Journal.deeds j) → move.Possible b →
      Chronicle s origin (j ++ .did ⟨time, b, move⟩ :: Deed.news s ⟨time, b, move⟩)
        (move.effect s time b).breaker
  /-- That a cycle has started may be told at any time. -/
  | late {j : List (Happening α)} {b : Breaker} (k : Nat) :
      Chronicle s origin j b → Chronicle s origin (j ++ [.told b (.notice (.started k))]) b
  | answer {j : List (Happening α)} {b : Breaker} (op : Operation α) (a : Answer α) :
      Chronicle s origin j b → Chronicle s origin (j ++ [.answered op a]) b

namespace Chronicle

variable {s : BreakerSettings} {a b c : Breaker} {j j' : List (Happening α)}

/-- A single move with its news. -/
theorem single (time : Nat) (move : Move) (possible : move.Possible b) :
    Chronicle s b (.did ⟨time, b, move⟩ :: Deed.news s ⟨time, b, move⟩ : List (Happening α))
      (move.effect s time b).breaker :=
  .deed time move .nil held_nil possible

/-- Chronicles follow one another, unless the first one has let go and the second goes on. -/
theorem trans (first : Chronicle s a j b) (second : Chronicle s b j' c)
    (held : Held (Journal.deeds j) ∨ Journal.deeds j' = []) : Chronicle s a (j ++ j') c := by
  induction second with
  | nil => simpa using first
  | deed time move _ held' possible ih =>
      have hh : Held (Journal.deeds j) := by
        rcases held with hh | hnil
        · exact hh
        · simp at hnil
      rw [← List.append_assoc]
      refine .deed time move (ih (.inl hh)) ?_ possible
      rw [Journal.deeds_append]
      exact held_append.mpr ⟨hh, held'⟩
  | late k _ ih =>
      rw [← List.append_assoc]
      exact .late k (ih (held.imp_right (by simp)))
  | answer op a _ ih =>
      rw [← List.append_assoc]
      exact .answer op a (ih (held.imp_right (by simp)))

/-- Without what is told a chronicle is a passage. -/
theorem passage (chronicle : Chronicle s a j b) : Passage s a (Journal.deeds j) b := by
  induction chronicle with
  | nil => exact .nil
  | deed time move _ held possible ih =>
      rw [Journal.deeds_append, Journal.deeds_did, Journal.deeds_news]
      exact .deed time move ih held possible
  | late k _ ih => simpa using ih
  | answer op a _ ih => simpa using ih

/-- **What follows a deed begins with its news.** -/
theorem news_of_did (chronicle : Chronicle s a j b) {before after : List (Happening α)} {d : Deed}
    (happened : j = before ++ .did d :: after) : ∃ later, after = d.news s ++ later := by
  -- An entry behind the last deed only makes what is later longer.
  have longer : ∀ {g rest : List (Happening α)} {x : Happening α},
      (∀ rest, g = before ++ .did d :: rest → ∃ later, rest = d.news s ++ later) →
      x ≠ .did d → g ++ [x] = before ++ .did d :: rest → ∃ later, rest = d.news s ++ later := by
    intro g rest x ih hx heq
    rcases List.eq_nil_or_concat rest with rfl | ⟨front, last, rfl⟩
    · exact absurd (List.singleton_inj.mp (List.append_inj' heq rfl).2) hx
    · rw [List.concat_eq_append, ← List.cons_append, ← List.append_assoc] at heq
      obtain ⟨later, hlater⟩ := ih front (List.append_inj' heq rfl).1
      exact ⟨later ++ [last], by rw [List.concat_eq_append, hlater, List.append_assoc]⟩
  induction chronicle generalizing after with
  | nil => simp at happened
  | @deed g m time move _ _ _ ih =>
      rcases List.append_eq_append_iff.mp happened.symm with ⟨mid, hg, hafter⟩ | ⟨mid, hb, hdid⟩
      · cases mid with
        | nil =>
            obtain ⟨hd, hnews⟩ := List.cons.inj hafter
            obtain rfl := Happening.did.inj hd
            exact ⟨[], by rw [hnews, List.append_nil]⟩
        | cons x mid =>
            obtain ⟨rfl, hrest⟩ := List.cons.inj hafter
            obtain ⟨later, hlater⟩ := ih hg
            exact ⟨later ++ _, by rw [hrest, hlater]; exact List.append_assoc ..⟩
      · cases mid with
        | nil =>
            obtain ⟨hd, hnews⟩ := List.cons.inj hdid
            obtain rfl := Happening.did.inj hd
            exact ⟨[], by rw [hnews, List.append_nil]⟩
        | cons x mid =>
            -- Behind the last deed there is only what it tells.
            obtain ⟨-, hnews⟩ := List.cons.inj hdid
            have hmem : .did d ∈ (Deed.news s ⟨time, m, move⟩ : List (Happening α)) := by
              rw [hnews]
              simp
            simp [Deed.news] at hmem
  | late k _ ih => exact longer (fun _ => ih) (by simp) happened
  | answer op a _ ih => exact longer (fun _ => ih) (by simp) happened

end Chronicle

end Tripwire
