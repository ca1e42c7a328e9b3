/-
The breaker is a sliding window.

`Window` is what the breaker is meant to be: a list of errors and the time of the
last one, with no timers and no stamps.  The list becomes empty when a cooldown has
passed since the last error, and the error that makes it reach the limit trips the
window.  This file shows that a breaker on which somebody calls and sleeps is at each
step what its window is.

The relation between the two is `Session.Mirrors`.  It says that the log is the list,
and that the timer, if errors count, is due when the quiet period after the last of
them is over.  Calls keep it by the lemmas on the shape of a breaker.  For a sleep,
`Circuit.lapses_pass` says that the only timer runs out at exactly the time when the
window empties its list.

A sleep of more than thirty years is cut off, and the clock of the breaker then lags
behind that of the window.  Nobody can tell, as a quiet period of thirty years has
emptied both.  A cooldown of more than thirty years is cut off too, and that shows:
`Session.early_beyond_thirty_years`.
-/
import Mathlib.Algebra.Order.BigOperators.Group.List
import Mathlib.Algebra.Order.Ring.Nat
import Mathlib.Data.List.Induction
import Mathlib.Order.Bounds.Basic
import Tripwire.Proofs.Lapse

namespace Tripwire

/-! ### The window -/

/-- What somebody does to a breaker. -/
inductive Stimulus where
  | activate
  | deactivate
  | report (e : Report)
  /-- Lets so many milliseconds pass. -/
  | sleep (ms : Nat)

/-- The stimulus as a step of a script. -/
def Stimulus.step {α : Type} : Stimulus → Step α
  | activate => .operate 0 .activate
  | deactivate => .operate 0 .deactivate
  | report e => .operate 0 (.addError e)
  | sleep ms => .sleep ms

/-- Whether a window takes errors. -/
inductive Mode where
  | inactive
  | active
  | tripped
  deriving DecidableEq

/-- A sliding window. -/
structure Window where
  mode : Mode := .inactive
  /-- The errors in the window, oldest first. -/
  errors : List Report := []
  /-- When the last error came. -/
  last : Nat := 0
  now : Nat := 0

namespace Window

/-- What can be seen of a window. -/
def status (w : Window) : Status := ⟨w.mode = .active, w.errors.length, w.mode = .tripped⟩

/-- What a stimulus does to a window. -/
def step (s : BreakerSettings) (w : Window) : Stimulus → Window
  | .activate => { w with mode := .active, errors := [] }
  | .deactivate => if w.mode = .active then { w with mode := .inactive, errors := [] } else w
  | .report e =>
      if w.mode = .active then
        if s.limit.toNat ≤ w.errors.length + 1 then
          { w with mode := .tripped, errors := [], last := w.now }
        else { w with errors := w.errors ++ [e], last := w.now }
      else w
  | .sleep ms =>
      { w with
        now := w.now + ms
        errors := if w.last + s.cooldownMs.toNat ≤ w.now + ms then [] else w.errors }

/-- The window after some stimuli. -/
def after (s : BreakerSettings) (w : Window) (stimuli : List Stimulus) : Window :=
  stimuli.foldl (step s) w

/-- What can be seen of the window after each of some stimuli. -/
def run (s : BreakerSettings) (w : Window) : List Stimulus → List Status
  | [] => []
  | stimulus :: stimuli =>
      let next := w.step s stimulus
      next.status :: next.run s stimuli

end Window

/-! ### The longest streak of errors -/

/-- When errors have come. -/
structure Arrivals where
  /-- Those since the last activation, latest first. -/
  times : List Nat := []
  now : Nat := 0

/-- The arrivals with one more stimulus. -/
def Arrivals.step (a : Arrivals) : Stimulus → Arrivals
  | .activate => { a with times := [] }
  | .deactivate => a
  | .report _ => { a with times := a.now :: a.times }
  | .sleep ms => { a with now := a.now + ms }

/-- The arrivals among some stimuli. -/
def arrivals (stimuli : List Stimulus) : Arrivals := stimuli.foldl Arrivals.step {}

namespace Window

/-- How many of the times follow closely on one another, from the latest on. -/
def streak (cooldown now : Nat) : List Nat → Nat
  | [] => 0
  | time :: times => if now < time + cooldown then streak cooldown time times + 1 else 0

/-- A streak is as long as can be. -/
theorem isGreatest_streak (cooldown now : Nat) (times : List Nat) :
    IsGreatest {n | n ≤ times.length ∧
        (now :: times.take n).IsChain fun later earlier => later < earlier + cooldown}
      (streak cooldown now times) := by
  induction times generalizing now with
  | nil => exact ⟨⟨Nat.le_refl 0, by simp⟩, fun n hn => hn.1⟩
  | cons time times ih =>
      obtain ⟨⟨hle, hchain⟩, hgreatest⟩ := ih time
      rw [streak]
      split
      · rename_i hnear
        refine ⟨⟨Nat.succ_le_succ hle, ?_⟩, ?_⟩
        · rw [List.take_succ_cons]
          exact List.IsChain.cons_cons hnear hchain
        · rintro n ⟨hn, hn'⟩
          cases n with
          | zero => exact Nat.zero_le _
          | succ n =>
              rw [List.take_succ_cons, List.isChain_cons_cons] at hn'
              exact Nat.succ_le_succ (hgreatest ⟨Nat.le_of_succ_le_succ hn, hn'.2⟩)
      · rename_i hfar
        refine ⟨⟨Nat.zero_le _, by simp⟩, ?_⟩
        rintro n ⟨-, hn'⟩
        cases n with
        | zero => exact Nat.le_refl 0
        | succ n =>
            rw [List.take_succ_cons, List.isChain_cons_cons] at hn'
            exact absurd hn'.1 hfar

/-- The errors of a window are those of the longest streak. -/
structure Counted (s : BreakerSettings) (a : Arrivals) (w : Window) : Prop where
  now : w.now = a.now
  /-- A window that takes no errors has none. -/
  idle : w.mode ≠ .active → w.errors = []
  length : w.mode = .active → w.errors.length = streak s.cooldownMs.toNat a.now a.times
  last : w.mode = .active → ∀ time ∈ a.times.head?, w.last = time

namespace Counted

variable {s : BreakerSettings} {a : Arrivals} {w : Window}

/-- A window that takes no errors has no streak to keep. -/
theorem ofIdle (now : w.now = a.now) (idle : w.mode ≠ .active) (errors : w.errors = []) :
    Counted s a w :=
  ⟨now, fun _ => errors, fun active => absurd active idle, fun active => absurd active idle⟩

theorem report (counted : Counted s a w) (valid : 0 < s.cooldownMs.toNat) (e : Report) :
    Counted s (a.step (.report e)) (w.step s (.report e)) := by
  rw [Window.step]
  split
  · rename_i active
    split
    · exact .ofIdle counted.now (by simp) rfl
    · refine ⟨counted.now, fun idle => absurd active idle, fun _ => ?_, ?_⟩
      · show (w.errors ++ [e]).length = streak _ a.now (a.now :: a.times)
        rw [List.length_append, counted.length active, streak,
          if_pos (Nat.lt_add_of_pos_right valid)]
        rfl
      · intro _ time ht
        exact counted.now.trans (Option.some.inj ht)
  · rename_i idle
    exact .ofIdle counted.now idle (counted.idle idle)

theorem sleep (counted : Counted s a w) (ms : Nat) :
    Counted s (a.step (.sleep ms)) (w.step s (.sleep ms)) where
  now := by rw [step, counted.now, Arrivals.step]
  idle := by
    intro idle
    show (if _ then [] else w.errors) = []
    rw [counted.idle idle]
    exact ite_self _
  length := by
    intro active
    have hlength := counted.length active
    show (if w.last + s.cooldownMs.toNat ≤ w.now + ms then [] else w.errors).length
      = streak _ (a.now + ms) a.times
    rw [counted.now]
    cases htimes : a.times with
    | nil =>
        rw [htimes, streak, List.length_eq_zero_iff] at hlength
        rw [hlength, ite_self]
        rfl
    | cons time times =>
        have hlast := counted.last active time (by rw [htimes]; rfl)
        rw [htimes, streak] at hlength
        rw [hlast, streak]
        by_cases hquiet : time + s.cooldownMs.toNat ≤ a.now + ms
        · rw [if_pos hquiet, if_neg (by omega)]
          rfl
        · rw [if_neg hquiet, if_pos (by omega), hlength, if_pos (by omega)]
  last := counted.last

end Counted

/-- After any stimuli the errors of an active window are those of the longest streak. -/
theorem counted_after (s : BreakerSettings) (valid : 0 < s.cooldownMs.toNat)
    (stimuli : List Stimulus) : Counted s (arrivals stimuli) (after s {} stimuli) := by
  induction stimuli using List.reverseRecOn with
  | nil => exact .ofIdle rfl (by simp [after]) rfl
  | append_singleton stimuli stimulus ih =>
      rw [after, arrivals, List.foldl_concat, List.foldl_concat]
      cases stimulus with
      | activate =>
          refine ⟨ih.now, fun h => ?_, fun _ => rfl, fun _ => ?_⟩
          · simp [step] at h
          · simp [Arrivals.step]
      | deactivate =>
          rw [step]
          split
          · exact .ofIdle ih.now (by simp) rfl
          · exact ih
      | report e => exact ih.report valid e
      | sleep ms => exact ih.sleep ms

end Window

/-! ### A breaker and its window -/

/-- The stimulus is one that a window answers for: errors can be written. -/
def Stimulus.Fits : Stimulus → Prop
  | report e => ∃ text, e.print = .ok text
  | _ => True

/-- By how much a sleep is cut off. -/
def Stimulus.excess : Stimulus → Nat
  | sleep ms => ms - Alarm.farthest
  | _ => 0

namespace Breaker

variable {s : BreakerSettings} {lag : Nat} {w : Window} {b : Breaker}

/-- The breaker is what the window is, and its clock lags behind that of the window. -/
structure Realizes (s : BreakerSettings) (lag : Nat) (w : Window) (b : Breaker) : Prop where
  sound : Sound s b
  /-- The errors that count lapse together with those of the window. -/
  calm : ∃ last, (b.active = true → Calm s last b) ∧ (b.errors ≠ [] → w.last = last + lag)
  past : w.last ≤ w.now
  active : b.active = true ↔ w.mode = .active
  tripped : b.cycle ∈ b.fired ↔ w.mode = .tripped
  errors : b.errors = w.errors
  printable : ∀ e ∈ w.errors, ∃ text, e.print = .ok text

namespace Realizes

theorem fresh : Realizes s 0 {} {} where
  sound := .fresh
  calm := ⟨0, by simp, by simp⟩
  past := Nat.le_refl 0
  active := by simp
  tripped := by simp
  errors := rfl
  printable := by simp

theorem idle (real : Realizes s lag w b) (h : b.active = false) : w.mode ≠ .active := by
  intro active
  rw [real.active.mpr active] at h
  simp at h

theorem status_eq (real : Realizes s lag w b) : b.status = w.status := by
  have hactive : b.active = decide (w.mode = .active) := by
    rw [Bool.eq_iff_iff, real.active, decide_eq_true_iff]
  have htripped : b.isTripped b.cycle = decide (w.mode = .tripped) := by
    rw [Bool.eq_iff_iff, decide_eq_true_iff, ← real.tripped, isTripped_iff]
  rw [status, Window.status, hactive, htripped, current, real.errors]

theorem activate (real : Realizes s lag w b) (valid : 0 < s.limit.toNat) :
    Realizes s lag (w.step s .activate) b.activate.breaker where
  sound := real.sound.activate valid
  calm := ⟨0, fun _ => real.sound.calm_activate valid 0,
    fun counts => absurd real.sound.errors_activate counts⟩
  past := real.past
  active := by simp [Breaker.activate, Window.step]
  tripped := by
    rw [fired_activate]
    refine ⟨fun h => ?_, fun h => by simp [Window.step] at h⟩
    exact absurd (real.sound.fired_le _ h) (Nat.not_succ_le_self b.cycle)
  errors := real.sound.errors_activate
  printable := by simp [Window.step]

theorem deactivate (real : Realizes s lag w b) :
    Realizes s lag (w.step s .deactivate) b.deactivate.breaker := by
  cases hactive : b.active with
  | true =>
      have hmode := real.active.mp hactive
      have hend : b.deactivate.breaker = b.endCycle := by simp [Breaker.deactivate, hactive]
      rw [hend, Window.step, if_pos hmode]
      exact
        { sound := .endCycle real.sound.otherTimers real.sound.fired_le
          calm := ⟨0, by simp [endCycle], by simp [endCycle]⟩
          past := real.past
          active := by simp [endCycle]
          tripped := by simpa [endCycle] using real.sound.unfired hactive
          errors := rfl
          printable := by simp }
  | false =>
      have hsame : b.deactivate.breaker = b := by simp [Breaker.deactivate, hactive]
      rw [hsame, Window.step, if_neg (real.idle hactive)]
      exact real

/-- An error counts, trips the window or is ignored, as in the window. -/
theorem report (real : Realizes s lag w b) {now : Nat} (hnow : w.now = now + lag) {e : Report}
    (printable : ∃ text, e.print = .ok text) :
    Realizes s lag (w.step s (.report e)) (b.addError s now e).breaker := by
  have sound := real.sound.addError now e
  have hlength : w.errors.length = b.current := by rw [current, real.errors]
  have hprintable : ∀ e' ∈ w.errors ++ [e], ∃ text, e'.print = .ok text := by
    intro e' he'
    rcases List.mem_append.mp he' with he' | he'
    · exact real.printable e' he'
    · rw [List.mem_singleton.mp he']
      exact printable
  rcases addError_cases s now e b with ⟨ha, heq⟩ | ⟨ha, hl, heq, -⟩ | ⟨-, -, f, hf, -, -⟩ |
    ⟨ha, hl, errors, -, heq, -⟩
  · rw [heq, Window.step, if_neg (real.idle ha)]
    exact real
  · have hmode := real.active.mp ha
    rw [heq] at sound ⊢
    rw [Window.step, if_pos hmode, if_neg (by omega)]
    exact
      { sound
        calm := ⟨now, fun _ => .arm real.sound now e hl, fun _ => hnow⟩
        past := Nat.le_refl w.now
        active := real.active
        tripped := real.tripped
        errors := by simp [arm, count, real.errors]
        printable := hprintable }
  · obtain ⟨e', he', hfault⟩ := Report.exists_of_printList_eq_error hf
    rw [real.errors] at he'
    obtain ⟨text, htext⟩ := hprintable e' he'
    exact absurd (htext.symm.trans hfault) (by simp)
  · have hmode := real.active.mp ha
    rw [heq] at sound ⊢
    rw [Window.step, if_pos hmode, if_pos (by omega)]
    exact
      { sound
        calm := ⟨0, by simp [endCycle], by simp [endCycle]⟩
        past := Nat.le_refl w.now
        active := by simp [endCycle]
        tripped := by
          have hsender : (b.count e).sender = true := real.sound.sender.trans ha
          simp [fire, hsender, endCycle]
        errors := rfl
        printable := by simp }

end Realizes

end Breaker

/-! ### Sessions -/

namespace Session

variable {α : Type}

/-- The session has one handle and no reactions, and its breaker is what the window is. -/
structure Mirrors (settings : BreakerSettings) (lag : Nat) (w : Window) (s : Session α) :
    Prop where
  realizes : s.circuit.breaker.Realizes settings lag w
  settings : s.circuit.settings = settings
  now : w.now = s.circuit.now + lag
  handles : s.handles = [true]
  quiet : s.circuit.sink.queued = 0

namespace Mirrors

variable {settings : BreakerSettings} {lag : Nat} {w : Window} {s : Session α}

theorem status_snapshot (mirrors : Mirrors settings lag w s) (reply : Reply α) :
    (s.snapshot reply).status = some w.status := by
  simp [snapshot, mirrors.handles, mirrors.realizes.status_eq]

/-- A call is to the breaker what it is to the window. -/
theorem operate (mirrors : Mirrors settings lag w s) (op : Operation α) {w' : Window}
    (now : w'.now = w.now)
    (realizes : (op.effect settings s.circuit.now s.circuit.breaker).breaker.Realizes
      settings lag w') :
    Mirrors settings lag w' (s.perform (.operate 0 op)).1 := by
  have held : s.holds 0 = true := by rw [holds, mirrors.handles]; rfl
  rw [perform_operate held, Circuit.perform_of_quiet mirrors.quiet]
  exact
    { realizes := by
        rw [Circuit.breaker_undergo, mirrors.settings]
        exact realizes
      settings := mirrors.settings
      now := now.trans mirrors.now
      handles := mirrors.handles
      quiet := mirrors.quiet }

/-- A sleep lets the window empty itself, and the timer runs out at the same time. -/
theorem sleep (mirrors : Mirrors settings lag w s) (valid : 0 < settings.limit.toNat)
    (cooldown : settings.cooldownMs.toNat ≤ Alarm.farthest) (ms : Nat) :
    Mirrors settings (lag + (ms - Alarm.farthest)) (w.step settings (.sleep ms))
      (s.perform (.sleep ms)).1 := by
  obtain ⟨real, hsettings, hnow, handles, quiet⟩ := mirrors
  obtain ⟨last, calm, hlast⟩ := real.calm
  have ticking : s.circuit.Ticking last :=
    ⟨⟨quiet, hsettings ▸ valid, hsettings ▸ real.sound⟩, hsettings ▸ calm⟩
  have htime := (Circuit.pass_spec s.circuit ms).1
  obtain ⟨⟨⟨quiet', -, sound'⟩, calm'⟩, -, hsettings', hactive, hcycle, hfired, herrors⟩ :=
    Circuit.lapses_pass ticking ms
  rw [hsettings] at hsettings'
  rw [hsettings'] at sound' calm'
  rw [htime, hsettings, Breaker.quietEnd_eq cooldown, real.errors] at herrors
  have hpast := real.past
  rw [real.errors] at hlast
  -- A sleep that is cut off is long enough to empty both.
  have lapsed : (s.circuit.pass ms).breaker.errors = (w.step settings (.sleep ms)).errors := by
    rw [herrors, Window.step]
    dsimp only
    by_cases counts : w.errors = []
    · rw [counts, ite_self, ite_self]
    · have := hlast counts
      refine if_congr ?_ rfl rfl
      omega
  refine ⟨?_, hsettings', ?_, handles, quiet'⟩
  · show Breaker.Realizes settings _ (w.step settings (.sleep ms)) (s.circuit.pass ms).breaker
    refine
      { sound := sound'
        calm := ⟨last, calm', fun counts => ?_⟩
        past := hpast.trans (Nat.le_add_right _ _)
        active := by rw [hactive]; exact real.active
        tripped := by rw [hcycle, hfired]; exact real.tripped
        errors := lapsed
        printable := ?_ }
    · rw [herrors] at counts
      split at counts
      · exact absurd rfl counts
      · have := hlast counts
        show w.last = _
        omega
    · intro e he
      rw [Window.step] at he
      dsimp only at he
      split at he
      · simp at he
      · exact real.printable e he
  · show w.now + ms = (s.circuit.pass ms).now + _
    rw [htime, hnow]
    omega

/-- A stimulus is to the breaker what it is to the window. -/
theorem step (mirrors : Mirrors settings lag w s) (valid : 0 < settings.limit.toNat)
    (cooldown : settings.cooldownMs.toNat ≤ Alarm.farthest) {stimulus : Stimulus}
    (fits : stimulus.Fits) :
    Mirrors settings (lag + stimulus.excess) (w.step settings stimulus)
      (s.perform stimulus.step).1 := by
  cases stimulus with
  | activate => exact mirrors.operate .activate rfl (mirrors.realizes.activate valid)
  | deactivate =>
      refine mirrors.operate .deactivate ?_ mirrors.realizes.deactivate
      rw [Window.step]
      split <;> rfl
  | report e =>
      refine mirrors.operate (.addError e) ?_ (mirrors.realizes.report mirrors.now fits)
      rw [Window.step]
      split
      · split <;> rfl
      · rfl
  | sleep ms => exact mirrors.sleep valid cooldown ms

end Mirrors

/-- Along any run of stimuli the session shows what the window shows. -/
theorem Mirrors.run {settings : BreakerSettings} {lag : Nat} {w : Window} {s : Session α}
    (mirrors : Mirrors settings lag w s) (valid : 0 < settings.limit.toNat)
    (cooldown : settings.cooldownMs.toNat ≤ Alarm.farthest) (stimuli : List Stimulus)
    (fits : ∀ stimulus ∈ stimuli, stimulus.Fits) :
    (s.run (stimuli.map Stimulus.step)).map Snapshot.status
        = (w.run settings stimuli).map some ∧
      Mirrors settings (lag + (stimuli.map Stimulus.excess).sum) (w.after settings stimuli)
        (s.after (stimuli.map Stimulus.step)) := by
  induction stimuli generalizing lag w s with
  | nil => exact ⟨rfl, mirrors⟩
  | cons stimulus stimuli ih =>
      have next := mirrors.step valid cooldown (fits stimulus (by simp))
      -- A step also takes the events away, and those matter to nobody.
      have drained : Mirrors settings (lag + stimulus.excess) (w.step settings stimulus)
          (s.step stimulus.step).1 :=
        ⟨next.realizes, next.settings, next.now, next.handles, next.quiet⟩
      obtain ⟨hstatus, hend⟩ := ih drained fun stimulus h => fits stimulus (by simp [h])
      refine ⟨?_, ?_⟩
      · rw [List.map_cons, Session.run, Window.run]
        exact congrArg₂ List.cons (next.status_snapshot _) hstatus
      · rw [List.map_cons, List.sum_cons, ← Nat.add_assoc]
        exact hend

/-- **On which somebody calls and sleeps, a breaker without reactions is a sliding window.**

After each stimulus it shows what the window shows.  At the end, and so after each of them, its log
is that of the window, and so is its clock, but for what has been cut off from sleeps.  What an
active breaker counts is the longest streak of errors of its cycle: each came less than a cooldown
before the next, and the last of them less than a cooldown ago. -/
theorem shows_window {hasRuntime : Bool} {settings : BreakerSettings} {sink : Sink α}
    {c : Circuit α} (made : Circuit.create hasRuntime settings sink = .ok c)
    (quiet : sink.queued = 0) (cooldown : settings.cooldownMs.toNat ≤ Alarm.farthest)
    (stimuli : List Stimulus) (fits : ∀ stimulus ∈ stimuli, stimulus.Fits) :
    let start : Session α := { circuit := c }
    let w := Window.after settings {} stimuli
    let a := arrivals stimuli
    let last := (start.after (stimuli.map Stimulus.step)).circuit
    (start.run (stimuli.map Stimulus.step)).map Snapshot.status
        = (Window.run settings {} stimuli).map some ∧
      last.now + (stimuli.map Stimulus.excess).sum = a.now ∧ last.breaker.errors = w.errors ∧
      (last.breaker.active = true →
        IsGreatest {n | n ≤ a.times.length ∧ (a.now :: a.times.take n).IsChain fun later earlier =>
          later < earlier + settings.cooldownMs.toNat} last.breaker.current) := by
  obtain ⟨rfl, hlimit, hcooldown⟩ := Circuit.of_create made
  have fresh : Mirrors settings 0 {} { circuit := { settings, sink } } :=
    ⟨.fresh, rfl, rfl, rfl, quiet⟩
  obtain ⟨hstatus, mirrors⟩ := fresh.run hlimit cooldown stimuli fits
  rw [Nat.zero_add] at mirrors
  have counted := Window.counted_after settings hcooldown stimuli
  refine ⟨hstatus, mirrors.now.symm.trans counted.now, mirrors.realizes.errors, fun active => ?_⟩
  have hmode := mirrors.realizes.active.mp active
  rw [Breaker.current, mirrors.realizes.errors, counted.length hmode]
  exact Window.isGreatest_streak _ _ _

/-- Three errors, the second and the third a whole cooldown apart, and then two more. -/
def pauseAtCooldown : List Stimulus :=
  [.activate, .report (.text "a"), .sleep 9, .report (.text "b"), .sleep 10, .report (.text "c"),
   .sleep 9, .report (.text "d"), .sleep 9, .report (.text "e")]

/-- The pause clears the count, and the three errors after it trip the breaker. -/
theorem shows_window_of_pause :
    let settings : BreakerSettings := { limit := 3, cooldownMs := 10 }
    let start : Session Unit := { circuit := { settings, sink := .logging } }
    Circuit.create true settings (.logging : Sink Unit) = .ok start.circuit ∧
      (∀ stimulus ∈ pauseAtCooldown, stimulus.Fits) ∧
      (start.run (pauseAtCooldown.map Stimulus.step)).map Snapshot.status
        = (Window.run settings {} pauseAtCooldown).map some ∧
      (Window.run settings {} pauseAtCooldown).map Status.current
        = [0, 1, 1, 2, 0, 1, 1, 2, 2, 0] ∧
      (Window.after settings {} pauseAtCooldown).mode = .tripped := by
  have made : Circuit.create true { limit := 3, cooldownMs := 10 } (.logging : Sink Unit)
      = .ok { settings := { limit := 3, cooldownMs := 10 }, sink := .logging } := rfl
  have fits : ∀ stimulus ∈ pauseAtCooldown, stimulus.Fits := by
    simp [pauseAtCooldown, Stimulus.Fits, Report.print]
  exact ⟨made, fits, (shows_window made rfl (by decide) pauseAtCooldown fits).1, by decide,
    by decide⟩

/-- With a cooldown of about 35 years a breaker clears its count after thirty, and a window only
after the cooldown. -/
theorem early_beyond_thirty_years :
    let settings : BreakerSettings := { limit := 2, cooldownMs := 1099511627776 }
    let start : Session Unit := { circuit := { settings, sink := .logging } }
    let stimuli : List Stimulus := [.activate, .report (.text "a"), .sleep 1099511627775]
    Circuit.create true settings (.logging : Sink Unit) = .ok start.circuit ∧
      (start.run (stimuli.map Stimulus.step)).map Snapshot.status
        = [⟨true, 0, false⟩, ⟨true, 1, false⟩, ⟨true, 0, false⟩].map some ∧
      Window.run settings {} stimuli = [⟨true, 0, false⟩, ⟨true, 1, false⟩, ⟨true, 1, false⟩] :=
  ⟨rfl, by decide, by decide⟩

end Session

end Tripwire
