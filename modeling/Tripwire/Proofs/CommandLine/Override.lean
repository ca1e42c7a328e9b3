/-
What the options of a command line put in place of settings.

`Options.Merges` says which settings come out when options are put in place of some
others, setting by setting: what is given is taken, and what is not given stays.  A watch
is armed again if either side asks for it, as there is no option to the contrary.

A file is checked on its own before that.  So an option can be the reason why settings
are refused, but it cannot mend a file that is refused as it stands, `too_late_to_mend`.
Behind that first check only the merged settings count: whatever the file has to say about
a setting that an option replaces makes no difference.
-/
import Tripwire.CommandLine.Program
import Tripwire.Proofs.Settings.Document

namespace Tripwire.CommandLine

namespace Options

/-- The settings that the options are put on top of: those of a file, or else the defaults. -/
def Starts (o : Options) (file : String → File) (base : Settings) : Prop :=
  match o.config with
  | none => base = {}
  | some path => ∃ text, (file path).text? = .ok text ∧ Settings.ofText text = .ok base

/-- What is given takes the place of what was there. -/
def Takes {α : Type} (given : Option α) (before after : α) : Prop :=
  (∀ value, given = some value → after = value) ∧ (given = none → after = before)

/-- Every setting of the outcome is that of an option, or else that of the base. -/
structure Merges (o : Options) (base merged : Settings) : Prop where
  name : Takes o.name base.breaker.name merged.breaker.name
  limit : Takes o.limit base.breaker.limit merged.breaker.limit
  cooldown : Takes o.cooldownMs base.breaker.cooldownMs merged.breaker.cooldownMs
  pattern : Takes o.pattern base.watch.pattern merged.watch.pattern
  rearm : merged.watch.rearm = true ↔ base.watch.rearm = true ∨ o.rearm = true
  level : Takes o.logLevel base.log.level merged.log.level

/-- Two bases differ in nothing but what the options replace. -/
structure Agree (o : Options) (base base' : Settings) : Prop where
  name : o.name = none → base.breaker.name = base'.breaker.name
  limit : o.limit = none → base.breaker.limit = base'.breaker.limit
  cooldown : o.cooldownMs = none → base.breaker.cooldownMs = base'.breaker.cooldownMs
  pattern : o.pattern = none → base.watch.pattern = base'.watch.pattern
  rearm : o.rearm = false → base.watch.rearm = base'.watch.rearm
  level : o.logLevel = none → base.log.level = base'.log.level

theorem takes_iff {α : Type} {given : Option α} {before after : α} :
    Takes given before after ↔ after = given.getD before := by
  cases given <;> simp [Takes]

theorem getD_congr {α : Type} {given : Option α} {a b : α} (h : given = none → a = b) :
    given.getD a = given.getD b := by
  cases given with
  | none => exact h rfl
  | some value => rfl

variable {o : Options} {base base' merged : Settings} {file : String → File}

/-- There is one way to put options in place of settings. -/
theorem Merges.eq_override (merges : o.Merges base merged) : merged = o.override base := by
  have hname := takes_iff.mp merges.name
  have hlimit := takes_iff.mp merges.limit
  have hcooldown := takes_iff.mp merges.cooldown
  have hpattern := takes_iff.mp merges.pattern
  have hlevel := takes_iff.mp merges.level
  have hrearm : merged.watch.rearm = (base.watch.rearm || o.rearm) := by
    rw [Bool.eq_iff_iff, merges.rearm, Bool.or_eq_true]
  obtain ⟨breaker, watch, log⟩ := merged
  simp only at hname hlimit hcooldown hpattern hlevel hrearm
  simp [override, ← hname, ← hlimit, ← hcooldown, ← hpattern, ← hlevel, ← hrearm]

theorem merges_override (o : Options) (base : Settings) : o.Merges base (o.override base) where
  name := takes_iff.mpr rfl
  limit := takes_iff.mpr rfl
  cooldown := takes_iff.mpr rfl
  pattern := takes_iff.mpr rfl
  rearm := by simp [override]
  level := takes_iff.mpr rfl

/-- What the options replace is gone. -/
theorem Agree.override_eq (agree : o.Agree base base') : o.override base = o.override base' := by
  have hrearm : (base.watch.rearm || o.rearm) = (base'.watch.rearm || o.rearm) := by
    cases h : o.rearm with
    | true => simp
    | false => rw [agree.rearm h]
  simp only [override, getD_congr agree.name, getD_congr agree.limit, getD_congr agree.cooldown,
    getD_congr agree.pattern, getD_congr agree.level, hrearm]

/-- Nothing is wrong with the defaults. -/
theorem problems_default : ({} : Settings).problems = [] := by decide

/-- The base is checked, and then the outcome. -/
theorem resolve_eq (starts : o.Starts file base) :
    o.resolve file = base.checked.bind fun base => (o.override base).checked := by
  unfold Starts at starts
  unfold resolve
  cases hconfig : o.config with
  | none =>
      rw [hconfig] at starts
      obtain rfl : base = {} := starts
      have sound : ({} : Settings).checked = .ok {} := by
        rw [Settings.checked, if_pos problems_default]
      rw [sound]
      rfl
  | some path =>
      rw [hconfig] at starts
      obtain ⟨text, htext, hbase⟩ := starts
      have hload : Settings.load (file path) = base.checked := by
        rw [Settings.load, htext]
        show (Settings.ofText text).bind Settings.checked = _
        rw [hbase]
        rfl
      dsimp only
      rw [hload]
      rfl

theorem resolve_of_problems (starts : o.Starts file base) (wrong : base.problems ≠ []) :
    o.resolve file = .error (.problems base.problems) := by
  rw [resolve_eq starts, Settings.checked, if_neg wrong]
  rfl

theorem resolve_of_sound (starts : o.Starts file base) (sound : base.problems = []) :
    o.resolve file = (o.override base).checked := by
  rw [resolve_eq starts, Settings.checked, if_pos sound]
  rfl

/-- **A file is refused for its own problems, and otherwise the merged settings decide.**

If nothing is wrong with the base, as with the defaults, the outcome is the merged settings, or all
that is wrong with them.  Then what the options replace has no influence. -/
theorem resolves_as_merged (starts : o.Starts file base) (merges : o.Merges base merged) :
    (o.config = none → base.problems = []) ∧
      (base.problems ≠ [] → o.resolve file = .error (.problems base.problems)) ∧
      (base.problems = [] →
        (merged.problems = [] → o.resolve file = .ok merged) ∧
        (merged.problems ≠ [] → o.resolve file = .error (.problems merged.problems)) ∧
        ∀ file' base', o.Starts file' base' → base'.problems = [] → o.Agree base base' →
          o.resolve file' = o.resolve file) := by
  obtain rfl := merges.eq_override
  refine ⟨?_, resolve_of_problems starts, fun sound => ⟨?_, ?_, ?_⟩⟩
  · intro hconfig
    unfold Starts at starts
    rw [hconfig] at starts
    obtain rfl : base = {} := starts
    exact problems_default
  · intro fine
    rw [resolve_of_sound starts sound, Settings.checked, if_pos fine]
  · intro wrong
    rw [resolve_of_sound starts sound, Settings.checked, if_neg wrong]
  · intro file' base' starts' sound' agree
    rw [resolve_of_sound starts sound, resolve_of_sound starts' sound', agree.override_eq]

/-- Options that name a file start from the settings that are written in it. -/
theorem starts_document {path : String} (named : o.config = some path) (coded : Char → Bool)
    (writable : base.Writable) :
    o.Starts (fun _ => .bytes (base.document coded).toUTF8.data.toList) base := by
  unfold Starts
  rw [named]
  exact ⟨_, Settings.text?_toUTF8 _, Settings.ofText_document coded writable⟩

/-- A file that says nothing but this about the breaker. -/
def fileOf (breaker : BreakerSettings) : String → File :=
  fun _ => .bytes (({ breaker } : Settings).document fun _ => false).toUTF8.data.toList

/-- An option that makes no sense is what is wrong with a sound file. -/
theorem resolves_as_merged_with_zero :
    let o : Options := { config := some "c.toml", limit := some 0, cooldownMs := some 7 }
    let base : Settings := { breaker := { name := "mail", cooldownMs := 1 } }
    o.Starts (fileOf base.breaker) base ∧ o.Merges base (o.override base) ∧
      o.resolve (fileOf base.breaker) = .error (.problems [.zeroLimit "mail"]) := by
  intro o base
  have starts : o.Starts (fileOf base.breaker) base :=
    starts_document rfl _ ⟨by decide, by decide⟩
  have merges := merges_override o base
  have wrong : (o.override base).problems = [.zeroLimit "mail"] := by decide
  obtain ⟨-, -, sound⟩ := resolves_as_merged starts merges
  obtain ⟨-, refused, -⟩ := sound (by decide)
  rw [wrong] at refused
  exact ⟨starts, merges, refused (by simp)⟩

/-- A name that is given does not mend a file without a name, although nothing is wrong with the
merged settings, and although it mends a file with another one. -/
theorem too_late_to_mend :
    let o : Options := { config := some "c.toml", name := some "n" }
    let base : Settings := { breaker := { name := "" } }
    let base' : Settings := { breaker := { name := "m" } }
    o.Starts (fileOf base.breaker) base ∧ o.Starts (fileOf base'.breaker) base' ∧
      o.Merges base (o.override base) ∧ (o.override base).problems = [] ∧ o.Agree base base' ∧
      o.resolve (fileOf base.breaker) = .error (.problems [.emptyName]) ∧
      o.resolve (fileOf base'.breaker) = .ok (o.override base) := by
  intro o base base'
  have starts : o.Starts (fileOf base.breaker) base :=
    starts_document rfl _ ⟨by decide, by decide⟩
  have starts' : o.Starts (fileOf base'.breaker) base' :=
    starts_document rfl _ ⟨by decide, by decide⟩
  have agree : o.Agree base base' := by constructor <;> decide
  have nameless : base.problems = [.emptyName] := by decide
  have refused := resolve_of_problems starts (by rw [nameless]; simp)
  have fine : (o.override base).problems = [] := by decide
  have taken : o.resolve (fileOf base'.breaker) = .ok (o.override base) := by
    rw [resolve_of_sound starts' (by decide), ← agree.override_eq, Settings.checked, if_pos fine]
  rw [nameless] at refused
  exact ⟨starts, starts', merges_override o base, fine, agree, refused, taken⟩

end Options

end Tripwire.CommandLine
