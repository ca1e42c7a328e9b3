/-
What a document means as settings.

There are six settings, `slots`, each with a table, a key in it, and what it has to be.  A
document gives one of them a value if it has that table and there that key, `Gives`.  Nothing
else counts: the values that are given decide whether the document can be read at all,
`exists_ofEntries_iff`, and if so, each setting is the value that it is given, or its default
if it is given none, `Describes`.

So the order of tables and keys makes no difference, and neither do keys that name no setting.
`Restated` is the least relation between documents with such changes, and documents in it give
the settings the same values, `Restated.gives_iff`.

Both rest on what is true of every document that is read from a text.  If a key could be there
twice, the order would matter; and if an integer could have more than 64 bits, it might not fit
its setting.
-/
import Tripwire.Proofs.Settings.Reading
import Tripwire.Proofs.Toml.Tidy
import Tripwire.Proofs.Toml.Writing
import Tripwire.Settings.Loading

namespace Tripwire

/-- The value is what is expected.  A number is not negative, and not too large for an integer of a
document either. -/
def Expectation.Admits : Expectation → Toml.Value → Prop
  | .text, v => ∃ s, v = .string s
  | .truth, v => ∃ b, v = .boolean b
  | .count, v => ∃ n : Int, v = .integer n ∧ 0 ≤ n ∧ n < (Nat.pow 2 63 : Nat)
  | .milliseconds, v => ∃ n : Int, v = .integer n ∧ 0 ≤ n ∧ n < (Nat.pow 2 63 : Nat)
  | .group _, v => ∃ entries, v = .table entries

namespace Settings

open Toml (Value)

/-- A setting: the table it belongs to, its key there, and what it has to be. -/
structure Slot where
  group : String
  key : String
  expected : Expectation

/-- All settings. -/
def slots : List Slot :=
  [⟨"breaker", "name", .text⟩, ⟨"breaker", "limit", .count⟩,
   ⟨"breaker", "cooldown_ms", .milliseconds⟩, ⟨"watch", "pattern", .text⟩,
   ⟨"watch", "rearm", .truth⟩, ⟨"observability", "log_level", .text⟩]

/-- The document has the table, and there the key with the value. -/
def Gives (document : List (String × Value)) (group key : String) (v : Value) : Prop :=
  ∃ table, (group, .table table) ∈ document ∧ (key, v) ∈ table

/-- What stands under the name of a group is a table. -/
def Grouped (document : List (String × Value)) : Prop :=
  ∀ slot ∈ slots, ∀ v, (slot.group, v) ∈ document → ∃ table, v = .table table

/-- The value is what its setting has to be, if it belongs to one. -/
def Fits (group key : String) (v : Value) : Prop :=
  ∀ slot ∈ slots, slot.group = group → slot.key = key → slot.expected.Admits v

/-! ### Values -/

theorem eq_of_readText {v : Value} {s : String} (h : readText v = .ok s) : v = .string s := by
  cases v <;> cases h
  rfl

theorem eq_of_readTruth {v : Value} {b : Bool} (h : readTruth v = .ok b) : v = .boolean b := by
  cases v <;> cases h
  rfl

theorem readNumber_integer {expected : Expectation} {n : Int} (low : 0 ≤ n) :
    readNumber expected (.integer n) = .ok (.ofNat n.toNat) := by
  rw [readNumber, if_neg (Int.not_lt.mpr low)]

theorem exists_of_readNumber {expected : Expectation} {v : Value} {n : UInt64}
    (h : readNumber expected v = .ok n) : ∃ m : Int, v = .integer m ∧ 0 ≤ m := by
  cases v with
  | integer m =>
      refine ⟨m, rfl, ?_⟩
      by_contra negative
      rw [readNumber, if_pos (Int.not_le.mp negative)] at h
      cases h
  | _ => cases h

/-- A number is read as it is, because no integer of a document is too large. -/
theorem eq_of_readNumber {expected : Expectation} {v : Value} {n : UInt64} (tidy : v.Tidy)
    (h : readNumber expected v = .ok n) : v = .integer n.toNat := by
  obtain ⟨m, rfl, low⟩ := exists_of_readNumber h
  rw [readNumber_integer low] at h
  obtain rfl := Except.ok.inj h
  cases tidy with
  | integer _ high =>
      have fits : m.toNat < UInt64.size := by
        have : Nat.pow 2 63 < UInt64.size := by decide
        omega
      rw [UInt64.toNat_ofNat_of_lt' fits, Int.toNat_of_nonneg low]

theorem exists_readText_iff {v : Value} : (∃ s, readText v = .ok s) ↔ ∃ s, v = .string s :=
  ⟨fun ⟨s, h⟩ => ⟨s, eq_of_readText h⟩, fun ⟨s, h⟩ => ⟨s, h ▸ rfl⟩⟩

theorem exists_readTruth_iff {v : Value} : (∃ b, readTruth v = .ok b) ↔ ∃ b, v = .boolean b :=
  ⟨fun ⟨b, h⟩ => ⟨b, eq_of_readTruth h⟩, fun ⟨b, h⟩ => ⟨b, h ▸ rfl⟩⟩

theorem exists_readNumber_iff {expected : Expectation} {v : Value} (tidy : v.Tidy) :
    (∃ n, readNumber expected v = .ok n) ↔
      ∃ n : Int, v = .integer n ∧ 0 ≤ n ∧ n < (Nat.pow 2 63 : Nat) := by
  constructor
  · rintro ⟨n, h⟩
    obtain ⟨m, rfl, low⟩ := exists_of_readNumber h
    cases tidy with
    | integer _ high => exact ⟨m, rfl, low, high⟩
  · rintro ⟨n, rfl, low, -⟩
    exact ⟨_, readNumber_integer low⟩

/-! ### Which documents can be read -/

/-- The fields are those of the settings in a table. -/
structure Suits {σ : Type} (group : String) (fields : List (Field σ)) : Prop where
  steady : Steady fields
  takes : ∀ key v, v.Tidy →
    ((∀ field ∈ fields, field.key = key → field.Takes v) ↔ Fits group key v)

theorem suits_breaker : Suits "breaker" breakerFields where
  steady := by
    constructor
    · simp [breakerFields]
    · simp [breakerFields, Field.of_decided]
  takes key v tidy := by
    simp [breakerFields, Fits, slots, Expectation.Admits, Field.of_takes_iff ({} : BreakerSettings),
      exists_readText_iff, exists_readNumber_iff tidy]

theorem suits_watch : Suits "watch" watchFields where
  steady := by
    constructor
    · simp [watchFields]
    · simp [watchFields, Field.of_decided]
  takes key v _ := by
    simp [watchFields, Fits, slots, Expectation.Admits, Field.of_takes_iff ({} : WatchSettings),
      exists_readText_iff, exists_readTruth_iff, -Bool.exists_bool]

theorem suits_log : Suits "observability" logFields where
  steady := by
    constructor
    · simp [logFields]
    · simp [logFields, Field.of_decided]
  takes key v _ := by
    simp [logFields, Fits, slots, Expectation.Admits, Field.of_takes_iff ({} : LogSettings),
      exists_readText_iff]

theorem steady_groups : Steady groupFields := by
  constructor
  · simp [groupFields]
  · simp [groupFields, Field.of_decided]

/-- A table is read iff each value in it is what its setting has to be. -/
theorem Suits.takes_table {σ : Type} {group name key : String} {fields : List (Field σ)}
    (suits : Suits group fields) {start : σ} {put : Settings → σ → Settings}
    {table : List (String × Value)} (tidy : (Value.table table).Tidy) :
    (Field.of key (readGroup name fields start) put).Takes (.table table) ↔
      ∀ key v, (key, v) ∈ table → Fits group key v := by
  rw [Field.of_takes_iff {}]
  refine (exists_readEntries_iff suits.steady).trans
    ⟨fun h key v hv => ?_, fun h field hfield v hv => ?_⟩
  · refine (suits.takes key v (tidy.values _ hv)).mp fun field hfield hkey => ?_
    exact h field hfield v (by rwa [hkey])
  · exact (suits.takes field.key v (tidy.values _ hv)).mpr (h field.key v hv) field hfield rfl

theorem takes_group {field : Field Settings} (hfield : field ∈ groupFields)
    {table : List (String × Value)} (tidy : (Value.table table).Tidy) :
    field.Takes (.table table) ↔ ∀ key v, (key, v) ∈ table → Fits field.key key v := by
  simp only [groupFields, List.mem_cons, List.not_mem_nil, or_false] at hfield
  rcases hfield with rfl | rfl | rfl
  · exact suits_breaker.takes_table tidy
  · exact suits_watch.takes_table tidy
  · exact suits_log.takes_table tidy

/-- The groups are those that the settings belong to. -/
theorem exists_field {slot : Slot} (hslot : slot ∈ slots) :
    ∃ field ∈ groupFields, field.key = slot.group := by
  simp only [slots, List.mem_cons, List.not_mem_nil, or_false] at hslot
  rcases hslot with rfl | rfl | rfl | rfl | rfl | rfl <;> simp [groupFields]

theorem exists_slot {field : Field Settings} (hfield : field ∈ groupFields) :
    ∃ slot ∈ slots, slot.group = field.key := by
  simp only [groupFields, List.mem_cons, List.not_mem_nil, or_false] at hfield
  rcases hfield with rfl | rfl | rfl <;> simp [slots]

variable {document document' : List (String × Value)} {s s' : Settings}

/-- A document can be read iff every value that it says is what its setting has to be. -/
theorem exists_ofEntries_iff (tidy : (Value.table document).Tidy) (grouped : Grouped document) :
    (∃ s, ofEntries document = .ok s) ↔
      ∀ slot ∈ slots, ∀ v, Gives document slot.group slot.key v → slot.expected.Admits v := by
  refine (exists_readEntries_iff steady_groups).trans
    ⟨fun h slot hslot v => ?_, fun h field hfield v hv => ?_⟩
  · rintro ⟨table, htable, hv⟩
    obtain ⟨field, hfield, hkey⟩ := exists_field hslot
    have fits := (takes_group hfield (tidy.values _ htable)).mp
      (h field hfield (.table table) (by rwa [hkey]))
    exact fits slot.key v hv slot hslot hkey.symm rfl
  · obtain ⟨slot, hslot, hgroup⟩ := exists_slot hfield
    obtain ⟨table, rfl⟩ := grouped slot hslot v (by rwa [hgroup])
    refine (takes_group hfield (tidy.values _ hv)).mpr fun key w hw slot hslot hgroup hkey => ?_
    exact h slot hslot w ⟨table, by rwa [hgroup], by rwa [hkey]⟩

/-! ### What a document says -/

/-- A setting is the value that the document says, or the default if it says none. -/
structure Given {α : Type} (document : List (String × Value)) (group key : String)
    (write : α → Value) (setting fallback : α) : Prop where
  written : ∀ v, Gives document group key v → v = write setting
  missing : (∀ v, ¬ Gives document group key v) → setting = fallback

/-- Each setting is what the document says about it. -/
structure Describes (document : List (String × Value)) (s : Settings) : Prop where
  name : Given document "breaker" "name" .string s.breaker.name ({} : BreakerSettings).name
  limit : Given document "breaker" "limit" (fun n : UInt64 => .integer n.toNat) s.breaker.limit
    ({} : BreakerSettings).limit
  cooldown : Given document "breaker" "cooldown_ms" (fun n : UInt64 => .integer n.toNat)
    s.breaker.cooldownMs ({} : BreakerSettings).cooldownMs
  pattern : Given document "watch" "pattern" .string s.watch.pattern ({} : WatchSettings).pattern
  rearm : Given document "watch" "rearm" .boolean s.watch.rearm ({} : WatchSettings).rearm
  level : Given document "observability" "log_level" .string s.log.level ({} : LogSettings).level

/-- A part of a group that is shown, of a group that is shown. -/
theorem Given.of_shows {σ α : Type} {group name key : String} {fields : List (Field σ)} {start : σ}
    {read : Value → Except Mismatch α} {get : σ → α} {part : Settings → σ} {write : α → Value}
    (outer : Shows groupFields group (readGroup name fields start) part)
    (inner : Shows fields key read get) (part_start : part {} = start)
    (eq_write : ∀ v a, v.Tidy → read v = .ok a → v = write a)
    (tidy : (Value.table document).Tidy)
    (grouped : ∀ v, (group, v) ∈ document → ∃ table, v = .table table)
    (h : ofEntries document = .ok s) :
    Given document group key write (get (part s)) (get start) := by
  have inside {table : List (String × Value)} (htable : (group, .table table) ∈ document) :
      (Value.table table).Tidy ∧ readEntries fields start table = .ok (part s) := by
    have hread : readGroup name fields start (.table table) = .ok (part s) :=
      outer.read_of_mem tidy.unique h htable
    exact ⟨tidy.values _ htable, hread⟩
  constructor
  · rintro v ⟨table, htable, hv⟩
    obtain ⟨table_tidy, hread⟩ := inside htable
    exact eq_write v _ (table_tidy.values _ hv) (inner.read_of_mem table_tidy.unique hread hv)
  · intro silent
    -- A document may be silent by leaving out the whole group or only the key in it.
    by_cases hgroup : group ∈ document.map Prod.fst
    · obtain ⟨⟨group, v⟩, hv, rfl⟩ := List.mem_map.mp hgroup
      obtain ⟨table, rfl⟩ := grouped v hv
      obtain ⟨-, hread⟩ := inside hv
      refine inner.get_of_not_mem (fun hkey => ?_) hread
      obtain ⟨⟨key, w⟩, hw, rfl⟩ := List.mem_map.mp hkey
      exact silent w ⟨table, hv, hw⟩
    · rw [outer.get_of_not_mem hgroup h, part_start]

theorem shows_breaker :
    Shows groupFields "breaker" (readGroup "BreakerConfig" breakerFields {}) (·.breaker) :=
  .of_mem steady_groups.unique (.head _) (fun _ _ => rfl) (by simp [groupFields, Field.of_leaves])

theorem shows_watch :
    Shows groupFields "watch" (readGroup "WatchConfig" watchFields {}) (·.watch) :=
  .of_mem steady_groups.unique (.tail _ (.head _)) (fun _ _ => rfl)
    (by simp [groupFields, Field.of_leaves])

theorem shows_log :
    Shows groupFields "observability" (readGroup "ObservabilityConfig" logFields {}) (·.log) :=
  .of_mem steady_groups.unique (.tail _ (.tail _ (.head _))) (fun _ _ => rfl)
    (by simp [groupFields, Field.of_leaves])

theorem shows_name : Shows breakerFields "name" readText (·.name) :=
  .of_mem suits_breaker.steady.unique (.head _) (fun _ _ => rfl)
    (by simp [breakerFields, Field.of_leaves])

theorem shows_limit : Shows breakerFields "limit" (readNumber .count) (·.limit) :=
  .of_mem suits_breaker.steady.unique (.tail _ (.head _)) (fun _ _ => rfl)
    (by simp [breakerFields, Field.of_leaves])

theorem shows_cooldown :
    Shows breakerFields "cooldown_ms" (readNumber .milliseconds) (·.cooldownMs) :=
  .of_mem suits_breaker.steady.unique (.tail _ (.tail _ (.head _))) (fun _ _ => rfl)
    (by simp [breakerFields, Field.of_leaves])

theorem shows_pattern : Shows watchFields "pattern" readText (·.pattern) :=
  .of_mem suits_watch.steady.unique (.head _) (fun _ _ => rfl)
    (by simp [watchFields, Field.of_leaves])

theorem shows_rearm : Shows watchFields "rearm" readTruth (·.rearm) :=
  .of_mem suits_watch.steady.unique (.tail _ (.head _)) (fun _ _ => rfl)
    (by simp [watchFields, Field.of_leaves])

theorem shows_level : Shows logFields "log_level" readText (·.level) :=
  .of_mem suits_log.steady.unique (.head _) (fun _ _ => rfl) (by simp [logFields])

/-- What is read from a document is what the document says. -/
theorem describes_of_ofEntries (tidy : (Value.table document).Tidy) (grouped : Grouped document)
    (h : ofEntries document = .ok s) : Describes document s := by
  have text (v : Value) (a : String) (_ : v.Tidy) (ha : readText v = .ok a) : v = .string a :=
    eq_of_readText ha
  have truth (v : Value) (a : Bool) (_ : v.Tidy) (ha : readTruth v = .ok a) : v = .boolean a :=
    eq_of_readTruth ha
  have number (expected : Expectation) (v : Value) (a : UInt64) (tidy : v.Tidy)
      (ha : readNumber expected v = .ok a) : v = .integer a.toNat := eq_of_readNumber tidy ha
  have breaker := grouped ⟨"breaker", "name", .text⟩ (by simp [slots])
  have watch := grouped ⟨"watch", "pattern", .text⟩ (by simp [slots])
  have log := grouped ⟨"observability", "log_level", .text⟩ (by simp [slots])
  exact
    { name := .of_shows shows_breaker shows_name rfl text tidy breaker h
      limit := .of_shows shows_breaker shows_limit rfl (number _) tidy breaker h
      cooldown := .of_shows shows_breaker shows_cooldown rfl (number _) tidy breaker h
      pattern := .of_shows shows_watch shows_pattern rfl text tidy watch h
      rearm := .of_shows shows_watch shows_rearm rfl truth tidy watch h
      level := .of_shows shows_log shows_level rfl text tidy log h }

theorem Given.unique {α : Type} {group key : String} {write : α → Value} {a b fallback : α}
    (injective : Function.Injective write) (given : Given document group key write a fallback)
    (given' : Given document' group key write b fallback)
    (same : ∀ v, Gives document group key v ↔ Gives document' group key v) : a = b := by
  by_cases silent : ∀ v, ¬ Gives document group key v
  · have silent' : ∀ v, ¬ Gives document' group key v := fun v hv => silent v ((same v).mpr hv)
    rw [given.missing silent, given'.missing silent']
  · obtain ⟨v, hv⟩ := not_forall_not.mp silent
    exact injective ((given.written v hv).symm.trans (given'.written v ((same v).mp hv)))

/-- What documents say about the settings is all that the settings depend on. -/
theorem Describes.unique (describes : Describes document s) (describes' : Describes document' s')
    (same : ∀ slot ∈ slots, ∀ v,
      Gives document slot.group slot.key v ↔ Gives document' slot.group slot.key v) : s = s' := by
  have text : Function.Injective Value.string := fun _ _ h => Value.string.inj h
  have truth : Function.Injective Value.boolean := fun _ _ h => Value.boolean.inj h
  have number : Function.Injective fun n : UInt64 => Value.integer n.toNat := fun a b h =>
    UInt64.toNat_inj.mp (Int.ofNat_inj.mp (Value.integer.inj h))
  simp only [slots, List.forall_mem_cons] at same
  obtain ⟨onName, onLimit, onCooldown, onPattern, onRearm, onLevel, -⟩ := same
  have name := Given.unique text describes.name describes'.name onName
  have limit := Given.unique number describes.limit describes'.limit onLimit
  have cooldown := Given.unique number describes.cooldown describes'.cooldown onCooldown
  have pattern := Given.unique text describes.pattern describes'.pattern onPattern
  have rearm := Given.unique truth describes.rearm describes'.rearm onRearm
  have level := Given.unique text describes.level describes'.level onLevel
  obtain ⟨⟨_, _, _⟩, ⟨_, _⟩, ⟨_⟩⟩ := s
  obtain ⟨⟨_, _, _⟩, ⟨_, _⟩, ⟨_⟩⟩ := s'
  simp only at name limit cooldown pattern rearm level
  rw [name, limit, cooldown, pattern, rearm, level]

/-! ### Documents that say the same -/

/-- Changes of a table that leave the known keys alone: another order, an entry under a foreign key
more or less, and changes of a value that are allowed on their own. -/
inductive Rearranged (known : String → Prop) (within : String → Value → Value → Prop) :
    List (String × Value) → List (String × Value) → Prop
  | order {a b : List (String × Value)} (permuted : a.Perm b) : Rearranged known within a b
  | extra {key : String} (foreign : ¬ known key) (v : Value) (rest : List (String × Value)) :
      Rearranged known within rest ((key, v) :: rest)
  | inside {key : String} {v v' : Value} (change : within key v v')
      (rest : List (String × Value)) :
      Rearranged known within ((key, v) :: rest) ((key, v') :: rest)
  | back {a b : List (String × Value)} (change : Rearranged known within a b) :
      Rearranged known within b a
  | next {a b c : List (String × Value)} (first : Rearranged known within a b)
      (second : Rearranged known within b c) : Rearranged known within a c

/-- The table of a group is rearranged. -/
def TableRearranged (group : String) (v v' : Value) : Prop :=
  ∃ table table', v = .table table ∧ v' = .table table' ∧
    Rearranged (fun key => ∃ slot ∈ slots, slot.group = group ∧ slot.key = key)
      (fun _ _ _ => False) table table'

/-- The document is rearranged, and so are the tables in it. -/
def Restated (document document' : List (String × Value)) : Prop :=
  Rearranged (fun group => ∃ slot ∈ slots, slot.group = group) TableRearranged document document'

theorem TableRearranged.symm {group : String} {v v' : Value} (change : TableRearranged group v v') :
    TableRearranged group v' v := by
  obtain ⟨table, table', hv, hv', change⟩ := change
  exact ⟨table', table, hv', hv, change.back⟩

/-- A property that no single change takes away from a table, nor gives to it by a foreign key, is
one of both tables or of none. -/
theorem Rearranged.preserves {known : String → Prop} {within : String → Value → Value → Prop}
    {P : List (String × Value) → Prop} {a b : List (String × Value)}
    (h : Rearranged known within a b)
    (order : ∀ {a b}, a.Perm b → P a → P b)
    (extra : ∀ {key} v rest, ¬ known key → (P ((key, v) :: rest) ↔ P rest))
    (inside : ∀ {key v v'} rest, within key v v' → P ((key, v) :: rest) → P ((key, v') :: rest))
    (symm : ∀ {key v v'}, within key v v' → within key v' v) : P a ↔ P b := by
  induction h with
  | order permuted => exact ⟨order permuted, order permuted.symm⟩
  | extra foreign v rest => exact (extra v rest foreign).symm
  | inside change rest => exact ⟨inside rest change, inside rest (symm change)⟩
  | back _ ih => exact ih.symm
  | next _ _ first second => exact first.trans second

theorem mem_cons_iff_of_ne {key key' : String} (other : key ≠ key') {v w : Value}
    {rest : List (String × Value)} : (key, v) ∈ (key', w) :: rest ↔ (key, v) ∈ rest := by
  simp [other]

theorem Rearranged.mem_iff {known : String → Prop} {table table' : List (String × Value)}
    (h : Rearranged known (fun _ _ _ => False) table table') {key : String} (hkey : known key)
    (v : Value) : (key, v) ∈ table ↔ (key, v) ∈ table' :=
  h.preserves (P := ((key, v) ∈ ·)) (fun permuted => permuted.mem_iff.mp)
    (fun _ _ foreign => mem_cons_iff_of_ne fun heq => foreign (by rwa [← heq]))
    (fun _ => False.elim) id

/-- What a document says about the settings stays the same. -/
theorem Restated.gives_iff (h : Restated document document') {slot : Slot} (hslot : slot ∈ slots)
    (v : Value) : Gives document slot.group slot.key v ↔ Gives document' slot.group slot.key v := by
  refine h.preserves (P := (Gives · slot.group slot.key v)) (fun permuted => ?_)
    (fun w rest foreign => ?_) (fun rest change => ?_) TableRearranged.symm
  · rintro ⟨table, htable, hv⟩
    exact ⟨table, permuted.mem_iff.mp htable, hv⟩
  · refine exists_congr fun table => and_congr_left' (mem_cons_iff_of_ne fun heq => ?_)
    exact foreign ⟨slot, hslot, heq⟩
  · rintro ⟨table, htable, hv⟩
    rcases List.mem_cons.mp htable with here | there
    · obtain ⟨hgroup, rfl⟩ := Prod.mk.inj here
      obtain ⟨table, table', same, rfl, change⟩ := change
      obtain rfl := Value.table.inj same
      refine ⟨table', by rw [hgroup]; exact List.mem_cons_self, ?_⟩
      exact (change.mem_iff ⟨slot, hslot, hgroup, rfl⟩ v).mp hv
    · exact ⟨table, List.mem_cons_of_mem _ there, hv⟩

/-- A group stays a table. -/
theorem Restated.grouped_iff (h : Restated document document') :
    Grouped document ↔ Grouped document' := by
  refine h.preserves (fun permuted grouped slot hslot v hv => ?_) (fun w rest foreign => ?_)
    (fun rest change grouped slot hslot v hv => ?_) TableRearranged.symm
  · exact grouped slot hslot v (permuted.mem_iff.mpr hv)
  · refine forall₂_congr fun slot hslot => forall_congr' fun v => imp_congr_left ?_
    exact mem_cons_iff_of_ne fun heq => foreign ⟨slot, hslot, heq⟩
  · rcases List.mem_cons.mp hv with here | there
    · obtain ⟨-, table', -, rfl, -⟩ := change
      exact ⟨table', (Prod.mk.inj here).2⟩
    · exact grouped slot hslot v (List.mem_cons_of_mem _ there)

/-! ### Outcomes -/

/-- The settings that a document describes, if nothing is wrong with them. -/
def ofDocument (document : List (String × Value)) : Except SettingsError Settings :=
  ((ofEntries document).mapError .mismatch).bind checked

/-- The list has what is wrong with the settings, in order. -/
structure Lists (s : Settings) (ps : List Problem) : Prop where
  ordered : ps.Sublist
    [.emptyName, .zeroLimit s.breaker.name, .zeroCooldown s.breaker.name]
  name : .emptyName ∈ ps ↔ Text.allBlank s.breaker.name = true
  limit : .zeroLimit s.breaker.name ∈ ps ↔ s.breaker.limit = 0
  cooldown : .zeroCooldown s.breaker.name ∈ ps ↔ s.breaker.cooldownMs = 0

/-- The outcomes are the same, but for which value it is that does not fit. -/
inductive Alike : Except SettingsError Settings → Except SettingsError Settings → Prop
  | settings (s : Settings) : Alike (.ok s) (.ok s)
  | problems (ps : List Problem) : Alike (.error (.problems ps)) (.error (.problems ps))
  | mismatch (m m' : Mismatch) : Alike (.error (.mismatch m)) (.error (.mismatch m'))

theorem lists_problems (s : Settings) : Lists s s.problems := by
  unfold problems BreakerSettings.problems
  by_cases name : Text.allBlank s.breaker.name = true <;> by_cases limit : s.breaker.limit = 0 <;>
    by_cases cooldown : s.breaker.cooldownMs = 0 <;>
    constructor <;> simp [name, limit, cooldown]

theorem problems_eq_nil_iff_pos (s : Settings) : s.problems = [] ↔
    Text.allBlank s.breaker.name = false ∧ 0 < s.breaker.limit ∧ 0 < s.breaker.cooldownMs := by
  rw [problems, BreakerSettings.problems_eq_nil_iff, UInt64.pos_iff_ne_zero, UInt64.pos_iff_ne_zero]

theorem checked_eq_ok_iff (s : Settings) : s.checked = .ok s ↔ s.problems = [] := by
  unfold checked
  split <;> simp_all

theorem parse_eq_ofDocument {text : String} (parsed : Toml.document? text = some document) :
    parse text = ofDocument document := by
  rw [parse, ofText, parsed]
  rfl

theorem ofDocument_of_ok (h : ofEntries document = .ok s) : ofDocument document = s.checked := by
  rw [ofDocument, h]
  rfl

theorem ofDocument_of_error {m : Mismatch} (h : ofEntries document = .error m) :
    ofDocument document = .error (.mismatch m) := by
  rw [ofDocument, h]
  rfl

theorem checked_ne_mismatch (s : Settings) (m : Mismatch) : s.checked ≠ .error (.mismatch m) := by
  unfold checked
  split <;> simp

theorem exists_mismatch_iff : (∃ m, ofDocument document = .error (.mismatch m)) ↔
    ¬ ∃ s, ofEntries document = .ok s := by
  cases h : ofEntries document with
  | ok s => simp [ofDocument_of_ok h, checked_ne_mismatch]
  | error m => simp [ofDocument_of_error h]

/-- Documents that say the same come to the same. -/
theorem Restated.alike (restated : Restated document document')
    (tidy : (Value.table document).Tidy) (tidy' : (Value.table document').Tidy)
    (grouped : Grouped document) : Alike (ofDocument document) (ofDocument document') := by
  have grouped' := restated.grouped_iff.mp grouped
  have readable : (∃ s, ofEntries document = .ok s) ↔ ∃ s, ofEntries document' = .ok s := by
    rw [exists_ofEntries_iff tidy grouped, exists_ofEntries_iff tidy' grouped']
    refine forall₂_congr fun slot hslot => forall_congr' fun v => ?_
    rw [restated.gives_iff hslot]
  cases h : ofEntries document with
  | ok s =>
      obtain ⟨s', h'⟩ := readable.mp ⟨s, h⟩
      have describes := describes_of_ofEntries tidy grouped h
      have describes' := describes_of_ofEntries tidy' grouped' h'
      obtain rfl := describes.unique describes' fun _ hslot => restated.gives_iff hslot
      rw [ofDocument_of_ok h, ofDocument_of_ok h', checked]
      split
      · exact .settings s
      · exact .problems _
  | error m =>
      cases h' : ofEntries document' with
      | ok s =>
          obtain ⟨s, hs⟩ := readable.mpr ⟨s, h'⟩
          simp [h] at hs
      | error m' =>
          rw [ofDocument_of_error h, ofDocument_of_error h']
          exact .mismatch m m'

/-- **A document means what it gives the six settings**, and nothing else in it counts.

It is a mismatch iff one of them is given a value that it cannot have.  Otherwise each setting has
the value that it is given, or its default, and the settings are refused with all that is wrong
with them.  Another order, and more or fewer keys that name no setting, make no difference. -/
theorem means_what_it_gives {text : String} (parsed : Toml.document? text = some document)
    (grouped : Grouped document) :
    ((∃ m, parse text = .error (.mismatch m)) ↔
      ∃ slot ∈ slots, ∃ v, Gives document slot.group slot.key v ∧ ¬ slot.expected.Admits v) ∧
    ((∀ slot ∈ slots, ∀ v, Gives document slot.group slot.key v → slot.expected.Admits v) →
      ∃ s, Describes document s ∧
        (parse text = .ok s ↔ Text.allBlank s.breaker.name = false ∧ 0 < s.breaker.limit ∧
          0 < s.breaker.cooldownMs) ∧
        (parse text ≠ .ok s → ∃ ps, parse text = .error (.problems ps) ∧ Lists s ps)) ∧
    ∀ document', Restated document document' →
      ((Value.table document').Tidy → Alike (parse text) (ofDocument document')) ∧
      ∀ text', Toml.document? text' = some document' → Alike (parse text) (parse text') := by
  have tidy := Toml.tidy_document? parsed
  rw [parse_eq_ofDocument parsed]
  refine ⟨?_, fun fits => ?_, fun document' restated => ⟨fun tidy' => ?_, fun text' parsed' => ?_⟩⟩
  · rw [exists_mismatch_iff, exists_ofEntries_iff tidy grouped]
    simp only [not_forall, exists_prop]
  · obtain ⟨s, h⟩ := (exists_ofEntries_iff tidy grouped).mpr fits
    have outcome := ofDocument_of_ok h
    rw [outcome]
    refine ⟨s, describes_of_ofEntries tidy grouped h, ?_, fun refused => ?_⟩
    · rw [checked_eq_ok_iff, problems_eq_nil_iff_pos]
    · rw [Ne, checked_eq_ok_iff] at refused
      exact ⟨s.problems, by rw [checked, if_neg refused], lists_problems s⟩
  · exact restated.alike tidy tidy' grouped
  · rw [parse_eq_ofDocument parsed']
    exact restated.alike tidy (Toml.tidy_document? parsed') grouped

/-- Settings with a limit that makes no sense. -/
def mail : Settings :=
  { breaker := { name := "mail", limit := 0 }, watch := { rearm := true } }

/-- The lines of a document that gives three settings. -/
def mailLines : List Toml.Line :=
  [.header "breaker", .entry "limit" (.number 0), .entry "name" (.text "mail"),
   .header "watch", .entry "rearm" (.truth true)]

/-- The same in another order, and with keys that name no setting. -/
def mailLines' : List Toml.Line :=
  [.entry "version" (.number 2), .header "watch", .entry "limit" (.text "no"),
   .entry "rearm" (.truth true), .header "breaker", .entry "name" (.text "mail"),
   .entry "limit" (.number 0)]

theorem means_what_it_gives_of_mail :
    let text := String.ofList (Toml.writeLines (fun _ => false) mailLines)
    let text' := String.ofList (Toml.writeLines (fun _ => false) mailLines')
    let document := [("breaker", Value.table [("limit", .integer 0), ("name", .string "mail")]),
      ("watch", .table [("rearm", .boolean true)])]
    let document' := [("version", Value.integer 2),
      ("watch", .table [("limit", .string "no"), ("rearm", .boolean true)]),
      ("breaker", .table [("name", .string "mail"), ("limit", .integer 0)])]
    Toml.document? text = some document ∧ Grouped document ∧
      Toml.document? text' = some document' ∧ Restated document document' ∧
      Describes document mail ∧ (∃ ps, parse text = .error (.problems ps) ∧ Lists mail ps) ∧
      Alike (parse text) (parse text') := by
  intro text text' document document'
  have bare : ∀ name ∈ ["breaker", "limit", "name", "watch", "rearm", "version"],
      Toml.IsBareName name := by
    simp [Toml.IsBareName, Toml.isBare]
  have plain : ∀ line ∈ mailLines ++ mailLines', line.Plain := by
    simp [mailLines, mailLines', Toml.Line.Plain, Toml.Scalar.Fits, bare]
  have parsed : Toml.document? text = some document := by
    rw [Toml.document?_writeLines _ (fun line h => plain line (by simp [h])) (by decide)]
    rfl
  have parsed' : Toml.document? text' = some document' := by
    rw [Toml.document?_writeLines _ (fun line h => plain line (by simp [h])) (by decide)]
    rfl
  have grouped : Grouped document := by
    simp [Grouped, slots, document]
  have restated : Restated document document' := by
    refine .next (.inside ⟨_, _, rfl, rfl, .order (.swap _ _ _)⟩ _) ?_
    refine .next (.order (.swap _ _ _)) ?_
    exact .next (.inside ⟨_, _, rfl, rfl, .extra (by simp [slots]) (.string "no") _⟩ _)
      (.extra (by simp [slots]) _ _)
  have tidy := Toml.tidy_document? parsed
  have read : ofEntries document = .ok mail := rfl
  obtain ⟨-, described, changed⟩ := means_what_it_gives parsed grouped
  obtain ⟨s, describes, sound, refused⟩ :=
    described ((exists_ofEntries_iff tidy grouped).mp ⟨_, read⟩)
  obtain rfl : s = mail :=
    describes.unique (describes_of_ofEntries tidy grouped read) fun _ _ _ => Iff.rfl
  have limitless : parse text ≠ .ok mail := fun h => absurd (sound.mp h).2.1 (by decide)
  exact ⟨parsed, grouped, parsed', restated, describes, refused limitless,
    (changed document' restated).2 text' parsed'⟩

end Settings

end Tripwire
