/-
What reading a table comes to, whatever its entries and their order.

A table is read entry by entry, and each entry changes the group that has been read so far.  A
setting is touched by the entry under its own key only.  So if no key occurs twice, it does not
matter what else is in the table and where: the table can be read iff every setting takes the
value under its key, `exists_readEntries_iff`, and then a setting is read from that value,
`Shows.read_of_mem`, or stays as it was if the table has no such key, `Shows.get_of_not_mem`.

All this is said of any list of fields with different keys.  The settings of a group are such a
list, and the groups themselves are another one.
-/
import Mathlib.Data.List.Nodup
import Tripwire.Settings.Reading

namespace Tripwire.Settings

open Toml (Value)

variable {σ α : Type}

/-- The value can be put into any group, and so it never stops the reading. -/
def Field.Takes (field : Field σ) (v : Value) : Prop :=
  ∀ group, ∃ after, field.set group v = .ok after

/-- The value always stops the reading. -/
def Field.Refuses (field : Field σ) (v : Value) : Prop :=
  ∀ group, ∃ m, field.set group v = .error m

/-- The field does not touch a part of the group. -/
def Field.Leaves (field : Field σ) (get : σ → α) : Prop :=
  ∀ group v after, field.set group v = .ok after → get after = get group

/-- The fields have different keys, and each of them takes or refuses a value whatever has been
read before. -/
structure Steady (fields : List (Field σ)) : Prop where
  unique : (fields.map (·.key)).Nodup
  decided : ∀ field ∈ fields, ∀ v, field.Takes v ∨ field.Refuses v

/-! ### One field -/

section Single

variable {key : String} {read : Value → Except Mismatch α} {put : σ → α → σ} {v : Value}

@[simp] theorem Field.key_of : (Field.of key read put).key = key := rfl

theorem Field.of_takes_iff (group : σ) :
    (Field.of key read put).Takes v ↔ ∃ a, read v = .ok a := by
  constructor
  · intro takes
    obtain ⟨after, h⟩ := takes group
    cases hread : read v with
    | ok a => exact ⟨a, rfl⟩
    | error m => simp [Field.of, hread, Except.map] at h
  · rintro ⟨a, h⟩ group
    exact ⟨put group a, by simp [Field.of, h, Except.map]⟩

theorem Field.of_decided : (Field.of key read put).Takes v ∨ (Field.of key read put).Refuses v := by
  cases h : read v with
  | ok a => exact .inl fun group => ⟨put group a, by simp [Field.of, h, Except.map]⟩
  | error m => exact .inr fun group => ⟨m, by simp [Field.of, h, Except.map]⟩

theorem Field.of_set_eq_ok {group after : σ}
    (h : (Field.of key read put).set group v = .ok after) :
    ∃ a, read v = .ok a ∧ after = put group a := by
  cases hread : read v with
  | ok a => exact ⟨a, rfl, by simpa [Field.of, hread, Except.map, eq_comm] using h⟩
  | error m => simp [Field.of, hread, Except.map] at h

/-- A part of the group that another field is for stays as it was. -/
theorem Field.of_leaves {β : Type} {get : σ → β}
    (frame : ∀ group a, get (put group a) = get group) : (Field.of key read put).Leaves get := by
  intro group v after h
  obtain ⟨a, -, rfl⟩ := Field.of_set_eq_ok h
  exact frame group a

end Single

/-! ### One entry -/

section Entries

variable {fields : List (Field σ)} {field : Field σ} {group start after : σ} {key : String}
  {v : Value} {entries : List (String × Value)}

theorem setKey_of_mem (unique : (fields.map (·.key)).Nodup) (hfield : field ∈ fields) :
    setKey fields group (field.key, v) = field.set group v := by
  have found : fields.find? (·.key = field.key) = some field := by
    induction fields with
    | nil => simp at hfield
    | cons first rest ih =>
        obtain ⟨alone, unique⟩ := List.nodup_cons.mp unique
        rcases List.mem_cons.mp hfield with rfl | hrest
        · simp
        · have other : first.key ≠ field.key := fun h => by
            have hmem := List.mem_map_of_mem (f := (·.key)) hrest
            exact alone (by rwa [← h] at hmem)
          simp [other, ih unique hrest]
  simp only [setKey, found]

theorem setKey_of_not (foreign : ∀ field ∈ fields, field.key ≠ key) :
    setKey fields group (key, v) = .ok group := by
  have missing : fields.find? (·.key = key) = none := by
    rw [List.find?_eq_none]
    simpa using foreign
  simp only [setKey, missing]

theorem readEntries_cons (entry : String × Value) :
    readEntries fields start (entry :: entries)
      = (setKey fields start entry).bind fun group => readEntries fields group entries := by
  rw [readEntries, List.foldlM_cons]
  rfl

theorem exists_of_readEntries_cons {entry : String × Value}
    (h : readEntries fields start (entry :: entries) = .ok group) :
    ∃ middle, setKey fields start entry = .ok middle ∧
      readEntries fields middle entries = .ok group := by
  rw [readEntries_cons] at h
  cases hset : setKey fields start entry with
  | error m =>
      rw [hset] at h
      cases h
  | ok middle =>
      rw [hset] at h
      exact ⟨middle, rfl, h⟩

/-- An entry is taken iff the setting with its key takes it, if there is one. -/
theorem exists_setKey_iff (steady : Steady fields) :
    (∃ after, setKey fields group (key, v) = .ok after) ↔
      ∀ field ∈ fields, field.key = key → field.Takes v := by
  constructor
  · rintro ⟨after, h⟩ field hfield rfl
    rw [setKey_of_mem steady.unique hfield] at h
    rcases steady.decided field hfield v with takes | refuses
    · exact takes
    · obtain ⟨m, hm⟩ := refuses group
      rw [hm] at h
      cases h
  · intro takes
    by_cases known : ∃ field ∈ fields, field.key = key
    · obtain ⟨field, hfield, rfl⟩ := known
      rw [setKey_of_mem steady.unique hfield]
      exact takes field hfield rfl group
    · exact ⟨group, setKey_of_not fun field hfield heq => known ⟨field, hfield, heq⟩⟩

/-! ### All entries -/

/-- The entries are read iff no setting is given a value that it does not take. -/
theorem exists_readEntries_iff (steady : Steady fields) :
    (∃ group, readEntries fields start entries = .ok group) ↔
      ∀ field ∈ fields, ∀ v, (field.key, v) ∈ entries → field.Takes v := by
  -- Fields are steady, so what has been read so far does not matter and `start` may vary.
  induction entries generalizing start with
  | nil => simp [readEntries, pure, Except.pure]
  | cons entry rest ih =>
      obtain ⟨key, v⟩ := entry
      constructor
      · rintro ⟨group, h⟩ field hfield v' hv'
        obtain ⟨middle, hset, hrest⟩ := exists_of_readEntries_cons h
        rcases List.mem_cons.mp hv' with here | there
        · obtain ⟨hkey, rfl⟩ := Prod.mk.inj here
          exact (exists_setKey_iff steady).mp ⟨middle, hset⟩ field hfield hkey
        · exact ih.mp ⟨group, hrest⟩ field hfield v' there
      · intro takes
        obtain ⟨middle, hset⟩ : ∃ middle, setKey fields start (key, v) = .ok middle :=
          (exists_setKey_iff steady).mpr fun field hfield hkey =>
            takes field hfield v (hkey ▸ List.mem_cons_self)
        obtain ⟨group, hrest⟩ := (@ih middle).mpr
          fun field hfield v' hv' => takes field hfield v' (List.mem_cons_of_mem _ hv')
        rw [readEntries_cons, hset]
        exact ⟨group, hrest⟩

theorem setKey_eq_ok (h : setKey fields group (key, v) = .ok after) :
    (∃ field ∈ fields, field.key = key ∧ field.set group v = .ok after) ∨
      (∀ field ∈ fields, field.key ≠ key) ∧ after = group := by
  unfold setKey at h
  split at h
  · rename_i field found
    exact .inl ⟨field, List.mem_of_find?_eq_some found,
      by simpa using List.find?_some found, h⟩
  · rename_i missing
    exact .inr ⟨by simpa using List.find?_eq_none.mp missing, (Except.ok.inj h).symm⟩

/-- A part of a group that belongs to the field with a key: what the field's value is read as is
found there, and no other field touches it. -/
structure Shows (fields : List (Field σ)) (key : String) (read : Value → Except Mismatch α)
    (get : σ → α) : Prop where
  known : ∃ field ∈ fields, field.key = key
  own : ∀ field ∈ fields, field.key = key → ∀ group v after,
    field.set group v = .ok after → read v = .ok (get after)
  others : ∀ field ∈ fields, field.key ≠ key → field.Leaves get

namespace Shows

variable {read : Value → Except Mismatch α} {get : σ → α}

theorem of_mem {put : σ → α → σ} (unique : (fields.map (·.key)).Nodup)
    (hfield : .of key read put ∈ fields) (get_put : ∀ group a, get (put group a) = a)
    (others : ∀ field ∈ fields, field.key ≠ key → field.Leaves get) :
    Shows fields key read get := by
  refine ⟨⟨_, hfield, rfl⟩, fun field hmem hkey group v after h => ?_, others⟩
  obtain rfl : field = .of key read put := List.inj_on_of_nodup_map unique hmem hfield hkey
  obtain ⟨a, ha, rfl⟩ := Field.of_set_eq_ok h
  rw [ha, get_put]

variable (shows : Shows fields key read get)

include shows

/-- Without its key in the table the part stays as it was. -/
theorem get_of_not_mem (missing : key ∉ entries.map Prod.fst)
    (h : readEntries fields start entries = .ok group) : get group = get start := by
  induction entries generalizing start with
  | nil =>
      obtain rfl : start = group := Except.ok.inj h
      rfl
  | cons entry rest ih =>
      obtain ⟨other, missing⟩ : key ≠ entry.1 ∧ key ∉ rest.map Prod.fst := by simpa using missing
      obtain ⟨middle, hset, hrest⟩ := exists_of_readEntries_cons h
      rw [ih missing hrest]
      rcases setKey_eq_ok hset with ⟨field, hfield, hkey, hset⟩ | ⟨-, rfl⟩
      · exact shows.others field hfield (fun heq => other (heq.symm.trans hkey)) _ _ _ hset
      · rfl

/-- The value under its key is what the part is read from. -/
theorem read_of_mem (unique : (entries.map Prod.fst).Nodup)
    (h : readEntries fields start entries = .ok group) (hv : (key, v) ∈ entries) :
    read v = .ok (get group) := by
  induction entries generalizing start with
  | nil => simp at hv
  | cons entry rest ih =>
      obtain ⟨alone, unique⟩ := List.nodup_cons.mp unique
      obtain ⟨middle, hset, hrest⟩ := exists_of_readEntries_cons h
      rcases List.mem_cons.mp hv with rfl | hv
      · rw [shows.get_of_not_mem alone hrest]
        obtain ⟨field, hfield, hkey⟩ := shows.known
        rcases setKey_eq_ok hset with ⟨field', hfield', hkey', hset⟩ | ⟨foreign, -⟩
        · exact shows.own field' hfield' hkey' _ _ _ hset
        · exact absurd hkey (foreign field hfield)
      · exact ih unique hrest hv

end Shows

end Entries

end Tripwire.Settings
