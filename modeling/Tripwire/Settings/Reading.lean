/-
Settings out of a document.

A document has a table for the breaker, one for the watch and one for the log,
and each of them has a key for every setting.  Keys that name no setting are
skipped, and a setting without a key keeps its default.  A table may also be
written as an array with its settings in order, where the last ones may be missing
and more items than settings do no harm.

The entries are looked at in the order in which they stand, and the first value of
a wrong kind ends the reading.
-/
import Tripwire.Number.Shortest
import Tripwire.Settings.Basic
import Tripwire.Toml.Value

namespace Tripwire

/-- What a setting has to be. -/
inductive Expectation where
  /-- A number of things. -/
  | count
  /-- A number of milliseconds. -/
  | milliseconds
  | text
  | truth
  /-- A table with a name. -/
  | group (name : String)
  deriving DecidableEq, Repr

/-- The expectation in words. -/
def Expectation.words : Expectation → String
  | .count => "usize"
  | .milliseconds => "u64"
  | .text => "a string"
  | .truth => "a boolean"
  | .group name => "struct " ++ name

/-- A value in words: its kind, and the value itself if it is a single one. -/
def Toml.Value.described : Toml.Value → String
  | .string s => "string " ++ Text.quote s
  | .integer n => "integer `" ++ toString n ++ "`"
  | .float x => "floating point `" ++ x.text ++ "`"
  | .boolean b => "boolean `" ++ toString b ++ "`"
  | .moment => "map"
  | .array _ => "sequence"
  | .table _ => "map"

/-- A value that is not what its setting has to be. -/
inductive Mismatch where
  /-- It is of another kind. -/
  | kind (found : Toml.Value) (expected : Expectation)
  /-- It is a number, but a negative one. -/
  | range (found : Int) (expected : Expectation)

/-- The mismatch in words. -/
def Mismatch.message : Mismatch → String
  | .kind found expected =>
      "invalid type: " ++ found.described ++ ", expected " ++ expected.words
  | .range found expected =>
      "invalid value: " ++ (Toml.Value.integer found).described ++ ", expected " ++ expected.words

namespace Settings

/-- A number that is not negative. -/
def readNumber (expected : Expectation) : Toml.Value → Except Mismatch UInt64
  | .integer n => if n < 0 then .error (.range n expected) else .ok (.ofNat n.toNat)
  | v => .error (.kind v expected)

/-- A text. -/
def readText : Toml.Value → Except Mismatch String
  | .string s => .ok s
  | v => .error (.kind v .text)

/-- A truth value. -/
def readTruth : Toml.Value → Except Mismatch Bool
  | .boolean b => .ok b
  | v => .error (.kind v .truth)

/-- One setting of a group: its key, and what its value makes of the group. -/
structure Field (σ : Type) where
  key : String
  set : σ → Toml.Value → Except Mismatch σ

/-- A setting that is read on its own and then put in its place. -/
def Field.of {σ α : Type} (key : String) (read : Toml.Value → Except Mismatch α)
    (put : σ → α → σ) : Field σ :=
  ⟨key, fun group v => (read v).map (put group)⟩

/-- The group with the setting that a key names, if it names one. -/
def setKey {σ : Type} (fields : List (Field σ)) (group : σ) (entry : String × Toml.Value) :
    Except Mismatch σ :=
  match fields.find? (·.key = entry.1) with
  | some field => field.set group entry.2
  | none => .ok group

/-- The group that a table describes, entry by entry. -/
def readEntries {σ : Type} (fields : List (Field σ)) (start : σ)
    (entries : List (String × Toml.Value)) : Except Mismatch σ :=
  entries.foldlM (setKey fields) start

/-- The group that a value describes: a table, an array in its place, or a date-time, which says
nothing about any setting. -/
def readGroup {σ : Type} (name : String) (fields : List (Field σ)) (start : σ) :
    Toml.Value → Except Mismatch σ
  | .table entries => readEntries fields start entries
  | .array items => (fields.zip items).foldlM (fun group item => item.1.set group item.2) start
  | .moment => .ok start
  | v => .error (.kind v (.group name))

/-- The settings of the breaker, in order. -/
def breakerFields : List (Field BreakerSettings) :=
  [.of "name" readText fun s name => { s with name },
   .of "limit" (readNumber .count) fun s limit => { s with limit },
   .of "cooldown_ms" (readNumber .milliseconds) fun s cooldownMs => { s with cooldownMs }]

/-- The settings of the watch, in order. -/
def watchFields : List (Field WatchSettings) :=
  [.of "pattern" readText fun s pattern => { s with pattern },
   .of "rearm" readTruth fun s rearm => { s with rearm }]

/-- The settings of the log. -/
def logFields : List (Field LogSettings) :=
  [.of "log_level" readText fun s level => { s with level }]

/-- The groups of settings. -/
def groupFields : List (Field Settings) :=
  [.of "breaker" (readGroup "BreakerConfig" breakerFields {}) fun s breaker => { s with breaker },
   .of "watch" (readGroup "WatchConfig" watchFields {}) fun s watch => { s with watch },
   .of "observability" (readGroup "ObservabilityConfig" logFields {}) fun s log => { s with log }]

/-- The settings that the entries of a document describe. -/
def ofEntries (entries : List (String × Toml.Value)) : Except Mismatch Settings :=
  readEntries groupFields {} entries

end Settings

end Tripwire
