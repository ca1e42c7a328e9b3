/-
Settings survive being written to a file.

Settings are written as a plain document with a table for each group and a key for each
setting.  The document's lines are read as statements, the statements build the table that
holds every setting once, `build?_lines`, and out of that table each setting is read as it
was, `ofEntries_entries`.  So nothing of a default is left, and nothing can go wrong on the
way before the settings themselves are checked.

Two things limit this.  A document has only integers of 64 bits with a sign, so a limit or
a cooldown of 2^63 or more cannot be written.  And settings with something wrong in them
are refused when they are read back, with the same problems that they had before.
-/
import Tripwire.Proofs.Text.Encoding
import Tripwire.Proofs.Toml.Writing
import Tripwire.Settings.Loading

namespace Tripwire.Settings

open Toml (Line)

/-- The lines of the document that gives every setting its value. -/
def lines (s : Settings) : List Line :=
  [.header "breaker",
   .entry "name" (.text s.breaker.name),
   .entry "limit" (.number s.breaker.limit.toNat),
   .entry "cooldown_ms" (.number s.breaker.cooldownMs.toNat),
   .blank,
   .header "watch",
   .entry "pattern" (.text s.watch.pattern),
   .entry "rearm" (.truth s.watch.rearm),
   .blank,
   .header "observability",
   .entry "log_level" (.text s.log.level)]

/-- The document that gives every setting its value. -/
def document (coded : Char → Bool) (s : Settings) : String :=
  String.ofList (Toml.writeLines coded s.lines)

/-- The table that the document describes. -/
def entries (s : Settings) : List (String × Toml.Value) :=
  [("breaker", .table
      [("name", .string s.breaker.name), ("limit", .integer s.breaker.limit.toNat),
       ("cooldown_ms", .integer s.breaker.cooldownMs.toNat)]),
   ("watch", .table [("pattern", .string s.watch.pattern), ("rearm", .boolean s.watch.rearm)]),
   ("observability", .table [("log_level", .string s.log.level)])]

theorem build?_lines (s : Settings) :
    Toml.build? (s.lines.filterMap Line.statement?) = some s.entries := by
  rfl

/-- Each setting is read as it stands in the table. -/
theorem ofEntries_entries (s : Settings) : ofEntries s.entries = .ok s := by
  have number (expected : Expectation) (n : UInt64) :
      readNumber expected (.integer n.toNat) = .ok n := by
    simp [readNumber]
  have breaker : readGroup "BreakerConfig" breakerFields {} (.table
      [("name", .string s.breaker.name), ("limit", .integer s.breaker.limit.toNat),
       ("cooldown_ms", .integer s.breaker.cooldownMs.toNat)]) = .ok s.breaker := by
    simp [readGroup, readEntries, setKey, breakerFields, Field.of, readText, number, Except.map,
      bind, Except.bind, pure, Except.pure]
  have watch : readGroup "WatchConfig" watchFields {} (.table
      [("pattern", .string s.watch.pattern), ("rearm", .boolean s.watch.rearm)]) = .ok s.watch := by
    simp [readGroup, readEntries, setKey, watchFields, Field.of, readText, readTruth, Except.map,
      bind, Except.bind, pure, Except.pure]
  have log : readGroup "ObservabilityConfig" logFields {} (.table
      [("log_level", .string s.log.level)]) = .ok s.log := by
    simp [readGroup, readEntries, setKey, logFields, Field.of, readText, Except.map,
      bind, Except.bind, pure, Except.pure]
  simp [ofEntries, entries, readEntries, setKey, groupFields, Field.of, breaker, watch, log,
    Except.map, bind, Except.bind, pure, Except.pure]

section Written

variable (coded : Char → Bool) {s : Settings}

/-- Every number in the settings can be written as an integer. -/
structure Writable (s : Settings) : Prop where
  limit : s.breaker.limit.toNat < Nat.pow 2 63
  cooldown : s.breaker.cooldownMs.toNat < Nat.pow 2 63

theorem plain_lines (writable : s.Writable) : ∀ line ∈ s.lines, line.Plain := by
  have bare : ∀ name ∈ ["breaker", "name", "limit", "cooldown_ms", "watch", "pattern", "rearm",
      "observability", "log_level"], Toml.IsBareName name := by
    simp [Toml.IsBareName, Toml.isBare]
  intro line hline
  simp only [lines, List.mem_cons, List.not_mem_nil, or_false] at hline
  rcases hline with rfl | rfl | rfl | rfl | rfl | rfl | rfl | rfl | rfl | rfl | rfl
  all_goals simp [Line.Plain, Toml.Scalar.Fits, bare]
  · exact writable.limit
  · exact writable.cooldown

/-- The document says what the settings are. -/
theorem ofText_document (writable : s.Writable) : ofText (s.document coded) = .ok s := by
  have unmarked : (Toml.writeLines coded s.lines).head? ≠ some '\ufeff' :=
    show some '[' ≠ some '\ufeff' by decide
  have hdocument : Toml.document? (s.document coded) = some s.entries := by
    rw [document, Toml.document?_writeLines coded (plain_lines writable) unmarked, build?_lines]
  rw [ofText, hdocument]
  dsimp only
  rw [ofEntries_entries]
  rfl

end Written

/-- A file with the bytes of a text has the text. -/
theorem text?_toUTF8 (text : String) : (File.bytes text.toUTF8.data.toList).text? = .ok text := by
  rw [File.text?, Text.Utf8.decode?_toUTF8]

theorem load_toUTF8 (text : String) : load (.bytes text.toUTF8.data.toList) = parse text := by
  rw [load, text?_toUTF8]
  simp only [Except.mapError, bind, Except.bind]

/-- **Settings that are written to a file are read back, or refused for what is wrong with
them.** -/
theorem survives_writing (coded : Char → Bool) {s : Settings}
    (limit : s.breaker.limit.toNat < Nat.pow 2 63)
    (cooldown : s.breaker.cooldownMs.toNat < Nat.pow 2 63) :
    let text := s.document coded
    let file := File.bytes text.toUTF8.data.toList
    (s.problems = [] → parse text = .ok s ∧ load file = .ok s) ∧
      (s.problems ≠ [] → parse text = .error (.problems s.problems) ∧
        load file = .error (.problems s.problems)) := by
  intro text file
  have hparse : parse text = s.checked := by
    rw [parse, ofText_document coded ⟨limit, cooldown⟩]
    rfl
  have hload : load file = s.checked := (load_toUTF8 text).trans hparse
  rw [hparse, hload, checked]
  refine ⟨fun h => ?_, fun h => ?_⟩
  · rw [if_pos h]
    exact ⟨rfl, rfl⟩
  · rw [if_neg h]
    exact ⟨rfl, rfl⟩

/-- Settings that are awkward to write, without a cooldown. -/
def awkward : Settings :=
  { breaker := { name := "a \"b\" \\ #\n\x07", limit := 9223372036854775807, cooldownMs := 0 }
    watch := { pattern := "= [é]", rearm := true }
    log := { level := "" } }

theorem survives_writing_of_awkward :
    awkward.breaker.limit.toNat < Nat.pow 2 63 ∧ awkward.breaker.cooldownMs.toNat < Nat.pow 2 63 ∧
      parse (awkward.document (· = 'é'))
        = .error (.problems [.zeroCooldown awkward.breaker.name]) := by
  have limit : awkward.breaker.limit.toNat < Nat.pow 2 63 := by decide
  have cooldown : awkward.breaker.cooldownMs.toNat < Nat.pow 2 63 := by decide
  have problems : awkward.problems = [.zeroCooldown awkward.breaker.name] := by decide
  obtain ⟨-, refused⟩ := survives_writing (· = 'é') limit cooldown
  rw [problems] at refused
  exact ⟨limit, cooldown, (refused (by simp)).1⟩

example : ({ watch := { pattern := "a\tb" } } : Settings).document (fun _ => false)
    = "[breaker]\nname = \"default\"\nlimit = 5\ncooldown_ms = 30000\n\n"
      ++ "[watch]\npattern = \"a\\tb\"\nrearm = false\n\n"
      ++ "[observability]\nlog_level = \"info\"\n" := by
  decide +kernel

end Tripwire.Settings
