/-
Lines and the octets in them.

A line is decoded first and trimmed then, and the pattern is looked for in what is left.  All of
this could be done with the octets.  Newlines and carriage returns are octets below 0x80, which
stand for themselves wherever they are, so nothing but them is trimmed, and it makes no difference
whether that is done before or after the line is decoded, `lineText_eq`.  And a pattern without
replacement characters is found in a text exactly where its octets are,
`Text.Utf8.occursIn_decodeLossy_iff`.  So malformed octets in a line neither hide a pattern nor make
one up, wherever they stand.
-/
import Mathlib.Data.List.DropRight
import Tripwire.Proofs.Text.Lossy
import Tripwire.Proofs.Watchdog.Course

namespace Tripwire

namespace Watchdog

open Text Utf8

/-! ### The end of a line -/

/-- The octet belongs to the end of a line. -/
def isLineEnd (octet : UInt8) : Bool := octet = newline || octet = 0x0d

/-- The line without the newlines and carriage returns at its end. -/
def bareLine (line : List UInt8) : List UInt8 := line.rdropWhile isLineEnd

theorem trimLineEnd_eq (s : List Char) :
    trimLineEnd s = s.rdropWhile fun c => c = '\n' || c = '\r' := rfl

/-- Octets below 0x80 stand for themselves wherever they are. -/
theorem decodeLossy_ascii {n : Nat} (small : n < 0x80) (bytes more : List UInt8) :
    decodeLossy (bytes ++ .ofNat n :: more)
      = decodeLossy bytes ++ .ofNat n :: decodeLossy more := by
  have opens : ∀ octet ∈ (UInt8.ofNat n :: more).head?, continues octet = false := by
    rintro octet ⟨⟩
    rw [continues, toNat_octet (by omega), Bool.and_eq_false_iff, decide_eq_false_iff_not]
    exact .inl (by omega)
  rw [decodeLossy_append opens, decodeLossy, decodeLossy, scan_whole _ small]
  rfl

/-- A text ends with a character below 0x80 only where the bytes do. -/
theorem eq_of_decodeLossy_concat {bytes : List UInt8} {octet : UInt8} {s : List Char} {n : Nat}
    (small : n < 0x80) (h : decodeLossy (bytes ++ [octet]) = s ++ [.ofNat n]) :
    octet = .ofNat n := by
  have code : (Char.ofNat n).val.toNat = n := val_ofNat (by omega)
  obtain ⟨parts, last, hscan, -, hlast⟩ := List.map_eq_append_iff.mp h
  obtain ⟨part, more, rfl, hpart, hmore⟩ := List.map_eq_cons_iff.mp hlast
  obtain rfl := List.map_eq_nil_iff.mp hmore
  -- The last part is no malformed one, as it is not shown as U+FFFD.
  have whole : part = some (.ofNat n) := by
    cases part with
    | some c => exact congrArg some hpart
    | none =>
        have hcode := congrArg (fun c : Char => c.val.toNat) hpart
        exact absurd (hcode.trans code).symm (Nat.ne_of_lt (Nat.lt_of_lt_of_le small (by decide)))
  obtain ⟨front, rest, hbytes, hrest⟩ := exists_of_scan_append parts hscan
  rw [whole] at hrest
  have written : rest = [.ofNat n] := by
    have hencode : encode [.ofNat n] = [.ofNat n] := by
      simp [encode, String.utf8EncodeChar, code, show n ≤ 127 by omega]
    exact (eq_encode_of_scan (s := [.ofNat n]) hrest).trans hencode
  rw [written] at hbytes
  exact List.singleton_inj.mp (List.append_inj' hbytes rfl).2

/-- **It makes no difference whether a line is trimmed before it is decoded or after.** -/
theorem lineText_eq (line : List UInt8) : lineText line = decodeLossy (bareLine line) := by
  induction line using List.reverseRecOn with
  | nil => rfl
  | append_singleton line octet ih =>
      have ascii {n : Nat} (small : n < 0x80) :
          decodeLossy (line ++ [.ofNat n]) = decodeLossy line ++ [.ofNat n] :=
        decodeLossy_ascii small line []
      rw [lineText, trimLineEnd_eq] at ih ⊢
      by_cases lineEnd : isLineEnd octet = true
      · rw [bareLine, List.rdropWhile_concat_pos _ _ _ lineEnd]
        refine Eq.trans ?_ ih
        rcases Bool.or_eq_true_iff.mp lineEnd with h | h <;> rw [of_decide_eq_true h]
        · exact (congrArg _ (ascii (n := 0x0a) (by decide))).trans
            (List.rdropWhile_concat_pos _ _ _ rfl)
        · exact (congrArg _ (ascii (n := 0x0d) (by decide))).trans
            (List.rdropWhile_concat_pos _ _ _ rfl)
      · rw [bareLine, List.rdropWhile_concat_neg _ _ _ lineEnd]
        rcases List.eq_nil_or_concat (decodeLossy (line ++ [octet])) with hnil | ⟨s, c, hconcat⟩
        · rw [hnil]
          rfl
        · rw [List.concat_eq_append] at hconcat
          rw [hconcat]
          refine List.rdropWhile_concat_neg _ _ _ fun hc => lineEnd ?_
          -- The text ends with the character that the bytes end with.
          rcases Bool.or_eq_true_iff.mp hc with h | h <;> rw [of_decide_eq_true h] at hconcat
          · rw [eq_of_decodeLossy_concat (n := 0x0a) (by decide) hconcat]
            rfl
          · rw [eq_of_decodeLossy_concat (n := 0x0d) (by decide) hconcat]
            rfl

/-! ### Lines that are reported -/

/-- A pattern without replacement characters picks the lines that its octets occur in. -/
theorem picks_lineText_iff {watch : WatchSettings} (plain : '\uFFFD' ∉ watch.pattern.toList)
    (line : List UInt8) :
    watch.picks (lineText line) = true ↔ encode watch.pattern.toList <:+: bareLine line := by
  rw [lineText_eq]
  exact occursIn_decodeLossy_iff plain (bareLine line)

/-- **Malformed octets neither hide a pattern nor make one up.**

Whatever a line is made of, a watch whose pattern has no replacement characters reports it exactly
if the octets of the pattern occur in the line without the newlines and carriage returns at its end,
and otherwise passes it over.  With the empty pattern it reports every line. -/
theorem reports_lines_with_octets (c : Course) (line : List UInt8)
    (plain : '\uFFFD' ∉ c.dog.watch.pattern.toList) :
    let found := encode c.dog.watch.pattern.toList <:+: bareLine line
    (found → c.takeLine line = c.report (lineText line)) ∧
      (¬ found → c.takeLine line = (c, none)) ∧
      ((c.takeLine line).1.reported = c.reported + 1 ↔ found) ∧
      (c.dog.watch.pattern = "" → c.takeLine line = c.report (lineText line)) := by
  intro found
  have picks : c.dog.watch.picks (lineText line) = true ↔ found := picks_lineText_iff plain line
  have taken (h : found) : c.takeLine line = c.report (lineText line) := if_pos (picks.mpr h)
  have passed (h : ¬ found) : c.takeLine line = (c, none) := if_neg fun h' => h (picks.mp h')
  refine ⟨taken, passed, ⟨fun counted => ?_, fun h => ?_⟩, fun empty => ?_⟩
  · by_contra h
    rw [passed h] at counted
    exact absurd counted (Nat.ne_of_lt (Nat.lt_succ_self _))
  · rw [taken h]
    exact Course.reported_report c (lineText line)
  · exact taken (picks.mp (WatchSettings.picks_of_pattern_empty empty _))

/-- A watch for one character that is written in two octets. -/
def forAccent : Course :=
  { dog := { watch := { pattern := "é" }, circuit := { settings := {}, sink := .logging } }, cycle := 0 }

/-- The character stands between the beginning of another one and an octet that continues none, and
the line ends with a carriage return. -/
def accentAmongMalformed : List UInt8 := [0xe2, 0x82, 0xc3, 0xa9, 0xa9, 0x0d, 0x0a]

/-- The line is reported. -/
theorem reports_lines_with_octets_among_malformed :
    '\uFFFD' ∉ forAccent.dog.watch.pattern.toList ∧
      encode forAccent.dog.watch.pattern.toList <:+: bareLine accentAmongMalformed ∧
      forAccent.takeLine accentAmongMalformed
        = forAccent.report ['\uFFFD', 'é', '\uFFFD'] ∧
      (forAccent.takeLine accentAmongMalformed).1.reported = 1 := by
  have plain : '\uFFFD' ∉ forAccent.dog.watch.pattern.toList := by simp [forAccent]
  have found : encode forAccent.dog.watch.pattern.toList <:+: bareLine accentAmongMalformed :=
    ⟨[0xe2, 0x82], [0xa9], by simp [forAccent]; decide⟩
  have text : lineText accentAmongMalformed = ['\uFFFD', 'é', '\uFFFD'] := by decide
  obtain ⟨taken, -, counted, -⟩ := reports_lines_with_octets forAccent accentAmongMalformed plain
  exact ⟨plain, found, text ▸ taken found, counted.mpr found⟩

/-- A replacement character is found where no octets of it are. -/
example : lineText [0xff] = ['\uFFFD'] ∧ ¬ encode ['\uFFFD'] <:+: bareLine [0xff] := by decide

end Watchdog

end Tripwire
