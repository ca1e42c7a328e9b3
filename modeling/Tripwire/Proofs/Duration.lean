/-
The text of a cooldown, and how it is read.

There are four forms: nothing, less than a second, whole seconds, and seconds with decimals.  All
of them are a number with something behind it that opens with no digit, so the text has one cut
only between the two, and `readMillis` has the milliseconds from both parts.  The zeros at the end
of the decimals are dropped, but as there are three places for decimals it is clear how many that
were, `take_rdropWhile_append`.
-/
import Mathlib.Data.List.DropRight
import Tripwire.Duration
import Tripwire.Proofs.Text.Delimited

namespace Tripwire

namespace Duration

/-- The number in front of the point or the unit. -/
def whole (n : Nat) : Nat := if n < 1000 then n else n / 1000

/-- What stands behind that number. -/
def unit (n : Nat) : List Char :=
  if n = 0 then ['n', 's']
  else if n < 1000 then ['m', 's']
  else if n % 1000 = 0 then ['s']
  else '.' :: ((thousandths (n % 1000)).toList ++ ['s'])

theorem toList_millisText (ms : UInt64) :
    (millisText ms).toList = Nat.toDigits 10 (whole ms.toNat) ++ unit ms.toNat := by
  simp only [millisText, whole, unit]
  split
  · rename_i zero
    rw [zero]
    rfl
  split
  · simp [Nat.repr_eq_ofList_toDigits]
  split
  · simp [Nat.repr_eq_ofList_toDigits]
  · simp [Nat.repr_eq_ofList_toDigits]

/-- How many thousandths the digits in front of the unit are. -/
def readThousandths (s : List Char) : Nat :=
  Nat.ofDigitChars 10 ((s.takeWhile Char.isDigit ++ ['0', '0', '0']).take 3) 0

/-- How many milliseconds a number is with what stands behind it. -/
def readMillis (whole : Nat) : List Char → Nat
  | '.' :: fraction => whole * 1000 + readThousandths fraction
  | ['s'] => whole * 1000
  | _ => whole

/-- Zeros that have been dropped from the end of some digits come back if zeros fill the place. -/
theorem take_rdropWhile_append (digits : List Nat) :
    (digits.rdropWhile (· = 0) ++ List.replicate digits.length 0).take digits.length = digits := by
  have parts := digits.rdropWhile_append_rtakeWhile (p := (· = 0))
  have zeros : digits.rtakeWhile (· = 0)
      = List.replicate (digits.rtakeWhile (· = 0)).length 0 :=
    List.eq_replicate_of_mem fun d hd => by simpa using List.mem_rtakeWhile_imp hd
  have lengths := congrArg List.length parts
  rw [List.length_append] at lengths
  have front : (digits.rdropWhile (· = 0)).length ≤ digits.length := by omega
  have back : digits.length - (digits.rdropWhile (· = 0)).length
      = (digits.rtakeWhile (· = 0)).length := by omega
  rw [List.take_append, List.take_of_length_le front, back, List.take_replicate,
    Nat.min_eq_left (by omega), ← zeros, parts]

theorem ofDigitChars_three {a b c : Nat} (ha : a < 10) (hb : b < 10) (hc : c < 10) :
    Nat.ofDigitChars 10 ([a, b, c].map Nat.digitChar) 0 = a * 100 + b * 10 + c := by
  simp [Nat.ofDigitChars, Nat.toNat_digitChar_of_lt_ten, ha, hb, hc]
  omega

theorem toList_thousandths (n : Nat) : (thousandths n).toList
    = ([n / 100 % 10, n / 10 % 10, n % 10].rdropWhile (· = 0)).map Nat.digitChar := by
  simp [thousandths, List.rdropWhile]

theorem isDigit_of_mem_thousandths {n : Nat} {c : Char} (hc : c ∈ (thousandths n).toList) :
    c.isDigit = true := by
  rw [toList_thousandths] at hc
  obtain ⟨d, hd, rfl⟩ := List.mem_map.mp hc
  have hmem := (List.rdropWhile_prefix _ _).mem hd
  simp only [List.mem_cons, List.not_mem_nil, or_false] at hmem
  rw [Nat.isDigit_digitChar, decide_eq_true_iff]
  omega

theorem readThousandths_thousandths {n : Nat} (h : n < 1000) :
    readThousandths ((thousandths n).toList ++ ['s']) = n := by
  have taken : ((thousandths n).toList ++ ['s']).takeWhile Char.isDigit
      = (thousandths n).toList := by
    rw [List.takeWhile_append_of_pos fun c hc => isDigit_of_mem_thousandths hc]
    simp
  have filled : ((thousandths n).toList ++ ['0', '0', '0']).take 3
      = [n / 100 % 10, n / 10 % 10, n % 10].map Nat.digitChar := by
    have back := congrArg (List.map Nat.digitChar)
      (take_rdropWhile_append [n / 100 % 10, n / 10 % 10, n % 10])
    rw [List.map_take, List.map_append, ← toList_thousandths] at back
    exact back
  rw [readThousandths, taken, filled, ofDigitChars_three (by omega) (by omega) (by omega)]
  omega

theorem readMillis_unit (n : Nat) : readMillis (whole n) (unit n) = n := by
  by_cases zero : n = 0
  · rw [zero]
    rfl
  by_cases short : n < 1000
  · simp [whole, unit, zero, short, readMillis]
  by_cases seconds : n % 1000 = 0
  · simp only [whole, unit, zero, short, seconds, if_true, if_false, readMillis]
    omega
  · simp only [whole, unit, zero, short, seconds, if_false, readMillis,
      readThousandths_thousandths (Nat.mod_lt n (show 0 < 1000 by omega))]
    omega

/-- What stands behind the number opens with no digit. -/
theorem unit_opens (n : Nat) : ∀ c ∈ (unit n).head?, c.isDigit = false := by
  unfold unit
  split
  · simp
  split
  · simp
  split
  · simp
  · simp

/-- The text of a cooldown tells how long it is. -/
theorem millisText_injective : Function.Injective fun ms => (millisText ms).toList := by
  intro ms ms' h
  have digits (n : Nat) : ∀ c ∈ Nat.toDigits 10 n, c.isDigit = true :=
    fun c hc => Nat.isDigit_of_mem_toDigits (by omega) (by omega) hc
  simp only [toList_millisText] at h
  obtain ⟨number, rest⟩ := Text.cut_unique (digits _) (digits _) (unit_opens _) (unit_opens _) h
  have read := readMillis_unit ms.toNat
  rw [Text.toDigits_injective number, rest, readMillis_unit] at read
  exact UInt64.toNat_inj.mp read.symm

theorem mem_millisText {ms : UInt64} {c : Char} (hc : c ∈ (millisText ms).toList) :
    c.isDigit = true ∨ c ∈ ['n', 'm', 's', '.'] := by
  rw [toList_millisText] at hc
  rcases List.mem_append.mp hc with number | behind
  · exact .inl (Nat.isDigit_of_mem_toDigits (by omega) (by omega) number)
  unfold unit at behind
  split at behind
  · exact .inr ((by decide : ['n', 's'] ⊆ ['n', 'm', 's', '.']) behind)
  split at behind
  · exact .inr ((by decide : ['m', 's'] ⊆ ['n', 'm', 's', '.']) behind)
  split at behind
  · exact .inr ((by decide : ['s'] ⊆ ['n', 'm', 's', '.']) behind)
  · simp only [List.mem_cons, List.mem_append, List.not_mem_nil, or_false] at behind
    rcases behind with rfl | fraction | rfl
    · exact .inr (by decide)
    · exact .inl (isDigit_of_mem_thousandths fraction)
    · exact .inr (by decide)

/-- It says where it ends if a space follows. -/
theorem selfDelimiting_millisText :
    Text.SelfDelimiting fun ms => (millisText ms).toList ++ [' '] := by
  refine .of_stop millisText_injective fun ms space => ?_
  rcases mem_millisText space with digit | letter
  · exact absurd digit (by decide)
  · exact absurd letter (by decide)

theorem oneLine_millisText (ms : UInt64) : Text.OneLine (millisText ms).toList := by
  intro c hc control
  have neither : ∀ d ∈ ['\n', '\r', '\t', '\x00'],
      ¬ (d.isDigit = true ∨ d ∈ ['n', 'm', 's', '.']) := by simp
  exact neither c control (mem_millisText hc)

end Duration

end Tripwire
