/-
What is written in UTF-8 is read as it was written.

The reader takes one octet at a time, and what it holds between two of them is the
beginning of a character.  So there is one lemma for each thing that an octet can do: be
a whole character, begin one, continue it or end it.  A character is written in one to
four octets, and the bits that the reader has put together behind the last of them are
those of its code point, `scan_encoded`.  What follows a character is read as if nothing
had stood before it, so a text is read character by character.
-/
import Mathlib.Data.Nat.Basic
import Tripwire.Text.Utf8

namespace Tripwire.Text.Utf8

/-- The octets in which characters are written. -/
def encode (s : List Char) : List UInt8 := s.flatMap String.utf8EncodeChar

/-- They are the bytes of a string. -/
theorem encode_toList (text : String) : encode text.toList = text.toUTF8.data.toList := by
  have h : text.toUTF8 = (encode text.toList).toByteArray := (String.utf8Encode_toList).symm
  rw [h, List.toList_data_toByteArray]

/-! ### What an octet does -/

section Octets

variable {n : Nat} (rest : List UInt8)

theorem toNat_octet (h : n < 256) : (UInt8.ofNat n).toNat = n := by
  rw [UInt8.toNat_ofNat']
  exact Nat.mod_eq_of_lt h

/-- A first octet below 0x80 is a character. -/
theorem scan_whole (h : n < 0x80) :
    scan none (.ofNat n :: rest) = some (Char.ofNat n) :: scan none rest := by
  have hstart : start (.ofNat n) = .whole (Char.ofNat n) := by
    simp [start, toNat_octet (show n < 256 by omega), h]
  rw [scan, first, hstart]
  rfl

/-- A first octet that begins a longer character is held. -/
theorem scan_longer {octet : UInt8} {p : Begun} (h : start octet = .longer p) :
    scan none (octet :: rest) = scan (some p) rest := by
  rw [scan, first, h]
  rfl

variable {p : Begun} (low : p.low ≤ 0x80 + n) (high : 0x80 + n ≤ p.high) (bits : n < 64)

include low high bits

theorem next_of_accepts : p.accepts (.ofNat (n + 128)) = true ∧
    p.push (.ofNat (n + 128)) = p.bits * 64 + n := by
  have octet := toNat_octet (show n + 128 < 256 by omega)
  refine ⟨?_, ?_⟩
  · simp only [Begun.accepts, octet, Bool.and_eq_true, decide_eq_true_eq]
    omega
  · unfold Begun.push
    omega

/-- The last octet of a character ends it. -/
theorem scan_last (more : p.more = 0) : scan (some p) (.ofNat (n + 128) :: rest)
    = some (Char.ofNat (p.bits * 64 + n)) :: scan none rest := by
  obtain ⟨accepts, push⟩ := next_of_accepts low high bits
  have hnext : p.next (.ofNat (n + 128)) = ([some (Char.ofNat (p.bits * 64 + n))], none) := by
    rw [Begun.next, if_pos accepts, push, more]
  rw [scan, hnext]
  rfl

/-- Any other octet of a character adds its bits to those that are held. -/
theorem scan_more {more : Nat} (hmore : p.more = more + 1) :
    scan (some p) (.ofNat (n + 128) :: rest)
      = scan (some ⟨p.bits * 64 + n, more, 0x80, 0xbf⟩) rest := by
  obtain ⟨accepts, push⟩ := next_of_accepts low high bits
  have hnext : p.next (.ofNat (n + 128)) = ([], some ⟨p.bits * 64 + n, more, 0x80, 0xbf⟩) := by
    rw [Begun.next, if_pos accepts, push, hmore]
  rw [scan, hnext]
  rfl

end Octets

/-! ### Characters and texts -/

section Starts

variable {n : Nat}

theorem start_of_two (low : 2 ≤ n) (high : n < 32) :
    start (.ofNat (n + 192)) = .longer ⟨n, 0, 0x80, 0xbf⟩ := by
  rw [start, toNat_octet (by omega), if_neg (by omega), if_neg (by omega), if_pos (by omega)]
  simp

/-- How far the second octet of a character of three is free depends on the first. -/
theorem start_of_three (high : n < 16) : start (.ofNat (n + 224))
    = .longer ⟨n, 1, if n = 0 then 0xa0 else 0x80, if n = 13 then 0x9f else 0xbf⟩ := by
  rw [start, toNat_octet (by omega), if_neg (by omega), if_neg (by omega), if_neg (by omega)]
  by_cases first : n = 0
  · simp [first]
  · by_cases surrogate : n = 13
    · simp [surrogate]
    · rw [if_neg (by omega), if_neg (by omega), if_pos (by omega), if_neg first, if_neg surrogate]
      simp

/-- The same goes for a character of four. -/
theorem start_of_four (high : n < 5) : start (.ofNat (n + 240))
    = .longer ⟨n, 2, if n = 0 then 0x90 else 0x80, if n = 4 then 0x8f else 0xbf⟩ := by
  obtain rfl | rfl | rfl | rfl | rfl : n = 0 ∨ n = 1 ∨ n = 2 ∨ n = 3 ∨ n = 4 := by omega
  all_goals rfl

end Starts

/-- A character is read as it was written, and then comes what follows it. -/
theorem scan_encoded (c : Char) (rest : List UInt8) :
    scan none (String.utf8EncodeChar c ++ rest) = some c :: scan none rest := by
  have code : Char.ofNat c.val.toNat = c := Char.ofNat_toNat c
  have valid : c.val.toNat < 0xd800 ∨ 0xdfff < c.val.toNat ∧ c.val.toNat < 0x110000 := c.valid
  rw [String.utf8EncodeChar]
  generalize c.val.toNat = v at code valid ⊢
  by_cases one : v ≤ 127
  · rw [if_pos one, List.singleton_append, scan_whole rest (by omega), code]
  by_cases two : v ≤ 2047
  · have hstart := start_of_two (n := v / 64 % 32) (by omega) (by omega)
    rw [if_neg one, if_pos two, List.cons_append, scan_longer _ hstart, List.singleton_append,
      scan_last rest (by simp) (by dsimp only; omega) (by omega) rfl, ← code]
    congr 3
    dsimp only
    omega
  by_cases three : v ≤ 65535
  · have hstart := start_of_three (n := v / 4096 % 16) (by omega)
    rw [if_neg one, if_neg two, if_pos three, List.cons_append, scan_longer _ hstart,
      List.cons_append,
      scan_more _ (by dsimp only; split <;> omega) (by dsimp only; split <;> omega) (by omega) rfl,
      List.singleton_append,
      scan_last rest (by simp) (by dsimp only; omega) (by omega) rfl, ← code]
    congr 3
    dsimp only
    omega
  · have hstart := start_of_four (n := v / 262144 % 8) (by omega)
    rw [if_neg one, if_neg two, if_neg three, List.cons_append, scan_longer _ hstart,
      List.cons_append,
      scan_more _ (by dsimp only; split <;> omega) (by dsimp only; split <;> omega) (by omega) rfl,
      List.cons_append,
      scan_more _ (by simp) (by dsimp only; omega) (by omega) rfl,
      List.singleton_append,
      scan_last rest (by simp) (by dsimp only; omega) (by omega) rfl, ← code]
    congr 3
    dsimp only
    omega

theorem scan_encode (s : List Char) (rest : List UInt8) :
    scan none (encode s ++ rest) = s.map some ++ scan none rest := by
  induction s with
  | nil => rfl
  | cons c s ih =>
      rw [encode, List.flatMap_cons, List.append_assoc, scan_encoded]
      simp only [List.map_cons, List.cons_append]
      exact congrArg _ ih

/-- **The bytes of a text spell the text.** -/
theorem decode?_toUTF8 (text : String) : decode? text.toUTF8.data.toList = some text := by
  have hscan : scan none text.toUTF8.data.toList = text.toList.map some := by
    rw [← encode_toList, ← List.append_nil (encode _), scan_encode]
    simp [scan]
  have hall : (text.toList.map some).mapM id = some text.toList := by
    induction text.toList with
    | nil => rfl
    | cons c s ih => simp [ih]
  rw [decode?, hscan, hall]
  simp

end Tripwire.Text.Utf8
