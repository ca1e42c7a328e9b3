/-
White space in the sense of the Unicode property White_Space.

A breaker's name counts as missing when nothing but white space is written in
it, and white space around a directive does not belong to it.
-/
import Tripwire.Text.CodeTable

namespace Tripwire.Text

/-- The code points with the White_Space property. -/
def blankRanges : List (Nat × Nat) :=
  [(0x9, 0xd), (0x20, 0x20), (0x85, 0x85), (0xa0, 0xa0), (0x1680, 0x1680), (0x2000, 0x200a),
   (0x2028, 0x2029), (0x202f, 0x202f), (0x205f, 0x205f), (0x3000, 0x3000)]

/-- The character is white space. -/
def isBlank (c : Char) : Bool :=
  inTable blankRanges c.toNat

/-- Nothing is left of the text once white space is taken off both ends. -/
def allBlank (s : String) : Bool :=
  s.toList.all isBlank

/-- The characters without the white space on both ends. -/
def trim (s : List Char) : List Char :=
  ((s.dropWhile isBlank).reverse.dropWhile isBlank).reverse

/-- What core counts as white space is blank here too. -/
theorem isBlank_of_isWhitespace {c : Char} (h : c.isWhitespace = true) : isBlank c = true := by
  simp only [Char.isWhitespace, Bool.or_eq_true, decide_eq_true_eq] at h
  rcases h with ((rfl | rfl) | rfl) | rfl <;> decide

theorem allBlank_empty : allBlank "" = true := by decide

end Tripwire.Text
