/-
Lines of input.

Input comes as bytes.  A line ends with a newline, which belongs to it, and what
comes after the last newline is the beginning of another line.  The text of a line
is what its bytes spell, with a replacement character for each malformed part, and
without any newlines and carriage returns at its end.
-/
import Tripwire.Text.Utf8

namespace Tripwire.Watchdog

/-- The byte that ends a line. -/
def newline : UInt8 := 0x0a

/-- The lines that are complete, and the beginning of the next one. -/
def cutLines : List UInt8 → List (List UInt8) × List UInt8
  | [] => ([], [])
  | byte :: rest =>
      let (lines, tail) := cutLines rest
      if byte = newline then ([byte] :: lines, tail)
      else
        match lines with
        | line :: lines => ((byte :: line) :: lines, tail)
        | [] => ([], byte :: tail)

/-- The text without the newlines and carriage returns at its end. -/
def trimLineEnd (s : List Char) : List Char :=
  (s.reverse.dropWhile fun c => c = '\n' || c = '\r').reverse

/-- The text of a line. -/
def lineText (line : List UInt8) : List Char := trimLineEnd (Text.Utf8.decodeLossy line)

/-- Nothing is lost when lines are cut. -/
theorem flatten_cutLines (bytes : List UInt8) :
    (cutLines bytes).1.flatten ++ (cutLines bytes).2 = bytes := by
  induction bytes with
  | nil => rfl
  | cons byte rest ih =>
      cases h : cutLines rest with
      | mk lines tail =>
          rw [h] at ih
          by_cases hb : byte = newline
          · simp_all [cutLines]
          · cases lines <;> simp_all [cutLines]

end Tripwire.Watchdog
