/-
A text as the lines it takes when it is printed.

A newline ends a line and a carriage return before it is part of the line's end.
A text is printed with a newline behind it, so there is always one line more than
the text has newlines.
-/
namespace Tripwire.Text

/-- The line without the carriage return at its end. -/
def trimReturn (line : List Char) : List Char :=
  if line.getLast? = some '\r' then line.dropLast else line

/-- The parts of a text between its newlines. -/
def splitLines : List Char → List (List Char)
  | [] => [[]]
  | c :: s =>
      if c = '\n' then [] :: splitLines s
      else
        match splitLines s with
        | line :: lines => (c :: line) :: lines
        | [] => [[c]]

/-- The lines of a text. -/
def lines (s : String) : List String :=
  (splitLines s.toList).map fun line => String.ofList (trimReturn line)

/-- There is one line more than there are newlines. -/
theorem length_splitLines (s : List Char) : (splitLines s).length = s.count '\n' + 1 := by
  induction s with
  | nil => rfl
  | cons c s ih =>
      by_cases h : c = '\n'
      · simp [splitLines, h, ih]
      · cases hs : splitLines s with
        | nil => simp [hs] at ih
        | cons line lines =>
            rw [hs] at ih
            simpa [splitLines, h, hs] using ih

end Tripwire.Text
