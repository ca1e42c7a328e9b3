/-
Regular expressions: the flags, and what they change for the reader.

The expressions are those that need no table of the properties of characters.  So
there are no classes such as that of all digits and no letters that stand for both
cases, unless a flag says that the expression is about single bytes and ASCII is
meant.  In that mode, in turn, nothing may match a byte outside
of ASCII, because a match could begin or end inside a character.

An expression is only tested for being well formed.  What the tests need of its
parts is how deep they are nested: no part may be deeper than `deepest`.
-/
import Tripwire.Text.Blank

namespace Tripwire.Regex

/-- How deep the parts of an expression may be nested. -/
def deepest : Nat := 250

/-- The depth of some parts together: a single part is not nested by that. -/
def joinedDepth : List Nat → Nat
  | [] => 0
  | [depth] => depth
  | depths => depths.foldl max 0 + 1

/-- The flags that change how an expression is read. -/
structure Mode where
  /-- Letters stand for both cases. -/
  caseless : Bool := false
  /-- Blanks and comments do not count. -/
  spaced : Bool := false
  /-- The expression is about single bytes. -/
  bytes : Bool := false
  deriving DecidableEq, Repr

/-- What follows blanks and comments; a comment begins with a hash sign and takes its line. -/
def skipBlanks (inComment : Bool) : List Char → List Char
  | [] => []
  | c :: s =>
      if inComment then skipBlanks (c ≠ '\n') s
      else if Text.isBlank c then skipBlanks false s
      else if c = '#' then skipBlanks true s
      else c :: s

/-- What is left once blanks and comments are skipped. -/
theorem length_skipBlanks_le (inComment : Bool) (s : List Char) :
    (skipBlanks inComment s).length ≤ s.length := by
  fun_induction skipBlanks inComment s <;> simp_all <;> omega

namespace Mode

/-- What follows that counts. -/
def skip (m : Mode) (s : List Char) : List Char := if m.spaced then skipBlanks false s else s

theorem length_skip_le (m : Mode) (s : List Char) : (m.skip s).length ≤ s.length := by
  unfold skip
  split
  · exact length_skipBlanks_le false s
  · exact Nat.le_refl _

/-- A letter that stands for both cases needs a table, unless bytes are meant. -/
def lacksCases (m : Mode) : Bool := m.caseless && !m.bytes

/-- The mode with one flag switched. -/
def withFlag (m : Mode) (flag : Char) (on : Bool) : Mode :=
  match flag with
  | 'i' => { m with caseless := on }
  | 'x' => { m with spaced := on }
  | 'u' => { m with bytes := !on }
  | _ => m

/-- The letters of the flags, and the sign behind which flags are switched off. -/
def flagSigns : List Char := ['i', 'm', 's', 'U', 'u', 'R', 'x', '-']

/-- Flags and the character that ends them, a colon or a parenthesis.  Before a parenthesis there
has to be a flag, and the sign that switches off may not be the last. -/
def readFlags? (m : Mode) (seen : List Char) : List Char → Option (Mode × Char × List Char)
  | [] => none
  | c :: s =>
      if c = ':' ∨ c = ')' then
        if seen.head? = some '-' ∨ (c = ')' ∧ seen = []) then none else some (m, c, s)
      else if flagSigns.contains c && !seen.contains c then
        (m.withFlag c (!seen.contains '-')).readFlags? (c :: seen) s
      else none

end Mode

end Tripwire.Regex
