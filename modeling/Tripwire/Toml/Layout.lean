/-
The blank parts of a document: spaces, ends of lines and comments.

A line ends with a newline, with a carriage return and a newline, or with the
text; a carriage return by itself ends nothing and is an error wherever it
stands.  A comment runs from `#` to the end of its line and may not hold control
characters other than the tab.
-/
namespace Tripwire.Toml

/-- A space or a tab. -/
def isSpace (c : Char) : Bool := c = ' ' || c = '\t'

/-- Any character but a control; the tab is no control here. -/
def isPrintable (c : Char) : Bool := c = '\t' || (0x20 ≤ c.toNat && c.toNat ≠ 0x7f)

/-- The text without the spaces it begins with. -/
def skipSpaces (s : List Char) : List Char := s.dropWhile isSpace

/-- What follows the end of a line that stands right here. -/
def newline? : List Char → Option (List Char)
  | [] => some []
  | '\n' :: rest => some rest
  | '\r' :: '\n' :: rest => some rest
  | _ => none

/-- What follows the end of a line before which only spaces and a comment stand. -/
def lineEnd? (s : List Char) : Option (List Char) :=
  match skipSpaces s with
  | '#' :: rest => newline? (rest.dropWhile isPrintable)
  | rest => newline? rest

/-- What follows the spaces, line ends and comments here; the flag says that the text begins inside
a comment. -/
def skipFiller? : Bool → List Char → Option (List Char)
  | _, [] => some []
  | _, '\n' :: rest => skipFiller? false rest
  | _, '\r' :: rest => if rest.head? = some '\n' then skipFiller? false rest else none
  | true, c :: rest => if isPrintable c then skipFiller? true rest else none
  | false, c :: rest =>
      if isSpace c then skipFiller? false rest
      else if c = '#' then skipFiller? true rest
      else some (c :: rest)

end Tripwire.Toml
