/-
The four ways to quote a string.

Basic strings stand between double quotes and know escapes; literal strings stand
between apostrophes and know none.  Either kind may be written with three marks
on each side, and then it may run over several lines: a line end right after the
opening marks is left out, any other one reads as a single newline, and up to two
marks may stand directly before the closing ones.  In a basic string of that kind
a backslash at the end of a line leaves out everything up to the next character
that is neither space nor line end.

Each reader starts behind the opening marks and gives the string and what follows
the closing ones.
-/
import Tripwire.Text.Hexadecimal
import Tripwire.Toml.Layout

namespace Tripwire.Toml

/-- What was read, with one more character in front of it. -/
def push (c : Char) (read : Option (List Char × List Char)) : Option (List Char × List Char) :=
  read.map fun (s, rest) => (c :: s, rest)

/-- The character a letter stands for behind a backslash. -/
def escaped? : Char → Option Char
  | 'b' => some '\x08'
  | 't' => some '\t'
  | 'n' => some '\n'
  | 'f' => some '\x0c'
  | 'r' => some '\r'
  | '"' => some '"'
  | '\\' => some '\\'
  | _ => none

/-- The character stands for itself between double quotes. -/
def isBasic (c : Char) : Bool := isPrintable c && c ≠ '"' && c ≠ '\\'

/-- The character stands for itself between apostrophes. -/
def isLiteral (c : Char) : Bool := isPrintable c && c ≠ '\x27'

/-- A basic string on one line. -/
def basic? : List Char → Option (List Char × List Char)
  | '"' :: rest => some ([], rest)
  | '\\' :: 'u' :: a :: b :: c :: d :: rest => do
      let x ← Text.hexChar? [a, b, c, d]
      push x (basic? rest)
  | '\\' :: 'U' :: a :: b :: c :: d :: e :: f :: g :: h :: rest => do
      let x ← Text.hexChar? [a, b, c, d, e, f, g, h]
      push x (basic? rest)
  | '\\' :: l :: rest => do
      let x ← escaped? l
      push x (basic? rest)
  | c :: rest => if isBasic c then push c (basic? rest) else none
  | [] => none

/-- A literal string on one line. -/
def literal? : List Char → Option (List Char × List Char)
  | '\x27' :: rest => some ([], rest)
  | c :: rest => if isLiteral c then push c (literal? rest) else none
  | [] => none

/-- Only spaces stand before the end of this line. -/
def endsLine (s : List Char) : Bool :=
  match skipSpaces s with
  | '\n' :: _ => true
  | '\r' :: '\n' :: _ => true
  | _ => false

/-- A basic string over several lines; the flag says that spaces and line ends are being left
out. -/
def basicLines? : Bool → List Char → Option (List Char × List Char)
  | true, ' ' :: rest => basicLines? true rest
  | true, '\t' :: rest => basicLines? true rest
  | true, '\n' :: rest => basicLines? true rest
  | true, '\r' :: '\n' :: rest => basicLines? true rest
  | _, '"' :: '"' :: '"' :: '"' :: '"' :: rest => some (['"', '"'], rest)
  | _, '"' :: '"' :: '"' :: '"' :: rest => some (['"'], rest)
  | _, '"' :: '"' :: '"' :: rest => some ([], rest)
  | _, '"' :: rest => push '"' (basicLines? false rest)
  | _, '\\' :: 'u' :: a :: b :: c :: d :: rest => do
      let x ← Text.hexChar? [a, b, c, d]
      push x (basicLines? false rest)
  | _, '\\' :: 'U' :: a :: b :: c :: d :: e :: f :: g :: h :: rest => do
      let x ← Text.hexChar? [a, b, c, d, e, f, g, h]
      push x (basicLines? false rest)
  | _, '\\' :: l :: rest =>
      if endsLine (l :: rest) then basicLines? true rest
      else do
        let x ← escaped? l
        push x (basicLines? false rest)
  | _, '\r' :: '\n' :: rest => push '\n' (basicLines? false rest)
  | _, '\n' :: rest => push '\n' (basicLines? false rest)
  | _, c :: rest => if isBasic c then push c (basicLines? false rest) else none
  | _, [] => none

/-- A literal string over several lines. -/
def literalLines? : List Char → Option (List Char × List Char)
  | '\x27' :: '\x27' :: '\x27' :: '\x27' :: '\x27' :: rest => some (['\x27', '\x27'], rest)
  | '\x27' :: '\x27' :: '\x27' :: '\x27' :: rest => some (['\x27'], rest)
  | '\x27' :: '\x27' :: '\x27' :: rest => some ([], rest)
  | '\x27' :: rest => push '\x27' (literalLines? rest)
  | '\r' :: '\n' :: rest => push '\n' (literalLines? rest)
  | '\n' :: rest => push '\n' (literalLines? rest)
  | c :: rest => if isLiteral c then push c (literalLines? rest) else none
  | [] => none

/-- The text without the line end it begins with. -/
def skipNewline : List Char → List Char
  | '\n' :: rest => rest
  | '\r' :: '\n' :: rest => rest
  | s => s

/-- A quoted string of any kind, from its opening marks on. -/
def quotation? : List Char → Option (String × List Char)
  | '"' :: '"' :: '"' :: rest => (basicLines? false (skipNewline rest)).map ofChars
  | '"' :: rest => (basic? rest).map ofChars
  | '\x27' :: '\x27' :: '\x27' :: rest => (literalLines? (skipNewline rest)).map ofChars
  | '\x27' :: rest => (literal? rest).map ofChars
  | _ => none
where
  /-- The characters read, as a string. -/
  ofChars (r : List Char × List Char) : String × List Char := (String.ofList r.1, r.2)

end Tripwire.Toml
