/-
Quoted text: a string between double quotes, on one line, whatever it holds.

The quote and the backslash are written with a backslash before them; NUL, tab,
carriage return and newline have letters of their own; any other character that
is not plain is written as `\u` and its code point in braces, in lower case
hexadecimal digits.  An apostrophe stands for itself.

Which characters are plain is a matter of Unicode tables, so `encode` takes it as
a parameter, and `quote` is `encode` with the tables of this library.
-/
import Tripwire.Text.Hidden
import Tripwire.Text.Combining

namespace Tripwire.Text

namespace Quoted

/-- The letter that stands for a character after a backslash, where it has one. -/
def letter? : Char → Option Char
  | '\x00' => some '0'
  | '\t' => some 't'
  | '\r' => some 'r'
  | '\n' => some 'n'
  | '\\' => some '\\'
  | '"' => some '"'
  | _ => none

/-- How one character is written, given which characters are plain. -/
def encodeChar (plain : Char → Bool) (c : Char) : List Char :=
  match letter? c with
  | some l => ['\\', l]
  | none =>
      if plain c then [c]
      else ['\\', 'u', '\x7b'] ++ Nat.toDigits 16 c.toNat ++ ['\x7d']

/-- A text between quotes, given which characters are plain. -/
def encode (plain : Char → Bool) (s : List Char) : List Char :=
  '"' :: s.flatMap (encodeChar plain) ++ ['"']

@[simp]
theorem encode_nil (plain : Char → Bool) : encode plain [] = ['"', '"'] := rfl

end Quoted

/-- The character stands for itself in quoted text. -/
def isPlain (c : Char) : Bool :=
  !isHidden c && !isCombining c

/-- The text between quotes, by the tables of this library. -/
def quote (s : String) : String :=
  String.ofList (Quoted.encode isPlain s.toList)

/-- Entries between square brackets, a comma and a space between neighbours. -/
def bracketed (entries : List String) : String :=
  "[" ++ ", ".intercalate entries ++ "]"

end Tripwire.Text
