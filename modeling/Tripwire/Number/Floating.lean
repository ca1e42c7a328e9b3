/-
The texts that spell floating-point numbers.

A number has digits, with a point somewhere before, between or behind them, and
perhaps an exponent; infinities and what is no number have names, in any case.  Any
of these may have a sign in front.
-/
namespace Tripwire.Number

/-- Digits, at least one. -/
def isDigits (s : List Char) : Bool := !s.isEmpty && s.all Char.isDigit

/-- The text without a sign in front. -/
def skipSign : List Char → List Char
  | '+' :: s => s
  | '-' :: s => s
  | s => s

/-- Digits with a point somewhere, or without. -/
def isPointed (s : List Char) : Bool :=
  match s.dropWhile (· ≠ '.') with
  | '.' :: fraction => isDigits (s.takeWhile (· ≠ '.') ++ fraction)
  | _ => isDigits s

/-- A number without a sign in front. -/
def isUnsignedFloat (s : List Char) : Bool :=
  let isMark (c : Char) : Bool := c = 'e' || c = 'E'
  match s.dropWhile (!isMark ·) with
  | _ :: exponent => isPointed (s.takeWhile (!isMark ·)) && isDigits (skipSign exponent)
  | [] => isPointed s

/-- The text spells a floating-point number. -/
def isFloat (s : List Char) : Bool :=
  let s := skipSign s
  isUnsignedFloat s || ["inf", "infinity", "nan"].contains (String.ofList (s.map Char.toLower))

end Tripwire.Number
