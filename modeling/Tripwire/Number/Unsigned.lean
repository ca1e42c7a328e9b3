/-
Unsigned numbers of 64 bits as text.

A number has one decimal digit or more, and perhaps a plus sign in front.  The
digits are taken from the left, and the first thing that goes wrong is what is
reported.
-/
namespace Tripwire.Number

/-- Why a text is no unsigned number of 64 bits. -/
inductive NumeralError where
  | empty
  | invalidDigit
  | tooLarge
  deriving DecidableEq, Repr

/-- The error in words. -/
def NumeralError.message : NumeralError → String
  | empty => "cannot parse integer from empty string"
  | invalidDigit => "invalid digit found in string"
  | tooLarge => "number too large to fit in target type"

/-- The number with one more digit at its end. -/
def pushDigit (n : Nat) (c : Char) : Except NumeralError Nat :=
  if c.isDigit then
    let m := n * 10 + (c.toNat - '0'.toNat)
    if m < UInt64.size then .ok m else .error .tooLarge
  else .error .invalidDigit

/-- The digits of a number, without the plus sign in front of them. -/
def skipPlus : List Char → List Char
  | '+' :: c :: rest => c :: rest
  | s => s

/-- The number that a text spells. -/
def readUnsigned (text : String) : Except NumeralError UInt64 :=
  if text.isEmpty then .error .empty
  else ((skipPlus text.toList).foldlM pushDigit 0).map .ofNat

end Tripwire.Number
