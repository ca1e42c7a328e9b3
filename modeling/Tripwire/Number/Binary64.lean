/-
Binary floating point in 64 bits, as exact numbers.

A finite value is a sign, a mantissa below `2 ^ 53` and a power of two no less
than `-1074`.  A decimal is rounded to the nearest such value in exact integer
arithmetic, and a decimal halfway between two of them goes to the even mantissa.
Nothing here uses machine floating point.
-/
namespace Tripwire.Number

/-- A floating-point value. -/
inductive Binary64 where
  /-- The mantissa times two to the exponent, with a sign that zero has too. -/
  | finite (negative : Bool) (mantissa : Nat) (exponent : Int)
  | infinite (negative : Bool)
  | notANumber
  deriving DecidableEq, Repr, Inhabited

/-- `base ^ e` where `e` is positive, and 1 elsewhere: with `powBelow` it writes a power with an
integer exponent as a quotient of natural numbers. -/
def powAbove (base : Nat) (e : Int) : Nat := Nat.pow base e.toNat

/-- `base ^ (-e)` where `e` is negative, and 1 elsewhere. -/
def powBelow (base : Nat) (e : Int) : Nat := Nat.pow base (-e).toNat

/-- The whole number nearest to a quotient, the even one of two that are equally near. -/
def roundQuotient (num den : Nat) : Nat :=
  let q := num / den
  let r := num % den
  if 2 * r < den then q
  else if den < 2 * r then q + 1
  else if q % 2 = 0 then q
  else q + 1

namespace Binary64

/-- The least exponent of a finite value. -/
def leastExponent : Int := -1074

/-- The greatest exponent of a finite value. -/
def greatestExponent : Int := 971

/-- The value nearest to `num / den`. -/
def ofQuotient (negative : Bool) (num den : Nat) : Binary64 :=
  let guess : Int := (Nat.log2 num : Int) - Nat.log2 den - 53
  let fits (e : Int) : Bool := num * powBelow 2 e < Nat.pow 2 53 * (den * powAbove 2 e)
  let e := max leastExponent (if fits guess then guess else guess + 1)
  let m := roundQuotient (num * powBelow 2 e) (den * powAbove 2 e)
  let (m, e) := if m = Nat.pow 2 53 then (Nat.pow 2 52, e + 1) else (m, e)
  if greatestExponent < e then .infinite negative else .finite negative m e

/-- The value nearest to `digits * 10 ^ exponent`.

Far outside the range the answer is known without the power: a number of more than 310 digits
before the point is too great, and one with more than 330 zeros after it is nothing. -/
def ofDecimal (negative : Bool) (digits : Nat) (exponent : Int) : Binary64 :=
  let places : Int := (Nat.toDigits 10 digits).length + exponent
  if digits = 0 then .finite negative 0 leastExponent
  else if 310 < places then .infinite negative
  else if places < -330 then .finite negative 0 leastExponent
  else ofQuotient negative (digits * powAbove 10 exponent) (powBelow 10 exponent)

end Binary64

end Tripwire.Number
