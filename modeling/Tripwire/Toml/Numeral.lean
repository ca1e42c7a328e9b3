/-
Integers and floating-point numbers.

Underscores may stand between digits and nowhere else.  A decimal number has no
leading zero; hexadecimal, octal and binary ones have a marker of two characters
and no sign.  Integers have 64 bits with a sign, and a number outside is an error.
A number with a fraction or an exponent is rounded to the nearest floating-point
value; it is an error if that is positive infinity.
-/
import Tripwire.Toml.Quotation
import Tripwire.Toml.Value

namespace Tripwire.Toml

/-- A decimal digit. -/
def isDigit (c : Char) : Bool := '0' ≤ c && c ≤ '9'

/-- The digits that continue a number, each perhaps with an underscore before it. -/
def moreDigits (ok : Char → Bool) : List Char → List Char × List Char
  | '_' :: c :: rest =>
      if ok c then
        let (ds, rest) := moreDigits ok rest
        (c :: ds, rest)
      else ([], '_' :: c :: rest)
  | c :: rest =>
      if ok c then
        let (ds, rest) := moreDigits ok rest
        (c :: ds, rest)
      else ([], c :: rest)
  | [] => ([], [])

/-- One digit or more. -/
def digits? (ok : Char → Bool) : List Char → Option (List Char × List Char)
  | c :: rest =>
      if ok c then
        let (ds, rest) := moreDigits ok rest
        some (c :: ds, rest)
      else none
  | [] => none

/-- The digits of a decimal number, which begin with a zero only if that is all of them. -/
def decimalDigits? : List Char → Option (List Char × List Char)
  | '0' :: rest => some (['0'], rest)
  | s => digits? isDigit s

/-- The number that digits spell in a base. -/
def digitsValue (base : Nat) (ds : List Char) : Nat :=
  ds.foldl (fun n d => n * base + (Text.hexDigit? d).getD 0) 0

/-- Whether a minus sign stands here, and what follows the sign if there is any. -/
def takeSign : List Char → Bool × List Char
  | '-' :: rest => (true, rest)
  | '+' :: rest => (false, rest)
  | s => (false, s)

/-- The number with the sign, if it has 64 bits. -/
def signed? (negative : Bool) (n : Nat) : Option Int :=
  if negative then if n ≤ Nat.pow 2 63 then some (-(n : Int)) else none
  else if n < Nat.pow 2 63 then some n else none

/-- A number in a base other than ten, behind its marker. -/
def based? (base : Nat) (ok : Char → Bool) (s : List Char) : Option (Value × List Char) := do
  let (ds, rest) ← digits? ok s
  let n ← signed? false (digitsValue base ds)
  some (.integer n, rest)

/-- An integer. -/
def integer? : List Char → Option (Value × List Char)
  | '0' :: 'x' :: rest => based? 16 (fun c => (Text.hexDigit? c).isSome) rest
  | '0' :: 'o' :: rest => based? 8 (fun c => '0' ≤ c && c ≤ '7') rest
  | '0' :: 'b' :: rest => based? 2 (fun c => c = '0' || c = '1') rest
  | s => do
      let (negative, s) := takeSign s
      let (ds, rest) ← decimalDigits? s
      let n ← signed? negative (digitsValue 10 ds)
      some (.integer n, rest)

/-- The exponent of a number, from its `e` on. -/
def exponent? : List Char → Option (Int × List Char)
  | c :: rest =>
      if c = 'e' ∨ c = 'E' then do
        let (negative, rest) := takeSign rest
        let (ds, rest) ← digits? isDigit rest
        let n : Int := digitsValue 10 ds
        some (if negative then -n else n, rest)
      else none
  | [] => none

/-- The digits of a fraction, from the point on. -/
def fraction? : List Char → Option (List Char × List Char)
  | '.' :: rest => digits? isDigit rest
  | _ => none

/-- The floating-point value of a number that has been read. -/
def rounded? (negative : Bool) (whole fraction : List Char) (exponent : Int) : Option Value :=
  let x := Number.Binary64.ofDecimal negative (digitsValue 10 (whole ++ fraction))
    (exponent - fraction.length)
  if x = .infinite false then none else some (.float x)

/-- A number with a fraction or an exponent, an infinity, or no number at all. -/
def float? (s : List Char) : Option (Value × List Char) :=
  let (negative, s) := takeSign s
  match s with
  | 'i' :: 'n' :: 'f' :: rest => some (.float (.infinite negative), rest)
  | 'n' :: 'a' :: 'n' :: rest => some (.float .notANumber, rest)
  | s => do
      let (whole, rest) ← decimalDigits? s
      match fraction? rest with
      | some (fraction, rest) =>
          let (exponent, rest) := (exponent? rest).getD (0, rest)
          let x ← rounded? negative whole fraction exponent
          some (x, rest)
      | none => do
          let (exponent, rest) ← exponent? rest
          let x ← rounded? negative whole [] exponent
          some (x, rest)

end Tripwire.Toml
