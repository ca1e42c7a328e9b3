/-
The shortest decimal that reads back as the same floating-point value, in
positional notation.

The decimals that read back as a value fill an interval around it, whose ends
belong to it when the mantissa is even.  Among the grids of multiples of powers
of ten, the coarsest one that meets the interval gives the fewest digits, and the
multiple nearest to the value is taken.
-/
import Tripwire.Number.Binary64

namespace Tripwire.Number

/-- The decimals that read back as a value: all three numbers are over `den`. -/
structure Neighbourhood where
  low : Nat
  value : Nat
  high : Nat
  den : Nat
  /-- The ends belong to the interval. -/
  closed : Bool

/-- The interval around a positive value: half a step on each side, but a quarter of a step below
where the mantissa is the least of its binade. -/
def neighbourhood (mantissa : Nat) (exponent : Int) : Neighbourhood :=
  let e := exponent - 2
  let scale := powAbove 2 e
  let below := if mantissa = Nat.pow 2 52 ∧ Binary64.leastExponent < exponent then 1 else 2
  { low := (4 * mantissa - below) * scale
    value := 4 * mantissa * scale
    high := (4 * mantissa + 2) * scale
    den := powBelow 2 e
    closed := mantissa % 2 = 0 }

namespace Neighbourhood

/-- The decimal `c * 10 ^ j` lies in the interval. -/
def holds (n : Neighbourhood) (c : Nat) (j : Int) : Bool :=
  let x := c * powAbove 10 j * n.den
  let scale := powBelow 10 j
  if n.closed then n.low * scale ≤ x && x ≤ n.high * scale
  else n.low * scale < x && x < n.high * scale

/-- The multiple of `10 ^ j` in the interval that is nearest to the value, if there is one. -/
def pick? (n : Neighbourhood) (j : Int) : Option Nat :=
  let unit := powAbove 10 j * n.den
  let target := n.value * powBelow 10 j
  let c := target / unit
  match n.holds c j, n.holds (c + 1) j with
  | true, true => some (if target - c * unit < (c + 1) * unit - target then c else c + 1)
  | true, false => some c
  | false, true => some (c + 1)
  | false, false => none

/-- The pick on the coarsest grid that has one, searched from `10 ^ top` down over so many
grids. -/
def search (n : Neighbourhood) (top : Int) : Nat → Option (Nat × Int)
  | 0 => none
  | grids + 1 =>
      match n.pick? top with
      | some c => some (c, top)
      | none => n.search (top - 1) grids

end Neighbourhood

/-- The digits and the power of ten of the shortest decimal; every value has one between `10 ^ 309`
and `10 ^ -1080`. -/
def shortestDecimal (mantissa : Nat) (exponent : Int) : Nat × Int :=
  if mantissa = 0 then (0, 0)
  else ((neighbourhood mantissa exponent).search 309 1400).getD (0, 0)

/-- A decimal in positional notation with at least one digit on each side of the point. -/
def positional (digits : Nat) (exponent : Int) : String :=
  let ds := Nat.toDigits 10 digits
  if 0 ≤ exponent then String.ofList (ds ++ List.replicate exponent.toNat '0') ++ ".0"
  else
    let places := (-exponent).toNat
    let padded := List.replicate (places + 1 - ds.length) '0' ++ ds
    let cut := padded.length - places
    String.ofList (padded.take cut ++ '.' :: padded.drop cut)

/-- A floating-point value as text. -/
def Binary64.text : Binary64 → String
  | finite negative m e =>
      let (digits, exponent) := shortestDecimal m e
      (if negative then "-" else "") ++ positional digits exponent
  | infinite negative => if negative then "-inf" else "inf"
  | notANumber => "NaN"

end Tripwire.Number
