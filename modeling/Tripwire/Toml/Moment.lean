/-
Dates, times of day, and both together.

A date has four digits for the year and two each for month and day, and the day
has to be in the calendar.  A time has hours, minutes and seconds, the seconds up
to 60, and perhaps a fraction.  A date and a time are joined by a `T` of either
case or by a space, and may be followed by an offset.
-/
import Tripwire.Toml.Numeral

namespace Tripwire.Toml

/-- So many decimal digits, as a number. -/
def fixed? : Nat → List Char → Option (Nat × List Char)
  | 0, s => some (0, s)
  | n + 1, c :: rest =>
      if isDigit c then do
        let (m, rest) ← fixed? n rest
        some ((c.toNat - '0'.toNat) * Nat.pow 10 n + m, rest)
      else none
  | _ + 1, [] => none

/-- Two digits that spell a number between two others. -/
def pair? (low high : Nat) (s : List Char) : Option (Nat × List Char) := do
  let (n, rest) ← fixed? 2 s
  if low ≤ n ∧ n ≤ high then some (n, rest) else none

/-- What follows a character, if the text begins with it. -/
def after? (c : Char) : List Char → Option (List Char)
  | d :: rest => if c = d then some rest else none
  | [] => none

/-- The last day of a month. -/
def lastDay (year month : Nat) : Nat :=
  if month = 2 then
    if year % 4 = 0 ∧ (year % 100 ≠ 0 ∨ year % 400 = 0) then 29 else 28
  else if month = 4 ∨ month = 6 ∨ month = 9 ∨ month = 11 then 30
  else 31

/-- What follows a date. -/
def date? (s : List Char) : Option (List Char) := do
  let (year, s) ← fixed? 4 s
  let s ← after? '-' s
  let (month, s) ← pair? 1 12 s
  let s ← after? '-' s
  let (_, s) ← pair? 1 (lastDay year month) s
  some s

/-- What follows a time of day. -/
def time? (s : List Char) : Option (List Char) := do
  let (_, s) ← pair? 0 23 s
  let s ← after? ':' s
  let (_, s) ← pair? 0 59 s
  let s ← after? ':' s
  let (_, s) ← pair? 0 60 s
  match s with
  | '.' :: c :: rest => some (if isDigit c then rest.dropWhile isDigit else s)
  | _ => some s

/-- What follows an offset, or the text itself where none stands. -/
def offset? : List Char → Option (List Char)
  | 'Z' :: rest => some rest
  | 'z' :: rest => some rest
  | c :: rest =>
      if c = '+' ∨ c = '-' then do
        let (_, s) ← pair? 0 23 rest
        let s ← after? ':' s
        let (_, s) ← pair? 0 59 s
        some s
      else some (c :: rest)
  | [] => some []

/-- What follows a date that is perhaps followed by a time. -/
def dateTime? (s : List Char) : Option (List Char) := do
  let s ← date? s
  match s with
  | c :: rest =>
      if c = 'T' ∨ c = 't' ∨ c = ' ' then
        match time? rest with
        | some rest => offset? rest
        | none => some s
      else some s
  | [] => some s

/-- A date, a time of day, or both. -/
def moment? (s : List Char) : Option (Value × List Char) :=
  ((dateTime? s).or (time? s)).map fun rest => (.moment, rest)

end Tripwire.Toml
