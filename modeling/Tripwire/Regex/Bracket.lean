/-
Brackets in regular expressions: one of some characters.

Between brackets stand single characters, ranges of them, sets by escape or by
name, and brackets again.  Two signs of the same kind between them take what both
sides have in common, what only the left side has, or what exactly one of them has.
A caret behind the opening bracket asks for all other characters.

A bracket that closes right after the opening one and dashes there stand for
themselves, and so does a dash where no range can be.
-/
import Tripwire.Regex.Escape

namespace Tripwire.Regex

/-- A bracket that is not closed yet. -/
structure Bracket where
  /-- Nothing but dashes has been read. -/
  fresh : Bool := true
  /-- How deep what stands before the last sign is nested. -/
  left : Option Nat := none
  /-- How deep the parts behind it are nested. -/
  parts : List Nat := []

namespace Bracket

/-- The bracket with one more part. -/
def add (b : Bracket) (depth : Nat) : Bracket :=
  { b with fresh := false, parts := depth :: b.parts }

/-- How deep what stands in the bracket is nested. -/
def innerDepth (b : Bracket) : Nat :=
  match b.left with
  | some left => max left (joinedDepth b.parts) + 1
  | none => joinedDepth b.parts

/-- The bracket with a sign behind what has been read. -/
def operate (b : Bracket) : Bracket := { fresh := false, left := some b.innerDepth, parts := [] }

/-- How deep the bracket is nested. -/
def depth (b : Bracket) : Nat := b.innerDepth + 1

end Bracket

/-- What follows the caret behind an opening bracket, or the bracket itself. -/
def skipCaret? (m : Mode) (s : List Char) : Option (List Char) :=
  match m.skip s with
  | '^' :: rest => if m.bytes then none else some rest
  | rest => some rest

/-- The names of sets. -/
def setNames : List String :=
  ["alnum", "alpha", "ascii", "blank", "cntrl", "digit", "graph", "lower", "print", "punct",
   "space", "upper", "word", "xdigit"]

/-- A set by its name, behind its bracket: whether all other characters are asked for, and what
follows. -/
def readName? (s : List Char) : Option (Bool × List Char) :=
  match s with
  | ':' :: s =>
      let (others, s) := match s with
        | '^' :: s => (true, s)
        | s => (false, s)
      match s.dropWhile (· ≠ ':') with
      | ':' :: ']' :: rest =>
          if setNames.contains (String.ofList (s.takeWhile (· ≠ ':'))) then some (others, rest)
          else none
      | _ => none
  | _ => none

/-- A single character, or nothing in place of a set. -/
def readItem? (m : Mode) (c : Char) (s : List Char) : Option (Option Char × List Char) := do
  let (item, rest) ←
    if c = '\\' then
      match readEscape? m s with
      | some (.character c, rest) => some (some c, rest)
      | some (.set, rest) => some (none, rest)
      | _ => none
    else some (some c, s)
  if m.bytes && item.any (0x80 ≤ ·.toNat) then none else some (item, rest)

/-- What follows a single character, a range or a set by escape. -/
def readRange? (m : Mode) (c : Char) (s : List Char) : Option (List Char) := do
  let (first, rest) ← readItem? m c s
  match m.skip rest with
  | [] => none
  | '-' :: rest =>
      match m.skip rest with
      | [] => none
      | d :: behind =>
          if d = ']' ∨ d = '-' then some ('-' :: rest)
          else do
            let (last, behind) ← readItem? m d behind
            let first ← first
            let last ← last
            if first ≤ last then some behind else none
  | rest => some rest

/-- How deep a bracket is nested and what follows it; every turn takes a character at least. -/
def readBracket? (m : Mode) :
    Nat → Bracket → List Bracket → List Char → Option (Nat × List Char)
  | 0, _, _, _ => none
  | fuel + 1, b, above, s =>
      match m.skip s with
      | [] => none
      | c :: s =>
          if b.fresh && c = '-' then readBracket? m fuel { b with parts := 0 :: b.parts } above s
          else if b.fresh && b.parts.isEmpty && c = ']' then readBracket? m fuel (b.add 0) above s
          else
            match c, s with
            | '[', s =>
                match readName? s with
                | some (others, s) =>
                    if m.bytes && others then none else readBracket? m fuel (b.add 0) above s
                | none => do
                    let s ← skipCaret? m s
                    readBracket? m fuel {} (b :: above) s
            | ']', s =>
                match above with
                | [] => some (b.depth, s)
                | outer :: above => readBracket? m fuel (outer.add b.depth) above s
            | '&', '&' :: s => readBracket? m fuel b.operate above s
            | '-', '-' :: s => readBracket? m fuel b.operate above s
            | '~', '~' :: s => readBracket? m fuel b.operate above s
            | c, s => do
                let s ← readRange? m c s
                readBracket? m fuel (b.add 0) above s

end Tripwire.Regex
