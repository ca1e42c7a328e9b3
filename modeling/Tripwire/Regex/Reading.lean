/-
Regular expressions, read from left to right.

Parts stand one behind the other, branches have bars between them, and a part in
parentheses is a group.  A sign behind a part says how often it may come; a
question mark behind the sign is part of it.  A group may begin with a question
mark and a name between angle brackets, or with flags that hold up to its end.
Flags alone between parentheses hold up to the end of the group around them.

The edge of a word is part of an expression only in ASCII: an expression that asks for
it in any script is well formed, but nothing can match it.

A counted repetition ends with a closing brace.  The texts that are read here are
values between braces and cannot hold one, so an opening brace is never right.
-/
import Tripwire.Regex.Bracket
import Tripwire.Text.Alphabetic
import Tripwire.Text.Numeric

namespace Tripwire.Regex

/-- What stands in a branch. -/
inductive Piece where
  | flags
  /-- A part, and how deep it is nested. -/
  | part (depth : Nat)
  deriving DecidableEq, Repr

/-- How deep it is nested. -/
def Piece.depth : Piece → Nat
  | flags => 0
  | part depth => depth

/-- A group that is not closed yet, or the whole expression. -/
structure Group where
  /-- The mode around the group. -/
  outer : Mode := {}
  /-- How deep the branches before the last one are nested. -/
  branches : List Nat := []
  /-- The last branch, backwards. -/
  pieces : List Piece := []

namespace Group

/-- How deep the last branch is nested. -/
def branchDepth (g : Group) : Nat := joinedDepth (g.pieces.map Piece.depth)

/-- How deep the branches together are nested. -/
def depth (g : Group) : Nat := joinedDepth (g.branchDepth :: g.branches)

/-- The group with one more piece in its last branch. -/
def add (g : Group) (p : Piece) : Group := { g with pieces := p :: g.pieces }

/-- The group with a new branch. -/
def branch (g : Group) : Group := { g with branches := g.branchDepth :: g.branches, pieces := [] }

/-- The group with its last part repeated. -/
def repeat? (g : Group) : Option Group :=
  match g.pieces with
  | .part depth :: pieces => some { g with pieces := .part (depth + 1) :: pieces }
  | _ => none

end Group

/-- Why a text is no expression that can be matched. -/
inductive Fault where
  | malformed
  /-- It asks for the edge of a word in any script. -/
  | wordEdge
  deriving DecidableEq, Repr

/-- The fault in words. -/
def Fault.message : Fault → String
  | malformed => "error building NFA"
  | wordEdge =>
      "unsupported regex feature for DFAs: cannot build DFAs for regexes with Unicode word "
        ++ "boundaries; switch to ASCII word boundaries, or heuristically enable Unicode word "
        ++ "boundaries or use a different regex engine"

/-- An expression as far as it has been read. -/
structure Progress where
  mode : Mode := {}
  /-- The names of groups. -/
  names : List (List Char) := []
  group : Group := {}
  /-- The groups around it. -/
  above : List Group := []
  /-- The edge of a word is asked for. -/
  hasWordEdge : Bool := false

namespace Progress

/-- One more piece. -/
def add (p : Progress) (piece : Piece) : Progress := { p with group := p.group.add piece }

/-- A character, which matches itself. -/
def addCharacter? (p : Progress) : Option Progress :=
  if p.mode.lacksCases then none else some (p.add (.part 0))

/-- A new group in a mode. -/
def enter (p : Progress) (mode : Mode) : Progress :=
  { p with mode, group := { outer := p.mode }, above := p.group :: p.above }

/-- The end of a group. -/
def leave? (p : Progress) : Option Progress :=
  match p.above with
  | [] => none
  | group :: above =>
      some { p with
        mode := p.group.outer
        group := group.add (.part (p.group.depth + 1))
        above }

/-- The characters can be the name of a group. -/
def isName : List Char → Bool
  | [] => false
  | c :: s =>
      (c = '_' || Text.isAlphabetic c)
        && s.all fun c =>
          ['_', '.', '[', ']'].contains c || Text.isAlphabetic c || Text.isNumeric c

/-- A named group, behind the bracket before its name. -/
def enterNamed? (p : Progress) (s : List Char) : Option (Progress × List Char) :=
  let name := s.takeWhile (· ≠ '>')
  match s.dropWhile (· ≠ '>') with
  | '>' :: rest =>
      if isName name && !p.names.contains name then
        some ({ p with names := name :: p.names }.enter p.mode, rest)
      else none
  | _ => none

/-- A group or flags, behind the parenthesis. -/
def open? (p : Progress) (s : List Char) : Option (Progress × List Char) :=
  match p.mode.skip s with
  | '?' :: 'P' :: '<' :: s => p.enterNamed? s
  | '?' :: '<' :: s => p.enterNamed? s
  | '?' :: s => do
      let (mode, ending, rest) ← p.mode.readFlags? [] s
      if ending = ')' then some ({ p with mode }.add .flags, rest)
      else some (p.enter mode, rest)
  | s => some (p.enter p.mode, s)

/-- An escape, behind its backslash. -/
def escape? (p : Progress) (s : List Char) : Option (Progress × List Char) := do
  let (escape, rest) ← readEscape? p.mode s
  match escape with
  | .character _ => (p.addCharacter?).map (·, rest)
  | .set | .place => some (p.add (.part 0), rest)
  | .wordEdge => some ({ p with hasWordEdge := true }.add (.part 0), rest)

/-- A bracket, behind the opening one. -/
def bracket? (p : Progress) (s : List Char) : Option (Progress × List Char) := do
  let s ← skipCaret? p.mode s
  let (depth, rest) ← readBracket? p.mode (s.length + 1) {} [] s
  if p.mode.lacksCases then none else some (p.add (.part depth), rest)

/-- A sign for repetition, and a question mark behind it. -/
def repeat? (p : Progress) (s : List Char) : Option (Progress × List Char) := do
  let group ← p.group.repeat?
  some ({ p with group }, if s.head? = some '?' then s.tail else s)

/-- One character and what belongs to it. -/
def step? (p : Progress) (c : Char) (s : List Char) : Option (Progress × List Char) :=
  match c with
  | '(' => p.open? s
  | ')' => p.leave?.map (·, s)
  | '|' => some ({ p with group := p.group.branch }, s)
  | '[' => p.bracket? s
  | '?' | '*' | '+' => p.repeat? s
  | '\x7b' => none
  | '\\' => p.escape? s
  | '.' => if p.mode.bytes then none else some (p.add (.part 0), s)
  | '^' | '$' => some (p.add (.part 0), s)
  | _ => p.addCharacter?.map (·, s)

/-- The whole expression, if the rest of it is well formed; every step takes a character at
least. -/
def finish? : Nat → Progress → List Char → Option Progress
  | 0, _, _ => none
  | fuel + 1, p, s =>
      match p.mode.skip s with
      | [] => if p.above.isEmpty then some p else none
      | c :: s => do
          let (p, s) ← p.step? c s
          finish? fuel p s

end Progress

/-- Whether the text is a regular expression that can be matched. -/
def check (s : List Char) : Except Fault Unit :=
  match Progress.finish? (s.length + 1) {} s with
  | some p =>
      if deepest < p.group.depth then .error .malformed
      else if p.hasWordEdge then .error .wordEdge
      else .ok ()
  | none => .error .malformed

end Tripwire.Regex
