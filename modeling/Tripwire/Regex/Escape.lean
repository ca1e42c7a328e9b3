/-
Escapes in regular expressions: a backslash and what belongs to it.

A backslash takes the meaning from a character that has one and gives one to some
letters.  A character may also be given by the digits of its code point.
-/
import Tripwire.Regex.Mode
import Tripwire.Text.Hexadecimal

namespace Tripwire.Regex

/-- What an escape stands for. -/
inductive Escape where
  | character (c : Char)
  /-- One of some characters. -/
  | set
  /-- A place between characters. -/
  | place
  /-- The place where a word begins or ends, in any script. -/
  | wordEdge
  deriving DecidableEq, Repr

/-- So many hexadecimal digits. -/
def readDigits? (m : Mode) : Nat → List Char → Option (List Char × List Char)
  | 0, s => some ([], s)
  | n + 1, s =>
      match m.skip s with
      | d :: rest =>
          if (Text.hexDigit? d).isSome then
            (readDigits? m n rest).map fun (ds, rest) => (d :: ds, rest)
          else none
      | [] => none

/-- A character by the digits of its code point. -/
def readCode? (m : Mode) (digits : Nat) (s : List Char) : Option (Char × List Char) := do
  let (ds, rest) ← readDigits? m digits s
  let c ← Text.hexChar? ds
  some (c, rest)

/-- The character that a letter stands for. -/
def namedCharacter? : Char → Option Char
  | 'a' => some '\x07'
  | 'f' => some '\x0c'
  | 't' => some '\t'
  | 'n' => some '\n'
  | 'r' => some '\r'
  | 'v' => some '\x0b'
  | _ => none

/-- An escape, behind its backslash. -/
def readEscape? (m : Mode) : List Char → Option (Escape × List Char)
  | [] => none
  | 'x' :: s => do
      let (c, rest) ← readCode? m 2 s
      if m.bytes && 0x80 ≤ c.toNat then none else some (.character c, rest)
  | 'u' :: s => (readCode? m 4 s).map fun (c, rest) => (.character c, rest)
  | 'U' :: s => (readCode? m 8 s).map fun (c, rest) => (.character c, rest)
  | c :: s =>
      if ['d', 's', 'w'].contains c then if m.bytes then some (.set, s) else none
      else if ['b', 'B', '<', '>'].contains c then
        some (if m.bytes then .place else .wordEdge, s)
      else if ['A', 'z'].contains c then some (.place, s)
      else
        match namedCharacter? c with
        | some c => some (.character c, s)
        | none => if c.toNat < 0x80 && !c.isAlphanum then some (.character c, s) else none

end Tripwire.Regex
