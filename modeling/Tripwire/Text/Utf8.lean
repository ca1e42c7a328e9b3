/-
UTF-8, read one octet at a time.

The reader holds the character it is in the middle of: the bits seen so far, how
many octets are still to come and which values the next one may have.  The bound
on the next octet is what rules out overlong forms, surrogates and values beyond
the last code point, so no finished character needs a second look.

An octet that cannot continue the character in hand ends it as one malformed
part, and is then read again as a first octet.  A malformed part is therefore as
long as it can be while it is still the beginning of some character, which is the
rule the Unicode standard recommends for replacement.

`scan` gives the characters and the malformed parts in order.  `decode?` accepts
a text without malformed parts, and `decodeLossy` shows each of them as U+FFFD.
-/
namespace Tripwire.Text.Utf8

/-- A character of which some octets have been read and at least one is missing. -/
structure Begun where
  /-- The bits of the octets read so far. -/
  bits : Nat
  /-- How many octets are missing after the next one. -/
  more : Nat
  /-- The least value the next octet may have. -/
  low : Nat
  /-- The greatest value the next octet may have. -/
  high : Nat

/-- What a first octet begins: a whole character, a longer one, or nothing. -/
inductive Start where
  | whole (c : Char)
  | longer (p : Begun)
  | malformed

/-- Reads a first octet. -/
def start (octet : UInt8) : Start :=
  let b := octet.toNat
  if b < 0x80 then .whole (Char.ofNat b)
  else if b < 0xc2 then .malformed
  else if b < 0xe0 then .longer ⟨b - 0xc0, 0, 0x80, 0xbf⟩
  else if b = 0xe0 then .longer ⟨b - 0xe0, 1, 0xa0, 0xbf⟩
  else if b = 0xed then .longer ⟨b - 0xe0, 1, 0x80, 0x9f⟩
  else if b < 0xf0 then .longer ⟨b - 0xe0, 1, 0x80, 0xbf⟩
  else if b = 0xf0 then .longer ⟨b - 0xf0, 2, 0x90, 0xbf⟩
  else if b < 0xf4 then .longer ⟨b - 0xf0, 2, 0x80, 0xbf⟩
  else if b = 0xf4 then .longer ⟨b - 0xf0, 2, 0x80, 0x8f⟩
  else .malformed

/-- The octet may come next in the character in hand. -/
def Begun.accepts (p : Begun) (octet : UInt8) : Bool :=
  p.low ≤ octet.toNat && octet.toNat ≤ p.high

/-- The bits of the character in hand with one more octet read. -/
def Begun.push (p : Begun) (octet : UInt8) : Nat :=
  p.bits * 64 + (octet.toNat - 0x80)

/-- What a first octet settles, and the character it begins. -/
def first (octet : UInt8) : List (Option Char) × Option Begun :=
  match start octet with
  | .whole c => ([some c], none)
  | .longer p => ([], some p)
  | .malformed => ([none], none)

/-- What one more octet settles behind the character in hand, and what is in hand after it. -/
def Begun.next (p : Begun) (octet : UInt8) : List (Option Char) × Option Begun :=
  if p.accepts octet then
    match p.more with
    | 0 => ([some (Char.ofNat (p.push octet))], none)
    | more + 1 => ([], some ⟨p.push octet, more, 0x80, 0xbf⟩)
  else
    let (parts, hand) := first octet
    (none :: parts, hand)

/-- The characters of the octets in order, `none` for each malformed part. -/
def scan : Option Begun → List UInt8 → List (Option Char)
  | none, [] => []
  | some _, [] => [none]
  | none, octet :: rest => (first octet).1 ++ scan (first octet).2 rest
  | some p, octet :: rest => (p.next octet).1 ++ scan (p.next octet).2 rest

/-- The text the octets spell, if no part of them is malformed. -/
def decode? (octets : List UInt8) : Option String :=
  ((scan none octets).mapM id).map String.ofList

/-- The text the octets spell, with U+FFFD for each malformed part. -/
def decodeLossy (octets : List UInt8) : List Char :=
  (scan none octets).map (·.getD '\uFFFD')

end Tripwire.Text.Utf8
