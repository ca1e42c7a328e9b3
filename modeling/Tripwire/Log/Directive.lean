/-
The rules that a filter is made of.

A directive is a level, a target, or a target and a level with an equals sign
between; a target by itself lets everything pass.  A level is a name in any case or
a number from 0, which turns everything off, to 5.  A target means all targets that
begin with it.

A directive may also name a span in brackets, and a field in braces inside these.
No record of this program stands in a span, so a directive with a span is not about
records.  One with a field is about records that have it; but if it asks for a value
of the field, a number or a regular expression, it is one for spans only.

White space around a directive does not matter for its form.  The places of its
parts are counted without the white space in front of it, though, and the parts are
then taken from the directive as it stands.
-/
import Tripwire.Log.Record
import Tripwire.Number.Floating
import Tripwire.Number.Unsigned
import Tripwire.Regex.Reading
import Tripwire.Text.Slice

namespace Tripwire

/-- One rule of a filter. -/
structure Directive where
  target : Option String := none
  /-- It is about spans only. -/
  inSpan : Bool := false
  /-- The field that a record has to have. -/
  field : Option String := none
  /-- The rank of the last level that passes, or zero. -/
  rank : Nat := Level.trace.rank
  deriving DecidableEq, Repr

/-- Why a text is no directive. -/
inductive DirectiveError where
  | malformed
  /-- There is no such level. -/
  | level
  /-- What is asked for as a value of a field is none. -/
  | value (fault : Regex.Fault)
  deriving DecidableEq, Repr

/-- The error in words. -/
def DirectiveError.message : DirectiveError → String
  | malformed => "invalid filter directive"
  | level =>
      "error parsing level filter: expected one of \"off\", \"error\", \"warn\", \"info\", "
        ++ "\"debug\", \"trace\", or a number 0-5"
  | value fault => "invalid field filter: " ++ fault.message

/-- The rank of a level by its name or number. -/
def Level.readRank? (text : String) : Option Nat :=
  match Number.readUnsigned text with
  | .ok n => if n.toNat ≤ 5 then some n.toNat else none
  | .error _ =>
      match (text.map Char.toLower) with
      | "" => some 1
      | "error" => some 1
      | "warn" => some 2
      | "info" => some 3
      | "debug" => some 4
      | "trace" => some 5
      | "off" => some 0
      | _ => none

namespace Directive

/-- What is read of a directive: its text as it stands, and the place up to which it is read. -/
structure Reading where
  whole : List Char
  place : Nat
  directive : Directive

namespace Reading

/-- Reading goes on behind some more characters. -/
def skip (r : Reading) (s : List Char) : Reading := { r with place := r.place + Text.byteSize s }

/-- The part that stands in the place of the characters to come. -/
def part (r : Reading) (s : List Char) : List Char :=
  Text.slice r.whole r.place (r.place + Text.byteSize s)

/-- A level up to the end, or nothing, which lets everything pass. -/
def takeLevel (r : Reading) : Except DirectiveError Directive :=
  match Text.dropBytes r.place r.whole with
  | [] => .ok r.directive
  | level =>
      match Level.readRank? (String.ofList level) with
      | some rank => .ok { r.directive with rank }
      | none => .error .level

/-- What stands behind the brackets: an equals sign and a level, or nothing. -/
def takeEnd (r : Reading) : List Char → Except DirectiveError Directive
  | [] => .ok r.directive
  | '=' :: _ => (r.skip ['=']).takeLevel
  | _ => .error .malformed

/-- Whether the text can be asked for as a value. -/
def checkValue (s : List Char) : Except DirectiveError Unit :=
  if Number.isFloat s then .ok () else (Regex.check s).mapError .value

/-- The directive with a field, and perhaps a value of it, between equals signs. -/
def addField (d : Directive) (field : List Char) : Except DirectiveError Directive :=
  let name := field.takeWhile (· ≠ '=')
  match field.dropWhile (· ≠ '=') with
  | [] => .ok { d with field := some (String.ofList name) }
  | _ :: value => do
      checkValue (value.takeWhile (· ≠ '='))
      .ok { d with field := some (String.ofList name), inSpan := true }

/-- A field, behind the opening brace, and what follows it. -/
def takeField (r : Reading) (s : List Char) : Except DirectiveError Directive :=
  let field := s.takeWhile (· ≠ '\x7d')
  match s.dropWhile (· ≠ '\x7d') with
  | [] => .error .malformed
  | _ :: rest =>
      if field = [] then .error .malformed
      else do
        let directive ← addField r.directive (r.part field)
        match rest with
        | ']' :: rest => ({ r with directive }.skip (field ++ ['\x7d', ']'])).takeEnd rest
        | _ => .error .malformed

/-- A span, behind the opening bracket, and what follows it. -/
def takeSpan (r : Reading) (s : List Char) : Except DirectiveError Directive :=
  let name := s.takeWhile fun c => c ≠ ']' && c ≠ '\x7b'
  match s.dropWhile fun c => c ≠ ']' && c ≠ '\x7b' with
  | ']' :: rest =>
      ({ r with directive := { r.directive with inSpan := true } }.skip
        (name ++ [']'])).takeEnd rest
  | _ :: rest =>
      ({ r with directive := { r.directive with inSpan := name ≠ [] } }.skip
        (name ++ ['\x7b'])).takeField rest
  | [] => .error .malformed

end Reading

/-- A character that a directive can begin with, brackets apart. -/
def canBegin (c : Char) : Bool :=
  c = '-' || c = ':' || c = '_' || Text.isAlphabetic c || Text.isNumeric c

/-- A level or else a target. -/
def ofWord (word : String) : Directive :=
  match Level.readRank? word with
  | some rank => { rank }
  | none => { target := some word }

/-- The directive that a text spells. -/
def read (text : String) : Except DirectiveError Directive :=
  let r : Reading := { whole := text.toList, place := 0, directive := {} }
  let s := Text.trim r.whole
  match s with
  | [] => .error .malformed
  | '[' :: rest => (r.skip ['[']).takeSpan rest
  | c :: _ =>
      if canBegin c then
        let word := s.takeWhile fun c => c ≠ '=' && c ≠ '['
        let aimed := { r with directive := { target := some (String.ofList (r.part word)) } }
        match s.dropWhile fun c => c ≠ '=' && c ≠ '[' with
        | [] => .ok (ofWord text)
        | '[' :: rest => (aimed.skip (word ++ ['['])).takeSpan rest
        | _ => (aimed.skip (word ++ ['='])).takeLevel
      else .error .malformed

/-- The directive is about the record. -/
def covers (d : Directive) (r : Record) : Bool :=
  d.target.all (fun t => t.toList.isPrefixOf r.target.toList)
    && d.field.all fun f => f = "message" || (r.fields.map (·.1)).contains f

/-- The order of directives: one is above another if its target is longer, or else if it has a
field and the other has none, or else by their texts. -/
def order (d e : Directive) : Ordering :=
  (compare (d.target.map String.utf8ByteSize) (e.target.map String.utf8ByteSize)).then <|
    (compare d.field.isSome e.field.isSome).then <|
      (compare d.target e.target).then (compare d.field e.field)

/-- Puts a directive among some in descending order, in place of one about the same records. -/
def insert (d : Directive) : List Directive → List Directive
  | [] => [d]
  | e :: rest =>
      match d.order e with
      | .gt => d :: e :: rest
      | .eq => d :: rest
      | .lt => e :: insert d rest

end Directive

end Tripwire
