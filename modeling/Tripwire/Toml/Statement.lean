/-
The statements of a document: a value given to a key, or a header.

A key is one name or several with points between; a name is bare or quoted.
Neither a key nor a value may be too deep: a key has at most 79 names, and arrays
and inline tables at most 79 levels.  An array may run over lines, hold comments
and end with a comma; an inline table stays on its line and may not.
-/
import Tripwire.Toml.Moment
import Tripwire.Toml.Node

namespace Tripwire.Toml

/-- The most names in a key, and the most levels of arrays and inline tables in a value. -/
def maxDepth : Nat := 79

/-- A dotted key: the tables to go through, and the name in the last of them. -/
structure Key where
  path : List String
  name : String

/-- All names of a key. -/
def Key.names (key : Key) : List String := key.path ++ [key.name]

/-- One line of a document that says something. -/
inductive Statement where
  | assign (key : Key) (v : Value)
  | table (key : Key)
  | tables (key : Key)

/-- A character of a bare name. -/
def isBare (c : Char) : Bool := c.isAlphanum || c = '_' || c = '-'

/-- One name of a key. -/
def name? : List Char → Option (String × List Char)
  | '"' :: rest => (basic? rest).map fun (name, rest) => (String.ofList name, rest)
  | '\x27' :: rest => (literal? rest).map fun (name, rest) => (String.ofList name, rest)
  | s =>
      let name := s.takeWhile isBare
      if name = [] then none else some (String.ofList name, s.dropWhile isBare)

/-- A key of at most so many names, with the spaces around it. -/
def key? : Nat → List Char → Option (Key × List Char)
  | 0, _ => none
  | depth + 1, s => do
      let (name, s) ← name? (skipSpaces s)
      match skipSpaces s with
      | '.' :: rest => do
          let (key, rest) ← key? depth rest
          some (⟨name :: key.path, key.name⟩, rest)
      | rest => some (⟨[], name⟩, rest)

/-- What follows a word, if the text begins with it. -/
def afterWord? (word s : List Char) : Option (List Char) :=
  if word.isPrefixOf s then some (s.drop word.length) else none

/-- `true` or `false`. -/
def boolean? (s : List Char) : Option (Value × List Char) :=
  match afterWord? ['t', 'r', 'u', 'e'] s with
  | some rest => some (.boolean true, rest)
  | none => (afterWord? ['f', 'a', 'l', 's', 'e'] s).map fun rest => (.boolean false, rest)

/-- A value that holds no others. -/
def scalar? (s : List Char) : Option (Value × List Char) :=
  ((quotation? s).map fun (text, rest) => (Value.string text, rest))
    <|> boolean? s <|> moment? s <|> float? s <|> integer? s

/-- The items of an array behind its opening bracket, given the reader of an item. -/
def items? (item? : List Char → Option (Value × List Char)) :
    Nat → List Char → Option (List Value × List Char)
  | 0, _ => none
  | fuel + 1, s => do
      let s ← skipFiller? false s
      match s with
      | ']' :: rest => some ([], rest)
      | s => do
          let (v, s) ← item? s
          let s ← skipFiller? false s
          match s with
          | ',' :: rest => do
              let (vs, rest) ← items? item? fuel rest
              some (v :: vs, rest)
          | ']' :: rest => some ([v], rest)
          | _ => none

/-- One key of an inline table with its value, put into the table. -/
def member? (item? : List Char → Option (Value × List Char)) (entries : Entries)
    (s : List Char) : Option (Entries × List Char) := do
  let (key, s) ← key? maxDepth s
  let s ← after? '=' s
  let (v, s) ← item? (skipSpaces s)
  let entries ← entries.assign v key.name key.path
  some (entries, skipSpaces s)

/-- The keys of an inline table, none of them or at least one yet to come. -/
def members? (item? : List Char → Option (Value × List Char)) :
    Nat → Entries → List Char → Option (Entries × List Char)
  | 0, _, _ => none
  | fuel + 1, entries, s => do
      let (entries, s) ← member? item? entries s
      match s with
      | ',' :: rest => members? item? fuel entries rest
      | '\x7d' :: rest => some (entries, rest)
      | _ => none

/-- An inline table behind its opening brace. -/
def inline? (item? : List Char → Option (Value × List Char)) (s : List Char) :
    Option (Value × List Char) :=
  match skipSpaces s with
  | '\x7d' :: rest => some (.table [], rest)
  | s => (members? item? (s.length + 1) [] s).map fun (entries, rest) =>
      (.table (closeEntries entries), rest)

/-- A value with at most so many levels of arrays and inline tables. -/
def value? : Nat → List Char → Option (Value × List Char)
  | depth + 1, '[' :: rest =>
      (items? (value? depth) (rest.length + 1) rest).map fun (vs, rest) => (.array vs, rest)
  | depth + 1, '\x7b' :: rest => inline? (value? depth) rest
  | _, s => scalar? s

/-- One statement with the rest of its line. -/
def statement? : List Char → Option (Statement × List Char)
  | '[' :: '[' :: s => do
      let (key, s) ← key? maxDepth s
      let s ← afterWord? [']', ']'] s
      let rest ← lineEnd? s
      some (.tables key, rest)
  | '[' :: s => do
      let (key, s) ← key? maxDepth s
      let s ← after? ']' s
      let rest ← lineEnd? s
      some (.table key, rest)
  | s => do
      let (key, s) ← key? maxDepth s
      let s ← after? '=' s
      let (v, s) ← value? maxDepth (skipSpaces s)
      let rest ← lineEnd? s
      some (.assign key v, rest)

/-- So many statements at most, up to the end of the text. -/
def statements? : Nat → List Char → Option (List Statement)
  | 0, _ => none
  | fuel + 1, s => do
      match ← skipFiller? false s with
      | [] => some []
      | s => do
          let (statement, rest) ← statement? s
          let statements ← statements? fuel rest
          some (statement :: statements)

end Tripwire.Toml
