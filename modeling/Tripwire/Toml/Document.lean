/-
Documents: a text read as a table.

The statements of a text are taken one after the other.  A header opens a table,
and the assignments behind it go there until the next header; those before the
first header go to the document's own table.  A byte order mark in front of the
text means nothing.
-/
import Tripwire.Toml.Statement

namespace Tripwire.Toml

/-- A document as far as it has been read, and the path of the table that is open. -/
structure Draft where
  here : List String := []
  entries : Entries := []

/-- The document with one more statement; a statement may contradict the earlier ones. -/
def Draft.add (d : Draft) : Statement → Option Draft
  | .assign key v =>
      (Entries.within (Entries.assign v key.name key.path) d.here d.entries).map fun entries =>
        { d with entries }
  | .table key =>
      (Entries.within (Entries.openTable key.name) key.path d.entries).map fun entries =>
        { here := key.names, entries }
  | .tables key =>
      (Entries.within (Entries.openNext key.name) key.path d.entries).map fun entries =>
        { here := key.names, entries }

/-- The table that statements describe. -/
def build? (statements : List Statement) : Option (List (String × Value)) :=
  (statements.foldlM Draft.add {}).map fun d => closeEntries d.entries

/-- The text without a byte order mark in front. -/
def skipMark : List Char → List Char
  | '\ufeff' :: rest => rest
  | s => s

/-- The table that a text describes, if it is a document at all. -/
def document? (text : String) : Option (List (String × Value)) :=
  let s := skipMark text.toList
  (statements? (s.length + 1) s).bind build?

end Tripwire.Toml
