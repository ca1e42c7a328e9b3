/-
Documents while they are being put together.

What may still be said about a table depends on how the table came to be.  A
header of its own settles it: no other header may name it and no dotted key may
reach into it.  A table that is only there because a longer header runs through it
may still get its header, and then moves to the end of the table it is in.  A
table made by a dotted key can be reached by more dotted keys of the same section.
An array of tables is always open at its last table.
-/
import Tripwire.Toml.Value

namespace Tripwire.Toml

/-- How a table came to be. -/
inductive Origin where
  /-- It has a header. -/
  | header
  /-- A longer header runs through it. -/
  | implied
  /-- A dotted key runs through it. -/
  | dotted
  deriving DecidableEq, Repr

/-- What stands under a key: a value, a table that can still grow, or an array of tables of which
the last one can. -/
inductive Node where
  | value (v : Value)
  | table (origin : Origin) (entries : List (String × Node))
  | tables (earlier : List Value) (last : List (String × Node))

/-- The keys of a table with what stands under them, in the order of their first appearance. -/
abbrev Entries := List (String × Node)

mutual

/-- The value a node ends up as. -/
def Node.close : Node → Value
  | .value v => v
  | .table _ entries => .table (closeEntries entries)
  | .tables earlier last => .array (earlier ++ [.table (closeEntries last)])

/-- The values the nodes of a table end up as. -/
def closeEntries : List (String × Node) → List (String × Value)
  | [] => []
  | (key, node) :: rest => (key, node.close) :: closeEntries rest

end

namespace Entries

/-- Changes what stands under a key, or adds something at the end if nothing does yet. -/
def put (key : String) (f : Option Node → Option Node) : Entries → Option Entries
  | [] => (f none).map fun node => [(key, node)]
  | (k, node) :: rest =>
      if k = key then (f (some node)).map fun node => (k, node) :: rest
      else (put key f rest).map ((k, node) :: ·)

/-- The value under a dotted key, here its path and its last part.  The key must be new, and the
table it stands in must have been made by a dotted key too, unless the path is empty. -/
def assign (v : Value) (name : String) : List String → Entries → Option Entries
  | [] => put name fun
      | none => some (.value v)
      | some _ => none
  | key :: path => put key fun
      | none => (assign v name path []).map (.table .dotted)
      | some (.table .dotted entries) => (assign v name path entries).map (.table .dotted)
      | some (.table .implied entries) =>
          if path = [] then none else (assign v name path entries).map (.table .implied)
      | some (.tables earlier last) =>
          if path = [] then none else (assign v name path last).map (.tables earlier)
      | some (.table .header _) => none
      | some (.value _) => none

/-- Changes the table at the end of a header's path; the tables on the way are made if they are
missing. -/
def within (f : Entries → Option Entries) : List String → Entries → Option Entries
  | [] => f
  | key :: path => put key fun
      | none => (within f path []).map (.table .implied)
      | some (.table origin entries) => (within f path entries).map (.table origin)
      | some (.tables earlier last) => (within f path last).map (.tables earlier)
      | some (.value _) => none

/-- Gives a table its header. -/
def openTable (name : String) (entries : Entries) : Option Entries :=
  match entries.lookup name with
  | none => some (entries ++ [(name, .table .header [])])
  | some (.table .implied inner) =>
      some (entries.filter (·.1 ≠ name) ++ [(name, .table .header inner)])
  | some _ => none

/-- Adds a table to an array of them. -/
def openNext (name : String) : Entries → Option Entries :=
  put name fun
    | none => some (.tables [] [])
    | some (.tables earlier last) =>
        some (.tables (earlier ++ [.table (closeEntries last)]) [])
    | some _ => none

end Entries

end Tripwire.Toml
