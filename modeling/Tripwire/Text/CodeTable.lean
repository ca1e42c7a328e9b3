/-
Sets of code points, written as tables of inclusive ranges.

The character classes of this library come from the Unicode standard as tables.
A table is a list of pairs `(lo, hi)`, and a code point belongs to it when some
pair encloses it.  Nothing here asks for the pairs to be sorted or disjoint.
-/
namespace Tripwire.Text

/-- Some range of the table encloses the code point. -/
def inTable (table : List (Nat × Nat)) (code : Nat) : Bool :=
  table.any fun range => range.1 ≤ code && code ≤ range.2

@[simp]
theorem inTable_nil (code : Nat) : inTable [] code = false := rfl

@[simp]
theorem inTable_cons (range : Nat × Nat) (table : List (Nat × Nat)) (code : Nat) :
    inTable (range :: table) code
      = ((range.1 ≤ code && code ≤ range.2) || inTable table code) := by
  simp [inTable]

/-- A code point that one range of the table encloses is in the table. -/
theorem inTable_of_mem {range : Nat × Nat} {table : List (Nat × Nat)} {code : Nat}
    (mem : range ∈ table) (low : range.1 ≤ code) (high : code ≤ range.2) :
    inTable table code = true :=
  List.any_eq_true.mpr ⟨range, mem, by simp [low, high]⟩

end Tripwire.Text
