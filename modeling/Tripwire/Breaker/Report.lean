/-
What is reported as an error, and how it is written down.

A report is written only when the breaker trips, and writing it can fail: some
values have no text.  Then the first failure in the order of writing is what the
whole attempt fails with.
-/
import Tripwire.Text.Quoted

namespace Tripwire

/-- Why an operation broke off. -/
structure Fault where
  message : String
  deriving DecidableEq, Repr

/-- An error as it is reported. -/
inductive Report where
  | text (s : String)
  | number (n : Int)
  | truth (b : Bool)
  | unit
  | list (items : List Report)
  /-- A value that cannot be written. -/
  | unprintable (fault : Fault)
  deriving Repr, Inhabited

namespace Report

mutual

/-- A report as text: strings in quotes, lists in brackets. -/
def print : Report → Except Fault String
  | text s => .ok (Text.quote s)
  | number n => .ok (toString n)
  | truth b => .ok (toString b)
  | unit => .ok "()"
  | list items => (printItems items).map Text.bracketed
  | unprintable fault => .error fault

/-- Each of several reports as text. -/
def printItems : List Report → Except Fault (List String)
  | [] => .ok []
  | r :: rest => do
      let s ← r.print
      let ss ← printItems rest
      .ok (s :: ss)

end

/-- Several reports as text, in brackets. -/
def printList (reports : List Report) : Except Fault String :=
  (printItems reports).map Text.bracketed

/-- Strings can all be written. -/
theorem printList_map_text (lines : List String) :
    printList (lines.map text) = .ok (Text.bracketed (lines.map Text.quote)) := by
  have items : ∀ ls : List String, printItems (ls.map text) = .ok (ls.map Text.quote) := by
    intro ls
    induction ls with
    | nil => rfl
    | cons l ls ih => simp [printItems, print, ih, bind, Except.bind]
  simp [printList, items, Except.map]

end Report

end Tripwire
