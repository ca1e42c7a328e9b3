/-
What a TOML document says, without the way it was written.

A table is a list of keys with their values, in the order in which the keys first
appeared.  A date-time is only told apart from other values: no setting is one,
so which day it names is never asked.
-/
import Tripwire.Number.Binary64

namespace Tripwire.Toml

/-- A value of a document. -/
inductive Value where
  | string (s : String)
  | integer (n : Int)
  | float (x : Number.Binary64)
  | boolean (b : Bool)
  | moment
  | array (items : List Value)
  | table (entries : List (String × Value))
  deriving Inhabited

end Tripwire.Toml
