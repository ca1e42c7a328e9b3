/-
Records as text: a name and its fields between braces, on one line or one field
to a line.
-/
namespace Tripwire.Text

/-- The fields in a row, each as its name, a colon and its value. -/
def recordLine (name : String) (fields : List (String × String)) : String :=
  name ++ " \x7b " ++ ", ".intercalate (fields.map fun f => f.1 ++ ": " ++ f.2) ++ " \x7d"

/-- The fields one to a line, indented by four spaces, each with a comma after it. -/
def recordBlock (name : String) (fields : List (String × String)) : String :=
  name ++ " \x7b\n" ++ String.join (fields.map fun f => "    " ++ f.1 ++ ": " ++ f.2 ++ ",\n")
    ++ "\x7d"

end Tripwire.Text
