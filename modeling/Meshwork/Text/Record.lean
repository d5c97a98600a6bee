/-! # Records as text

A value shown by the names and texts of its fields. -/

namespace Meshwork.Record
set_option autoImplicit false

def field (f : String × String) : String := f.1 ++ ": " ++ f.2

def separated (items : List String) : String := ", ".intercalate items

def describe (name : String) (fields : List (String × String)) : String :=
  name ++ " \x7b " ++ separated (fields.map field) ++ " \x7d"

/-- Some fields of a record, with a sign that there are others. -/
def describePart (name : String) (fields : List (String × String)) : String :=
  name ++ " \x7b " ++ separated (fields.map field ++ [".."]) ++ " \x7d"

def list (items : List String) : String := "[" ++ separated items ++ "]"

def option (value : Option String) : String :=
  match value with
  | some text => "Some(" ++ text ++ ")"
  | none => "None"

def nat (n : Nat) : String := toString n

def bool (b : Bool) : String := if b then "true" else "false"

end Meshwork.Record
