import SqlMapper.Error

/-!
# Literals

The values that can be written into a statement as they are. Booleans are
numbers, and a quote inside a text is written twice.
-/

namespace SqlMapper

/-- A value that has a written form in SQL. -/
inductive Literal where
  | null
  | bool (value : Bool)
  | i32 (value : Int32)
  | i64 (value : Int64)
  | f64 (value : Float)
  | string (value : String)

namespace Literal

/-- The characters of a text between the quotes of its literal. -/
def escaped : List Char → List Char
  | [] => []
  | char :: rest =>
    if char = '\'' then '\'' :: '\'' :: escaped rest else char :: escaped rest

/-- The text of a literal inside a statement. -/
def text : Literal → String
  | null => "null"
  | bool true => "1"
  | bool false => "0"
  | i32 value => toString value.toInt
  | i64 value => toString value.toInt
  | f64 value => Decimal.floatText value
  | string value => String.ofList ('\'' :: escaped value.toList ++ ['\''])

/-- The literal of a value; members, lists and records have none. -/
def ofValue (value : Value) : Result Literal :=
  match value with
  | .null => .ok null
  | .bool value => .ok (bool value)
  | .i32 value => .ok (i32 value)
  | .i64 value => .ok (i64 value)
  | .f64 value => .ok (f64 value)
  | .string value => .ok (string value)
  | other =>
    (Fault.unsupportedFeature (other.display ++ " cannot be written as a SQL literal")).fail

end Literal

end SqlMapper
