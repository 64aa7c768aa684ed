import SqlMapper.Expr.Compare
import SqlMapper.Text.CaseMap
import SqlMapper.Text.Search

/-!
# Methods on values

The methods that an expression can call on a constant: those of texts, which
count characters, and the two of lists. Null answers every call with null. A
method that is not known, or is given arguments of the wrong number or kind, has
no result.
-/

namespace SqlMapper

namespace Value

/-- A position or length given as an argument: an integer that is not negative. -/
def count? (value : Value) : Option Nat :=
  match value.integer? with
  | some number => if 0 ≤ number then some number.toNat else none
  | none => none

/-- The number of things as a wide integer. -/
def ofCount (count : Nat) : Value :=
  .i64 (Int64.ofNat count)

end Value

/-- A method of a text. -/
def textMethod (text : String) (name : String) (arguments : List Value) : Option Value :=
  match name, arguments with
  | "trim", [] => some (.string (Text.trim text))
  | "trim_start", [] => some (.string (Text.trimStart text))
  | "trim_end", [] => some (.string (Text.trimEnd text))
  | "to_upper", [] => some (.string (Text.upper text))
  | "to_lower", [] => some (.string (Text.lower text))
  | "len", [] => some (.ofCount text.length)
  | "replace", [.string pattern, .string replacement] =>
    some (.string (Text.replace text pattern replacement))
  | "starts_with", [.string pattern] => some (.bool (Text.startsWith text pattern))
  | "ends_with", [.string pattern] => some (.bool (Text.endsWith text pattern))
  | "contains", [.string pattern] => some (.bool (Text.contains text pattern))
  | "substring", [start] => start.count?.map fun start => .string (Text.dropFirst text start)
  | "substring", [start, length] =>
    match start.count?, length.count? with
    | some start, some length => some (.string (Text.window text start length))
    | _, _ => none
  | _, _ => none

/-- A method of a list. -/
def listMethod (items : List Value) (name : String) (arguments : List Value) : Option Value :=
  match name, arguments with
  | "contains", [item] => some (.bool (items.any fun candidate => candidate.equals item))
  | "len", [] => some (.ofCount items.length)
  | _, _ => none

/-- The result of calling a method on a value. -/
def Value.callMethod (target : Value) (name : String) (arguments : List Value) :
    Option Value :=
  match target with
  | .list items => listMethod items name arguments
  | .null => some .null
  | .string text => textMethod text name arguments
  | _ => none

end SqlMapper
