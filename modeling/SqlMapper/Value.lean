import SqlMapper.Decimal.Shortest
import SqlMapper.NameTable
import SqlMapper.Text.Quoted
import SqlMapper.Text.Search

/-!
# Values

The values that a row, a constant or a parameter can hold. Their equality is
strict: numbers of different widths differ, a number that is not a number
differs from itself, and records are compared by name, whatever the order of
their fields.
-/

namespace SqlMapper

/-- The kind of a value. -/
inductive ValueKind where
  | bool
  | enumeration
  | f64
  | i32
  | i64
  | list
  | null
  | record
  | string
  deriving DecidableEq

namespace ValueKind

/-- Every kind once. -/
def all : List ValueKind :=
  [bool, enumeration, f64, i32, i64, list, null, record, string]

/-- The word for a kind in messages. -/
def name : ValueKind → String
  | bool => "bool"
  | enumeration => "enum"
  | f64 => "f64"
  | i32 => "i32"
  | i64 => "i64"
  | list => "list"
  | null => "null"
  | record => "record"
  | string => "string"

def isBool : ValueKind → Bool
  | bool => true
  | _ => false

def isEnumeration : ValueKind → Bool
  | enumeration => true
  | _ => false

/-- Whether values of the kind take part in arithmetic. -/
def isNumeric : ValueKind → Bool
  | i32 | i64 | f64 => true
  | _ => false

end ValueKind

/-- A member of an enumerated type. -/
structure EnumMember where
  type : String
  variant : String
  ordinal : Int64
  deriving DecidableEq

/-- The member as it is named in an expression. -/
def EnumMember.display (member : EnumMember) : String :=
  member.type ++ "::" ++ member.variant

/-- A value. The fields of a record are a name table. -/
inductive Value where
  | null
  | bool (value : Bool)
  | i32 (value : Int32)
  | i64 (value : Int64)
  | f64 (value : Float)
  | string (value : String)
  | member (value : EnumMember)
  | list (items : List Value)
  | record (fields : List (String × Value))

instance : Inhabited Value := ⟨.null⟩

namespace Value

def kind : Value → ValueKind
  | null => .null
  | bool _ => .bool
  | i32 _ => .i32
  | i64 _ => .i64
  | f64 _ => .f64
  | string _ => .string
  | member _ => .enumeration
  | list _ => .list
  | record _ => .record

def isNull : Value → Bool
  | null => true
  | _ => false

def isBool : Value → Bool
  | bool _ => true
  | _ => false

def bool? : Value → Option Bool
  | bool value => some value
  | _ => none

def string? : Value → Option String
  | string value => some value
  | _ => none

def record? : Value → Option (List (String × Value))
  | record fields => some fields
  | _ => none

/-- The number that an integer of either width stands for. -/
def integer? : Value → Option Int
  | i32 value => some value.toInt
  | i64 value => some value.toInt
  | _ => none

/-- A number as a double; wide integers are rounded to the nearest one. -/
def float? : Value → Option Float
  | f64 value => some value
  | i32 value => some value.toFloat
  | i64 value => some value.toFloat
  | _ => none

mutual

/-- Strict equality. -/
def same : Value → Value → Bool
  | null, null => true
  | bool left, bool right => left == right
  | i32 left, i32 right => left == right
  | i64 left, i64 right => left == right
  | f64 left, f64 right => left == right
  | string left, string right => left == right
  | member left, member right => left == right
  | list left, list right => sameItems left right
  | record left, record right =>
    right.all (fun field => NameTable.contains field.1 left) && sameFields [] left right
  | _, _ => false

/-- Equality of lists, item by item. -/
def sameItems : List Value → List Value → Bool
  | [], [] => true
  | left :: lefts, right :: rights => same left right && sameItems lefts rights
  | _, _ => false

/-- Whether each field is found under its name in the other table, with an equal
value. Only the first field of a name counts, as it is the one that is found;
`seen` holds the names that came before. -/
def sameFields (seen : List String) :
    List (String × Value) → List (String × Value) → Bool
  | [], _ => true
  | (name, value) :: rest, others =>
    (seen.contains name ||
      match NameTable.get? name others with
      | some other => same value other
      | none => false) && sameFields (name :: seen) rest others

end

mutual

/-- The value as it is written in an expression. -/
def display : Value → String
  | null => "null"
  | bool true => "true"
  | bool false => "false"
  | i32 value => toString value.toInt
  | i64 value => toString value.toInt
  | f64 value => Decimal.floatText value
  | string value => Text.quoted value
  | member value => value.display
  | list items => "[" ++ Text.join ", " (displayItems items) ++ "]"
  | record [] => "\x7b\x7d"
  | record (field :: fields) =>
    "\x7b " ++ Text.join ", " (displayFields (field :: fields)) ++ " \x7d"

def displayItems : List Value → List String
  | [] => []
  | item :: rest => display item :: displayItems rest

def displayFields : List (String × Value) → List String
  | [] => []
  | (name, value) :: rest => (name ++ ": " ++ display value) :: displayFields rest

end

end Value

end SqlMapper
