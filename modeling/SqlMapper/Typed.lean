import SqlMapper.Expr
import SqlMapper.Model

/-!
# Typed expressions

An expression that knows the type of its value. The operations build the untyped
expression and keep the types straight: comparisons and tests of a text are
conditions, arithmetic stays within a type, and the methods of a text take texts
and positions.
-/

namespace SqlMapper

namespace FieldType

/-- A type whose values are never missing. -/
def required (scalar : ScalarType) : FieldType :=
  ⟨scalar, false⟩

def bool : FieldType :=
  required .bool

def i64 : FieldType :=
  required .i64

def string : FieldType :=
  required .string

/-- The name of the type, with a question mark when values may be missing. -/
def name (type : FieldType) : String :=
  let scalar :=
    match type.scalar with
    | .bool => "bool"
    | .i32 => "i32"
    | .i64 => "i64"
    | .f64 => "f64"
    | .string => "string"
    | .enumeration enumeration => enumeration.name
  if type.optional then scalar ++ "?" else scalar

end FieldType

/-- An expression with a value of the given type. -/
structure Typed (type : FieldType) where
  expr : Expr

namespace Typed

variable {type : FieldType}

/-- The field called `name`. -/
def path (name : String) : Typed type :=
  ⟨.field name⟩

def value (value : Value) : Typed type :=
  ⟨.value value⟩

/-- A named value that is supplied when the expression is evaluated. -/
def deferred (name : String) (value : Value) : Typed type :=
  ⟨.deferred name value⟩

/-- The same expression at another type. -/
def cast {other : FieldType} (typed : Typed type) : Typed other :=
  ⟨typed.expr⟩

/-- The comparison of two values of one type. -/
def compare (op : Comparison) (left right : Typed type) : Typed .bool :=
  ⟨.binary (.comparison op) left.expr right.expr⟩

def eq (left right : Typed type) : Typed .bool :=
  compare .eq left right

def ne (left right : Typed type) : Typed .bool :=
  compare .ne left right

def gt (left right : Typed type) : Typed .bool :=
  compare .gt left right

def ge (left right : Typed type) : Typed .bool :=
  compare .ge left right

def lt (left right : Typed type) : Typed .bool :=
  compare .lt left right

def le (left right : Typed type) : Typed .bool :=
  compare .le left right

def isNull (typed : Typed type) : Typed .bool :=
  ⟨.binary (.comparison .eq) typed.expr .null⟩

def isNotNull (typed : Typed type) : Typed .bool :=
  ⟨.binary (.comparison .ne) typed.expr .null⟩

def and (left right : Typed .bool) : Typed .bool :=
  ⟨.binary (.connective .and) left.expr right.expr⟩

def or (left right : Typed .bool) : Typed .bool :=
  ⟨.binary (.connective .or) left.expr right.expr⟩

def not (operand : Typed .bool) : Typed .bool :=
  ⟨.unary .not operand.expr⟩

/-- The conjunction of all conditions; without any, the constant true. -/
def allOf : List (Typed .bool) → Typed .bool
  | [] => value (.bool true)
  | first :: rest => rest.foldl and first

/-- Arithmetic within one type. -/
def arithmetic (op : Arithmetic) (left right : Typed type) : Typed type :=
  ⟨.binary (.arithmetic op) left.expr right.expr⟩

def neg (operand : Typed type) : Typed type :=
  ⟨.unary .neg operand.expr⟩

/-- A method of a text whose result is a text. -/
def textMethod (name : String) (text : Typed .string) (arguments : List Expr) :
    Typed .string :=
  ⟨.method text.expr name arguments⟩

/-- A test of a text for a pattern. -/
def textTest (name : String) (text pattern : Typed .string) : Typed .bool :=
  ⟨.method text.expr name [pattern.expr]⟩

def trim (text : Typed .string) : Typed .string :=
  textMethod "trim" text []

def trimStart (text : Typed .string) : Typed .string :=
  textMethod "trim_start" text []

def trimEnd (text : Typed .string) : Typed .string :=
  textMethod "trim_end" text []

def toUpper (text : Typed .string) : Typed .string :=
  textMethod "to_upper" text []

def toLower (text : Typed .string) : Typed .string :=
  textMethod "to_lower" text []

def replace (text pattern replacement : Typed .string) : Typed .string :=
  textMethod "replace" text [pattern.expr, replacement.expr]

/-- The rest of a text from a position counted from zero. -/
def substring (text : Typed .string) (start : Typed .i64) : Typed .string :=
  textMethod "substring" text [start.expr]

/-- A part of a text of given length. -/
def window (text : Typed .string) (start length : Typed .i64) : Typed .string :=
  textMethod "substring" text [start.expr, length.expr]

def startsWith (text pattern : Typed .string) : Typed .bool :=
  textTest "starts_with" text pattern

def endsWith (text pattern : Typed .string) : Typed .bool :=
  textTest "ends_with" text pattern

def contains (text pattern : Typed .string) : Typed .bool :=
  textTest "contains" text pattern

end Typed

/-- A typed expression together with its type. -/
abbrev AnyTyped := (type : FieldType) × Typed type

namespace AnyTyped

/-- The comparison called `name`. -/
def comparison? (name : String) : Option Comparison :=
  [("eq", .eq), ("ne", .ne), ("gt", .gt), ("ge", .ge), ("lt", .lt), ("le", .le)].lookup name

/-- The arithmetic operation called `name`. -/
def arithmetic? (name : String) : Option Arithmetic :=
  [("add", .add), ("sub", .sub), ("mul", .mul), ("div", .div), ("rem", .rem)].lookup name

/-- The operation called `name`, on operands whose types are the ones it takes. -/
def call? (receiver : AnyTyped) (name : String) (arguments : List AnyTyped) :
    Option AnyTyped :=
  let type := receiver.1
  let self := receiver.2
  let word : Typed .string := self.cast
  let truth : Typed .bool := self.cast
  match name, arguments with
  | "expr", [] => some receiver
  | "is_null", [] => some ⟨.bool, self.isNull⟩
  | "is_not_null", [] => some ⟨.bool, self.isNotNull⟩
  | "and", [other] => some ⟨.bool, truth.and other.2.cast⟩
  | "or", [other] => some ⟨.bool, truth.or other.2.cast⟩
  | "not", [] => some ⟨.bool, truth.not⟩
  | "neg", [] => some ⟨type, self.neg⟩
  | "trim", [] => some ⟨.string, word.trim⟩
  | "trim_start", [] => some ⟨.string, word.trimStart⟩
  | "trim_end", [] => some ⟨.string, word.trimEnd⟩
  | "to_upper", [] => some ⟨.string, word.toUpper⟩
  | "to_lower", [] => some ⟨.string, word.toLower⟩
  | "replace", [pattern, replacement] =>
    some ⟨.string, word.replace pattern.2.cast replacement.2.cast⟩
  | "substring", [start] => some ⟨.string, word.substring start.2.cast⟩
  | "substring_len", [start, length] =>
    some ⟨.string, word.window start.2.cast length.2.cast⟩
  | "starts_with", [pattern] => some ⟨.bool, word.startsWith pattern.2.cast⟩
  | "ends_with", [pattern] => some ⟨.bool, word.endsWith pattern.2.cast⟩
  | "contains", [pattern] => some ⟨.bool, word.contains pattern.2.cast⟩
  | _, [other] =>
    match comparison? name, arithmetic? name with
    | some op, _ => some ⟨.bool, self.compare op other.2.cast⟩
    | none, some op => some ⟨type, self.arithmetic op other.2.cast⟩
    | none, none => none
  | _, _ => none

end AnyTyped

end SqlMapper
