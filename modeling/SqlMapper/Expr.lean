import SqlMapper.Operator
import SqlMapper.Value

/-!
# Expressions over a mapped row

An expression is a predicate or the right-hand side of an assignment, written
over the fields of one row. A part that does not mention the row can also be
evaluated on its own.
-/

namespace SqlMapper

/-- An expression over a mapped row. -/
inductive Expr where
  /-- The mapped row itself. -/
  | row
  /-- A constant. -/
  | value (value : Value)
  /-- A named value that the program supplies when the expression is evaluated. -/
  | deferred (name : String) (value : Value)
  /-- A member of a record; a member of the row is a mapped field. -/
  | member (target : Expr) (name : String)
  | binary (op : BinaryOp) (left right : Expr)
  | unary (op : UnaryOp) (operand : Expr)
  /-- A method of a target. -/
  | method (target : Expr) (name : String) (arguments : List Expr)
  /-- A function that belongs to no target. -/
  | call (name : String) (arguments : List Expr)
  /-- A record of named fields; the type name is only for display. -/
  | record (typeName : Option String) (fields : List (String × Expr))
  | list (items : List Expr)

instance : Inhabited Expr := ⟨.row⟩

namespace Expr

/-- A field of the mapped row. -/
def field (name : String) : Expr :=
  member row name

/-- The constant null. -/
def null : Expr :=
  value .null

def isRow : Expr → Bool
  | row => true
  | _ => false

def isValue : Expr → Bool
  | value _ => true
  | _ => false

def isNull : Expr → Bool
  | value .null => true
  | _ => false

/-- The name of the field that the expression stands for, if it is one. -/
def field? : Expr → Option String
  | member row name => some name
  | _ => none

/-- The test of two expressions for equality. -/
def eq (left right : Expr) : Expr :=
  binary (.comparison .eq) left right

mutual

/-- Whether the mapped row is mentioned anywhere. -/
def referencesRow : Expr → Bool
  | row => true
  | value _ => false
  | deferred _ _ => false
  | member target _ => referencesRow target
  | binary _ left right => referencesRow left || referencesRow right
  | unary _ operand => referencesRow operand
  | method target _ arguments => referencesRow target || anyReferencesRow arguments
  | call _ arguments => anyReferencesRow arguments
  | record _ fields => anyFieldReferencesRow fields
  | list items => anyReferencesRow items

def anyReferencesRow : List Expr → Bool
  | [] => false
  | expr :: rest => referencesRow expr || anyReferencesRow rest

def anyFieldReferencesRow : List (String × Expr) → Bool
  | [] => false
  | (_, expr) :: rest => referencesRow expr || anyFieldReferencesRow rest

end

mutual

/-- The expression as source-like text. -/
def display : Expr → String
  | row => "p"
  | value constant => constant.display
  | deferred name _ => name
  | member target name => display target ++ "." ++ name
  | binary op left right => "(" ++ display left ++ " " ++ op.symbol ++ " " ++ display right ++ ")"
  | unary op operand => op.symbol ++ display operand
  | method target name arguments =>
    display target ++ "." ++ name ++ "(" ++ Text.join ", " (displayAll arguments) ++ ")"
  | call name arguments => name ++ "(" ++ Text.join ", " (displayAll arguments) ++ ")"
  | record typeName fields =>
    "new " ++ (typeName.map (· ++ " ")).getD "" ++
      "\x7b " ++ Text.join ", " (displayFields fields) ++ " \x7d"
  | list items => "[" ++ Text.join ", " (displayAll items) ++ "]"

def displayAll : List Expr → List String
  | [] => []
  | expr :: rest => display expr :: displayAll rest

def displayFields : List (String × Expr) → List String
  | [] => []
  | (name, expr) :: rest => (name ++ ": " ++ display expr) :: displayFields rest

end

end Expr

end SqlMapper
