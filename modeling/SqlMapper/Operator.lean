/-!
# Operators

The operators of an expression, by what they do: comparisons, the two logical
connectives, arithmetic, and the operators with a single operand.
-/

namespace SqlMapper

/-- A comparison of two operands. -/
inductive Comparison where
  | eq
  | ne
  | ge
  | gt
  | le
  | lt
  deriving DecidableEq

/-- A connective of two conditions. -/
inductive Connective where
  | and
  | or
  deriving DecidableEq

/-- An arithmetic operation on two operands. -/
inductive Arithmetic where
  | add
  | sub
  | mul
  | div
  | rem
  deriving DecidableEq

/-- An operator between two operands. -/
inductive BinaryOp where
  | comparison (op : Comparison)
  | connective (op : Connective)
  | arithmetic (op : Arithmetic)
  deriving DecidableEq

/-- An operator in front of its operand. -/
inductive UnaryOp where
  | neg
  | not
  deriving DecidableEq

/-- The comparison as it is written in an expression. -/
def Comparison.symbol : Comparison → String
  | eq => "=="
  | ne => "!="
  | ge => ">="
  | gt => ">"
  | le => "<="
  | lt => "<"

/-- The connective as it is written in an expression. -/
def Connective.symbol : Connective → String
  | and => "&&"
  | or => "||"

/-- The operation as it is written in an expression. -/
def Arithmetic.symbol : Arithmetic → String
  | add => "+"
  | sub => "-"
  | mul => "*"
  | div => "/"
  | rem => "%"

namespace BinaryOp

/-- Every operator once: comparisons, connectives, arithmetic. -/
def all : List BinaryOp :=
  [.eq, .ne, .ge, .gt, .le, .lt].map comparison ++ [.and, .or].map connective ++
    [.add, .sub, .mul, .div, .rem].map arithmetic

/-- The operator as it is written in an expression. -/
def symbol : BinaryOp → String
  | comparison op => op.symbol
  | connective op => op.symbol
  | arithmetic op => op.symbol

def isEq (op : BinaryOp) : Bool :=
  op = comparison .eq

def isNe (op : BinaryOp) : Bool :=
  op = comparison .ne

def isComparison : BinaryOp → Bool
  | comparison _ => true
  | _ => false

def isConnective : BinaryOp → Bool
  | connective _ => true
  | _ => false

def isArithmetic : BinaryOp → Bool
  | arithmetic _ => true
  | _ => false

/-- The operator with the given symbol. -/
def ofSymbol? (symbol : String) : Option BinaryOp :=
  all.find? fun op => op.symbol = symbol

end BinaryOp

namespace UnaryOp

/-- The operator as it is written in an expression. -/
def symbol : UnaryOp → String
  | neg => "-"
  | not => "!"

/-- Every operator once. -/
def all : List UnaryOp :=
  [neg, not]

/-- The operator with the given symbol. -/
def ofSymbol? (symbol : String) : Option UnaryOp :=
  all.find? fun op => op.symbol = symbol

end UnaryOp

end SqlMapper
