import SqlMapper.Error
import SqlMapper.Expr
import SqlMapper.Expr.Arithmetic
import SqlMapper.Expr.TextMethod

/-!
# Evaluating constant expressions

An expression that does not need the row has a value, or a reason why it has
none. The connectives stop at the first operand that decides; every other
operand is evaluated from left to right, and the first failure is the result.
-/

namespace SqlMapper

/-- Why an expression has no value. -/
inductive EvaluationFault where
  | notRecord (name : String) (target : Value)
  | missingField (name : String)
  | needsRow
  | overflow (symbol : String)
  | unaryOperand (op : UnaryOp) (operand : Value)
  | arithmeticOperands (op : Arithmetic) (left right : Value)
  | nullOrder
  | incomparable (left right : Value)
  | unknownCall (name : String) (arguments : List Value)

namespace EvaluationFault

def message : EvaluationFault → String
  | notRecord name target => "cannot access member `" ++ name ++ "` of " ++ target.display
  | missingField name => "record has no field `" ++ name ++ "`"
  | needsRow => "the mapped row has no constant value"
  | overflow symbol => "arithmetic overflow in `" ++ symbol ++ "`"
  | unaryOperand op operand => "cannot apply `" ++ op.symbol ++ "` to " ++ operand.display
  | arithmeticOperands op left right =>
    "cannot apply `" ++ op.symbol ++ "` to " ++ left.display ++ " and " ++ right.display
  | nullOrder => "cannot order a null value"
  | incomparable left right => "cannot compare " ++ left.display ++ " with " ++ right.display
  | unknownCall name arguments =>
    "cannot evaluate `" ++ name ++ "` with arguments " ++ (Value.list arguments).display

def fail {α : Type} (fault : EvaluationFault) : Result α :=
  (Fault.evaluationFailed fault.message).fail

end EvaluationFault

open EvaluationFault

/-- The order of two values that both have one. -/
def orderOf (left right : Value) : Result Ordering :=
  if left.isNull || right.isNull then nullOrder.fail
  else
    match left.compare? right with
    | some order => .ok order
    | none => (incomparable left right).fail

/-- The outcome of a comparison. Equality is defined on all values, an order
only on some. -/
def Comparison.apply (op : Comparison) (left right : Value) : Result Bool :=
  match op with
  | .eq => .ok (left.equals right)
  | .ne => .ok (!left.equals right)
  | .ge => do return (← orderOf left right) != .lt
  | .gt => do return (← orderOf left right) == .gt
  | .le => do return (← orderOf left right) != .gt
  | .lt => do return (← orderOf left right) == .lt

/-- The result of an arithmetic operation. -/
def Arithmetic.apply (op : Arithmetic) (left right : Value) : Result Value :=
  if left.isNull || right.isNull then .ok .null
  else
    match op, left, right with
    | .add, .string left, .string right => .ok (.string (left ++ right))
    | _, _, _ =>
      match left.commonWidth? right, left.integer?, right.integer? with
      | some width, some first, some second =>
        match op.onIntegers width first second with
        | some value => .ok value
        | none => (overflow op.symbol).fail
      | _, _, _ =>
        match left.float?, right.float? with
        | some left, some right => .ok (.f64 (op.onFloats left right))
        | _, _ => (arithmeticOperands op left right).fail

/-- The result of a unary operator. -/
def UnaryOp.apply (op : UnaryOp) (operand : Value) : Result Value :=
  match op, operand with
  | .not, .bool value => .ok (.bool !value)
  | .neg, .i32 value =>
    match Width.narrow.value? (-value.toInt) with
    | some value => .ok value
    | none => (overflow "-").fail
  | .neg, .i64 value =>
    match Width.wide.value? (-value.toInt) with
    | some value => .ok value
    | none => (overflow "-").fail
  | .neg, .f64 value => .ok (.f64 (-value))
  | _, .null => .ok .null
  | _, _ => (unaryOperand op operand).fail

/-- The field of a value that has to be a record. -/
def Value.fieldOf (target : Value) (name : String) : Result Value :=
  match target with
  | .record fields =>
    match NameTable.get? name fields with
    | some value => .ok value
    | none => (missingField name).fail
  | _ => (notRecord name target).fail

namespace Expr

mutual

/-- The value of an expression. -/
def evaluate : Expr → Result Value
  | row => needsRow.fail
  | value constant => .ok constant
  | deferred _ result => .ok result
  | member target name => do (← evaluate target).fieldOf name
  | binary (.connective .and) left right => do
    if ← (← evaluate left).toBool then
      return .bool (← (← evaluate right).toBool)
    else
      return .bool false
  | binary (.connective .or) left right => do
    if ← (← evaluate left).toBool then
      return .bool true
    else
      return .bool (← (← evaluate right).toBool)
  | binary (.comparison op) left right => do
    let left ← evaluate left
    let right ← evaluate right
    return .bool (← op.apply left right)
  | binary (.arithmetic op) left right => do
    let left ← evaluate left
    let right ← evaluate right
    op.apply left right
  | unary op operand => do op.apply (← evaluate operand)
  | method target name arguments => do
    let target ← evaluate target
    let arguments ← evaluateAll arguments
    match target.callMethod name arguments with
    | some result => return result
    | none => (unknownCall name arguments).fail
  | call name arguments => do (unknownCall name (← evaluateAll arguments)).fail
  | record _ fields => do return .record (NameTable.ofEntries (← evaluateFields fields))
  | list items => do return .list (← evaluateAll items)

def evaluateAll : List Expr → Result (List Value)
  | [] => .ok []
  | expr :: rest => do
    let head ← evaluate expr
    return head :: (← evaluateAll rest)

def evaluateFields : List (String × Expr) → Result (List (String × Value))
  | [] => .ok []
  | (name, expr) :: rest => do
    let head ← evaluate expr
    return (name, head) :: (← evaluateFields rest)

end

/-- The value of an expression that has to be a boolean. -/
def evaluateBool (expr : Expr) : Result Bool := do
  (← evaluate expr).toBool

end Expr

/-- A way of finding the value of an expression that does not mention the row. -/
abbrev Evaluator := Expr → Result Value

namespace Evaluator

/-- The evaluator that is used unless another one is given. -/
def standard : Evaluator :=
  Expr.evaluate

/-- An evaluator that knows the answers for some expressions by their text. Any
other expression fails with `failure`, if one is given, and is evaluated
otherwise. -/
def ofTable (answers : List (String × Value)) (failure : Option String) : Evaluator :=
  fun expr =>
    match NameTable.get? expr.display answers with
    | some value => .ok value
    | none =>
      match failure with
      | some message => (Fault.adhoc message).fail
      | none => expr.evaluate

end Evaluator

end SqlMapper
