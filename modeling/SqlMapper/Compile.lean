import SqlMapper.Expr.Evaluate
import SqlMapper.Params
import SqlMapper.TableMap
import SqlMapper.Term

/-!
# Compiling expressions

An expression over a mapped row becomes a term over its columns. Fields become
columns, every part that does not mention the row is evaluated, and each
constant is bound to a slot of its own. A constant keeps its value until it is
known where it stands: next to a column with a value map it takes its stored
form, next to nothing but null it becomes a null test, and as a condition it
becomes one that always or never holds.
-/

namespace SqlMapper

/-- A step of compilation. It may bind constants, which stay bound when it
fails. -/
abbrev Compile (α : Type) := ExceptT Error (StateM (List Value)) α

namespace Compile

/-- Fail with one fault. -/
def fail {α : Type} (fault : Fault) : Compile α :=
  throw (.of fault)

/-- A result that needs no constants. -/
def ofResult {α : Type} (result : Result α) : Compile α :=
  ExceptT.mk (pure result)

/-- Bind a constant to the next slot. -/
def bind (value : Value) : Compile Term := do
  let bound ← get
  set (bound ++ [value])
  return .slot bound.length

end Compile

/-- What an expression compiles to. -/
inductive Operand where
  /-- A column that has not been written yet. -/
  | column (property : Property)
  /-- A constant that has not been bound yet. -/
  | constant (value : Value)
  | term (result : Term)

namespace Operand

/-- The operand as a value. -/
def render : Operand → Compile Term
  | column property => return .column property.column
  | constant value => Compile.bind value
  | term result => return result

/-- The stored form of a constant that stands beside the other operand. -/
def storedBeside (other operand : Operand) : Result Operand :=
  match other, operand with
  | column property, constant value => constant <$> property.toStored value
  | _, _ => .ok operand

def isNull : Operand → Bool
  | constant .null => true
  | _ => false

end Operand

/-- A boolean column compared with the literal stored for `value`. -/
def Property.test (property : Property) (value : Bool) : Result Term := do
  let stored ← property.toStored (.bool value)
  return .columnIs property.column (← Literal.ofValue stored)

/-- The operand of an expression as a condition. -/
def Operand.condition (operand : Operand) (expr : Expr) : Compile Term :=
  match operand with
  | .column property =>
    if property.kind.isBool then Compile.ofResult (property.test true) else notBoolean
  | .constant (.bool value) => return .truth value
  | .constant _ => notBoolean
  | .term result => return result
where
  notBoolean : Compile Term :=
    Compile.fail (.invalidStatement ("`" ++ expr.display ++ "` is not a boolean predicate"))

/-- The operand of an expression as a condition that must not hold. -/
def Operand.negatedCondition (operand : Operand) (expr : Expr) : Compile Term :=
  match operand with
  | .column property =>
    if property.kind.isBool then Compile.ofResult (property.test false)
    else do return .complement (← operand.condition expr)
  | _ => do return .complement (← operand.condition expr)

/-- Whether a comparison with null expects null, or anything but null. An order
has no such form. -/
def Comparison.nullTest? : Comparison → Option Bool
  | eq => some true
  | ne => some false
  | _ => none

/-- A comparison of two operands. Equality with null is a null test. -/
def compareOperands (op : Comparison) (left right : Operand) : Compile Term := do
  match op.nullTest?, right.isNull, left.isNull with
  | some expected, true, _ => return .nullTest (← left.render) expected
  | some expected, false, true => return .nullTest (← right.render) expected
  | _, _, _ =>
    let left ← left.render
    let right ← right.render
    return .comparison op left right

/-- The pattern that a text test looks for, with `%` where anything may stand. -/
def likePattern (test : String) (text : String) : Option String :=
  match test with
  | "starts_with" => some (text ++ "%")
  | "ends_with" => some ("%" ++ text)
  | "contains" => some ("%" ++ text ++ "%")
  | _ => none

/-- A condition that matches `text` against a constant pattern. -/
def likeTerm (whole : Expr) (test : String) (text : Term) (argument : Operand) :
    Compile Term :=
  match argument with
  | .constant (.string pattern) =>
    match likePattern test pattern with
    | some pattern => do return .like text (← Compile.bind (.string pattern))
    | none => Compile.fail (.unsupportedExpression whole.display)
  | _ => Compile.fail (.unsupportedExpression whole.display)

namespace Expr

/-- The value of a part that does not mention the row. -/
def fold (evaluator : Evaluator) (expr : Expr) : Compile Operand :=
  match evaluator expr with
  | .ok result => return .constant result
  | .error error => throw (error.context (.unsupportedExpression expr.display))

variable (map : TableMap) (evaluator : Evaluator)

/-- Compile an expression without fixing how it is used. -/
def operand (expr : Expr) : Compile Operand :=
  match expr with
  | value constant => return .constant constant
  | row => Compile.fail (.unsupportedExpression (display row))
  | deferred name result => fold evaluator (deferred name result)
  | member target name =>
    if target.isRow then do return .column (← Compile.ofResult (map.property name))
    else if target.referencesRow then
      Compile.fail (.unsupportedExpression (member target name).display)
    else fold evaluator (member target name)
  | binary op left right =>
    if !(left.referencesRow || right.referencesRow) then
      fold evaluator (binary op left right)
    else
      match op with
      | .connective op => do
        let first ← (← operand left).condition left
        let second ← (← operand right).condition right
        return .term (.connective op first second)
      | .comparison op => do
        let first ← operand left
        let second ← operand right
        let second ← Compile.ofResult (first.storedBeside second)
        let first ← Compile.ofResult (second.storedBeside first)
        return .term (← compareOperands op first second)
      | .arithmetic op => do
        let first ← operand left
        let second ← operand right
        let second ← Compile.ofResult (first.storedBeside second)
        let first ← Compile.ofResult (second.storedBeside first)
        let first ← first.render
        let second ← second.render
        return .term (.arithmetic op first second)
  | unary op inner =>
    if !inner.referencesRow then fold evaluator (unary op inner)
    else
      match op with
      | .neg => do return .term (.negative (← (← operand inner).render))
      | .not => do return .term (← (← operand inner).negatedCondition inner)
  | method target name arguments =>
    if !(target.referencesRow || anyReferencesRow arguments) then
      fold evaluator (method target name arguments)
    else do
      let text ← (← operand target).render
      match name, arguments with
      | "trim", [] => return .term (.apply .ltrim (.apply .rtrim text))
      | "trim_start", [] => return .term (.apply .ltrim text)
      | "trim_end", [] => return .term (.apply .rtrim text)
      | "to_upper", [] => return .term (.apply .ucase text)
      | "to_lower", [] => return .term (.apply .lcase text)
      | "replace", [pattern, replacement] =>
        let pattern ← (← operand pattern).render
        let replacement ← (← operand replacement).render
        return .term (.replace text pattern replacement)
      | "substring", [start] =>
        let start ← (← operand start).render
        return .term (.substring text start)
      | "substring", [start, length] =>
        let start ← (← operand start).render
        let length ← (← operand length).render
        return .term (.window text start length)
      | "starts_with", [argument] | "ends_with", [argument] | "contains", [argument] =>
        let argument ← operand argument
        return .term (← likeTerm (method target name arguments) name text argument)
      | _, _ => Compile.fail (.unsupportedExpression (method target name arguments).display)
  | call name arguments =>
    if anyReferencesRow arguments then
      Compile.fail (.unsupportedExpression (call name arguments).display)
    else fold evaluator (call name arguments)
  | record typeName fields =>
    if anyFieldReferencesRow fields then
      Compile.fail (.unsupportedExpression (record typeName fields).display)
    else fold evaluator (record typeName fields)
  | list items =>
    if anyReferencesRow items then
      Compile.fail (.unsupportedExpression (list items).display)
    else fold evaluator (list items)

/-- Compile an expression to a condition. -/
def predicate (expr : Expr) : Compile Term := do
  (← expr.operand map evaluator).condition expr

/-- Compile an expression to a value. -/
def term (expr : Expr) : Compile Term := do
  (← expr.operand map evaluator).render

/-- Compile the value assigned to a property; a constant takes its stored form. -/
def assignment (property : Property) (expr : Expr) : Compile Term := do
  match ← expr.operand map evaluator with
  | .constant result => Compile.bind (← Compile.ofResult (property.toStored result))
  | other => other.render

end Expr

namespace Params

/-- Run a step of compilation and bind its constants in order. Constants bound
before a failure stay bound. -/
def compile (params : Params) (step : Compile Term) : Result Sql × Params :=
  let (result, constants) := step.run.run []
  let (names, params) := params.pushAll constants
  (result.map fun term => term.sql names, params)

end Params

end SqlMapper
