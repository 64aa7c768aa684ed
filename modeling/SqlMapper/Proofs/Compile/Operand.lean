import SqlMapper.Compile
import SqlMapper.Proofs.Result

/-!
# How an expression compiles, by its form

A part that does not mention the row is evaluated. A part that mentions it is put
together from what its own parts compile to.
-/

namespace SqlMapper

/-- Only a column is stored as a column. -/
theorem Operand.storedBeside_eq_column {operand other : Operand} {property : Property}
    (stored : other.storedBeside operand = .ok (.column property)) :
    operand = .column property := by
  unfold storedBeside at stored
  split at stored
  next own value =>
    obtain ⟨_, _, stored⟩ := Result.map_eq_ok.mp stored
    cases stored
  next =>
    cases stored
    rfl

namespace Expr

variable {map : TableMap} {evaluator : Evaluator} {expr target left right inner : Expr}

theorem not_isRow_of_rowFree (rowFree : target.referencesRow = false) : target.isRow = false := by
  cases target with
  | row => cases rowFree
  | _ => rfl

/-- What does not mention the row is evaluated; a constant is its own value. -/
theorem operand_of_rowFree (rowFree : expr.referencesRow = false)
    (composed : expr.isValue = false) :
    expr.operand map evaluator = fold evaluator expr := by
  cases expr with
  | row => cases rowFree
  | value constant => cases composed
  | member target name =>
      have targetFree : target.referencesRow = false := rowFree
      simp [operand, not_isRow_of_rowFree targetFree, targetFree]
  | _ => simp_all [operand, referencesRow]

/-- A field compiles to its column. -/
theorem operand_field {name : String} {property : Property} (evaluator : Evaluator)
    (mapped : map.property name = .ok property) :
    (field name).operand map evaluator = pure (.column property) := by
  simp only [field, operand, isRow, if_true, mapped]
  rfl

theorem operand_connective {op : Connective}
    (mentioned : (binary (.connective op) left right).referencesRow = true) :
    (binary (.connective op) left right).operand map evaluator = (do
      let first ← (← left.operand map evaluator).condition left
      let second ← (← right.operand map evaluator).condition right
      return .term (.connective op first second)) := by
  rw [referencesRow] at mentioned
  simp [operand, mentioned]

theorem operand_comparison {op : Comparison}
    (mentioned : (binary (.comparison op) left right).referencesRow = true) :
    (binary (.comparison op) left right).operand map evaluator = (do
      let first ← left.operand map evaluator
      let second ← right.operand map evaluator
      let second ← Compile.ofResult (first.storedBeside second)
      let first ← Compile.ofResult (second.storedBeside first)
      return .term (← compareOperands op first second)) := by
  rw [referencesRow] at mentioned
  simp [operand, mentioned]

theorem operand_arithmetic {op : Arithmetic}
    (mentioned : (binary (.arithmetic op) left right).referencesRow = true) :
    (binary (.arithmetic op) left right).operand map evaluator = (do
      let first ← left.operand map evaluator
      let second ← right.operand map evaluator
      let second ← Compile.ofResult (first.storedBeside second)
      let first ← Compile.ofResult (second.storedBeside first)
      let first ← first.render
      let second ← second.render
      return .term (.arithmetic op first second)) := by
  rw [referencesRow] at mentioned
  simp [operand, mentioned]

theorem operand_neg (mentioned : (unary .neg inner).referencesRow = true) :
    (unary .neg inner).operand map evaluator =
      (do return .term (.negative (← (← inner.operand map evaluator).render))) := by
  rw [referencesRow] at mentioned
  simp [operand, mentioned]

theorem operand_not (mentioned : (unary .not inner).referencesRow = true) :
    (unary .not inner).operand map evaluator =
      (do return .term (← (← inner.operand map evaluator).negatedCondition inner)) := by
  rw [referencesRow] at mentioned
  simp [operand, mentioned]

section Methods

variable (map evaluator)

/-- What a method compiles to once its target is written. -/
def methodOperand (whole : Expr) (text : Term) (name : String) (arguments : List Expr) :
    Compile Operand :=
  match name, arguments with
  | "trim", [] => return .term (.apply .ltrim (.apply .rtrim text))
  | "trim_start", [] => return .term (.apply .ltrim text)
  | "trim_end", [] => return .term (.apply .rtrim text)
  | "to_upper", [] => return .term (.apply .ucase text)
  | "to_lower", [] => return .term (.apply .lcase text)
  | "replace", [pattern, replacement] => do
    let pattern ← (← pattern.operand map evaluator).render
    let replacement ← (← replacement.operand map evaluator).render
    return .term (.replace text pattern replacement)
  | "substring", [start] => do
    let start ← (← start.operand map evaluator).render
    return .term (.substring text start)
  | "substring", [start, length] => do
    let start ← (← start.operand map evaluator).render
    let length ← (← length.operand map evaluator).render
    return .term (.window text start length)
  | "starts_with", [argument] | "ends_with", [argument] | "contains", [argument] => do
    let argument ← argument.operand map evaluator
    return .term (← likeTerm whole name text argument)
  | _, _ => Compile.fail (.unsupportedExpression whole.display)

variable {map evaluator}

theorem operand_method {name : String} {arguments : List Expr}
    (mentioned : (method target name arguments).referencesRow = true) :
    (method target name arguments).operand map evaluator = (do
      let text ← (← target.operand map evaluator).render
      methodOperand map evaluator (method target name arguments) text name arguments) := by
  rw [referencesRow] at mentioned
  simp only [operand, mentioned, Bool.not_true, Bool.false_eq_true, if_false]
  refine congrArg _ (funext fun operand => congrArg _ (funext fun text => ?_))
  unfold methodOperand
  rfl

end Methods

end Expr

end SqlMapper
