import SqlMapper.Expr.Evaluate
import SqlMapper.Proofs.Result

/-!
# Why an expression has no value

Whatever keeps an expression from having a value is reported as a failed evaluation, with
nothing behind it: each operation fails in this way only, and a failure of a part is the
failure of the whole.
-/

namespace SqlMapper

/-- The error is a failed evaluation and has no cause. -/
def Error.IsEvaluationFailure (error : Error) : Prop :=
  ∃ message, error = .of (.evaluationFailed message)

theorem Error.IsEvaluationFailure.kind_eq {error : Error} (failed : error.IsEvaluationFailure) :
    error.kind = .evaluationFailed := by
  obtain ⟨message, rfl⟩ := failed
  rfl

/-- A failure to have a value is a failed evaluation. -/
abbrev Result.FailsToEvaluate {α : Type} (result : Result α) : Prop :=
  Result.FailsAs Error.IsEvaluationFailure result

theorem EvaluationFault.fail_failsToEvaluate {α : Type} (fault : EvaluationFault) :
    Result.FailsToEvaluate (fault.fail : Result α) :=
  .fail ⟨fault.message, rfl⟩

/-! ## Operations on values -/

theorem Value.toBool_failsToEvaluate (value : Value) : Result.FailsToEvaluate value.toBool := by
  unfold toBool
  split
  next => exact .ok _
  next => exact .fail ⟨_, rfl⟩

theorem Value.fieldOf_failsToEvaluate (target : Value) (name : String) :
    Result.FailsToEvaluate (target.fieldOf name) := by
  unfold fieldOf
  split
  next =>
    split
    · exact .ok _
    · exact EvaluationFault.fail_failsToEvaluate _
  next => exact EvaluationFault.fail_failsToEvaluate _

theorem orderOf_failsToEvaluate (left right : Value) :
    Result.FailsToEvaluate (orderOf left right) := by
  unfold orderOf
  split
  next => exact EvaluationFault.fail_failsToEvaluate _
  next =>
    split
    · exact .ok _
    · exact EvaluationFault.fail_failsToEvaluate _

theorem Comparison.apply_failsToEvaluate (op : Comparison) (left right : Value) :
    Result.FailsToEvaluate (op.apply left right) := by
  cases op with
  | eq | ne => exact .ok _
  | ge | gt | le | lt => exact (orderOf_failsToEvaluate left right).bind fun _ _ => .ok _

theorem Arithmetic.apply_failsToEvaluate (op : Arithmetic) (left right : Value) :
    Result.FailsToEvaluate (op.apply left right) := by
  unfold apply
  split
  next => exact .ok _
  next =>
    split
    next => exact .ok _
    next =>
      split
      next =>
        split
        · exact .ok _
        · exact EvaluationFault.fail_failsToEvaluate _
      next =>
        split
        · exact .ok _
        · exact EvaluationFault.fail_failsToEvaluate _

theorem UnaryOp.apply_failsToEvaluate (op : UnaryOp) (operand : Value) :
    Result.FailsToEvaluate (op.apply operand) := by
  unfold apply
  split
  case h_1 | h_4 | h_5 => exact .ok _
  case h_2 | h_3 =>
    split
    · exact .ok _
    · exact EvaluationFault.fail_failsToEvaluate _
  case h_6 => exact EvaluationFault.fail_failsToEvaluate _

/-! ## Expressions -/

namespace Expr

/-- A connective requires its operands to be booleans. -/
theorem connective_failsToEvaluate {left right : Expr} (op : Connective)
    (leftFails : Result.FailsToEvaluate left.evaluate)
    (rightFails : Result.FailsToEvaluate right.evaluate) :
    Result.FailsToEvaluate (binary (.connective op) left right).evaluate := by
  have second : Result.FailsToEvaluate (do return Value.bool (← (← right.evaluate).toBool)) :=
    rightFails.bind fun value _ => value.toBool_failsToEvaluate.bind fun _ _ => .ok _
  cases op with
  | and =>
      rw [evaluate]
      refine leftFails.bind fun value _ => value.toBool_failsToEvaluate.bind fun truth _ => ?_
      cases truth with
      | true => exact second
      | false => exact .ok _
  | or =>
      rw [evaluate]
      refine leftFails.bind fun value _ => value.toBool_failsToEvaluate.bind fun truth _ => ?_
      cases truth with
      | true => exact .ok _
      | false => exact second

mutual

theorem evaluate_failsToEvaluate (expr : Expr) : Result.FailsToEvaluate expr.evaluate := by
  cases expr with
  | row => exact EvaluationFault.fail_failsToEvaluate _
  | value constant =>
      rw [evaluate]
      exact .ok _
  | deferred name result =>
      rw [evaluate]
      exact .ok _
  | member target name =>
      rw [evaluate]
      exact (evaluate_failsToEvaluate target).bind fun value _ =>
        value.fieldOf_failsToEvaluate name
  | binary op left right =>
      have leftFails := evaluate_failsToEvaluate left
      have rightFails := evaluate_failsToEvaluate right
      cases op with
      | connective op => exact connective_failsToEvaluate op leftFails rightFails
      | comparison op =>
          rw [evaluate]
          exact leftFails.bind fun first _ => rightFails.bind fun second _ =>
            (op.apply_failsToEvaluate first second).bind fun _ _ => .ok _
      | arithmetic op =>
          rw [evaluate]
          exact leftFails.bind fun first _ => rightFails.bind fun second _ =>
            op.apply_failsToEvaluate first second
  | unary op operand =>
      rw [evaluate]
      exact (evaluate_failsToEvaluate operand).bind fun value _ => op.apply_failsToEvaluate value
  | method target name arguments =>
      rw [evaluate]
      refine (evaluate_failsToEvaluate target).bind fun value _ =>
        (evaluateAll_failsToEvaluate arguments).bind fun values _ => ?_
      split
      · exact .ok _
      · exact EvaluationFault.fail_failsToEvaluate _
  | call name arguments =>
      rw [evaluate]
      exact (evaluateAll_failsToEvaluate arguments).bind fun _ _ =>
        EvaluationFault.fail_failsToEvaluate _
  | record typeName fields =>
      rw [evaluate]
      exact (evaluateFields_failsToEvaluate fields).bind fun _ _ => .ok _
  | list items =>
      rw [evaluate]
      exact (evaluateAll_failsToEvaluate items).bind fun _ _ => .ok _

theorem evaluateAll_failsToEvaluate (items : List Expr) :
    Result.FailsToEvaluate (evaluateAll items) := by
  cases items with
  | nil =>
      rw [evaluateAll]
      exact .ok _
  | cons expr rest =>
      rw [evaluateAll]
      exact (evaluate_failsToEvaluate expr).bind fun _ _ =>
        (evaluateAll_failsToEvaluate rest).bind fun _ _ => .ok _

theorem evaluateFields_failsToEvaluate (fields : List (String × Expr)) :
    Result.FailsToEvaluate (evaluateFields fields) := by
  cases fields with
  | nil =>
      rw [evaluateFields]
      exact .ok _
  | cons field rest =>
      rw [evaluateFields]
      exact (evaluate_failsToEvaluate field.2).bind fun _ _ =>
        (evaluateFields_failsToEvaluate rest).bind fun _ _ => .ok _

end

end Expr

end SqlMapper
