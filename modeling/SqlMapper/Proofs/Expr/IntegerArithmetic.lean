import SqlMapper.Proofs.Expr.Failure
import SqlMapper.Proofs.Expr.OnRow
import SqlMapper.Proofs.Operators
import SqlMapper.Proofs.Result

/-!
# Arithmetic of integers

An operation on integers has its exact result or fails: it fails when the result is no
number of its type, when the divisor is zero, and when the quotient of a division or a
remainder is no number of the type. `Arithmetic.Gives` says so without computing anything,
and `Expr.Amounts` takes it through expressions of any size.
-/

namespace SqlMapper

namespace Width

/-- Some integer of the width stands for the number. -/
def Represents (width : Width) (number : Int) : Prop :=
  ∃ value, Value.IsInteger width number value

/-- The width of a result: narrow if both operands are. -/
def join : Width → Width → Width
  | narrow, narrow => narrow
  | _, _ => wide

variable {width other : Width} {number : Int}

theorem represents_iff_fits : width.Represents number ↔ width.fits number = true := by
  unfold Represents
  simp only [← value?_eq_some_iff, value?]
  cases width.fits number <;> simp

theorem value?_eq_none_iff : width.value? number = none ↔ ¬width.Represents number := by
  rw [Represents, Option.eq_none_iff_forall_ne_some, not_exists]
  exact forall_congr' fun value => not_congr value?_eq_some_iff

/-- The numbers of a width, from the least to the greatest. -/
theorem represents_iff :
    width.Represents number ↔ -width.bound ≤ number ∧ number < width.bound := by
  rw [represents_iff_fits, fits, Bool.and_eq_true, decide_eq_true_eq, decide_eq_true_eq]

/-- The width of a result holds the operands. -/
theorem Represents.join (represents : width.Represents number) (other : Width) :
    (width.join other).Represents number := by
  rw [represents_iff] at represents ⊢
  cases width <;> cases other <;> simp only [Width.join, bound] at * <;> omega

/-- Of the numbers of a width, only the least has no negative in it. -/
theorem Represents.not_represents_neg_iff (represents : width.Represents number) :
    ¬width.Represents (-number) ↔ ∀ least, width.Represents least → number ≤ least := by
  simp only [represents_iff] at represents ⊢
  have positive : 0 < width.bound := by cases width <;> decide
  constructor
  · intro unrepresented least inRange
    omega
  · intro isLeast negated
    have atLeast := isLeast (-width.bound) ⟨Int.le_refl _, by omega⟩
    omega

end Width

theorem Value.IsInteger.represents {width : Width} {number : Int} {value : Value}
    (isInteger : value.IsInteger width number) : width.Represents number :=
  ⟨value, isInteger⟩

theorem Value.IsInteger.commonWidth? {leftWidth rightWidth : Width} {first second : Int}
    {left right : Value} (leftIs : left.IsInteger leftWidth first)
    (rightIs : right.IsInteger rightWidth second) :
    left.commonWidth? right = some (leftWidth.join rightWidth) := by
  cases leftIs <;> cases rightIs <;> rfl

/-- A number has one value of a width. -/
theorem Value.IsInteger.unique {width : Width} {number : Int} {value same : Value}
    (isInteger : value.IsInteger width number) (again : same.IsInteger width number) :
    value = same := by
  rw [← Width.value?_eq_some_iff] at isInteger again
  exact Option.some.inj (isInteger.symm.trans again)

/-! ## Exact results -/

/-- Division rounds toward zero: the rest is smaller than the divisor and has the sign of
the dividend. -/
structure Divides (dividend divisor quotient rest : Int) : Prop where
  exact : dividend = divisor * quotient + rest
  small : rest.natAbs < divisor.natAbs
  nonneg : 0 ≤ dividend → 0 ≤ rest
  nonpos : dividend ≤ 0 → rest ≤ 0

theorem divides_iff {dividend divisor quotient rest : Int} :
    Divides dividend divisor quotient rest ↔
      divisor ≠ 0 ∧ dividend.tdiv divisor = quotient ∧ dividend.tmod divisor = rest := by
  constructor
  · rintro ⟨exact, small, nonneg, nonpos⟩
    have notZero : divisor ≠ 0 := by
      rintro rfl
      exact absurd small (Nat.not_lt_zero _)
    refine ⟨notZero, ?_⟩
    rcases Int.le_total 0 dividend with positive | negative
    · exact (Int.tdiv_tmod_unique positive notZero).mpr (by have := nonneg positive; omega)
    · exact (Int.tdiv_tmod_unique' negative notZero).mpr (by have := nonpos negative; omega)
  · rintro ⟨notZero, rfl, rfl⟩
    refine ⟨(Int.mul_tdiv_add_tmod dividend divisor).symm, ?_, Int.tmod_nonneg divisor, ?_⟩
    · rw [Int.natAbs_tmod]
      exact Nat.mod_lt _ (Int.natAbs_pos.mpr notZero)
    · intro nonpos
      have mirrored := Int.tmod_nonneg divisor (Int.neg_nonneg_of_nonpos nonpos)
      rw [Int.neg_tmod] at mirrored
      omega

/-- The rest is no further from zero than the dividend. -/
theorem Divides.represents {width : Width} {dividend divisor quotient rest : Int}
    (divides : Divides dividend divisor quotient rest) (represents : width.Represents dividend) :
    width.Represents rest := by
  have size : rest.natAbs ≤ dividend.natAbs := by
    obtain ⟨-, -, rfl⟩ := divides_iff.mp divides
    rw [Int.natAbs_tmod]
    exact Nat.mod_le _ _
  obtain ⟨-, -, nonneg, nonpos⟩ := divides
  rw [Width.represents_iff] at represents ⊢
  omega

namespace Arithmetic

/-- The exact result of an operation on integers, where it has one of the given width. -/
def Gives (op : Arithmetic) (width : Width) (left right result : Int) : Prop :=
  match op with
  | add => result = left + right ∧ width.Represents result
  | sub => result = left - right ∧ width.Represents result
  | mul => result = left * right ∧ width.Represents result
  | div => width.Represents result ∧ ∃ rest, Divides left right result rest
  | rem => ∃ quotient, width.Represents quotient ∧ Divides left right quotient result

variable {op : Arithmetic} {width : Width} {left right result : Int} {value : Value}

theorem Gives.represents (gives : op.Gives width left right result)
    (represents : width.Represents left) : width.Represents result := by
  cases op with
  | add | sub | mul => exact gives.2
  | div => exact gives.1
  | rem =>
      obtain ⟨quotient, -, divides⟩ := gives
      exact divides.represents represents

theorem value?_computed_iff {exact : Int} :
    width.value? exact = some value ↔
      ∃ result, (result = exact ∧ width.Represents result) ∧ value.IsInteger width result := by
  rw [Width.value?_eq_some_iff]
  constructor
  · exact fun isInteger => ⟨exact, ⟨rfl, isInteger.represents⟩, isInteger⟩
  · rintro ⟨_, ⟨rfl, -⟩, isInteger⟩
    exact isInteger

/-- What is computed is the exact result, and only where there is one. -/
theorem onIntegers_eq_some_iff :
    op.onIntegers width left right = some value ↔
      ∃ result, op.Gives width left right result ∧ value.IsInteger width result := by
  cases op with
  | add | sub | mul => exact value?_computed_iff
  | div =>
      simp only [onIntegers, Gives, divides_iff]
      by_cases isZero : right = 0
      · simp [isZero]
      · rw [if_neg isZero, Width.value?_eq_some_iff]
        constructor
        · intro isInteger
          exact ⟨_, ⟨isInteger.represents, _, isZero, rfl, rfl⟩, isInteger⟩
        · rintro ⟨_, ⟨-, _, -, rfl, -⟩, isInteger⟩
          exact isInteger
  | rem =>
      simp only [onIntegers, Gives, divides_iff, Width.represents_iff_fits]
      by_cases undefined : right = 0 ∨ width.fits (left.tdiv right) = false
      · rw [if_pos (by simpa using undefined)]
        refine iff_of_false (Option.some_ne_none value).symm ?_
        rintro ⟨_, ⟨_, fits, notZero, rfl, -⟩, -⟩
        rcases undefined with isZero | unfit
        · exact notZero isZero
        · cases unfit.symm.trans fits
      · rw [if_neg (by simpa using undefined), Width.value?_eq_some_iff]
        obtain ⟨notZero, fits⟩ := not_or.mp undefined
        constructor
        · intro isInteger
          exact ⟨_, ⟨_, Bool.not_eq_false _ ▸ fits, notZero, rfl, rfl⟩, isInteger⟩
        · rintro ⟨_, ⟨_, -, -, -, rfl⟩, isInteger⟩
          exact isInteger

/-- Nothing is computed exactly where there is no exact result. -/
theorem onIntegers_eq_none_iff (represents : width.Represents left) :
    op.onIntegers width left right = none ↔ ¬∃ result, op.Gives width left right result := by
  rw [Option.eq_none_iff_forall_ne_some]
  constructor
  · rintro undefined ⟨result, gives⟩
    obtain ⟨value, isInteger⟩ := gives.represents represents
    exact undefined value (onIntegers_eq_some_iff.mpr ⟨result, gives, isInteger⟩)
  · intro undefined value computed
    obtain ⟨result, gives, -⟩ := onIntegers_eq_some_iff.mp computed
    exact undefined ⟨result, gives⟩

end Arithmetic

/-! ## Expressions -/

namespace Expr

section Steps

variable {left right operand : Expr} {first second result : Value} {width rightWidth : Width}
variable {number other : Int} {op : Arithmetic}

theorem evaluate_of_integers (leftValue : left.evaluate = .ok first)
    (rightValue : right.evaluate = .ok second) (leftIs : first.IsInteger width number)
    (rightIs : second.IsInteger rightWidth other) :
    (binary (.arithmetic op) left right).evaluate =
      match op.onIntegers (width.join rightWidth) number other with
      | some exact => .ok exact
      | none => (EvaluationFault.overflow op.symbol).fail := by
  rw [evaluate_arithmetic leftValue rightValue]
  exact Arithmetic.apply_eq_onIntegers leftIs.integer? rightIs.integer?
    (leftIs.commonWidth? rightIs)

/-- A computation that may have no result is done exactly when it has one. -/
theorem computed_eq_ok_iff {computed : Option Value} {fault : EvaluationFault} :
    (match computed with
      | some given => (.ok given : Result Value)
      | none => fault.fail) = .ok result ↔ computed = some result := by
  cases computed with
  | none => simp [EvaluationFault.fail, Fault.fail]
  | some value => simp

/-- A computation fails with its fault exactly when it has no result. -/
theorem computed_eq_error_iff {computed : Option Value} {fault : EvaluationFault}
    {error : Error} :
    (match computed with
      | some given => (.ok given : Result Value)
      | none => fault.fail) = .error error ↔
        computed = none ∧ error = .of (.evaluationFailed fault.message) := by
  cases computed with
  | none => simp [EvaluationFault.fail, Fault.fail, eq_comm]
  | some value => simp

/-- An operation on two integers has the exact result of their common width. -/
theorem evaluate_eq_ok_iff_gives (leftValue : left.evaluate = .ok first)
    (rightValue : right.evaluate = .ok second) (leftIs : first.IsInteger width number)
    (rightIs : second.IsInteger rightWidth other) :
    (binary (.arithmetic op) left right).evaluate = .ok result ↔
      ∃ exact, op.Gives (width.join rightWidth) number other exact ∧
        result.IsInteger (width.join rightWidth) exact := by
  rw [evaluate_of_integers leftValue rightValue leftIs rightIs]
  exact computed_eq_ok_iff.trans Arithmetic.onIntegers_eq_some_iff

/-- An operation on two integers fails exactly where it has no exact result. -/
theorem evaluate_eq_overflow_iff (leftValue : left.evaluate = .ok first)
    (rightValue : right.evaluate = .ok second) (leftIs : first.IsInteger width number)
    (rightIs : second.IsInteger rightWidth other) {error : Error} :
    (binary (.arithmetic op) left right).evaluate = .error error ↔
      (¬∃ exact, op.Gives (width.join rightWidth) number other exact) ∧
        error = .of (.evaluationFailed (EvaluationFault.overflow op.symbol).message) := by
  rw [evaluate_of_integers leftValue rightValue leftIs rightIs]
  exact computed_eq_error_iff.trans (and_congr_left'
    (Arithmetic.onIntegers_eq_none_iff (leftIs.represents.join rightWidth)))

theorem evaluate_neg_eq (value : operand.evaluate = .ok first)
    (isInteger : first.IsInteger width number) :
    (unary .neg operand).evaluate =
      match width.value? (-number) with
      | some exact => .ok exact
      | none => (EvaluationFault.overflow "-").fail :=
  (evaluate_unary value).trans (UnaryOp.neg_apply_eq isInteger)

theorem evaluate_neg_eq_ok_iff (value : operand.evaluate = .ok first)
    (isInteger : first.IsInteger width number) :
    (unary .neg operand).evaluate = .ok result ↔ result.IsInteger width (-number) := by
  rw [evaluate_neg_eq value isInteger]
  exact computed_eq_ok_iff.trans Width.value?_eq_some_iff

theorem evaluate_neg_eq_error_iff (value : operand.evaluate = .ok first)
    (isInteger : first.IsInteger width number) {error : Error} :
    (unary .neg operand).evaluate = .error error ↔
      ¬width.Represents (-number) ∧
        error = .of (.evaluationFailed (EvaluationFault.overflow "-").message) := by
  rw [evaluate_neg_eq value isInteger]
  exact computed_eq_error_iff.trans (and_congr_left' Width.value?_eq_none_iff)

end Steps

/-- The expression is put together from integers by arithmetic operations and negation. -/
inductive IsIntegerArithmetic : Expr → Prop where
  | constant {constant : Value} {width : Width} {number : Int}
      (isInteger : constant.IsInteger width number) : IsIntegerArithmetic (.value constant)
  | deferred {constant : Value} {width : Width} {number : Int} (name : String)
      (isInteger : constant.IsInteger width number) :
      IsIntegerArithmetic (.deferred name constant)
  | operation (op : Arithmetic) {left right : Expr} (leftIs : IsIntegerArithmetic left)
      (rightIs : IsIntegerArithmetic right) :
      IsIntegerArithmetic (.binary (.arithmetic op) left right)
  | negative {operand : Expr} (operandIs : IsIntegerArithmetic operand) :
      IsIntegerArithmetic (.unary .neg operand)

/-- The expression amounts to an exact number: every operation in it gives an exact result
of its width. -/
inductive Amounts : Expr → Width → Int → Prop where
  | constant {constant : Value} {width : Width} {number : Int}
      (isInteger : constant.IsInteger width number) : Amounts (.value constant) width number
  | deferred {constant : Value} {width : Width} {number : Int} (name : String)
      (isInteger : constant.IsInteger width number) :
      Amounts (.deferred name constant) width number
  | operation {op : Arithmetic} {left right : Expr} {width rightWidth : Width}
      {number other exact : Int} (leftAmounts : Amounts left width number)
      (rightAmounts : Amounts right rightWidth other)
      (gives : op.Gives (width.join rightWidth) number other exact) :
      Amounts (.binary (.arithmetic op) left right) (width.join rightWidth) exact
  | negative {operand : Expr} {width : Width} {number : Int}
      (amounts : Amounts operand width number) (represents : width.Represents (-number)) :
      Amounts (.unary .neg operand) width (-number)

variable {expr operand left right : Expr} {width : Width} {number : Int} {result : Value}

theorem Amounts.represents (amounts : expr.Amounts width number) : width.Represents number := by
  induction amounts with
  | constant isInteger | deferred _ isInteger => exact isInteger.represents
  | @operation _ _ _ _ rightWidth _ _ _ leftAmounts rightAmounts gives leftIH rightIH =>
      exact gives.represents (leftIH.join rightWidth)
  | negative amounts represents => exact represents

/-- Every expression of integers has the value of the number that it amounts to. -/
theorem IsIntegerArithmetic.evaluate_eq_ok_iff (arithmetic : expr.IsIntegerArithmetic) :
    expr.evaluate = .ok result ↔
      ∃ width number, expr.Amounts width number ∧ result.IsInteger width number := by
  induction arithmetic generalizing result with
  | constant isInteger =>
      rw [evaluate, Except.ok.injEq]
      constructor
      · rintro rfl
        exact ⟨_, _, .constant isInteger, isInteger⟩
      · rintro ⟨_, _, amounts, resultIs⟩
        cases amounts with
        | constant again => exact again.unique resultIs
  | deferred name isInteger =>
      rw [evaluate, Except.ok.injEq]
      constructor
      · rintro rfl
        exact ⟨_, _, .deferred name isInteger, isInteger⟩
      · rintro ⟨_, _, amounts, resultIs⟩
        cases amounts with
        | deferred _ again => exact again.unique resultIs
  | operation op leftIs rightIs leftIH rightIH =>
      constructor
      · intro evaluated
        have operands := evaluated
        simp only [evaluate, Result.bind_eq_ok] at operands
        obtain ⟨first, leftValue, second, rightValue, -⟩ := operands
        obtain ⟨_, _, leftAmounts, firstIs⟩ := leftIH.mp leftValue
        obtain ⟨_, _, rightAmounts, secondIs⟩ := rightIH.mp rightValue
        obtain ⟨exact, gives, resultIs⟩ :=
          (evaluate_eq_ok_iff_gives leftValue rightValue firstIs secondIs).mp evaluated
        exact ⟨_, exact, .operation leftAmounts rightAmounts gives, resultIs⟩
      · rintro ⟨_, exact, amounts, resultIs⟩
        cases amounts with
        | operation leftAmounts rightAmounts gives =>
            obtain ⟨first, firstIs⟩ := leftAmounts.represents
            obtain ⟨second, secondIs⟩ := rightAmounts.represents
            have leftValue := leftIH.mpr ⟨_, _, leftAmounts, firstIs⟩
            have rightValue := rightIH.mpr ⟨_, _, rightAmounts, secondIs⟩
            exact (evaluate_eq_ok_iff_gives leftValue rightValue firstIs secondIs).mpr
              ⟨exact, gives, resultIs⟩
  | negative operandIs inductionHypothesis =>
      constructor
      · intro evaluated
        have operands := evaluated
        simp only [evaluate, Result.bind_eq_ok] at operands
        obtain ⟨first, operandValue, -⟩ := operands
        obtain ⟨width, number, amounts, firstIs⟩ := inductionHypothesis.mp operandValue
        have resultIs := (evaluate_neg_eq_ok_iff operandValue firstIs).mp evaluated
        exact ⟨width, -number, .negative amounts resultIs.represents, resultIs⟩
      · rintro ⟨_, _, amounts, resultIs⟩
        cases amounts with
        | negative amounts represents =>
            obtain ⟨first, firstIs⟩ := amounts.represents
            have operandValue := inductionHypothesis.mpr ⟨_, _, amounts, firstIs⟩
            exact (evaluate_neg_eq_ok_iff operandValue firstIs).mpr resultIs

/-- An expression of integers fails when it amounts to no number. -/
theorem IsIntegerArithmetic.evaluate_fails_iff (arithmetic : expr.IsIntegerArithmetic) :
    (∃ error, expr.evaluate = .error error) ↔ ¬∃ width number, expr.Amounts width number := by
  cases evaluated : expr.evaluate with
  | error error =>
      refine iff_of_true ⟨error, rfl⟩ ?_
      rintro ⟨width, number, amounts⟩
      obtain ⟨result, resultIs⟩ := amounts.represents
      cases evaluated.symm.trans (arithmetic.evaluate_eq_ok_iff.mpr ⟨_, _, amounts, resultIs⟩)
  | ok result =>
      obtain ⟨width, number, amounts, -⟩ := arithmetic.evaluate_eq_ok_iff.mp evaluated
      exact iff_of_false (fun failed => nomatch failed) (not_not_intro ⟨width, number, amounts⟩)

end Expr

/-- Arithmetic of integers is exact. The result of an operation on two integers is narrow if
both are narrow and wide otherwise; it stands for the exact result, and the operation
overflows where that width has none. Negation keeps the width and fails on its least number
only. So an expression of integers, however large, has the value of the exact number that it
amounts to, and fails to evaluate if it amounts to none. -/
theorem integer_arithmetic_exact :
    (∀ (op : Arithmetic) (left right : Expr) (first second : Value) (leftWidth rightWidth : Width)
      (number other : Int), left.evaluate = .ok first → right.evaluate = .ok second →
      first.IsInteger leftWidth number → second.IsInteger rightWidth other →
      (∀ result, (Expr.binary (.arithmetic op) left right).evaluate = .ok result ↔
        ∃ exact, op.Gives (leftWidth.join rightWidth) number other exact ∧
          result.IsInteger (leftWidth.join rightWidth) exact) ∧
      ∀ error, (Expr.binary (.arithmetic op) left right).evaluate = .error error ↔
        (¬∃ exact, op.Gives (leftWidth.join rightWidth) number other exact) ∧
          error = .of (.evaluationFailed (EvaluationFault.overflow op.symbol).message)) ∧
    (∀ (operand : Expr) (value : Value) (width : Width) (number : Int),
      operand.evaluate = .ok value → value.IsInteger width number →
      (∀ result, (Expr.unary .neg operand).evaluate = .ok result ↔
        result.IsInteger width (-number)) ∧
      ∀ error, (Expr.unary .neg operand).evaluate = .error error ↔
        (∀ least, width.Represents least → number ≤ least) ∧
          error = .of (.evaluationFailed (EvaluationFault.overflow "-").message)) ∧
    ∀ expr : Expr, expr.IsIntegerArithmetic →
      (∀ result, expr.evaluate = .ok result ↔
        ∃ width number, expr.Amounts width number ∧ result.IsInteger width number) ∧
      ((∃ error, expr.evaluate = .error error) ↔ ¬∃ width number, expr.Amounts width number) ∧
      ∀ error, expr.evaluate = .error error → error.kind = .evaluationFailed := by
  refine ⟨?_, ?_, ?_⟩
  · intro op left right first second leftWidth rightWidth number other leftValue rightValue
      leftIs rightIs
    exact ⟨fun _ => Expr.evaluate_eq_ok_iff_gives leftValue rightValue leftIs rightIs,
      fun _ => Expr.evaluate_eq_overflow_iff leftValue rightValue leftIs rightIs⟩
  · intro operand value width number evaluated isInteger
    refine ⟨fun _ => Expr.evaluate_neg_eq_ok_iff evaluated isInteger, fun error => ?_⟩
    rw [Expr.evaluate_neg_eq_error_iff evaluated isInteger,
      isInteger.represents.not_represents_neg_iff]
  · intro expr arithmetic
    exact ⟨fun _ => arithmetic.evaluate_eq_ok_iff, arithmetic.evaluate_fails_iff,
      fun error failed => (expr.evaluate_failsToEvaluate error failed).kind_eq⟩

/-- The least narrow integer divided by minus one: not a narrow integer, but a wide one. -/
theorem least_by_minus_one :
    (∃ error, (Expr.binary (.arithmetic .div) (.value (.i32 Int32.minValue))
      (.value (.i32 (-1)))).evaluate = .error error ∧ error.kind = .evaluationFailed) ∧
    (Expr.binary (.arithmetic .div) (.value (.i32 Int32.minValue)) (.value (.i64 (-1)))).evaluate =
      .ok (.i64 2147483648) ∧
    (∃ error, (Expr.unary .neg (.value (.i32 Int32.minValue))).evaluate = .error error) ∧
    (Expr.unary .neg (.value (.i64 2147483648))).evaluate = .ok (.i64 (-2147483648)) := by
  obtain ⟨operations, negations, expressions⟩ := integer_arithmetic_exact
  have divides (least : Int) (isLeast : least = -2147483648) : Divides least (-1) 2147483648 0 :=
    ⟨by omega, by decide, fun _ => Int.le_refl 0, fun _ => Int.le_refl 0⟩
  refine ⟨?_, ?_, ?_, ?_⟩
  · have arithmetic : (Expr.binary (.arithmetic .div) (.value (.i32 Int32.minValue))
        (.value (.i32 (-1)))).IsIntegerArithmetic :=
      .operation .div (.constant (.narrow _)) (.constant (.narrow _))
    obtain ⟨-, -, kinds⟩ := expressions _ arithmetic
    exact ⟨_, rfl, kinds _ rfl⟩
  · refine ((operations .div (.value (.i32 Int32.minValue)) (.value (.i64 (-1))) _ _ _ _ _ _ rfl rfl
      (.narrow Int32.minValue) (.wide (-1))).1 _).mpr ?_
    exact ⟨2147483648, ⟨⟨_, .wide 2147483648⟩, 0, divides _ rfl⟩, .wide 2147483648⟩
  · refine ⟨_, ((negations (.value (.i32 Int32.minValue)) _ _ _ rfl
      (.narrow Int32.minValue)).2 _).mpr ⟨?_, rfl⟩⟩
    intro least represents
    exact (Width.represents_iff.mp represents).1
  · exact ((negations (.value (.i64 2147483648)) _ _ _ rfl (.wide 2147483648)).1 _).mpr
      (.wide (-2147483648))

end SqlMapper
