import SqlMapper.Expr.Evaluate

/-!
# Operators on integers and truth values

Comparisons and the operations without division on integers of any size, and the
connectives on truth values. The evaluator computes them whatever the widths of
its operands are, as long as it gives a result at all.
-/

namespace SqlMapper

/-- Whether a comparison holds of two integers. -/
def Comparison.onIntegers (op : Comparison) (left right : Int) : Bool :=
  match op with
  | eq => left = right
  | ne => left ≠ right
  | ge => right ≤ left
  | gt => right < left
  | le => left ≤ right
  | lt => left < right

/-- The exact result of an operation. Division is left out. -/
def Arithmetic.unbounded? (op : Arithmetic) (left right : Int) : Option Int :=
  match op with
  | add => some (left + right)
  | sub => some (left - right)
  | mul => some (left * right)
  | div | rem => none

def Connective.onTruth (op : Connective) (left right : Bool) : Bool :=
  match op with
  | and => left && right
  | or => left || right

/-- The value is the integer of the given width that stands for a number. -/
inductive Value.IsInteger : Width → Int → Value → Prop where
  | narrow (number : Int32) : IsInteger .narrow number.toInt (.i32 number)
  | wide (number : Int64) : IsInteger .wide number.toInt (.i64 number)

theorem Value.IsInteger.integer? {width : Width} {number : Int} {value : Value}
    (isInteger : value.IsInteger width number) : value.integer? = some number := by
  cases isInteger <;> rfl

theorem Value.exists_isInteger {number : Int} {value : Value}
    (integer : value.integer? = some number) : ∃ width, value.IsInteger width number := by
  cases value with
  | i32 value =>
      cases integer
      exact ⟨_, .narrow value⟩
  | i64 value =>
      cases integer
      exact ⟨_, .wide value⟩
  | _ => cases integer

namespace Width

variable {width : Width} {number : Int} {value : Value}

/-- A number has a value of the width when some integer of the width stands for it. -/
theorem value?_eq_some_iff : width.value? number = some value ↔ value.IsInteger width number := by
  unfold value? fits
  constructor
  · intro computed
    split at computed
    next inRange =>
      simp only [Bool.and_eq_true, decide_eq_true_eq] at inRange
      cases computed
      cases width with
      | narrow =>
          have made := Value.IsInteger.narrow (Int32.ofInt number)
          rw [Int32.toInt_ofInt_of_le inRange.1 inRange.2] at made
          exact made
      | wide =>
          have made := Value.IsInteger.wide (Int64.ofInt number)
          rw [Int64.toInt_ofInt_of_le inRange.1 inRange.2] at made
          exact made
    next => cases computed
  · intro isInteger
    cases isInteger with
    | narrow number =>
        rw [Width.value, Int32.ofInt_toInt]
        refine if_pos ?_
        simp only [Bool.and_eq_true, decide_eq_true_eq]
        exact ⟨number.le_toInt, number.toInt_lt⟩
    | wide number =>
        rw [Width.value, Int64.ofInt_toInt]
        refine if_pos ?_
        simp only [Bool.and_eq_true, decide_eq_true_eq]
        exact ⟨number.le_toInt, number.toInt_lt⟩

/-- An integer value stands for the number that it was made from. -/
theorem integer?_of_value? (computed : width.value? number = some value) :
    value.integer? = some number :=
  (value?_eq_some_iff.mp computed).integer?

end Width

namespace Value

variable {left right : Value} {first second : Int}

/-- Integers are compared as numbers, whatever their widths. -/
theorem compare?_of_integers (leftInteger : left.integer? = some first)
    (rightInteger : right.integer? = some second) :
    left.compare? right = some (compare first second) := by
  cases left <;> cases leftInteger <;> cases right <;> cases rightInteger <;> rfl

theorem commonWidth?_of_integers (leftInteger : left.integer? = some first)
    (rightInteger : right.integer? = some second) :
    ∃ width, left.commonWidth? right = some width := by
  cases left <;> cases leftInteger <;> cases right <;> cases rightInteger <;> exact ⟨_, rfl⟩

theorem not_isNull_of_integer (integer : left.integer? = some first) : left.isNull = false := by
  cases left <;> cases integer <;> rfl

end Value

variable {left right result : Value} {first second : Int}

namespace Comparison

/-- Whether a comparison holds of two values in a given order. -/
def ofOrder (op : Comparison) (order : Ordering) : Bool :=
  match op with
  | eq => order == .eq
  | ne => order != .eq
  | ge => order != .lt
  | gt => order == .gt
  | le => order != .gt
  | lt => order == .lt

/-- The comparisons that ask for an order. -/
def orders : List Comparison :=
  [lt, le, gt, ge]

theorem orderOf_eq_ok_iff {order : Ordering} :
    orderOf left right = .ok order ↔
      left.isNull = false ∧ right.isNull = false ∧ left.compare? right = some order := by
  unfold orderOf
  cases left.isNull with
  | true => simp [EvaluationFault.fail, Fault.fail]
  | false =>
      cases right.isNull with
      | true => simp [EvaluationFault.fail, Fault.fail]
      | false =>
          cases left.compare? right with
          | none => simp [EvaluationFault.fail, Fault.fail]
          | some other => simp

/-- Of values that have an order, every comparison is decided by it. -/
theorem apply_of_orderOf (op : Comparison) {order : Ordering}
    (ordered : orderOf left right = .ok order) : op.apply left right = .ok (op.ofOrder order) := by
  obtain ⟨-, -, compared⟩ := orderOf_eq_ok_iff.mp ordered
  cases op with
  | eq | ne =>
      rw [apply, Value.equals, compared]
      cases order <;> rfl
  | _ =>
      rw [apply, ordered]
      rfl

/-- Of values that have no order, none can be asked for. -/
theorem apply_of_orderOf_eq_error {op : Comparison} (asks : op ∈ orders) {error : Error}
    (unordered : orderOf left right = .error error) : op.apply left right = .error error := by
  cases op with
  | eq | ne => exact absurd asks (by decide)
  | _ =>
      rw [apply, unordered]
      rfl

/-- A comparison of integers asks for their order. -/
theorem onIntegers_eq_ofOrder (op : Comparison) (first second : Int) :
    op.onIntegers first second = op.ofOrder (compare first second) := by
  rw [Bool.eq_iff_iff]
  cases op with
  | eq | ne => simp [onIntegers, ofOrder]
  | ge | lt => simp [onIntegers, ofOrder, Int.compare_eq_lt]
  | gt | le => simp [onIntegers, ofOrder, Int.compare_eq_gt]

theorem apply_of_integers (op : Comparison) (leftInteger : left.integer? = some first)
    (rightInteger : right.integer? = some second) :
    op.apply left right = .ok (op.onIntegers first second) := by
  have ordered : orderOf left right = .ok (compare first second) :=
    orderOf_eq_ok_iff.mpr ⟨Value.not_isNull_of_integer leftInteger,
      Value.not_isNull_of_integer rightInteger,
      Value.compare?_of_integers leftInteger rightInteger⟩
  rw [op.apply_of_orderOf ordered, onIntegers_eq_ofOrder]

end Comparison

/-- An operation on integers is computed for the width that they have in common. -/
theorem Arithmetic.apply_eq_onIntegers {op : Arithmetic} {width : Width}
    (leftInteger : left.integer? = some first) (rightInteger : right.integer? = some second)
    (common : left.commonWidth? right = some width) :
    op.apply left right =
      match op.onIntegers width first second with
      | some value => .ok value
      | none => (EvaluationFault.overflow op.symbol).fail := by
  have notText : ∀ text, left ≠ .string text := by
    rintro text rfl
    cases leftInteger
  simp only [apply, Value.not_isNull_of_integer leftInteger,
    Value.not_isNull_of_integer rightInteger, Bool.or_self, Bool.false_eq_true, if_false, common,
    leftInteger, rightInteger]
  split
  next _ _ text _ => exact absurd rfl (notText text)
  next => rfl

theorem Arithmetic.apply_of_integers {op : Arithmetic} {exact : Int}
    (leftInteger : left.integer? = some first) (rightInteger : right.integer? = some second)
    (defined : op.unbounded? first second = some exact)
    (applied : op.apply left right = .ok result) :
    result.integer? = some exact := by
  obtain ⟨width, common⟩ := Value.commonWidth?_of_integers leftInteger rightInteger
  rw [apply_eq_onIntegers leftInteger rightInteger common] at applied
  split at applied
  next value computed =>
    cases applied
    cases op with
    | add | sub | mul =>
        cases defined
        exact Width.integer?_of_value? computed
    | div | rem => cases defined
  next => cases applied

/-- The negative of an integer has its width. -/
theorem UnaryOp.neg_apply_eq {width : Width} (isInteger : left.IsInteger width first) :
    UnaryOp.neg.apply left =
      match width.value? (-first) with
      | some value => .ok value
      | none => (EvaluationFault.overflow "-").fail := by
  cases isInteger <;> rfl

theorem UnaryOp.neg_apply_of_integer (integer : left.integer? = some first)
    (applied : UnaryOp.neg.apply left = .ok result) : result.integer? = some (-first) := by
  obtain ⟨width, isInteger⟩ := Value.exists_isInteger integer
  rw [neg_apply_eq isInteger] at applied
  split at applied
  next value computed =>
    cases applied
    exact Width.integer?_of_value? computed
  next => cases applied

end SqlMapper
