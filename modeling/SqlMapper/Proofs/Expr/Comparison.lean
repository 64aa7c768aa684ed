import SqlMapper.Proofs.Expr.OnRow
import SqlMapper.Proofs.Operators
import SqlMapper.Proofs.Result
import SqlMapper.Proofs.Sameness

/-!
# Comparing values

Values that have an order have a key in it: a truth value, a number, a text, or the ordinal
of a member of some type. Values without doubles compare by their keys, and what has no key
compares as equal only with what is the same. So equality is an equivalence and the order
is one on each kind of key, whatever the widths of the integers are.
-/

namespace SqlMapper

/-- What a value is ordered by. -/
inductive OrderKey where
  | truth (value : Bool)
  | number (value : Int)
  | text (value : String)
  | ordinal (type : String) (value : Int)

namespace OrderKey

/-- The order of two keys of one kind. -/
def compare? : OrderKey → OrderKey → Option Ordering
  | truth left, truth right => some (compare left right)
  | number left, number right => some (compare left right)
  | text left, text right => some (compare left right)
  | ordinal first left, ordinal second right =>
    if first = second then some (compare left right) else none
  | _, _ => none

variable {left middle right : OrderKey}

theorem compare?_eq_iff : left.compare? right = some .eq ↔ left = right := by
  cases left <;> cases right <;> simp [compare?]

theorem compare?_swap (left right : OrderKey) :
    right.compare? left = (left.compare? right).map Ordering.swap := by
  cases left with
  | truth _ | number _ | text _ =>
      cases right <;> first | rfl | exact congrArg some Std.OrientedOrd.eq_swap
  | ordinal type value =>
      cases right with
      | ordinal otherType other =>
          by_cases same : type = otherType
          · simp only [compare?, same, if_true, Option.map_some]
            exact congrArg some Std.OrientedOrd.eq_swap
          · simp [compare?, same, Ne.symm same]
      | _ => rfl

theorem compare?_trans (first : left.compare? middle = some .lt)
    (second : middle.compare? right = some .lt) : left.compare? right = some .lt := by
  cases left <;> cases middle <;> simp only [compare?, reduceCtorEq] at first <;>
    cases right <;> simp only [compare?, reduceCtorEq] at second
  case ordinal.ordinal.ordinal type value other middleValue last lastValue =>
    split at first
    next same =>
      split at second
      next again =>
        rw [compare?, if_pos (same.trans again)]
        exact congrArg some
          (Std.TransCmp.lt_trans (Option.some.inj first) (Option.some.inj second))
      next => cases second
    next => cases first
  all_goals
    exact congrArg some (Std.TransCmp.lt_trans (Option.some.inj first) (Option.some.inj second))

end OrderKey

namespace Value

/-- The key of a value that has an order. -/
def orderKey? : Value → Option OrderKey
  | bool value => some (.truth value)
  | i32 value => some (.number value.toInt)
  | i64 value => some (.number value.toInt)
  | string value => some (.text value)
  | member value => some (.ordinal value.type value.ordinal.toInt)
  | null | f64 _ | list _ | record _ => none

variable {left middle right other : Value}

/-- Values compare by their keys. Without a key a value compares with what is the same. -/
theorem compare?_eq_keys (leftFree : left.isFloatFree = true)
    (rightFree : right.isFloatFree = true) :
    left.compare? right =
      match left.orderKey?, right.orderKey? with
      | some first, some second => first.compare? second
      | _, _ => if left.same right then some .eq else none := by
  cases left with
  | f64 number => cases leftFree
  | _ =>
      cases right with
      | f64 number => cases rightFree
      | _ => rfl

/-- What is the same has the same key. -/
theorem orderKey?_eq_of_same (same : left.same right = true) :
    left.orderKey? = right.orderKey? := by
  cases left <;> cases right <;> simp_all [Value.same, orderKey?]

/-- Values are equal when they have the same key, or none and are the same. -/
theorem compare?_eq_iff (leftFree : left.isFloatFree = true)
    (rightFree : right.isFloatFree = true) :
    left.compare? right = some .eq ↔
      left.orderKey? = right.orderKey? ∧ (left.orderKey? = none → left.same right = true) := by
  rw [compare?_eq_keys leftFree rightFree]
  cases leftKey : left.orderKey? with
  | some first =>
      cases rightKey : right.orderKey? with
      | some second => simp [OrderKey.compare?_eq_iff]
      | none =>
          refine iff_of_false ?_ (by simp)
          intro compared
          simp only [ite_eq_left_iff, reduceCtorEq, imp_false, Bool.not_eq_true,
            Bool.not_eq_false] at compared
          cases leftKey.symm.trans ((orderKey?_eq_of_same compared).trans rightKey)
  | none =>
      simp only [ite_eq_left_iff, reduceCtorEq, imp_false, Bool.not_eq_true, Bool.not_eq_false,
        forall_const]
      constructor
      · exact fun same => ⟨leftKey.symm.trans (orderKey?_eq_of_same same), same⟩
      · exact And.right

theorem compare?_swap (leftFree : left.isFloatFree = true) (rightFree : right.isFloatFree = true) :
    right.compare? left = (left.compare? right).map Ordering.swap := by
  rw [compare?_eq_keys leftFree rightFree, compare?_eq_keys rightFree leftFree, same_comm]
  cases left.orderKey? with
  | some first =>
      cases right.orderKey? with
      | some second => exact first.compare?_swap second
      | none => cases left.same right <;> rfl
  | none => cases right.orderKey? <;> cases left.same right <;> rfl

/-- What is less than another value has a key. -/
theorem exists_key_of_compare?_lt (leftFree : left.isFloatFree = true)
    (rightFree : right.isFloatFree = true) (less : left.compare? right = some .lt) :
    ∃ first second, left.orderKey? = some first ∧ right.orderKey? = some second ∧
      first.compare? second = some .lt := by
  rw [compare?_eq_keys leftFree rightFree] at less
  split at less
  next first second leftKey rightKey => exact ⟨first, second, leftKey, rightKey, less⟩
  next =>
    split at less
    next => cases less
    next => cases less

theorem compare?_lt_trans (leftFree : left.isFloatFree = true)
    (middleFree : middle.isFloatFree = true) (rightFree : right.isFloatFree = true)
    (first : left.compare? middle = some .lt) (second : middle.compare? right = some .lt) :
    left.compare? right = some .lt := by
  obtain ⟨leftKey, middleKey, leftHas, middleHas, firstLess⟩ :=
    exists_key_of_compare?_lt leftFree middleFree first
  obtain ⟨again, rightKey, middleHasAgain, rightHas, secondLess⟩ :=
    exists_key_of_compare?_lt middleFree rightFree second
  cases middleHas.symm.trans middleHasAgain
  rw [compare?_eq_keys leftFree rightFree, leftHas, rightHas]
  exact OrderKey.compare?_trans firstLess secondLess

/-- A value without doubles. -/
abbrev FloatFree : Type :=
  {value : Value // value.isFloatFree = true}

end Value

/-! ## Comparisons of constants -/

namespace Comparison

open Value (FloatFree)

/-- The outcome of comparing two constants. -/
def test (op : Comparison) (left right : Value) : Result Bool :=
  (Expr.binary (.comparison op) (.value left) (.value right)).evaluateBool

variable {op : Comparison} {left middle right : FloatFree}

theorem test_eq_apply (op : Comparison) (left right : Value) :
    op.test left right = op.apply left right := by
  have leftValue : (Expr.value left).evaluate = .ok left := by rw [Expr.evaluate]
  have rightValue : (Expr.value right).evaluate = .ok right := by rw [Expr.evaluate]
  rw [test, Expr.evaluateBool, Expr.evaluate_comparison leftValue rightValue]
  cases op.apply left right <;> rfl

theorem eq_test (left right : Value) : eq.test left right = .ok (left.equals right) :=
  test_eq_apply eq left right

theorem ne_test (left right : Value) : ne.test left right = .ok (!left.equals right) :=
  test_eq_apply ne left right

theorem eq_test_eq_true_iff :
    eq.test left.1 right.1 = .ok true ↔ left.1.orderKey? = right.1.orderKey? ∧
      (left.1.orderKey? = none → left.1.same right.1 = true) := by
  rw [eq_test, Except.ok.injEq, Value.equals, beq_iff_eq, Value.compare?_eq_iff left.2 right.2]

theorem eq_test_equivalence :
    Equivalence fun left right : FloatFree => eq.test left.1 right.1 = .ok true := by
  constructor
  · intro value
    rw [eq_test_eq_true_iff]
    exact ⟨rfl, fun _ => Value.same_self value.2⟩
  · intro left right equal
    rw [eq_test_eq_true_iff] at equal ⊢
    obtain ⟨keys, same⟩ := equal
    refine ⟨keys.symm, fun noKey => ?_⟩
    rw [Value.same_comm]
    exact same (keys.trans noKey)
  · intro left middle right first second
    rw [eq_test_eq_true_iff] at first second ⊢
    obtain ⟨keys, same⟩ := first
    obtain ⟨furtherKeys, furtherSame⟩ := second
    refine ⟨keys.trans furtherKeys, fun noKey => ?_⟩
    exact Value.same_trans (same noKey) (furtherSame (keys.symm.trans noKey))

/-- An integer of either width is equal to the same values. -/
theorem eq_test_widened (number : Int32) (other : FloatFree) :
    eq.test (.i32 number) other.1 = eq.test (.i64 number.toInt64) other.1 := by
  have widened : (Value.i64 number.toInt64).orderKey? = (Value.i32 number).orderKey? := by
    rw [Value.orderKey?, Value.orderKey?, Int32.toInt_toInt64]
  have equal (value : Value) (free : value.isFloatFree = true)
      (key : value.orderKey? = some (.number number.toInt)) :
      value.compare? other.1 = some .eq ↔ some (.number number.toInt) = other.1.orderKey? := by
    rw [Value.compare?_eq_iff free other.2, key]
    simp
  rw [eq_test, eq_test, Value.equals, Value.equals, Except.ok.injEq, Bool.eq_iff_iff, beq_iff_eq,
    beq_iff_eq, equal (.i32 number) rfl rfl, equal (.i64 number.toInt64) rfl widened]

theorem eq_test_comm (left right : FloatFree) :
    eq.test left.1 right.1 = eq.test right.1 left.1 := by
  rw [eq_test, eq_test, Value.equals, Value.equals, Value.compare?_swap left.2 right.2]
  rcases left.1.compare? right.1 with _ | order
  · rfl
  · cases order <;> rfl

theorem orderOf_swap {order : Ordering} (ordered : orderOf left.1 right.1 = .ok order) :
    orderOf right.1 left.1 = .ok order.swap := by
  obtain ⟨leftHas, rightHas, compared⟩ := orderOf_eq_ok_iff.mp ordered
  refine orderOf_eq_ok_iff.mpr ⟨rightHas, leftHas, ?_⟩
  rw [Value.compare?_swap left.2 right.2, compared]
  rfl

/-- Ordered values answer every comparison in either direction; of others no order can be
asked in either. -/
theorem ordered_or_unordered (left right : FloatFree) :
    (∃ order, orderOf left.1 right.1 = .ok order ∧ orderOf right.1 left.1 = .ok order.swap) ∨
    (∃ error, orderOf left.1 right.1 = .error error) ∧
      ∃ error, orderOf right.1 left.1 = .error error := by
  cases ordered : orderOf left.1 right.1 with
  | ok order => exact .inl ⟨order, rfl, orderOf_swap ordered⟩
  | error error =>
      refine .inr ⟨⟨error, rfl⟩, ?_⟩
      cases swapped : orderOf right.1 left.1 with
      | error other => exact ⟨other, rfl⟩
      | ok order => cases ordered.symm.trans (orderOf_swap swapped)

theorem test_of_orderOf (op : Comparison) {first second : Value} {order : Ordering}
    (ordered : orderOf first second = .ok order) : op.test first second = .ok (op.ofOrder order) :=
  (test_eq_apply op first second).trans (op.apply_of_orderOf ordered)

theorem test_of_orderOf_eq_error (asks : op ∈ orders) {first second : Value} {error : Error}
    (unordered : orderOf first second = .error error) : op.test first second = .error error :=
  (test_eq_apply op first second).trans (apply_of_orderOf_eq_error asks unordered)

theorem test_eq_ok_iff_ordered (asks : op ∈ orders) {first second : Value} {holds : Bool} :
    op.test first second = .ok holds ↔
      ∃ order, orderOf first second = .ok order ∧ op.ofOrder order = holds := by
  cases ordered : orderOf first second with
  | ok order => simp [op.test_of_orderOf ordered]
  | error error => simp [test_of_orderOf_eq_error asks ordered]

theorem lt_test_trans (first : lt.test left.1 middle.1 = .ok true)
    (second : lt.test middle.1 right.1 = .ok true) : lt.test left.1 right.1 = .ok true := by
  have less {left right : Value} :
      lt.test left right = .ok true ↔ orderOf left right = .ok .lt := by
    rw [test_eq_ok_iff_ordered (by decide)]
    simp [ofOrder]
  rw [less, orderOf_eq_ok_iff] at first second ⊢
  obtain ⟨leftHas, -, firstLess⟩ := first
  obtain ⟨-, rightHas, secondLess⟩ := second
  exact ⟨leftHas, rightHas,
    Value.compare?_lt_trans left.2 middle.2 right.2 firstLess secondLess⟩

end Comparison

open Comparison in
/-- Comparisons of values without doubles agree with each other. Equality is an equivalence
that every pair of values has an answer for, and inequality is its negation. An order either
can be asked for by all four comparisons, in both directions, or by none and in neither, and
never of null. Where it can, exactly one of less, equal and greater holds, and the four
comparisons are what they should be of these; less is transitive. An integer of one width is
equal to the same values as that of the other width. -/
theorem comparisons_coherent :
    (∀ left right : Value.FloatFree, ∃ equal,
      eq.test left.1 right.1 = .ok equal ∧ ne.test left.1 right.1 = .ok (!equal)) ∧
    Equivalence (fun left right : Value.FloatFree => eq.test left.1 right.1 = .ok true) ∧
    (∀ left right : Value.FloatFree,
      ((∀ op ∈ orders, (∃ holds, op.test left.1 right.1 = .ok holds) ∧
          ∃ holds, op.test right.1 left.1 = .ok holds) ∨
        ∀ op ∈ orders, (∃ error, op.test left.1 right.1 = .error error) ∧
          ∃ error, op.test right.1 left.1 = .error error) ∧
      ((left.1 = .null ∨ right.1 = .null) → ∀ op ∈ orders, ∃ error,
        op.test left.1 right.1 = .error error)) ∧
    (∀ (left right : Value.FloatFree) (less : Bool), lt.test left.1 right.1 = .ok less →
      ∃ equal greater, eq.test left.1 right.1 = .ok equal ∧
        lt.test right.1 left.1 = .ok greater ∧ [less, equal, greater].count true = 1 ∧
        le.test left.1 right.1 = .ok (less || equal) ∧
        ge.test right.1 left.1 = .ok (less || equal) ∧
        gt.test right.1 left.1 = .ok less) ∧
    (∀ left middle right : Value.FloatFree, lt.test left.1 middle.1 = .ok true →
      lt.test middle.1 right.1 = .ok true → lt.test left.1 right.1 = .ok true) ∧
    ∀ (number : Int32) (other : Value.FloatFree),
      eq.test (.i32 number) other.1 = eq.test (.i64 number.toInt64) other.1 ∧
        eq.test other.1 (.i32 number) = eq.test other.1 (.i64 number.toInt64) := by
  refine ⟨fun left right => ⟨_, eq_test _ _, ne_test _ _⟩, eq_test_equivalence, ?_, ?_,
    fun left middle right => lt_test_trans, ?_⟩
  · intro left right
    constructor
    · rcases ordered_or_unordered left right with
        ⟨order, ordered, swapped⟩ | ⟨⟨error, unordered⟩, ⟨other, swapped⟩⟩
      · exact .inl fun op _ =>
          ⟨⟨_, op.test_of_orderOf ordered⟩, ⟨_, op.test_of_orderOf swapped⟩⟩
      · exact .inr fun op asks => ⟨⟨_, test_of_orderOf_eq_error asks unordered⟩,
          ⟨_, test_of_orderOf_eq_error asks swapped⟩⟩
    · intro null op asks
      have unordered : orderOf left.1 right.1 = EvaluationFault.nullOrder.fail := by
        rw [orderOf, if_pos]
        rcases null with isNull | isNull <;> simp [isNull, Value.isNull]
      exact ⟨_, test_of_orderOf_eq_error asks unordered⟩
  · intro left right less answered
    obtain ⟨order, ordered, rfl⟩ := (test_eq_ok_iff_ordered (by decide)).mp answered
    have swapped := orderOf_swap ordered
    refine ⟨_, _, eq.test_of_orderOf ordered, lt.test_of_orderOf swapped, ?_, ?_, ?_, ?_⟩
    · cases order <;> rfl
    · rw [le.test_of_orderOf ordered]
      cases order <;> rfl
    · rw [ge.test_of_orderOf swapped]
      cases order <;> rfl
    · rw [gt.test_of_orderOf swapped]
      cases order <;> rfl
  · intro number other
    have narrowFirst := eq_test_comm other ⟨.i32 number, rfl⟩
    have wideFirst := eq_test_comm other ⟨.i64 number.toInt64, rfl⟩
    have widened := eq_test_widened number other
    exact ⟨widened, (narrowFirst.trans widened).trans wideFirst.symm⟩

/-- Integers of both widths in order, a number that is no list, and a text beside null. -/
theorem mixed_values_compared :
    Comparison.lt.test (.i32 1) (.i64 3) = .ok true ∧
    Comparison.eq.test (.i64 (Int32.toInt64 5)) (.list [.i64 5]) = .ok false ∧
    (∃ equal greater, Comparison.eq.test (.i32 2) (.i64 2) = .ok equal ∧
      Comparison.lt.test (.i64 2) (.i32 2) = .ok greater ∧
      [false, equal, greater].count true = 1) ∧
    ∃ error, Comparison.le.test (.string "a") .null = .error error := by
  obtain ⟨-, -, orders, exclusive, transitive, widened⟩ := comparisons_coherent
  refine ⟨?_, ?_, ?_, ?_⟩
  · exact transitive ⟨.i32 1, rfl⟩ ⟨.i32 2, rfl⟩ ⟨.i64 3, rfl⟩ rfl rfl
  · rw [← (widened 5 ⟨.list [.i64 5], rfl⟩).1]
    rfl
  · obtain ⟨equal, greater, isEqual, isGreater, one, -⟩ :=
      exclusive ⟨.i32 2, rfl⟩ ⟨.i64 2, rfl⟩ false rfl
    exact ⟨equal, greater, isEqual, isGreater, one⟩
  · exact (orders ⟨.string "a", rfl⟩ ⟨.null, rfl⟩).2 (.inr rfl) .le (by decide)

end SqlMapper
