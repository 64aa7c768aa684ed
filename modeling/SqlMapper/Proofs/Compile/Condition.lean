import SqlMapper.Proofs.Compile.Operand
import SqlMapper.Proofs.Compile.Shape

/-!
# What passes for a condition

An expression is boolean when it has a truth value. Compiling a condition looks through
connectives and negations, and refuses columns and constants that are no booleans wherever
it meets them; what is calculated from the row it takes as it is. So a compiled condition
has a truth value exactly when its expression is boolean, and when it has none, a
calculation stands where a condition should.
-/

namespace SqlMapper

namespace Term

/-- The term has a truth value. -/
def IsCondition : Term → Prop
  | truth _ | columnIs _ _ | comparison _ _ _ | nullTest _ _ | like _ _ => True
  | connective _ left right => left.IsCondition ∧ right.IsCondition
  | complement operand => operand.IsCondition
  | column _ | slot _ | arithmetic _ _ _ | negative _ | apply _ _ | replace _ _ _
  | substring _ _ | window _ _ _ => False

end Term

/-- The methods that ask for a text inside another one. -/
def textTests : List String :=
  ["starts_with", "ends_with", "contains"]

theorem mem_textTests_of_likePattern {name tested pattern : String}
    (known : likePattern name tested = some pattern) : name ∈ textTests := by
  unfold likePattern at known
  split at known
  case h_4 => cases known
  all_goals simp [textTests]

theorem notMem_textTests_of_mem_ofMethod {name : String} {functions : List TextFunction}
    (known : (name, functions) ∈ TextFunction.ofMethod) : name ∉ textTests := by
  simp only [TextFunction.ofMethod, List.mem_cons, Prod.mk.injEq, List.not_mem_nil, or_false]
    at known
  rcases known with ⟨rfl, -⟩ | ⟨rfl, -⟩ | ⟨rfl, -⟩ | ⟨rfl, -⟩ | ⟨rfl, -⟩ <;> decide

namespace Expr

section Kinds

variable (map : TableMap) (evaluator : Evaluator)

/-- The expression has a truth value. -/
inductive IsBoolean : Expr → Prop where
  | column {name : String} {property : Property} (found : map.property name = .ok property)
      (isBool : property.kind.isBool = true) : IsBoolean (field name)
  | constant {expr : Expr} {truth : Bool} (folds : expr.FoldsTo evaluator (.bool truth)) :
      IsBoolean expr
  | comparison (op : Comparison) (left right : Expr) :
      IsBoolean (binary (.comparison op) left right)
  | connective {op : Connective} {left right : Expr} (leftIs : IsBoolean left)
      (rightIs : IsBoolean right) : IsBoolean (binary (.connective op) left right)
  | negation {inner : Expr} (innerIs : IsBoolean inner) : IsBoolean (unary .not inner)
  | textTest {target : Expr} {name : String} {arguments : List Expr}
      (asks : name ∈ textTests) : IsBoolean (method target name arguments)

/-- The expression is a column or a constant that is no boolean. -/
inductive IsPlainValue : Expr → Prop where
  | column {name : String} {property : Property} (found : map.property name = .ok property)
      (notBool : property.kind.isBool = false) : IsPlainValue (field name)
  | constant {expr : Expr} {value : Value} (folds : expr.FoldsTo evaluator value)
      (notBool : value.isBool = false) : IsPlainValue expr

/-- The expression compiles wherever it stands, and if it is a boolean column, both truth
values have literals. -/
structure Compilable (expr : Expr) : Prop where
  operand : ∀ bound error, ((expr.operand map evaluator).outcome bound).1 ≠ .error error
  literals : ∀ name property, expr = field name → map.property name = .ok property →
    ∀ truth error, property.test truth ≠ .error error

end Kinds

/-- The expression calculates a number or a text from the row. -/
def isCalculation (expr : Expr) : Bool :=
  expr.referencesRow &&
    match expr with
    | binary (.arithmetic _) _ _ | unary .neg _ => true
    | method _ name _ => !textTests.contains name
    | _ => false

/-- The expression is a connective or a negation over the row. -/
def isConnected : Expr → Bool
  | binary (.connective _) left right => left.referencesRow || right.referencesRow
  | unary .not inner => inner.referencesRow
  | _ => false

/-- The expressions that stand as conditions: those that connectives and negations are
about. What does not mention the row is one constant. -/
def tested (expr : Expr) : List Expr :=
  match expr with
  | binary (.connective op) left right =>
    if left.referencesRow || right.referencesRow then left.tested ++ right.tested
    else [binary (.connective op) left right]
  | unary .not inner => if inner.referencesRow then inner.tested else [unary .not inner]
  | expr => [expr]

end Expr

namespace Operand

/-- The operand is taken for a condition, or for one that must not hold. -/
def Passes : Operand → Prop
  | column property => property.kind.isBool = true
  | constant value => value.isBool = true
  | term _ => True

variable {operand : Operand} {written : Term}

theorem Tests.passes (tests : operand.Tests written) : operand.Passes := by
  cases operand with
  | column property => exact tests.1
  | constant value =>
      obtain ⟨truth, rfl, -⟩ := tests
      rfl
  | term result => trivial

theorem Refutes.passes (refutes : operand.Refutes written) : operand.Passes := by
  cases operand with
  | column property => exact refutes.1
  | constant _ | term _ =>
      obtain ⟨tested, tests, -⟩ := refutes
      exact tests.passes

end Operand

namespace Expr

variable {map : TableMap} {evaluator : Evaluator} {constants bound : List Value}
variable {expr left right inner part : Expr} {operand : Operand} {written : Term}

theorem tested_connective {op : Connective}
    (mentioned : (binary (.connective op) left right).referencesRow = true) :
    (binary (.connective op) left right).tested = left.tested ++ right.tested :=
  if_pos mentioned

theorem tested_not (mentioned : (unary .not inner).referencesRow = true) :
    (unary .not inner).tested = inner.tested :=
  if_pos mentioned

theorem not_foldsTo_of_mention {value : Value} (mentioned : expr.referencesRow = true) :
    ¬expr.FoldsTo evaluator value := by
  intro folds
  rw [folds.referencesRow_eq] at mentioned
  cases mentioned

/-- Connectives and negations over the row are looked through. -/
theorem isBoolean_iff_forall_tested :
    expr.IsBoolean map evaluator ↔ ∀ part ∈ expr.tested, part.IsBoolean map evaluator := by
  fun_induction tested expr with
  | case1 op left right mentioned leftIH rightIH =>
      rw [List.forall_mem_append, ← leftIH, ← rightIH]
      constructor
      · intro isBoolean
        cases isBoolean with
        | constant folds => exact absurd folds (not_foldsTo_of_mention mentioned)
        | connective leftIs rightIs => exact ⟨leftIs, rightIs⟩
      · rintro ⟨leftIs, rightIs⟩
        exact .connective leftIs rightIs
  | case3 inner mentioned inductionHypothesis =>
      rw [← inductionHypothesis]
      constructor
      · intro isBoolean
        cases isBoolean with
        | constant folds => exact absurd folds (not_foldsTo_of_mention mentioned)
        | negation innerIs => exact innerIs
      · exact .negation
  | case2 | case4 | case5 => simp

/-- Whatever stands as a condition in a compiled one compiles to something that passes, and
is no connective or negation over the row. -/
theorem Compiles.of_mem_tested (compiles : expr.Compiles map evaluator constants operand)
    (passes : operand.Passes) (member : part ∈ expr.tested) :
    ∃ own, part.Compiles map evaluator constants own ∧ own.Passes ∧
      part.isConnected = false := by
  fun_induction tested expr generalizing operand with
  | case1 op left right mentioned leftIH rightIH =>
      cases compiles with
      | constant folds => exact absurd folds (not_foldsTo_of_mention mentioned)
      | connective _ leftTo rightTo leftTests rightTests =>
          rcases List.mem_append.mp member with inLeft | inRight
          · exact leftIH leftTo leftTests.passes inLeft
          · exact rightIH rightTo rightTests.passes inRight
  | case3 inner mentioned inductionHypothesis =>
      cases compiles with
      | constant folds => exact absurd folds (not_foldsTo_of_mention mentioned)
      | not _ innerTo refutes => exact inductionHypothesis innerTo refutes.passes member
  | case2 op left right rowFree =>
      cases List.mem_singleton.mp member
      exact ⟨operand, compiles, passes, Bool.eq_false_iff.mpr rowFree⟩
  | case4 inner rowFree =>
      cases List.mem_singleton.mp member
      exact ⟨operand, compiles, passes, Bool.eq_false_iff.mpr rowFree⟩
  | case5 expr notConnective notNegation =>
      cases List.mem_singleton.mp member
      refine ⟨operand, compiles, passes, ?_⟩
      unfold isConnected
      split
      next op left right => exact absurd rfl (notConnective op left right)
      next inner => exact absurd rfl (notNegation inner)
      next => rfl

/-- No column and no constant passes without being a boolean. -/
theorem Compiles.not_isPlainValue (compiles : expr.Compiles map evaluator constants operand)
    (passes : operand.Passes) : ¬expr.IsPlainValue map evaluator := by
  intro plain
  cases plain with
  | column found notBool =>
      cases compiles with
      | constant folds => cases folds.referencesRow_eq
      | column foundAgain =>
          cases found.symm.trans foundAgain
          rw [Operand.Passes, notBool] at passes
          cases passes
  | constant folds notBool =>
      rcases compiles.forms with ⟨value, again, rfl⟩ | ⟨name, property, rfl, -⟩ | ⟨compound, -⟩
      · cases folds.unique again
        rw [Operand.Passes, notBool] at passes
        cases passes
      · cases folds.referencesRow_eq
      · exact not_foldsTo_of_mention compound.1 folds

theorem not_isBoolean_of_isCalculation (calculates : expr.isCalculation = true) :
    ¬expr.IsBoolean map evaluator := by
  obtain ⟨mentioned, form⟩ := Bool.and_eq_true_iff.mp calculates
  intro isBoolean
  cases isBoolean with
  | constant folds => exact not_foldsTo_of_mention mentioned folds
  | textTest asks =>
      rw [Bool.not_eq_true', List.contains_iff_mem.mpr asks] at form
      cases form
  | _ => cases form

theorem isBoolean_method {target : Expr} {name : String} {arguments : List Expr}
    (mentioned : (method target name arguments).referencesRow = true)
    (noCalculation : (method target name arguments).isCalculation = false) :
    (method target name arguments).IsBoolean map evaluator := by
  rw [isCalculation, mentioned, Bool.true_and, Bool.not_eq_false'] at noCalculation
  exact .textTest (List.contains_iff_mem.mp noCalculation)

/-- Of what passes, all but the calculations is boolean. -/
theorem Compiles.isBoolean_iff_of_passes
    (compiles : expr.Compiles map evaluator constants operand) (passes : operand.Passes)
    (alone : expr.isConnected = false) :
    expr.IsBoolean map evaluator ↔ expr.isCalculation = false := by
  constructor
  · intro isBoolean
    rw [← Bool.not_eq_true]
    exact fun calculates => not_isBoolean_of_isCalculation calculates isBoolean
  · intro noCalculation
    cases compiles with
    | @constant _ value folds =>
        cases value with
        | bool truth => exact .constant folds
        | _ => cases passes
    | column found => exact .column found passes
    | connective mentioned | not mentioned => cases alone.symm.trans mentioned
    | comparison mentioned => exact .comparison _ _ _
    | arithmetic mentioned | neg mentioned =>
        rw [isCalculation, mentioned] at noCalculation
        cases noCalculation
    | change mentioned | replace mentioned | substring mentioned | window mentioned
    | like mentioned => exact isBoolean_method mentioned noCalculation

/-- A condition has a truth value exactly when its expression is boolean. -/
theorem Compiles.isCondition_iff (compiles : expr.Compiles map evaluator constants operand)
    (tests : operand.Tests written) : written.IsCondition ↔ expr.IsBoolean map evaluator := by
  induction compiles generalizing written with
  | constant folds =>
      obtain ⟨truth, rfl, rfl⟩ := tests
      exact iff_of_true trivial (.constant folds)
  | column found =>
      obtain ⟨literal, rfl⟩ := Property.exists_columnIs_of_test tests.2
      exact iff_of_true trivial (.column found tests.1)
  | connective mentioned leftTo rightTo leftTests rightTests leftIH rightIH =>
      cases tests
      rw [isBoolean_iff_forall_tested, tested_connective mentioned, List.forall_mem_append,
        ← isBoolean_iff_forall_tested, ← isBoolean_iff_forall_tested, ← leftIH leftTests,
        ← rightIH rightTests, Term.IsCondition]
  | comparison mentioned leftTo rightTo meet compares =>
      cases tests
      refine iff_of_true ?_ (.comparison _ _ _)
      cases compares <;> trivial
  | @not inner operand term mentioned innerTo refutes inductionHypothesis =>
      cases tests
      rw [isBoolean_iff_forall_tested, tested_not mentioned, ← isBoolean_iff_forall_tested]
      cases operand with
      | column property =>
          obtain ⟨literal, rfl⟩ := Property.exists_columnIs_of_test refutes.2
          cases innerTo with
          | column found => exact iff_of_true trivial (.column found refutes.1)
      | constant _ | term _ =>
          obtain ⟨tested, innerTests, rfl⟩ := refutes
          rw [Term.IsCondition]
          exact inductionHypothesis innerTests
  | arithmetic mentioned | neg mentioned =>
      cases tests
      refine iff_of_false not_false (not_isBoolean_of_isCalculation ?_)
      exact Bool.and_eq_true_iff.mpr ⟨mentioned, rfl⟩
  | @change target operand text name functions mentioned targetTo renders known =>
      cases tests
      have calculates : (method target name []).isCalculation = true := by
        simp only [isCalculation, mentioned, Bool.true_and, Bool.not_eq_true',
          List.contains_eq_mem, decide_eq_false_iff_not]
        exact notMem_textTests_of_mem_ofMethod known
      refine iff_of_false ?_ (not_isBoolean_of_isCalculation calculates)
      cases functions with
      | nil => simp [TextFunction.ofMethod] at known
      | cons function rest => exact not_false
  | replace mentioned | substring mentioned | window mentioned =>
      cases tests
      refine iff_of_false not_false (not_isBoolean_of_isCalculation ?_)
      rw [isCalculation, mentioned]
      decide
  | like mentioned targetTo argumentTo renders known =>
      cases tests
      exact iff_of_true trivial (.textTest (mem_textTests_of_likePattern known))

/-- What a failed condition is refused for: a part that stands as a condition does not
compile, or it is a column or a constant that is no boolean. -/
def Refused (map : TableMap) (evaluator : Evaluator) (error : Error) (part : Expr) : Prop :=
  ¬part.Compilable map evaluator ∨ part.IsPlainValue map evaluator ∧
    error = .of (.invalidStatement ("`" ++ part.display ++ "` is not a boolean predicate"))

end Expr

namespace Compile

variable {α β : Type} {bound : List Value} {error : Error}

/-- A step after another one fails when the first one does, or on what the first one
leaves. -/
theorem outcome_bind_eq_error {step : Compile α} {next : α → Compile β} :
    ((step >>= next).outcome bound).1 = .error error ↔
      (step.outcome bound).1 = .error error ∨
        ∃ value after, step.outcome bound = (.ok value, after) ∧
          ((next value).outcome after).1 = .error error := by
  rw [outcome_bind]
  rcases step.outcome bound with ⟨other | value, after⟩ <;> simp

end Compile

namespace Expr

variable {map : TableMap} {evaluator : Evaluator} {bound constants : List Value}
variable {error : Error} {expr : Expr} {operand : Operand}

theorem Compilable.column_tested {property : Property} {truth : Bool}
    (compilable : expr.Compilable map evaluator)
    (compiles : expr.Compiles map evaluator constants (.column property)) :
    property.test truth ≠ .error error := by
  cases compiles with
  | column found => exact compilable.literals _ _ rfl found truth error

theorem condition_refused (compiles : expr.Compiles map evaluator constants operand)
    (failed : ((operand.condition expr).outcome bound).1 = .error error) :
    expr.Refused map evaluator error := by
  cases operand with
  | column property =>
      simp only [Operand.condition] at failed
      split at failed
      next => exact .inl fun compilable => compilable.column_tested compiles failed
      next notBool =>
        cases failed
        cases compiles with
        | column found => exact .inr ⟨.column found (Bool.eq_false_iff.mpr notBool), rfl⟩
  | constant value =>
      cases compiles with
      | constant folds =>
          cases value with
          | bool truth => cases failed
          | _ =>
              cases failed
              exact .inr ⟨.constant folds rfl, rfl⟩
  | term result => cases failed

/-- A condition that must not hold fails as the condition does, unless it is a column
without a literal for false. -/
theorem negatedCondition_refused (compiles : expr.Compiles map evaluator constants operand)
    (failed : ((operand.negatedCondition expr).outcome bound).1 = .error error) :
    ((operand.condition expr).outcome bound).1 = .error error ∨
      expr.tested = [expr] ∧ expr.Refused map evaluator error := by
  have complemented (failed : ((operand.condition expr >>= fun tested =>
      pure (.complement tested) : Compile Term).outcome bound).1 = .error error) :
      ((operand.condition expr).outcome bound).1 = .error error := by
    rcases Compile.outcome_bind_eq_error.mp failed with failed | ⟨_, _, _, failed⟩
    · exact failed
    · cases failed
  cases operand with
  | column property =>
      simp only [Operand.negatedCondition] at failed
      split at failed
      next =>
        refine .inr ⟨?_, .inl fun compilable => compilable.column_tested compiles failed⟩
        cases compiles with
        | column found => rfl
      next => exact .inl (complemented failed)
  | constant _ | term _ => exact .inl (complemented failed)

theorem predicate_connective {op : Connective} {left right : Expr}
    (mentioned : (binary (.connective op) left right).referencesRow = true) :
    (binary (.connective op) left right).predicate map evaluator = (do
      let first ← left.predicate map evaluator
      let second ← right.predicate map evaluator
      return .connective op first second) := by
  simp [predicate, operand_connective mentioned, Operand.condition]

theorem predicate_not {inner : Expr} (mentioned : (unary .not inner).referencesRow = true) :
    (unary .not inner).predicate map evaluator =
      (do (← inner.operand map evaluator).negatedCondition inner) := by
  simp [predicate, operand_not mentioned, Operand.condition]

theorem predicate_refused
    (failed : ((expr.predicate map evaluator).outcome bound).1 = .error error) :
    expr.Refused map evaluator error := by
  rcases Compile.outcome_bind_eq_error.mp failed with failed | ⟨operand, after, ran, failed⟩
  · exact .inl fun compilable => compilable.operand bound error failed
  · exact condition_refused (operand_shape expr bound operand after ran).2 failed

/-- A condition fails because of a part that stands as a condition. -/
theorem exists_refused_of_predicate (expr : Expr)
    (failed : ((expr.predicate map evaluator).outcome bound).1 = .error error) :
    ∃ part ∈ expr.tested, part.Refused map evaluator error := by
  fun_induction tested expr generalizing bound with
  | case1 op left right mentioned leftIH rightIH =>
      rw [predicate_connective mentioned] at failed
      rcases Compile.outcome_bind_eq_error.mp failed with failed | ⟨_, _, _, failed⟩
      · obtain ⟨part, member, refused⟩ := leftIH failed
        exact ⟨part, List.mem_append_left _ member, refused⟩
      rcases Compile.outcome_bind_eq_error.mp failed with failed | ⟨_, _, _, failed⟩
      · obtain ⟨part, member, refused⟩ := rightIH failed
        exact ⟨part, List.mem_append_right _ member, refused⟩
      · cases failed
  | case3 inner mentioned inductionHypothesis =>
      rw [predicate_not mentioned] at failed
      rcases Compile.outcome_bind_eq_error.mp failed with failed | ⟨operand, after, ran, failed⟩
      · exact inductionHypothesis (Compile.outcome_bind_eq_error.mpr (.inl failed))
      · have compiles := (operand_shape inner bound operand after ran).2
        rcases negatedCondition_refused compiles failed with failed | ⟨own, refused⟩
        · exact inductionHypothesis
            (Compile.outcome_bind_eq_error.mpr (.inr ⟨operand, after, ran, failed⟩))
        · exact ⟨inner, own ▸ List.mem_singleton_self inner, refused⟩
  | case2 | case4 | case5 => exact ⟨_, List.mem_singleton_self _, predicate_refused failed⟩

end Expr

/-- A compiled condition has a truth value exactly when its expression is boolean. Columns and
constants that are no booleans are not accepted wherever they stand as conditions; so an
expression that is accepted without being boolean has a calculation standing as one. When
everything that stands as a condition compiles, nothing else is refused, and the refusal says
which column or constant is no boolean. -/
theorem condition_boolean_iff (map : TableMap) (evaluator : Evaluator) (expr : Expr)
    (params : Params) :
    (∀ sql after, params.compile (expr.predicate map evaluator) = (.ok sql, after) →
      (∃ names written, ((expr.predicate map evaluator).outcome []).1 = .ok written ∧
        sql = written.sql names ∧ (written.IsCondition ↔ expr.IsBoolean map evaluator)) ∧
      (∀ part ∈ expr.tested, ¬part.IsPlainValue map evaluator) ∧
      (expr.IsBoolean map evaluator ↔ ∀ part ∈ expr.tested, part.isCalculation = false)) ∧
    ((∀ part ∈ expr.tested, part.Compilable map evaluator) →
      ((∃ error, (params.compile (expr.predicate map evaluator)).1 = .error error) ↔
        ∃ part ∈ expr.tested, part.IsPlainValue map evaluator) ∧
      ∀ error, (params.compile (expr.predicate map evaluator)).1 = .error error →
        ∃ part ∈ expr.tested, part.IsPlainValue map evaluator ∧ error =
          .of (.invalidStatement ("`" ++ part.display ++ "` is not a boolean predicate"))) := by
  have accepted {written : Term}
      (success : ((expr.predicate map evaluator).outcome []).1 = .ok written) :
      ∃ constants operand, expr.Compiles map evaluator constants operand ∧
        operand.Tests written := by
    obtain ⟨-, operand, compiles, tests⟩ :=
      expr.predicate_shape [] written _ (Prod.ext success rfl)
    exact ⟨_, operand, compiles, tests⟩
  have noPlainValue {written : Term}
      (success : ((expr.predicate map evaluator).outcome []).1 = .ok written) :
      ∀ part ∈ expr.tested, ¬part.IsPlainValue map evaluator := by
    obtain ⟨constants, operand, compiles, tests⟩ := accepted success
    intro part member
    obtain ⟨own, partCompiles, passes, -⟩ := compiles.of_mem_tested tests.passes member
    exact partCompiles.not_isPlainValue passes
  rw [params.compile_eq]
  constructor
  · intro sql after compiled
    obtain ⟨written, success, rfl⟩ := Result.map_eq_ok.mp (Prod.mk.inj compiled).1
    obtain ⟨constants, operand, compiles, tests⟩ := accepted success
    refine ⟨⟨_, written, success, rfl, compiles.isCondition_iff tests⟩, noPlainValue success, ?_⟩
    rw [Expr.isBoolean_iff_forall_tested]
    refine forall₂_congr fun part member => ?_
    obtain ⟨own, partCompiles, passes, alone⟩ := compiles.of_mem_tested tests.passes member
    exact partCompiles.isBoolean_iff_of_passes passes alone
  · intro compilable
    have refusal {error : Error}
        (failed : ((expr.predicate map evaluator).outcome []).1 = .error error) :
        ∃ part ∈ expr.tested, part.IsPlainValue map evaluator ∧ error =
          .of (.invalidStatement ("`" ++ part.display ++ "` is not a boolean predicate")) := by
      obtain ⟨part, member, refused⟩ := expr.exists_refused_of_predicate failed
      exact ⟨part, member, refused.resolve_left (not_not_intro (compilable part member))⟩
    cases outcome : ((expr.predicate map evaluator).outcome []).1 with
    | error error =>
        obtain ⟨part, member, plain, message⟩ := refusal outcome
        refine ⟨iff_of_true ⟨error, rfl⟩ ⟨part, member, plain⟩, ?_⟩
        rintro _ ⟨⟩
        exact ⟨part, member, plain, message⟩
    | ok written =>
        refine ⟨iff_of_false ?_ ?_, ?_⟩
        · rintro ⟨error, ⟨⟩⟩
        · rintro ⟨part, member, plain⟩
          exact noPlainValue outcome part member plain
        · rintro error ⟨⟩

namespace Invoice

/-- `p.paid || p.amount` -/
def paidOrAmount : Expr :=
  .binary (.connective .or) (.field "paid") (.field "amount")

theorem paidOrAmount_refused :
    (∀ part ∈ paidOrAmount.tested, part.Compilable mapping .standard) ∧
      (∃ part ∈ paidOrAmount.tested, part.IsPlainValue mapping .standard) ∧
      (∃ error, (Params.empty.compile (paidOrAmount.predicate mapping .standard)).1 =
        .error error ∧ error.kind = .invalidStatement) ∧
      paidAboveTwo.IsBoolean mapping .standard := by
  have compilable : ∀ part ∈ paidOrAmount.tested, part.Compilable mapping .standard := by
    refine List.forall_mem_cons.mpr ⟨⟨nofun, ?_⟩, List.forall_mem_singleton.mpr ⟨nofun, ?_⟩⟩
    · rintro name property ⟨⟩ ⟨⟩ (_ | _) error ⟨⟩
    · rintro name property ⟨⟩ ⟨⟩ (_ | _) error ⟨⟩
  have plain : ∃ part ∈ paidOrAmount.tested, part.IsPlainValue mapping .standard :=
    ⟨.field "amount", .tail _ (.head _), .column rfl rfl⟩
  have accepted : Params.empty.compile (paidAboveTwo.predicate mapping .standard) =
      (.ok _, .numbered 0 [.i32 2]) := rfl
  obtain ⟨refused, message⟩ :=
    (condition_boolean_iff mapping .standard paidOrAmount .empty).2 compilable
  obtain ⟨error, failed⟩ := refused.mpr plain
  obtain ⟨part, -, -, rfl⟩ := message error failed
  obtain ⟨-, -, calculations⟩ :=
    (condition_boolean_iff mapping .standard paidAboveTwo .empty).1 _ _ accepted
  exact ⟨compilable, plain, ⟨_, failed, rfl⟩, calculations.mpr (by decide)⟩

/-- `p.amount + 3` -/
def amountPlusThree : Expr :=
  .binary (.arithmetic .add) (.field "amount") (.value (.i32 3))

/-- A sum passes for a condition. -/
theorem amountPlusThree_accepted :
    ∃ sql after, Params.empty.compile (amountPlusThree.predicate mapping .standard) =
        (.ok sql, after) ∧
      sql = [.text "(", .identifier "amount", .text " + ", .placeholder "p0", .text ")"] ∧
      ¬amountPlusThree.IsBoolean mapping .standard := by
  refine ⟨_, _, rfl, rfl, ?_⟩
  intro isBoolean
  cases isBoolean with
  | constant folds => cases folds.referencesRow_eq

end Invoice

end SqlMapper
