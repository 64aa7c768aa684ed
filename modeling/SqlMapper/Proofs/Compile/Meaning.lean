import SqlMapper.Proofs.Compile.Denotation
import SqlMapper.Proofs.Compile.Operand
import SqlMapper.Proofs.Expr.OnRow

/-!
# The meaning of compiled predicates

A predicate over plain integer columns, boolean columns and coded columns compiles
to a condition that the database finds true of a stored row exactly when the
evaluator finds the predicate true of the row. The simulation goes by induction
over the predicate: each part has a value on the row, and what it compiles to
denotes that value.
-/

namespace SqlMapper

/-! ## The predicates and the rows -/

/-- The field is an integer column without a value map. -/
def TableMap.IsIntegerField (map : TableMap) (name : String) : Prop :=
  ∃ property, map.property name = .ok property ∧ (property.kind = .i32 ∨ property.kind = .i64) ∧
    property.valueMap = none

/-- The field is a boolean column that has no value map or is coded. -/
def TableMap.IsTruthField (map : TableMap) (name : String) : Prop :=
  ∃ property, map.property name = .ok property ∧ property.IsTruthColumn

/-- The field is a coded column. -/
def TableMap.IsCodedField (map : TableMap) (name : String) : Prop :=
  ∃ property, map.property name = .ok property ∧ property.IsCoded

/-- The expression does not mention the row and has the given value. -/
def Expr.IsConstant (expr : Expr) (result : Value) : Prop :=
  expr.referencesRow = false ∧ expr.evaluate = .ok result

/-- Terms of integers: columns, constants, and operations without division. -/
inductive IntegerExpr (map : TableMap) : Expr → Prop where
  | field {name : String} (integer : map.IsIntegerField name) : IntegerExpr map (.field name)
  | constant {expr : Expr} {result : Value} {number : Int} (constant : expr.IsConstant result)
      (integer : result.integer? = some number) : IntegerExpr map expr
  | arithmetic {op : Arithmetic} {left right : Expr} (undivided : op = .add ∨ op = .sub ∨ op = .mul)
      (leftInteger : IntegerExpr map left) (rightInteger : IntegerExpr map right) :
      IntegerExpr map (.binary (.arithmetic op) left right)
  | negative {operand : Expr} (integer : IntegerExpr map operand) :
      IntegerExpr map (.unary .neg operand)

/-- Predicates whose meaning does not depend on the engine. -/
inductive PredicateExpr (map : TableMap) : Expr → Prop where
  | field {name : String} (truth : map.IsTruthField name) : PredicateExpr map (.field name)
  | constant {expr : Expr} {holds : Bool} (constant : expr.IsConstant (.bool holds)) :
      PredicateExpr map expr
  | comparison {op : Comparison} {left right : Expr} (leftInteger : IntegerExpr map left)
      (rightInteger : IntegerExpr map right) :
      PredicateExpr map (.binary (.comparison op) left right)
  /-- A coded column compared with a constant. -/
  | codedLeft {op : Comparison} {name : String} {right : Expr} {result : Value}
      (equality : op = .eq ∨ op = .ne) (coded : map.IsCodedField name)
      (constant : right.IsConstant result) (notNull : result.isNull = false) :
      PredicateExpr map (.binary (.comparison op) (.field name) right)
  /-- A constant compared with a coded column. -/
  | codedRight {op : Comparison} {name : String} {left : Expr} {result : Value}
      (equality : op = .eq ∨ op = .ne) (coded : map.IsCodedField name)
      (constant : left.IsConstant result) (notNull : result.isNull = false) :
      PredicateExpr map (.binary (.comparison op) left (.field name))
  | connective {op : Connective} {left right : Expr} (leftPredicate : PredicateExpr map left)
      (rightPredicate : PredicateExpr map right) :
      PredicateExpr map (.binary (.connective op) left right)
  | complement {operand : Expr} (predicate : PredicateExpr map operand) :
      PredicateExpr map (.unary .not operand)

/-- A row of values of the declared types, none of them null, and the columns that
store it. -/
structure TableMap.Stores (map : TableMap) (row : Row) (columns : String → Value) : Prop where
  typed : ∀ property ∈ map.properties, ∃ value, property.valueOf row = .ok value ∧
    value.isNull = false ∧ value.kind = property.kind
  /-- A coded column holds a value of its map. -/
  known : ∀ property ∈ map.properties, ∀ valueMap, property.valueMap = some valueMap →
    valueMap.Codes property.kind → ∀ value, property.valueOf row = .ok value →
    value ∈ valueMap.keys
  stored : ∀ property ∈ map.properties, ∀ value, property.storedOf row = .ok value →
    columns property.column = value

variable {map : TableMap} {row : Row} {columns : String → Value}

/-! ## Fields and constants -/

/-- A field has the value on the row that its property reads from it. -/
theorem TableMap.Stores.field (stores : map.Stores row columns) {name : String}
    {property : Property} (mapped : map.property name = .ok property) :
    ∃ value, ((Expr.field name).onRow row).evaluate = .ok value ∧
      property.valueOf row = .ok value ∧ value.kind = property.kind := by
  obtain ⟨value, held, notNull, kind⟩ :=
    stores.typed property (TableMap.mem_of_property_eq_ok mapped)
  refine ⟨value, ?_, held, kind⟩
  rw [Expr.field, Expr.onRow, Expr.onRow, Expr.evaluate, Expr.evaluate]
  show Value.fieldOf (.record row.values) name = .ok value
  unfold Property.valueOf at held
  split at held
  next owned =>
    rw [TableMap.name_of_property_eq_ok mapped] at held
    cases found : NameTable.get? name row.values with
    | none =>
        rw [found] at held
        cases held
        cases notNull
    | some inRow =>
        rw [found] at held
        cases held
        simp [Value.fieldOf, found]
  next => cases held

/-- The column of a property holds the stored form of its value. -/
theorem TableMap.Stores.column (stores : map.Stores row columns) {property : Property}
    {value literal : Value} (mapped : property ∈ map.properties)
    (held : property.valueOf row = .ok value) (stored : property.toStored value = .ok literal) :
    columns property.column = literal := by
  apply stores.stored property mapped
  simp [Property.storedOf, held, stored, bind, Except.bind]

namespace Expr

/-- What does not mention the row compiles to its value. -/
theorem IsConstant.operand {expr : Expr} {result : Value} (constant : expr.IsConstant result) :
    expr.operand map .standard = pure (.constant result) := by
  obtain ⟨rowFree, evaluated⟩ := constant
  have folded : fold .standard expr = pure (.constant result) := by
    simp [fold, Evaluator.standard, evaluated]
  cases composed : expr.isValue with
  | false => rw [operand_of_rowFree rowFree composed, folded]
  | true =>
      cases expr with
      | value constant =>
          simp only [evaluate, Except.ok.injEq] at evaluated
          rw [Expr.operand, evaluated]
      | _ => cases composed

theorem IsConstant.onRow {expr : Expr} {result : Value} (constant : expr.IsConstant result) :
    (expr.onRow row).evaluate = .ok result := by
  rw [onRow_of_rowFree constant.1, constant.2]

section Folding

variable {expr : Expr} {value : Value} {bound : List Value}
variable {property : List Value → Operand → Prop}

/-- An expression that does not mention the row yields the value that it has on
every row. -/
theorem yields_of_rowFree (rowFree : expr.referencesRow = false)
    (evaluated : (expr.onRow row).evaluate = .ok value)
    (holds : property bound (.constant value)) :
    (expr.operand map .standard).Yields bound property := by
  rw [onRow_of_rowFree rowFree] at evaluated
  have constant : expr.IsConstant value := ⟨rowFree, evaluated⟩
  rw [constant.operand]
  exact .pure holds

end Folding

end Expr

/-! ## The simulation -/

/-- The expression compiles to operands without a value map that denote the datum. -/
def Expr.Computes (map : TableMap) (columns : String → Value) (expr : Expr) (datum : Datum) :
    Prop :=
  ∀ bound, (expr.operand map .standard).Yields bound fun after operand =>
    operand.IsPlain ∧ operand.Denotes columns after datum

/-- The expression compiles to operands that stand for the truth value. -/
def Expr.Decides (map : TableMap) (columns : String → Value) (expr : Expr) (holds : Bool) :
    Prop :=
  ∀ bound, (expr.operand map .standard).Yields bound fun after operand =>
    operand.IsTruth columns after holds

section Steps

variable {β : Type} {left right : Expr} {first second : Datum} {bound : List Value}
variable {property : List Value → β → Prop}

/-- Two operands without value maps stay as they are beside each other. -/
theorem Expr.Computes.both {next : Operand → Operand → Compile β}
    (leftComputes : left.Computes map columns first)
    (rightComputes : right.Computes map columns second)
    (rest : ∀ after leftOperand rightOperand, leftOperand.Denotes columns after first →
      rightOperand.Denotes columns after second →
      (next leftOperand rightOperand).Yields after property) :
    (do
      let leftOperand ← left.operand map .standard
      let rightOperand ← right.operand map .standard
      let rightOperand ← Compile.ofResult (leftOperand.storedBeside rightOperand)
      let leftOperand ← Compile.ofResult (rightOperand.storedBeside leftOperand)
      next leftOperand rightOperand).Yields bound property := by
  apply (leftComputes bound).bind
  intro middle leftOperand _ leftMeaning
  apply (rightComputes middle).bind
  intro after rightOperand grown rightMeaning
  rw [leftMeaning.1.storedBeside]
  show (Compile.ofResult (rightOperand.storedBeside leftOperand) >>= fun leftOperand =>
    next leftOperand rightOperand).Yields after property
  rw [rightMeaning.1.storedBeside]
  exact rest after leftOperand rightOperand (leftMeaning.2.mono grown) rightMeaning.2

theorem Expr.Decides.condition {expr : Expr} {holds : Bool} {next : Term → Compile β}
    (decides : expr.Decides map columns holds)
    (rest : ∀ after term, bound <+: after →
      Template.Denotes columns after term.pieces (.truth holds) →
      (next term).Yields after property) :
    (do
      let operand ← expr.operand map .standard
      let term ← operand.condition expr
      next term).Yields bound property := by
  apply (decides bound).bind
  intro middle operand grown isTruth
  apply (isTruth.condition expr).bind
  intro after term further denotes
  exact rest after term (grown.trans further) denotes

end Steps

theorem IntegerExpr.simulates {expr : Expr} (integer : IntegerExpr map expr)
    (stores : map.Stores row columns) (defined : expr.DefinedOn row) :
    ∃ value number, (expr.onRow row).evaluate = .ok value ∧ value.integer? = some number ∧
      expr.Computes map columns (.number number) := by
  induction integer with
  | field integer =>
      obtain ⟨property, mapped, kind, unmapped⟩ := integer
      obtain ⟨value, evaluated, held, sameKind⟩ := stores.field mapped
      obtain ⟨number, isNumber⟩ : ∃ number, value.integer? = some number := by
        rcases kind with kind | kind <;> rw [kind] at sameKind <;> cases value <;>
          cases sameKind <;> exact ⟨_, rfl⟩
      have stored : columns property.column = value :=
        stores.column (TableMap.mem_of_property_eq_ok mapped) held
          (by simp [Property.toStored, unmapped])
      refine ⟨value, number, evaluated, isNumber, fun bound => ?_⟩
      rw [Expr.operand_field .standard mapped]
      exact .pure ⟨unmapped, by rw [Operand.Denotes, stored, Datum.ofValue?_of_integer isNumber]⟩
  | constant constant integer =>
      refine ⟨_, _, constant.onRow, integer, fun bound => ?_⟩
      rw [constant.operand]
      exact .pure ⟨trivial, Datum.ofValue?_of_integer integer⟩
  | @arithmetic op left right undivided leftInteger rightInteger leftIH rightIH =>
      obtain ⟨leftValue, leftNumber, leftEvaluated, leftIsNumber, leftComputes⟩ :=
        leftIH defined.of_left
      obtain ⟨rightValue, rightNumber, rightEvaluated, rightIsNumber, rightComputes⟩ :=
        rightIH defined.of_right
      obtain ⟨value, evaluated⟩ := defined.evaluates
      obtain ⟨number, computed⟩ : ∃ number, op.unbounded? leftNumber rightNumber = some number := by
        rcases undivided with rfl | rfl | rfl <;> exact ⟨_, rfl⟩
      have applied : op.apply leftValue rightValue = .ok value := by
        rw [← Expr.evaluate_arithmetic leftEvaluated rightEvaluated]
        exact evaluated
      have isNumber := Arithmetic.apply_of_integers leftIsNumber rightIsNumber computed applied
      refine ⟨value, number, evaluated, isNumber, fun bound => ?_⟩
      cases mentioned : (Expr.binary (.arithmetic op) left right).referencesRow with
      | false =>
          exact Expr.yields_of_rowFree mentioned evaluated
            ⟨trivial, Datum.ofValue?_of_integer isNumber⟩
      | true =>
          rw [Expr.operand_arithmetic mentioned]
          refine leftComputes.both rightComputes
            fun middle leftOperand rightOperand leftDenotes rightDenotes => ?_
          refine Operand.render_both_yields leftDenotes rightDenotes
            fun after leftTerm rightTerm leftValue rightValue => ?_
          exact .pure ⟨trivial, leftValue.arithmetic rightValue computed⟩
  | @negative operand integer inductionHypothesis =>
      obtain ⟨innerValue, innerNumber, innerEvaluated, innerIsNumber, computes⟩ :=
        inductionHypothesis defined.of_operand
      obtain ⟨value, evaluated⟩ := defined.evaluates
      have applied : UnaryOp.neg.apply innerValue = .ok value := by
        rw [← Expr.evaluate_unary innerEvaluated]
        exact evaluated
      have isNumber := UnaryOp.neg_apply_of_integer innerIsNumber applied
      refine ⟨value, -innerNumber, evaluated, isNumber, fun bound => ?_⟩
      cases mentioned : (Expr.unary .neg operand).referencesRow with
      | false =>
          exact Expr.yields_of_rowFree mentioned evaluated
            ⟨trivial, Datum.ofValue?_of_integer isNumber⟩
      | true =>
          rw [Expr.operand_neg mentioned]
          apply (computes bound).bind
          intro middle inner _ meaning
          exact meaning.2.render.bind fun after term _ denotes =>
            .pure ⟨trivial, denotes.negative⟩

/-- A truth column stores the truth value that the row holds. -/
theorem Property.IsTruthColumn.stored {property : Property} {value : Value}
    (column : property.IsTruthColumn) (stores : map.Stores row columns)
    (mapped : property ∈ map.properties) (held : property.valueOf row = .ok value) :
    property.toStored value = .ok (columns property.column) := by
  cases valueMap : property.valueMap with
  | none =>
      have plain : property.toStored value = .ok value := by
        simp [Property.toStored, valueMap]
      rw [stores.column mapped held plain, plain]
  | some coding =>
      have codes : coding.Codes property.kind := column.1 ▸ column.2 coding valueMap
      have known := stores.known property mapped coding valueMap codes value held
      obtain ⟨literal, -, stored⟩ := codes.toStored_of_mem known
      have form : property.toStored value = .ok literal := by
        simp [Property.toStored, valueMap, stored]
      rw [stores.column mapped held form, form]

/-- A constant beside a coded column takes a stored form, and both have an entry in the map. -/
theorem Property.IsCoded.storedBeside_yields {property : Property} {value result : Value}
    {bound : List Value} (coded : property.IsCoded) (stores : map.Stores row columns)
    (mapped : property ∈ map.properties) (held : property.valueOf row = .ok value)
    (notNull : result.isNull = false) :
    (Compile.ofResult ((Operand.column property).storedBeside (.constant result))).Yields bound
      fun _ operand => ∃ (literal : Value) (coding : ValueMap), operand = .constant literal ∧
        coding.Codes property.kind ∧ (value, columns property.column) ∈ coding.entries ∧
        (result, literal) ∈ coding.entries := by
  apply Compile.Yields.ofResult
  intro operand beside
  obtain ⟨literal, stored, rfl⟩ := Result.map_eq_ok.mp beside
  obtain ⟨coding, valueMap, codes⟩ := coded
  have known := stores.known property mapped coding valueMap codes value held
  obtain ⟨own, listed, ownStored⟩ := codes.toStored_of_mem known
  have form : property.toStored value = .ok own := by
    simp [Property.toStored, valueMap, ownStored]
  simp only [Property.toStored, valueMap] at stored
  rw [← stores.column mapped held form] at listed
  exact ⟨literal, coding, rfl, codes, listed, codes.mem_of_toStored notNull stored⟩

/-- Operands that hold stored forms are compared as the evaluator compares the values. -/
theorem ValueMap.Codes.compareOperands_yields {kind : ValueKind} {coding : ValueMap}
    {op : Comparison} {left right : Value × Value} {first second : Operand} {holds : Bool}
    {bound : List Value} (codes : coding.Codes kind) (equality : op = .eq ∨ op = .ne)
    (leftListed : left ∈ coding.entries) (rightListed : right ∈ coding.entries)
    (applied : op.apply left.1 right.1 = .ok holds)
    (leftHeld : ∀ datum, Datum.ofValue? left.2 = some datum → first.Denotes columns bound datum)
    (rightHeld : ∀ datum, Datum.ofValue? right.2 = some datum →
      second.Denotes columns bound datum) :
    (compareOperands op first second).Yields bound fun constants term =>
      Template.Denotes columns constants term.pieces (.truth holds) := by
  obtain ⟨_, leftDatum, rightDatum, decided, leftValue, rightValue, computed⟩ :=
    codes.comparison equality leftListed rightListed
  cases applied.symm.trans decided
  exact SqlMapper.compareOperands_yields (leftHeld _ leftValue) (rightHeld _ rightValue) computed

/-- Equality is defined on all values. -/
theorem Comparison.apply_of_equality {op : Comparison} (equality : op = .eq ∨ op = .ne)
    (left right : Value) : ∃ holds, op.apply left right = .ok holds := by
  rcases equality with rfl | rfl <;> exact ⟨_, rfl⟩

theorem PredicateExpr.simulates {expr : Expr} (predicate : PredicateExpr map expr)
    (stores : map.Stores row columns) (defined : expr.DefinedOn row) :
    ∃ holds, (expr.onRow row).evaluate = .ok (.bool holds) ∧
      expr.Decides map columns holds := by
  induction predicate with
  | field truth =>
      obtain ⟨property, mapped, column⟩ := truth
      obtain ⟨value, evaluated, held, kind⟩ := stores.field mapped
      rw [column.1] at kind
      cases value with
      | bool holds =>
          have member := TableMap.mem_of_property_eq_ok mapped
          refine ⟨holds, evaluated, fun bound => ?_⟩
          rw [Expr.operand_field .standard mapped]
          exact .pure ⟨column, column.stored stores member held⟩
      | _ => cases kind
  | constant constant =>
      refine ⟨_, constant.onRow, fun bound => ?_⟩
      rw [constant.operand]
      exact .pure rfl
  | @comparison op left right leftInteger rightInteger =>
      obtain ⟨leftValue, leftNumber, leftEvaluated, leftIsNumber, leftComputes⟩ :=
        leftInteger.simulates stores defined.of_left
      obtain ⟨rightValue, rightNumber, rightEvaluated, rightIsNumber, rightComputes⟩ :=
        rightInteger.simulates stores defined.of_right
      have evaluated : ((Expr.binary (.comparison op) left right).onRow row).evaluate =
          .ok (.bool (op.onIntegers leftNumber rightNumber)) := by
        rw [Expr.onRow, Expr.evaluate_comparison leftEvaluated rightEvaluated,
          op.apply_of_integers leftIsNumber rightIsNumber]
        rfl
      refine ⟨_, evaluated, fun bound => ?_⟩
      cases mentioned : (Expr.binary (.comparison op) left right).referencesRow with
      | false => exact Expr.yields_of_rowFree mentioned evaluated rfl
      | true =>
          rw [Expr.operand_comparison mentioned]
          refine leftComputes.both rightComputes
            fun middle leftOperand rightOperand leftDenotes rightDenotes => ?_
          have computed : op.onData? (.number leftNumber) (.number rightNumber) =
              some (op.onIntegers leftNumber rightNumber) := by
            cases op <;> rfl
          exact (compareOperands_yields leftDenotes rightDenotes computed).bind
            fun after term _ denotes => .pure denotes
  | @codedLeft op name right result equality coded constant notNull =>
      obtain ⟨property, mapped, coded⟩ := coded
      have member := TableMap.mem_of_property_eq_ok mapped
      obtain ⟨value, fieldEvaluated, held, -⟩ := stores.field mapped
      obtain ⟨holds, applied⟩ := op.apply_of_equality equality value result
      refine ⟨holds, ?_, fun bound => ?_⟩
      · rw [Expr.onRow, Expr.evaluate_comparison fieldEvaluated constant.onRow, applied]
        rfl
      · have mentioned : (Expr.binary (.comparison op) (.field name) right).referencesRow = true :=
          rfl
        rw [Expr.operand_comparison mentioned, Expr.operand_field .standard mapped,
          constant.operand]
        simp only [pure_bind]
        refine (coded.storedBeside_yields stores member held notNull).bind ?_
        rintro after _ _ ⟨literal, coding, rfl, codes, listed, otherListed⟩
        exact (codes.compareOperands_yields equality listed otherListed applied (fun _ => id)
          fun _ => id).bind fun final term _ denotes => .pure denotes
  | @codedRight op name left result equality coded constant notNull =>
      obtain ⟨property, mapped, coded⟩ := coded
      have member := TableMap.mem_of_property_eq_ok mapped
      obtain ⟨value, fieldEvaluated, held, -⟩ := stores.field mapped
      obtain ⟨holds, applied⟩ := op.apply_of_equality equality result value
      refine ⟨holds, ?_, fun bound => ?_⟩
      · rw [Expr.onRow, Expr.evaluate_comparison constant.onRow fieldEvaluated, applied]
        rfl
      · have mentioned : (Expr.binary (.comparison op) left (.field name)).referencesRow = true :=
          Bool.or_true _
        rw [Expr.operand_comparison mentioned, Expr.operand_field .standard mapped,
          constant.operand]
        simp only [pure_bind]
        refine (coded.storedBeside_yields stores member held notNull).bind ?_
        rintro after _ _ ⟨literal, coding, rfl, codes, listed, otherListed⟩
        exact (codes.compareOperands_yields equality otherListed listed applied (fun _ => id)
          fun _ => id).bind fun final term _ denotes => .pure denotes
  | @connective op left right leftPredicate rightPredicate leftIH rightIH =>
      obtain ⟨leftHolds, leftEvaluated, leftDecides⟩ := leftIH defined.of_left
      obtain ⟨rightHolds, rightEvaluated, rightDecides⟩ := rightIH defined.of_right
      have evaluated : ((Expr.binary (.connective op) left right).onRow row).evaluate =
          .ok (.bool (op.onTruth leftHolds rightHolds)) :=
        Expr.evaluate_connective leftEvaluated rightEvaluated
      refine ⟨_, evaluated, fun bound => ?_⟩
      cases mentioned : (Expr.binary (.connective op) left right).referencesRow with
      | false => exact Expr.yields_of_rowFree mentioned evaluated rfl
      | true =>
          rw [Expr.operand_connective mentioned]
          apply leftDecides.condition
          intro middle leftTerm _ leftDenotes
          apply rightDecides.condition
          intro after rightTerm grown rightDenotes
          exact .pure ((leftDenotes.mono grown).connective rightDenotes)
  | @complement operand predicate inductionHypothesis =>
      obtain ⟨holds, innerEvaluated, decides⟩ := inductionHypothesis defined.of_operand
      have evaluated : ((Expr.unary .not operand).onRow row).evaluate =
          .ok (.bool !holds) :=
        Expr.evaluate_unary innerEvaluated
      refine ⟨_, evaluated, fun bound => ?_⟩
      cases mentioned : (Expr.unary .not operand).referencesRow with
      | false => exact Expr.yields_of_rowFree mentioned evaluated rfl
      | true =>
          rw [Expr.operand_not mentioned]
          apply (decides bound).bind
          intro middle inner _ isTruth
          exact (isTruth.negatedCondition operand).bind fun after term _ denotes =>
            .pure denotes

/-- A predicate that compiles is read back as a tree whose value over the stored
row and the bound parameters is the truth value that the evaluator finds for the
predicate on the row. -/
theorem predicate_preserves_meaning {expr : Expr} {offset : Nat} {sql : Sql} {params : Params}
    (predicate : PredicateExpr map expr) (stores : map.Stores row columns)
    (defined : expr.DefinedOn row)
    (compiled : (Params.startingAt offset).compile (expr.predicate map .standard) =
      (.ok sql, params)) :
    ∃ reading holds, read sql = some reading ∧
      reading.datum? ⟨columns, params.get?⟩ = some (.truth holds) ∧
      (expr.onRow row).evaluate = .ok (.bool holds) := by
  obtain ⟨holds, evaluated, decides⟩ := predicate.simulates stores defined
  have meaning : (expr.predicate map .standard).Yields [] fun constants term =>
      Template.Denotes columns constants term.pieces (.truth holds) :=
    (decides []).bind fun _ operand _ isTruth => isTruth.condition expr
  rw [← Params.numbered_nil, Params.compile_numbered] at compiled
  rcases ran : (expr.predicate map .standard).outcome [] with ⟨result, constants⟩
  rw [ran] at compiled
  cases result with
  | error error => cases compiled
  | ok term =>
      simp only [Except.map, Prod.mk.injEq, Except.ok.injEq, List.nil_append] at compiled
      obtain ⟨rfl, rfl⟩ := compiled
      let names := Params.generatedNames (offset + 0) constants.length
      have named : ∀ index constant, constants[index]? = some constant →
          (Params.numbered offset constants).get? (names.getD index "") = some constant := by
        intro index constant known
        obtain ⟨inside, -⟩ := List.getElem?_eq_some_iff.mp known
        rw [Params.getD_generatedNames inside, Nat.add_zero, Params.get?_numbered, known]
      obtain ⟨reading, reads, value⟩ := (meaning term constants ran).2 _ _ named
      exact ⟨reading, holds, reads.read_eq, value, evaluated⟩

namespace Invoice

/-- A boolean stored as a letter. -/
def paid : Property :=
  { name := "paid", column := "is_paid", kind := .bool, primaryKey := false, generated := false
    identity := false, computed := false, nullable := false, readOnly := false, selectable := true
    valueMap := some (.ofBool (.string "Y") (.string "N")), owner := "Invoice" }

def amount : Property :=
  { paid with name := "amount", column := "amount", kind := .i32, valueMap := none }

def mapping : TableMap :=
  ⟨"Invoice", "invoices", [paid, amount]⟩

/-- A paid invoice of some amount. -/
def settled : Row :=
  ⟨"Invoice", [("paid", .bool true), ("amount", .i32 7)]⟩

def storage (name : String) : Value :=
  if name = "is_paid" then .string "Y" else .i32 7

/-- `p.paid && p.amount > 2` -/
def paidAboveTwo : Expr :=
  .binary (.connective .and) (.field "paid")
    (.binary (.comparison .gt) (.field "amount") (.value (.i32 2)))

def paidAboveTwoSql : Sql :=
  [.text "(", .text "(", .identifier "is_paid", .text " = ", .literal (.string "Y"), .text ")",
    .text " and ", .text "(", .identifier "amount", .text " > ", .placeholder "p3", .text ")",
    .text ")"]

end Invoice

open Invoice in
theorem paidAboveTwo_preserves_meaning :
    ∃ reading holds, read paidAboveTwoSql = some reading ∧
      reading.datum? ⟨storage, (Params.numbered 3 [.i32 2]).get?⟩ = some (.truth holds) ∧
      (paidAboveTwo.onRow settled).evaluate = .ok (.bool holds) := by
  have letters : (ValueMap.ofBool (.string "Y") (.string "N")).Codes .bool := by
    refine ⟨rfl, .inl ⟨rfl, fun value => ?_⟩, by simp [ValueMap.ofBool, Value.isNull, Value.same]⟩
    simp only [ValueMap.keys, ValueMap.ofBool, List.map_cons, List.map_nil, List.mem_cons,
      List.not_mem_nil, or_false]
    constructor
    · rintro (rfl | rfl) <;> exact ⟨_, rfl⟩
    · rintro ⟨truth, rfl⟩
      cases truth <;> simp
  have paidField : mapping.IsTruthField "paid" := by
    refine ⟨paid, rfl, rfl, ?_⟩
    rintro _ ⟨⟩
    exact letters
  have amountField : mapping.IsIntegerField "amount" := ⟨amount, rfl, .inl rfl, rfl⟩
  have two : IntegerExpr mapping (.value (.i32 2)) := by
    have isConstant : (Expr.value (.i32 2)).IsConstant (.i32 2) := ⟨rfl, rfl⟩
    have isNumber : (Value.i32 2).integer? = some 2 := rfl
    exact IntegerExpr.constant isConstant isNumber
  have aboveTwo : PredicateExpr mapping
      (.binary (.comparison .gt) (.field "amount") (.value (.i32 2))) :=
    .comparison (.field amountField) two
  have predicate : PredicateExpr mapping paidAboveTwo := .connective (.field paidField) aboveTwo
  have stores : mapping.Stores settled storage := by
    constructor
    · simp only [mapping, List.forall_mem_cons]
      exact ⟨⟨.bool true, rfl, rfl, rfl⟩, ⟨.i32 7, rfl, rfl, rfl⟩, List.forall_mem_nil _⟩
    · simp only [mapping, List.forall_mem_cons]
      refine ⟨?_, ?_, List.forall_mem_nil _⟩
      · rintro _ ⟨⟩ _ _ ⟨⟩
        exact .head _
      · intro coding coded
        cases coded
    · simp only [mapping, List.forall_mem_cons]
      refine ⟨?_, ?_, List.forall_mem_nil _⟩
      · rintro _ ⟨⟩
        rfl
      · rintro _ ⟨⟩
        rfl
  have defined : paidAboveTwo.DefinedOn settled := by
    simp only [Expr.DefinedOn, paidAboveTwo, Expr.field, Expr.parts, List.cons_append,
      List.nil_append, List.forall_mem_cons]
    exact ⟨⟨.bool true, rfl⟩, ⟨.bool true, rfl⟩, ⟨.record settled.values, rfl⟩, ⟨.bool true, rfl⟩,
      ⟨.i32 7, rfl⟩, ⟨.record settled.values, rfl⟩, ⟨.i32 2, rfl⟩, List.forall_mem_nil _⟩
  have compiled : (Params.startingAt 3).compile (paidAboveTwo.predicate mapping .standard) =
      (.ok paidAboveTwoSql, .numbered 3 [.i32 2]) := rfl
  exact predicate_preserves_meaning predicate stores defined compiled

end SqlMapper
