import SqlMapper.Proofs.Coding
import SqlMapper.Proofs.Compile.Template

/-!
# What compiled fragments denote

A fragment denotes the value that the database computes for it over a stored row.
This is stated relative to the constants bound so far, and constants that are bound
later do not change it, so that steps of compilation can be taken one after
another.
-/

namespace SqlMapper

/-! ## Steps with a meaning -/

namespace Compile

variable {α β : Type}

/-- Started with some constants bound, the step only appends constants, and its
result has the property together with the constants that are bound when it ends. -/
def Yields (step : Compile α) (bound : List Value) (property : List Value → α → Prop) : Prop :=
  ∀ result after, step.outcome bound = (.ok result, after) →
    bound <+: after ∧ property after result

namespace Yields

variable {bound : List Value} {step : Compile α} {next : α → Compile β}
variable {middle : List Value → α → Prop} {property : List Value → β → Prop}

theorem pure {value : α} (holds : middle bound value) :
    (Pure.pure value : Compile α).Yields bound middle := by
  rintro _ _ ⟨⟩
  exact ⟨List.prefix_refl _, holds⟩

theorem ofResult {result : Result α} (holds : ∀ value, result = .ok value → middle bound value) :
    (Compile.ofResult result).Yields bound middle := by
  rintro value _ ran
  cases ran
  exact ⟨List.prefix_refl _, holds value rfl⟩

/-- The second step starts from the constants that the first one leaves. -/
theorem bind (first : step.Yields bound middle)
    (second : ∀ after value, bound <+: after → middle after value →
      (next value).Yields after property) :
    (step >>= next).Yields bound property := by
  intro result final ran
  rw [outcome_bind] at ran
  rcases began : step.outcome bound with ⟨started, after⟩
  rw [began] at ran
  cases started with
  | error error => cases ran
  | ok value =>
      obtain ⟨grown, holds⟩ := first value after began
      obtain ⟨further, finalHolds⟩ := second after value grown holds result final ran
      exact ⟨grown.trans further, finalHolds⟩

theorem bind_constant (value : Value) :
    (Compile.bind value).Yields bound fun after term =>
      ∃ index, term = .slot index ∧ after[index]? = some value := by
  rintro _ _ ⟨⟩
  exact ⟨List.prefix_append _ _, bound.length, rfl, by simp⟩

end Yields

end Compile

/-! ## What a fragment denotes -/

/-- With any names for its slots, the fragment is read as one operand with the
given value over the stored columns, as soon as the constants bound so far are
among the parameters. -/
def Template.Denotes (columns : String → Value) (bound : List Value) (template : Template)
    (datum : Datum) : Prop :=
  ∀ (naming : Nat → String) (parameter : String → Option Value),
    (∀ index value, bound[index]? = some value → parameter (naming index) = some value) →
    ∃ reading, ReadsAs (template.map (Piece.map naming)) reading ∧
      reading.datum? ⟨columns, parameter⟩ = some datum

variable {columns : String → Value} {bound after : List Value}

namespace Template.Denotes

variable {template left right : Template} {datum first second : Datum}

/-- Constants that are bound later change nothing. -/
theorem mono (denotes : Denotes columns bound template datum) (grown : bound <+: after) :
    Denotes columns after template datum := by
  intro naming parameter named
  apply denotes naming parameter
  intro index value known
  obtain ⟨fresh, rfl⟩ := grown
  apply named
  obtain ⟨inside, -⟩ := List.getElem?_eq_some_iff.mp known
  rw [List.getElem?_append_left inside, known]

theorem identifier {name : String} (stored : Datum.ofValue? (columns name) = some datum) :
    Denotes columns bound [.identifier name] datum := by
  intro naming parameter named
  exact ⟨.column name, .ofToken rfl, stored⟩

theorem literal {constant : Literal} (valued : Datum.ofValue? constant.value = some datum) :
    Denotes columns bound [.literal constant] datum := by
  intro naming parameter named
  exact ⟨.literal constant, .ofToken rfl, valued⟩

theorem slot {index : Nat} {value : Value} (known : bound[index]? = some value)
    (valued : Datum.ofValue? value = some datum) :
    Denotes columns bound [.placeholder index] datum := by
  intro naming parameter named
  refine ⟨.parameter (naming index), .ofToken rfl, ?_⟩
  simp [Reading.datum?, named index value known, valued]

theorem truth (value : Bool) :
    Denotes columns bound (Term.truth value).pieces (.truth value) := by
  intro naming parameter named
  cases value with
  | true => exact ⟨.truth true, .ofToken rfl, rfl⟩
  | false => exact ⟨.truth false, .ofToken rfl, rfl⟩

theorem operation {op : BinaryOp} (leftDenotes : Denotes columns bound left first)
    (rightDenotes : Denotes columns bound right second)
    (computed : op.onData? first second = some datum) :
    Denotes columns bound (Term.infixPieces left op.sqlSymbol right) datum := by
  intro naming parameter named
  obtain ⟨leftReading, leftReads, leftValue⟩ := leftDenotes naming parameter named
  obtain ⟨rightReading, rightReads, rightValue⟩ := rightDenotes naming parameter named
  refine ⟨.operation op leftReading rightReading, ?_, ?_⟩
  · rw [Term.map_infixPieces]
    apply leftReads.operation rightReads
    intro tight
    have notTruth := op.not_truth_of_isTight tight computed
    exact ⟨Reading.isComplement_of_datum leftValue notTruth.1,
      Reading.isComplement_of_datum rightValue notTruth.2⟩
  · simp [Reading.datum?, leftValue, rightValue, computed]

theorem comparison {op : Comparison} {leftTerm rightTerm : Term} {holds : Bool}
    (leftDenotes : Denotes columns bound leftTerm.pieces first)
    (rightDenotes : Denotes columns bound rightTerm.pieces second)
    (computed : op.onData? first second = some holds) :
    Denotes columns bound (Term.comparison op leftTerm rightTerm).pieces (.truth holds) := by
  have compared : (BinaryOp.comparison op).onData? first second = some (.truth holds) := by
    simp [BinaryOp.onData?, computed]
  have denotes := leftDenotes.operation rightDenotes compared
  rwa [BinaryOp.sqlSymbol, ← Term.pieces] at denotes

theorem columnIs {name : String} {constant : Literal} {holds : Bool}
    (stored : Datum.ofValue? (columns name) = some first)
    (valued : Datum.ofValue? constant.value = some second)
    (computed : Comparison.eq.onData? first second = some holds) :
    Denotes columns bound (Term.columnIs name constant).pieces (.truth holds) := by
  have compared : (BinaryOp.comparison .eq).onData? first second = some (.truth holds) := by
    simp [BinaryOp.onData?, computed]
  have columnDenotes : Denotes columns bound [.identifier name] first := .identifier stored
  have literalDenotes : Denotes columns bound [.literal constant] second := .literal valued
  have denotes := columnDenotes.operation literalDenotes compared
  rwa [BinaryOp.sqlSymbol, Comparison.sqlSymbol, ← Term.pieces] at denotes

theorem connective {op : Connective} {leftTerm rightTerm : Term} {holds other : Bool}
    (leftDenotes : Denotes columns bound leftTerm.pieces (.truth holds))
    (rightDenotes : Denotes columns bound rightTerm.pieces (.truth other)) :
    Denotes columns bound (Term.connective op leftTerm rightTerm).pieces
      (.truth (op.onTruth holds other)) := by
  have combined : (BinaryOp.connective op).onData? (.truth holds) (.truth other) =
      some (.truth (op.onTruth holds other)) := rfl
  have denotes := leftDenotes.operation rightDenotes combined
  rwa [BinaryOp.sqlSymbol, ← Term.pieces] at denotes

theorem arithmetic {op : Arithmetic} {leftTerm rightTerm : Term} {number other result : Int}
    (leftDenotes : Denotes columns bound leftTerm.pieces (.number number))
    (rightDenotes : Denotes columns bound rightTerm.pieces (.number other))
    (computed : op.unbounded? number other = some result) :
    Denotes columns bound (Term.arithmetic op leftTerm rightTerm).pieces (.number result) := by
  have combined : (BinaryOp.arithmetic op).onData? (.number number) (.number other) =
      some (.number result) := by
    simp [BinaryOp.onData?, computed]
  have denotes := leftDenotes.operation rightDenotes combined
  rwa [BinaryOp.sqlSymbol, ← Term.pieces] at denotes

theorem negative {operand : Term} {number : Int}
    (denotes : Denotes columns bound operand.pieces (.number number)) :
    Denotes columns bound (Term.negative operand).pieces (.number (-number)) := by
  intro naming parameter named
  obtain ⟨reading, reads, value⟩ := denotes naming parameter named
  refine ⟨.negative reading, ?_, by simp [Reading.datum?, value]⟩
  have notTruth (holds : Bool) : Datum.number number ≠ .truth holds := by
    intro same
    cases same
  have simple := Reading.isComplement_of_datum value notTruth
  simpa [Term.pieces, Piece.map] using reads.negative simple

theorem complement {operand : Term} {holds : Bool}
    (denotes : Denotes columns bound operand.pieces (.truth holds)) :
    Denotes columns bound (Term.complement operand).pieces (.truth !holds) := by
  intro naming parameter named
  obtain ⟨reading, reads, value⟩ := denotes naming parameter named
  refine ⟨.complement reading, ?_, by simp [Reading.datum?, value]⟩
  simpa [Term.pieces, Piece.map] using reads.complement

end Template.Denotes

namespace Operand

/-- The operand has a value over the stored columns and the constants bound so
far. -/
def Denotes (columns : String → Value) (bound : List Value) (datum : Datum) : Operand → Prop
  | column property => Datum.ofValue? (columns property.column) = some datum
  | constant value => Datum.ofValue? value = some datum
  | term result => Template.Denotes columns bound result.pieces datum

/-- The operand is not a column with a value map. -/
def IsPlain : Operand → Prop
  | column property => property.valueMap = none
  | constant _ | term _ => True

variable {operand other : Operand} {datum : Datum}

theorem Denotes.mono (denotes : operand.Denotes columns bound datum) (grown : bound <+: after) :
    operand.Denotes columns after datum := by
  cases operand with
  | term result => exact Template.Denotes.mono denotes grown
  | _ => exact denotes

theorem Denotes.isNull (denotes : operand.Denotes columns bound datum) :
    operand.isNull = false := by
  cases operand with
  | constant value => cases value <;> first | rfl | cases denotes
  | _ => rfl

theorem Denotes.render (denotes : operand.Denotes columns bound datum) :
    operand.render.Yields bound fun after term =>
      Template.Denotes columns after term.pieces datum := by
  cases operand with
  | column property => exact .pure (.identifier denotes)
  | constant value =>
      intro result after ran
      obtain ⟨grown, index, rfl, known⟩ := Compile.Yields.bind_constant value result after ran
      exact ⟨grown, .slot known denotes⟩
  | term result => exact .pure denotes

/-- Beside an operand without a value map a constant stays as it is. -/
theorem IsPlain.storedBeside (plain : other.IsPlain) :
    other.storedBeside operand = .ok operand := by
  cases other with
  | column property =>
      have unmapped : property.valueMap = none := plain
      cases operand with
      | constant value => simp [Operand.storedBeside, Property.toStored, unmapped]
      | _ => rfl
  | _ => cases operand <;> rfl

end Operand

/-- What goes on with two operands as values. -/
theorem Operand.render_both_yields {β : Type} {left right : Operand} {first second : Datum}
    {next : Term → Term → Compile β} {property : List Value → β → Prop}
    (leftDenotes : left.Denotes columns bound first)
    (rightDenotes : right.Denotes columns bound second)
    (rest : ∀ after leftTerm rightTerm,
      Template.Denotes columns after leftTerm.pieces first →
      Template.Denotes columns after rightTerm.pieces second →
      (next leftTerm rightTerm).Yields after property) :
    (left.render >>= fun leftTerm => right.render >>= fun rightTerm =>
      next leftTerm rightTerm).Yields bound property := by
  apply leftDenotes.render.bind
  intro middle leftTerm grown leftValue
  apply (rightDenotes.mono grown).render.bind
  intro after rightTerm grown rightValue
  exact rest after leftTerm rightTerm (leftValue.mono grown) rightValue

theorem compareOperands_yields {op : Comparison} {left right : Operand} {first second : Datum}
    {holds : Bool} (leftDenotes : left.Denotes columns bound first)
    (rightDenotes : right.Denotes columns bound second)
    (computed : op.onData? first second = some holds) :
    (compareOperands op left right).Yields bound fun after term =>
      Template.Denotes columns after term.pieces (.truth holds) := by
  have notNullTest : compareOperands op left right = (do
      let leftTerm ← left.render
      let rightTerm ← right.render
      return .comparison op leftTerm rightTerm) := by
    rw [compareOperands, leftDenotes.isNull, rightDenotes.isNull]
    cases op.nullTest? <;> rfl
  rw [notNullTest]
  refine Operand.render_both_yields leftDenotes rightDenotes
    fun after leftTerm rightTerm leftValue rightValue => ?_
  exact .pure (leftValue.comparison rightValue computed)

/-! ## Truth columns -/

/-- A boolean column that has no value map or is coded. -/
def Property.IsTruthColumn (property : Property) : Prop :=
  property.kind = .bool ∧ ∀ map, property.valueMap = some map → map.Codes .bool

/-- A boolean or enumerated column with a value map that codes its type. -/
def Property.IsCoded (property : Property) : Prop :=
  ∃ map, property.valueMap = some map ∧ map.Codes property.kind

/-- The database finds the literals of two truth values equal exactly when the
values are. -/
theorem Property.IsTruthColumn.compare_stored {property : Property} {holds expected : Bool}
    {literal other : Value} (column : property.IsTruthColumn)
    (stored : property.toStored (.bool holds) = .ok literal)
    (otherStored : property.toStored (.bool expected) = .ok other) :
    ∃ first second, Datum.ofValue? literal = some first ∧ Datum.ofValue? other = some second ∧
      Comparison.eq.onData? first second = some (holds == expected) := by
  cases mapped : property.valueMap with
  | none =>
      simp only [Property.toStored, mapped, Except.ok.injEq] at stored otherStored
      subst stored
      subst otherStored
      have kinds : (Value.bool holds).kind = (Value.bool expected).kind := rfl
      obtain ⟨first, second, firstValue, secondValue, equal, -⟩ :=
        Datum.compare_of_kinds kinds rfl
      exact ⟨first, second, firstValue, secondValue, by simpa [Value.same] using equal⟩
  | some map =>
      have codes := column.2 map mapped
      simp only [Property.toStored, mapped] at stored otherStored
      have listed := codes.mem_of_toStored rfl stored
      have otherListed := codes.mem_of_toStored rfl otherStored
      obtain ⟨first, second, firstValue, secondValue, equal, -⟩ :=
        codes.compare_literals listed otherListed
      exact ⟨first, second, firstValue, secondValue, by simpa [Value.same] using equal⟩

/-- Testing a truth column for a value holds exactly when it holds the value. -/
theorem Property.IsTruthColumn.test_denotes {property : Property} {holds expected : Bool}
    {term : Term} (column : property.IsTruthColumn)
    (stored : property.toStored (.bool holds) = .ok (columns property.column))
    (tested : property.test expected = .ok term) :
    Template.Denotes columns bound term.pieces (.truth (holds == expected)) := by
  unfold Property.test at tested
  rcases form : property.toStored (.bool expected) with error | literalValue
  · rw [form] at tested
    cases tested
  rcases written : Literal.ofValue literalValue with error | literal
  · simp only [form, bind, Except.bind, written] at tested
    cases tested
  simp only [form, bind, Except.bind, written, pure, Except.pure, Except.ok.injEq] at tested
  subst tested
  obtain ⟨first, second, firstValue, secondValue, equal⟩ := column.compare_stored stored form
  have literalValue : Datum.ofValue? literal.value = some second := by
    rw [Literal.value_of_ofValue written, secondValue]
  exact .columnIs firstValue literalValue equal

namespace Operand

/-- The operand stands for a truth value: a column that can be tested for one, a
constant, or a condition. -/
def IsTruth (columns : String → Value) (bound : List Value) (holds : Bool) : Operand → Prop
  | column property =>
    property.IsTruthColumn ∧ property.toStored (.bool holds) = .ok (columns property.column)
  | constant value => value = .bool holds
  | term result => Template.Denotes columns bound result.pieces (.truth holds)

variable {operand : Operand} {holds : Bool}

theorem IsTruth.condition (isTruth : operand.IsTruth columns bound holds) (expr : Expr) :
    (operand.condition expr).Yields bound fun after term =>
      Template.Denotes columns after term.pieces (.truth holds) := by
  cases operand with
  | column property =>
      obtain ⟨column, stored⟩ := isTruth
      simp only [Operand.condition, column.1, ValueKind.isBool, if_true]
      apply Compile.Yields.ofResult
      intro term tested
      simpa using column.test_denotes stored tested
  | constant value =>
      cases isTruth
      exact .pure (.truth holds)
  | term result => exact .pure isTruth

theorem IsTruth.negatedCondition (isTruth : operand.IsTruth columns bound holds) (expr : Expr) :
    (operand.negatedCondition expr).Yields bound fun after term =>
      Template.Denotes columns after term.pieces (.truth !holds) := by
  cases operand with
  | column property =>
      obtain ⟨column, stored⟩ := isTruth
      simp only [Operand.negatedCondition, column.1, ValueKind.isBool, if_true]
      apply Compile.Yields.ofResult
      intro term tested
      simpa using column.test_denotes stored tested
  | constant value =>
      exact (IsTruth.condition isTruth expr).bind fun after term grown denotes =>
        .pure denotes.complement
  | term result =>
      exact (IsTruth.condition isTruth expr).bind fun after term grown denotes =>
        .pure denotes.complement

end Operand

end SqlMapper
