import Mathlib.Data.List.Forall2
import SqlMapper.Proofs.Compile.Meaning
import SqlMapper.Proofs.Compile.Operand
import SqlMapper.Proofs.Compile.Step

/-!
# Constant parts

A part of an expression that does not mention the row may be replaced by its value. Two
expressions are interchangeable when they mention the row alike, have the same value and
compile alike; every form of expression keeps this, so by induction over the surroundings
of the part the whole expressions are interchangeable. Only the wording of an error can
still tell them apart, since it quotes the expression.
-/

namespace SqlMapper

/-- The same result, or failures of one kind. -/
inductive Result.Agrees {α : Type} : Result α → Result α → Prop where
  | ok (value : α) : Agrees (.ok value) (.ok value)
  | error {error other : Error} (same : error.kind = other.kind) :
      Agrees (.error error) (.error other)

theorem Result.Agrees.refl {α : Type} (result : Result α) : Result.Agrees result result := by
  cases result with
  | error error => exact .error rfl
  | ok value => exact .ok value

theorem Result.Agrees.map {α β : Type} {result other : Result α} (function : α → β)
    (agrees : Result.Agrees result other) :
    Result.Agrees (Except.map function result) (Except.map function other) := by
  cases agrees with
  | ok value => exact .ok _
  | error same => exact .error same

namespace Compile

variable {α β : Type}

/-- Whatever was bound before, both steps bind the same constants, and they have the same
result or fail for reasons of one kind. -/
def Agrees (step other : Compile α) : Prop :=
  ∀ bound, (step.outcome bound).1.Agrees (other.outcome bound).1 ∧
    (step.outcome bound).2 = (other.outcome bound).2

namespace Agrees

variable {step other : Compile α} {next otherNext : α → Compile β}

theorem refl (step : Compile α) : Agrees step step :=
  fun _ => ⟨.refl _, rfl⟩

theorem throw {error otherError : Error} (same : error.kind = otherError.kind) :
    Agrees (MonadExcept.throw error : Compile α) (MonadExcept.throw otherError) :=
  fun _ => ⟨.error same, rfl⟩

theorem fail {fault otherFault : Fault} (same : fault.kind = otherFault.kind) :
    Agrees (Compile.fail fault : Compile α) (Compile.fail otherFault) :=
  throw same

theorem bind (first : Agrees step other)
    (second : ∀ value, Agrees (next value) (otherNext value)) :
    Agrees (step >>= next) (other >>= otherNext) := by
  intro bound
  obtain ⟨results, constants⟩ := first bound
  rw [outcome_bind, outcome_bind]
  rcases ran : step.outcome bound with ⟨result, after⟩
  rcases otherRan : other.outcome bound with ⟨otherResult, otherAfter⟩
  rw [ran, otherRan] at results constants
  cases constants
  cases results with
  | ok value => exact second value after
  | error same => exact ⟨.error same, rfl⟩

end Agrees

end Compile

namespace Operand

theorem condition_agrees (operand : Operand) (expr other : Expr) :
    (operand.condition expr).Agrees (operand.condition other) := by
  unfold condition
  split
  next =>
    split
    · exact .refl _
    · exact .fail rfl
  next => exact .refl _
  next => exact .fail rfl
  next => exact .refl _

theorem negatedCondition_agrees (operand : Operand) (expr other : Expr) :
    (operand.negatedCondition expr).Agrees (operand.negatedCondition other) := by
  have complemented : (do return Term.complement (← operand.condition expr)).Agrees
      (do return Term.complement (← operand.condition other)) :=
    (operand.condition_agrees expr other).bind fun _ => .refl _
  unfold negatedCondition
  split
  next =>
    split
    · exact .refl _
    · exact complemented
  next => exact complemented

end Operand

theorem likeTerm_agrees (whole other : Expr) (test : String) (text : Term) (argument : Operand) :
    (likeTerm whole test text argument).Agrees (likeTerm other test text argument) := by
  unfold likeTerm
  split
  next =>
    split
    · exact .refl _
    · exact .fail rfl
  next => exact .fail rfl

namespace Expr

/-- Two expressions that nothing can tell apart but the wording of an error. -/
structure Interchangeable (expr other : Expr) : Prop where
  isRow : expr.isRow = other.isRow
  referencesRow : expr.referencesRow = other.referencesRow
  evaluate : expr.evaluate = other.evaluate
  operand : ∀ map, (expr.operand map .standard).Agrees (other.operand map .standard)

variable {expr other target otherTarget left otherLeft right otherRight : Expr}
variable {arguments others : List Expr} {fields otherFields : List (String × Expr)}
variable {map : TableMap}

theorem fold_agrees (same : expr.evaluate = other.evaluate) :
    (fold .standard expr).Agrees (fold .standard other) := by
  unfold fold Evaluator.standard
  rw [same]
  split
  · exact .refl _
  · exact .throw rfl

/-- What does not mention the row is evaluated, so only the rest has to be compared. -/
theorem Interchangeable.of_mention (sameRow : expr.isRow = other.isRow)
    (composed : expr.isValue = false) (otherComposed : other.isValue = false)
    (mentions : expr.referencesRow = other.referencesRow) (same : expr.evaluate = other.evaluate)
    (whenMentioned : ∀ map, expr.referencesRow = true → other.referencesRow = true →
      (expr.operand map .standard).Agrees (other.operand map .standard)) :
    Interchangeable expr other := by
  refine ⟨sameRow, mentions, same, fun map => ?_⟩
  cases mentioned : expr.referencesRow with
  | true => exact whenMentioned map mentioned (mentions ▸ mentioned)
  | false =>
      rw [operand_of_rowFree mentioned composed,
        operand_of_rowFree (mentions ▸ mentioned) otherComposed]
      exact fold_agrees same

theorem binary_agrees {op : BinaryOp}
    (first : (left.operand map .standard).Agrees (otherLeft.operand map .standard))
    (second : (right.operand map .standard).Agrees (otherRight.operand map .standard))
    (mentioned : (binary op left right).referencesRow = true)
    (otherMentioned : (binary op otherLeft otherRight).referencesRow = true) :
    ((binary op left right).operand map .standard).Agrees
      ((binary op otherLeft otherRight).operand map .standard) := by
  cases op with
  | connective op =>
      rw [operand_connective mentioned, operand_connective otherMentioned]
      apply first.bind
      intro operand
      apply (operand.condition_agrees left otherLeft).bind
      intro firstCondition
      apply second.bind
      intro operand
      exact (operand.condition_agrees right otherRight).bind fun _ => .refl _
  | comparison op =>
      rw [operand_comparison mentioned, operand_comparison otherMentioned]
      exact first.bind fun _ => second.bind fun _ => .refl _
  | arithmetic op =>
      rw [operand_arithmetic mentioned, operand_arithmetic otherMentioned]
      exact first.bind fun _ => second.bind fun _ => .refl _

theorem evaluateAll_eq (each : List.Forall₂ Interchangeable arguments others) :
    evaluateAll arguments = evaluateAll others := by
  induction each with
  | nil => rfl
  | cons here _ inductionHypothesis =>
      rw [evaluateAll, evaluateAll, here.evaluate, inductionHypothesis]

theorem anyReferencesRow_eq (each : List.Forall₂ Interchangeable arguments others) :
    anyReferencesRow arguments = anyReferencesRow others := by
  induction each with
  | nil => rfl
  | cons here _ inductionHypothesis =>
      rw [anyReferencesRow, anyReferencesRow, here.referencesRow, inductionHypothesis]

/-- Fields of the same names. -/
def FieldsInterchangeable (field other : String × Expr) : Prop :=
  field.1 = other.1 ∧ Interchangeable field.2 other.2

theorem evaluateFields_eq (each : List.Forall₂ FieldsInterchangeable fields otherFields) :
    evaluateFields fields = evaluateFields otherFields := by
  induction each with
  | nil => rfl
  | @cons field other _ _ here _ inductionHypothesis =>
      obtain ⟨name, inner⟩ := here
      rw [evaluateFields, evaluateFields, name, inner.evaluate, inductionHypothesis]

theorem anyFieldReferencesRow_eq (each : List.Forall₂ FieldsInterchangeable fields otherFields) :
    anyFieldReferencesRow fields = anyFieldReferencesRow otherFields := by
  induction each with
  | nil => rfl
  | cons here _ inductionHypothesis =>
      rw [anyFieldReferencesRow, anyFieldReferencesRow, here.2.referencesRow, inductionHypothesis]

theorem methodOperand_agrees {whole otherWhole : Expr} {name : String} (text : Term)
    (rest : List.Forall₂ Interchangeable arguments others) :
    (methodOperand map .standard whole text name arguments).Agrees
      (methodOperand map .standard otherWhole text name others) := by
  -- Name and number of arguments choose the branch, so both expressions take the same one.
  rcases rest with _ | ⟨first, _ | ⟨second, _ | ⟨_, _⟩⟩⟩
  · unfold methodOperand
    split
    case h_12 => exact .fail rfl
    all_goals first | exact .refl _ | contradiction
  · unfold methodOperand
    split
    case h_7 same =>
      cases same
      exact (first.operand map).bind fun _ => .refl _
    case h_9 same | h_10 same | h_11 same =>
      cases same
      apply (first.operand map).bind
      intro operand
      exact (likeTerm_agrees whole otherWhole _ text operand).bind fun _ => .refl _
    case h_12 =>
      split
      case h_12 => exact .fail rfl
      all_goals simp_all
    all_goals
      rename_i same
      cases same
  · unfold methodOperand
    split
    case h_6 same | h_8 same =>
      cases same
      apply (first.operand map).bind
      intro operand
      apply (Compile.Agrees.refl operand.render).bind
      intro term
      exact (second.operand map).bind fun _ => .refl _
    case h_12 =>
      split
      case h_12 => exact .fail rfl
      all_goals simp_all
    all_goals
      rename_i same
      cases same
  · unfold methodOperand
    split
    case h_12 =>
      split
      case h_12 => exact .fail rfl
      all_goals simp_all
    all_goals
      rename_i same
      cases same

namespace Interchangeable

theorem refl (expr : Expr) : Interchangeable expr expr :=
  ⟨rfl, rfl, rfl, fun _ => .refl _⟩

/-- A constant part and its value. -/
theorem of_constant {result : Value} (rowFree : expr.referencesRow = false)
    (evaluated : expr.evaluate = .ok result) : Interchangeable expr (.value result) := by
  refine ⟨not_isRow_of_rowFree rowFree, rowFree, evaluated, fun map => ?_⟩
  rw [IsConstant.operand ⟨rowFree, evaluated⟩]
  exact .refl _

theorem member (name : String) (inner : Interchangeable target otherTarget) :
    Interchangeable (.member target name) (.member otherTarget name) := by
  refine of_mention rfl rfl rfl ?_ ?_ ?_
  · exact inner.referencesRow
  · rw [Expr.evaluate, Expr.evaluate, inner.evaluate]
  · intro map mentioned otherMentioned
    rw [Expr.referencesRow] at mentioned otherMentioned
    simp only [Expr.operand, inner.isRow, mentioned, otherMentioned]
    split
    · exact .refl _
    · exact .fail rfl

theorem binary (op : BinaryOp) (first : Interchangeable left otherLeft)
    (second : Interchangeable right otherRight) :
    Interchangeable (.binary op left right) (.binary op otherLeft otherRight) := by
  refine of_mention rfl rfl rfl ?_ ?_ ?_
  · rw [Expr.referencesRow, Expr.referencesRow, first.referencesRow, second.referencesRow]
  · rcases op with op | ⟨_ | _⟩ | op <;>
      rw [Expr.evaluate, Expr.evaluate, first.evaluate, second.evaluate]
  · intro map
    exact binary_agrees (first.operand map) (second.operand map)

theorem unary (op : UnaryOp) (inner : Interchangeable expr other) :
    Interchangeable (.unary op expr) (.unary op other) := by
  refine of_mention rfl rfl rfl ?_ ?_ ?_
  · exact inner.referencesRow
  · rw [Expr.evaluate, Expr.evaluate, inner.evaluate]
  · intro map mentioned otherMentioned
    cases op with
    | neg =>
        rw [operand_neg mentioned, operand_neg otherMentioned]
        exact (inner.operand map).bind fun _ => .refl _
    | not =>
        rw [operand_not mentioned, operand_not otherMentioned]
        apply (inner.operand map).bind
        intro operand
        exact (operand.negatedCondition_agrees expr other).bind fun _ => .refl _

theorem method (name : String) (first : Interchangeable target otherTarget)
    (rest : List.Forall₂ Interchangeable arguments others) :
    Interchangeable (.method target name arguments) (.method otherTarget name others) := by
  refine of_mention rfl rfl rfl ?_ ?_ ?_
  · rw [Expr.referencesRow, Expr.referencesRow, first.referencesRow, anyReferencesRow_eq rest]
  · rw [Expr.evaluate, Expr.evaluate, first.evaluate, evaluateAll_eq rest]
  · intro map mentioned otherMentioned
    rw [operand_method mentioned, operand_method otherMentioned]
    apply (first.operand map).bind
    intro operand
    exact (Compile.Agrees.refl operand.render).bind fun text => methodOperand_agrees text rest

theorem call (name : String) (each : List.Forall₂ Interchangeable arguments others) :
    Interchangeable (.call name arguments) (.call name others) := by
  refine of_mention rfl rfl rfl ?_ ?_ ?_
  · exact anyReferencesRow_eq each
  · rw [Expr.evaluate, Expr.evaluate, evaluateAll_eq each]
  · intro map mentioned otherMentioned
    rw [Expr.referencesRow] at mentioned otherMentioned
    simpa only [Expr.operand, mentioned, otherMentioned, if_true] using .fail rfl

theorem record (typeName : Option String)
    (each : List.Forall₂ FieldsInterchangeable fields otherFields) :
    Interchangeable (.record typeName fields) (.record typeName otherFields) := by
  refine of_mention rfl rfl rfl ?_ ?_ ?_
  · exact anyFieldReferencesRow_eq each
  · rw [Expr.evaluate, Expr.evaluate, evaluateFields_eq each]
  · intro map mentioned otherMentioned
    rw [Expr.referencesRow] at mentioned otherMentioned
    simpa only [Expr.operand, mentioned, otherMentioned, if_true] using .fail rfl

theorem list (each : List.Forall₂ Interchangeable arguments others) :
    Interchangeable (.list arguments) (.list others) := by
  refine of_mention rfl rfl rfl ?_ ?_ ?_
  · exact anyReferencesRow_eq each
  · rw [Expr.evaluate, Expr.evaluate, evaluateAll_eq each]
  · intro map mentioned otherMentioned
    rw [Expr.referencesRow] at mentioned otherMentioned
    simpa only [Expr.operand, mentioned, otherMentioned, if_true] using .fail rfl

end Interchangeable

/-- An expression with a hole in the place of one part. -/
inductive Context where
  | hole
  | member (inner : Context) (name : String)
  | left (op : BinaryOp) (inner : Context) (second : Expr)
  | right (op : BinaryOp) (first : Expr) (inner : Context)
  | unary (op : UnaryOp) (inner : Context)
  | target (inner : Context) (name : String) (arguments : List Expr)
  | argument (receiver : Expr) (name : String) (before : List Expr) (inner : Context)
    (after : List Expr)
  | callArgument (name : String) (before : List Expr) (inner : Context) (after : List Expr)
  | field (typeName : Option String) (before : List (String × Expr)) (name : String)
    (inner : Context) (after : List (String × Expr))
  | item (before : List Expr) (inner : Context) (after : List Expr)

/-- The expression with a part in the place of the hole. -/
def Context.fill (part : Expr) : Context → Expr
  | .hole => part
  | .member inner name => .member (inner.fill part) name
  | .left op inner second => .binary op (inner.fill part) second
  | .right op first inner => .binary op first (inner.fill part)
  | .unary op inner => .unary op (inner.fill part)
  | .target inner name arguments => .method (inner.fill part) name arguments
  | .argument receiver name before inner after =>
    .method receiver name (before ++ inner.fill part :: after)
  | .callArgument name before inner after => .call name (before ++ inner.fill part :: after)
  | .field typeName before name inner after =>
    .record typeName (before ++ (name, inner.fill part) :: after)
  | .item before inner after => .list (before ++ inner.fill part :: after)

/-- One part among others that stay as they are. -/
theorem forall₂_around {α : Type} {relation : α → α → Prop} (refl : ∀ item, relation item item)
    (before after : List α) {item other : α} (here : relation item other) :
    List.Forall₂ relation (before ++ item :: after) (before ++ other :: after) := by
  have same : ∀ items : List α, List.Forall₂ relation items items := fun items =>
    List.forall₂_same.mpr fun item _ => refl item
  exact List.rel_append (same before) (.cons here (same after))

theorem Context.interchangeable (context : Context) {part other : Expr}
    (parts : Interchangeable part other) :
    Interchangeable (context.fill part) (context.fill other) := by
  induction context with
  | hole => exact parts
  | member _ name inner => exact .member name inner
  | left op _ right inner => exact .binary op inner (.refl right)
  | right op left _ inner => exact .binary op (.refl left) inner
  | unary op _ inner => exact .unary op inner
  | target _ name arguments inner =>
      exact .method name inner (List.forall₂_same.mpr fun argument _ => .refl argument)
  | argument target name before _ after inner =>
      exact .method name (.refl target) (forall₂_around .refl before after inner)
  | callArgument name before _ after inner =>
      exact .call name (forall₂_around .refl before after inner)
  | field typeName before name _ after inner =>
      exact .record typeName
        (forall₂_around (fun field => ⟨rfl, .refl field.2⟩) before after ⟨rfl, inner⟩)
  | item before _ after inner => exact .list (forall₂_around .refl before after inner)

namespace Interchangeable

theorem predicate_agrees (same : Interchangeable expr other) :
    (expr.predicate map .standard).Agrees (other.predicate map .standard) :=
  (same.operand map).bind fun operand => operand.condition_agrees expr other

theorem term_agrees (same : Interchangeable expr other) :
    (expr.term map .standard).Agrees (other.term map .standard) :=
  (same.operand map).bind fun _ => .refl _

theorem assignment_agrees (property : Property) (same : Interchangeable expr other) :
    (expr.assignment map .standard property).Agrees (other.assignment map .standard property) :=
  (same.operand map).bind fun _ => .refl _

end Interchangeable

end Expr

/-- Compiled against the same parameters, both steps give the same fragment, which every
dialect writes alike, or both fail for reasons of one kind; they leave the same parameters
either way. -/
def Params.CompilesAlike (params : Params) (step other : Compile Term) : Prop :=
  (params.compile step).1.Agrees (params.compile other).1 ∧
    (params.compile step).2 = (params.compile other).2

theorem Compile.Agrees.compilesAlike {step other : Compile Term} (agrees : step.Agrees other)
    (params : Params) : params.CompilesAlike step other := by
  obtain ⟨results, constants⟩ := agrees []
  rw [Params.CompilesAlike, params.compile_eq, params.compile_eq, constants]
  exact ⟨results.map _, rfl⟩

/-- Replacing a constant part by its value changes neither what the whole expression
compiles to, wherever it stands, nor the value of the whole. -/
theorem constant_part_replaceable (context : Expr.Context) {part : Expr} {result : Value}
    (rowFree : part.referencesRow = false) (evaluated : part.evaluate = .ok result) :
    (context.fill part).evaluate = (context.fill (.value result)).evaluate ∧
    ∀ (map : TableMap) (params : Params),
      params.CompilesAlike ((context.fill part).predicate map .standard)
        ((context.fill (.value result)).predicate map .standard) ∧
      params.CompilesAlike ((context.fill part).term map .standard)
        ((context.fill (.value result)).term map .standard) ∧
      ∀ property,
        params.CompilesAlike ((context.fill part).assignment map .standard property)
          ((context.fill (.value result)).assignment map .standard property) := by
  have whole : (context.fill part).Interchangeable (context.fill (.value result)) :=
    context.interchangeable (.of_constant rowFree evaluated)
  refine ⟨whole.evaluate, fun map params => ⟨?_, ?_, fun property => ?_⟩⟩
  · exact whole.predicate_agrees.compilesAlike params
  · exact whole.term_agrees.compilesAlike params
  · exact (whole.assignment_agrees property).compilesAlike params

namespace Invoice

/-- `p.paid && p.amount > …` -/
def paidAbove : Expr.Context :=
  .right (.connective .and) (.field "paid") (.right (.comparison .gt) (.field "amount") .hole)

/-- `1 + 1` -/
def onePlusOne : Expr :=
  .binary (.arithmetic .add) (.value (.i32 1)) (.value (.i32 1))

theorem paidAboveSum_compilesAlike :
    onePlusOne.referencesRow = false ∧ onePlusOne.evaluate = .ok (.i32 2) ∧
    (Params.startingAt 3).CompilesAlike
      ((paidAbove.fill onePlusOne).predicate mapping .standard)
      (paidAboveTwo.predicate mapping .standard) :=
  have evaluated : onePlusOne.evaluate = .ok (.i32 2) := rfl
  ⟨rfl, evaluated,
    ((constant_part_replaceable paidAbove rfl evaluated).2 mapping (.startingAt 3)).1⟩

end Invoice

end SqlMapper
