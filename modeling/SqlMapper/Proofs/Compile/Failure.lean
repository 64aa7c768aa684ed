import SqlMapper.Proofs.Compile.Condition
import SqlMapper.Proofs.Compile.Operand
import SqlMapper.Proofs.Expr.Failure
import SqlMapper.Proofs.Expr.OnRow
import SqlMapper.Proofs.TableMap
import SqlMapper.Proofs.ValueMap

/-!
# Why an expression does not compile

A condition that does not compile is either blamed on the evaluator, which has no value for
one of its parts, or refused by the compiler itself. `Expr.Refuses` lists the refusals with
their causes. `Compile.Accounts` puts a run beside one with another evaluator, and by
induction over the expression the two differ only when the evaluator is blamed: no failure
of the evaluator goes unreported.
-/

namespace SqlMapper

theorem Error.message_context (error : Error) (fault : Fault) :
    (error.context fault).message = fault.message ++ ": " ++ error.message := rfl

/-- Whatever has a value by the first evaluator has the same value by the other one. -/
def Evaluator.ExtendedBy (evaluator other : Evaluator) : Prop :=
  ∀ part value, evaluator part = .ok value → other part = .ok value

namespace Expr

/-- The evaluator has no value for a part of the expression, and says so behind the text of
the part. -/
def Blames (evaluator : Evaluator) (expr : Expr) (error : Error) : Prop :=
  ∃ part ∈ expr.parts, ∃ reason, evaluator part = .error reason ∧
    error = reason.context (.unsupportedExpression part.display)

/-- What the compiler refuses in an expression, whatever the evaluator. -/
inductive Refuses (map : TableMap) (expr : Expr) : Error → Prop where
  /-- A part over the row has no form in SQL. -/
  | unsupported {part : Expr} (inside : part ∈ expr.parts)
      (mentioned : part.referencesRow = true) :
      Refuses map expr (.of (.unsupportedExpression part.display))
  | unknownField {name : String} (inside : field name ∈ expr.parts)
      (missing : map.property? name = none) :
      Refuses map expr (.of (.invalidStatement (FieldFault.unknown map.name name).message))
  /-- A part that stands as a condition is a column or a constant that is no boolean. -/
  | notBoolean {part : Expr} (inside : part ∈ expr.parts) :
      Refuses map expr
        (.of (.invalidStatement ("`" ++ part.display ++ "` is not a boolean predicate")))
  | unmapped {name : String} {property : Property} {codes : ValueMap} {value : Value}
      (inside : field name ∈ expr.parts) (found : map.property? name = some property)
      (coded : property.valueMap = some codes)
      (missing : ∀ entry ∈ codes.entries, entry.1.same value = false) :
      Refuses map expr (.of (.valueNotMapped value codes.type))
  /-- A boolean column stands as a condition, and what it stores has no literal. -/
  | unwritable {name : String} {property : Property} {codes : ValueMap} {entry : Value × Value}
      (inside : field name ∈ expr.parts) (found : map.property? name = some property)
      (coded : property.valueMap = some codes) (member : entry ∈ codes.entries)
      (noLiteral : ∀ literal, Literal.ofValue entry.2 ≠ .ok literal) :
      Refuses map expr
        (.of (.unsupportedFeature (entry.2.display ++ " cannot be written as a SQL literal")))

variable {map : TableMap} {evaluator : Evaluator} {expr part : Expr} {error : Error}

theorem Blames.within (blames : part.Blames evaluator error) (inside : part.parts ⊆ expr.parts) :
    expr.Blames evaluator error := by
  obtain ⟨cause, member, reason, failed, reported⟩ := blames
  exact ⟨cause, inside member, reason, failed, reported⟩

theorem Refuses.within (refuses : part.Refuses map error) (inside : part.parts ⊆ expr.parts) :
    expr.Refuses map error := by
  cases refuses with
  | unsupported member mentioned => exact .unsupported (inside member) mentioned
  | unknownField member missing => exact .unknownField (inside member) missing
  | notBoolean member => exact .notBoolean (inside member)
  | unmapped member found coded missing => exact .unmapped (inside member) found coded missing
  | unwritable member found coded entry noLiteral =>
      exact .unwritable (inside member) found coded entry noLiteral

/-- The property is that of a field of the expression. -/
def Names (map : TableMap) (expr : Expr) (property : Property) : Prop :=
  ∃ name, field name ∈ expr.parts ∧ map.property? name = some property

end Expr

/-! ## Running a step beside another one -/

namespace Compile

variable {α β : Type}

/-- The step fails with what is blamed, or else both steps have the same outcome; if that is
a failure, it is a refusal. -/
def Accounts (blamed refused : Error → Prop) (step other : Compile α) : Prop :=
  ∀ bound, (∃ error, (step.outcome bound).1 = .error error ∧ blamed error) ∨
    step.outcome bound = other.outcome bound ∧ Result.FailsAs refused (step.outcome bound).1

namespace Accounts

variable {blamed refused : Error → Prop} {step other : Compile α} {next otherNext : α → Compile β}

theorem ofResult {result : Result α} (fails : Result.FailsAs refused result) :
    Accounts blamed refused (Compile.ofResult result) (Compile.ofResult result) :=
  fun _ => .inr ⟨rfl, fails⟩

theorem pure (value : α) :
    Accounts blamed refused (Pure.pure value : Compile α) (Pure.pure value) :=
  ofResult (.ok value)

theorem fail {fault : Fault} (satisfied : refused (.of fault)) :
    Accounts blamed refused (Compile.fail fault : Compile α) (Compile.fail fault) :=
  ofResult (.fail satisfied)

theorem throw {error : Error} (satisfied : blamed error) :
    Accounts blamed refused (MonadExcept.throw error : Compile α) other :=
  fun _ => .inl ⟨error, rfl, satisfied⟩

theorem bind_constant (value : Value) :
    Accounts blamed refused (Compile.bind value) (Compile.bind value) :=
  fun _ => .inr ⟨rfl, .ok _⟩

theorem mono {moreBlamed moreRefused : Error → Prop} (accounts : Accounts blamed refused step other)
    (blames : ∀ error, blamed error → moreBlamed error)
    (refuses : ∀ error, refused error → moreRefused error) :
    Accounts moreBlamed moreRefused step other := by
  intro bound
  rcases accounts bound with ⟨error, failed, satisfied⟩ | ⟨same, fails⟩
  · exact .inl ⟨error, failed, blames error satisfied⟩
  · exact .inr ⟨same, fails.mono refuses⟩

/-- Two steps one after another: the second runs on what the first one gives. -/
theorem bind (first : Accounts blamed refused step other)
    (second : ∀ bound value after, step.outcome bound = (.ok value, after) →
      Accounts blamed refused (next value) (otherNext value)) :
    Accounts blamed refused (step >>= next) (other >>= otherNext) := by
  intro bound
  have began := first bound
  rw [outcome_bind, outcome_bind]
  rcases ran : step.outcome bound with ⟨result, after⟩
  rw [ran] at began
  rcases began with ⟨error, rfl, satisfied⟩ | ⟨same, fails⟩
  · exact .inl ⟨error, rfl, satisfied⟩
  · rw [← same]
    cases result with
    | error error => exact .inr ⟨rfl, .error (fails error rfl)⟩
    | ok value => exact second bound value after ran after

end Accounts

end Compile

/-! ## Columns and constants -/

variable {map : TableMap} {evaluator other : Evaluator} {whole : Expr}

theorem Literal.eq_of_ofValue_eq_error {value : Value} {error : Error}
    (failed : Literal.ofValue value = .error error) :
    error = .of (.unsupportedFeature (value.display ++ " cannot be written as a SQL literal")) := by
  unfold Literal.ofValue at failed
  split at failed
  case h_7 =>
    cases failed
    rfl
  all_goals cases failed

namespace Property

variable {property : Property}

theorem toStored_failsAs (named : whole.Names map property) (value : Value) :
    Result.FailsAs (whole.Refuses map) (property.toStored value) := by
  obtain ⟨name, inside, found⟩ := named
  unfold toStored
  split
  next codes coded =>
    cases isNull : value.isNull with
    | true =>
        rw [ValueMap.toStored, isNull, if_pos rfl]
        exact .ok _
    | false =>
        intro error failed
        obtain ⟨missing, rfl⟩ := (codes.toStored_eq_error_iff isNull).mp failed
        exact .unmapped inside found coded missing
  next => exact .ok _

/-- What is stored for a boolean is the boolean itself or a literal of the value map. -/
theorem toStored_bool {truth : Bool} {stored : Value}
    (ran : property.toStored (.bool truth) = .ok stored) :
    stored = .bool truth ∨ ∃ codes, property.valueMap = some codes ∧
      ∃ entry ∈ codes.entries, entry.2 = stored := by
  unfold toStored at ran
  split at ran
  next codes coded =>
    simp only [ValueMap.toStored, Value.isNull, Bool.false_eq_true, if_false] at ran
    split at ran
    next entry found =>
      cases ran
      exact .inr ⟨codes, coded, entry, List.mem_of_find?_eq_some found, rfl⟩
    next => cases ran
  next =>
    cases ran
    exact .inl rfl

theorem test_failsAs (named : whole.Names map property) (truth : Bool) :
    Result.FailsAs (whole.Refuses map) (property.test truth) := by
  refine (toStored_failsAs named (.bool truth)).bind fun stored ran => ?_
  refine Result.FailsAs.bind ?_ fun _ _ => .ok _
  intro error failed
  obtain ⟨name, inside, found⟩ := named
  rcases toStored_bool ran with rfl | ⟨codes, coded, entry, member, rfl⟩
  · cases failed
  · cases Literal.eq_of_ofValue_eq_error failed
    refine .unwritable inside found coded member ?_
    rw [failed]
    exact fun _ isOk => nomatch isOk

end Property

namespace Operand

/-- If the operand is a column, it is that of a field of the expression. -/
def ComesFrom (map : TableMap) (expr : Expr) (operand : Operand) : Prop :=
  ∀ property, operand = .column property → expr.Names map property

variable {operand beside : Operand} {blamed : Error → Prop} {expr : Expr}

theorem storedBeside_failsAs (named : beside.ComesFrom map whole) :
    Result.FailsAs (whole.Refuses map) (beside.storedBeside operand) := by
  unfold storedBeside
  split
  next property value =>
    exact (Property.toStored_failsAs (named property rfl) value).bind fun _ _ => .ok _
  next => exact .ok _

theorem ComesFrom.storedBeside {met : Operand} (named : operand.ComesFrom map whole)
    (stored : beside.storedBeside operand = .ok met) : met.ComesFrom map whole := by
  rintro property rfl
  exact named property (storedBeside_eq_column stored)

theorem render_accounts (operand : Operand) :
    operand.render.Accounts blamed (whole.Refuses map) operand.render := by
  cases operand with
  | column property => exact .pure _
  | constant value => exact .bind_constant value
  | term result => exact .pure _

theorem render_next_accounts {α : Type} {next otherNext : Term → Compile α} (operand : Operand)
    (rest : ∀ term, (next term).Accounts blamed (whole.Refuses map) (otherNext term)) :
    (operand.render >>= next).Accounts blamed (whole.Refuses map)
      (operand.render >>= otherNext) :=
  operand.render_accounts.bind fun _ term _ _ => rest term

theorem condition_accounts (inside : expr ∈ whole.parts) (named : operand.ComesFrom map whole) :
    (operand.condition expr).Accounts blamed (whole.Refuses map) (operand.condition expr) := by
  unfold condition condition.notBoolean
  split
  next property =>
    split
    · exact .ofResult (Property.test_failsAs (named property rfl) true)
    · exact .fail (.notBoolean inside)
  next => exact .pure _
  next => exact .fail (.notBoolean inside)
  next => exact .pure _

theorem negatedCondition_accounts (inside : expr ∈ whole.parts)
    (named : operand.ComesFrom map whole) :
    (operand.negatedCondition expr).Accounts blamed (whole.Refuses map)
      (operand.negatedCondition expr) := by
  have accounted : (operand.condition expr).Accounts blamed (whole.Refuses map)
      (operand.condition expr) := condition_accounts inside named
  have complemented := accounted.bind fun _ tested _ _ => .pure (Term.complement tested)
  unfold negatedCondition
  split
  next property =>
    split
    · exact .ofResult (Property.test_failsAs (named property rfl) false)
    · exact complemented
  next => exact complemented

theorem compareOperands_accounts (op : Comparison) (left right : Operand) :
    (compareOperands op left right).Accounts blamed (whole.Refuses map)
      (compareOperands op left right) := by
  unfold compareOperands
  split
  · exact left.render_next_accounts fun _ => .pure _
  · exact right.render_next_accounts fun _ => .pure _
  · exact left.render_next_accounts fun _ => right.render_next_accounts fun _ => .pure _

theorem likeTerm_accounts (inside : expr ∈ whole.parts) (mentioned : expr.referencesRow = true)
    (test : String) (text : Term) (argument : Operand) :
    (likeTerm expr test text argument).Accounts blamed (whole.Refuses map)
      (likeTerm expr test text argument) := by
  unfold likeTerm
  split
  next pattern =>
    split
    · exact (Compile.Accounts.bind_constant _).bind fun _ _ _ _ => .pure _
    · exact .fail (.unsupported inside mentioned)
  next => exact .fail (.unsupported inside mentioned)

end Operand

/-! ## Expressions -/

namespace Expr

/-- Every failure to compile the expression is accounted for. -/
abbrev Accounted (map : TableMap) (evaluator other : Evaluator) (expr : Expr) : Prop :=
  (expr.operand map evaluator).Accounts (expr.Blames evaluator) (expr.Refuses map)
    (expr.operand map other)

variable {expr left right inner target : Expr} {arguments : List Expr} {name : String}

theorem Compiles.comesFrom {constants : List Value} {operand : Operand}
    (compiles : expr.Compiles map evaluator constants operand) (inside : expr ∈ whole.parts) :
    operand.ComesFrom map whole := by
  rintro property rfl
  cases compiles with
  | column found => exact ⟨_, inside, TableMap.property_eq_ok_iff.mp found⟩

/-- What goes on with the operand of a part. -/
theorem operand_next_accounts {α : Type} {next otherNext : Operand → Compile α}
    (accounted : expr.Accounted map evaluator other) (inside : expr.parts ⊆ whole.parts)
    (rest : ∀ operand, operand.ComesFrom map whole →
      (next operand).Accounts (whole.Blames evaluator) (whole.Refuses map) (otherNext operand)) :
    (expr.operand map evaluator >>= next).Accounts (whole.Blames evaluator) (whole.Refuses map)
      (expr.operand map other >>= otherNext) := by
  have within := accounted.mono (fun _ blames => blames.within inside)
    (fun _ refuses => refuses.within inside)
  apply within.bind
  intro bound operand after ran
  have compiles := (operand_shape expr bound operand after ran).2
  exact rest operand (compiles.comesFrom (inside expr.mem_parts_self))

/-- What goes on with two operands once each has met the other. -/
theorem beside_next_accounts {next : Operand → Operand → Compile Operand}
    (leftAccounted : left.Accounted map evaluator other)
    (rightAccounted : right.Accounted map evaluator other)
    (leftInside : left.parts ⊆ whole.parts) (rightInside : right.parts ⊆ whole.parts)
    (rest : ∀ first second, (next first second).Accounts (whole.Blames evaluator)
      (whole.Refuses map) (next first second)) :
    Compile.Accounts (whole.Blames evaluator) (whole.Refuses map)
      (do
        let first ← left.operand map evaluator
        let second ← right.operand map evaluator
        let second ← Compile.ofResult (first.storedBeside second)
        let first ← Compile.ofResult (second.storedBeside first)
        next first second)
      (do
        let first ← left.operand map other
        let second ← right.operand map other
        let second ← Compile.ofResult (first.storedBeside second)
        let first ← Compile.ofResult (second.storedBeside first)
        next first second) := by
  apply operand_next_accounts leftAccounted leftInside
  intro first firstNamed
  apply operand_next_accounts rightAccounted rightInside
  intro second secondNamed
  apply (Compile.Accounts.ofResult (Operand.storedBeside_failsAs firstNamed)).bind
  intro bound met after ran
  have metNamed := secondNamed.storedBeside (Prod.mk.inj ran).1
  apply (Compile.Accounts.ofResult (Operand.storedBeside_failsAs metNamed)).bind
  intro _ first _ _
  exact rest first met

theorem fold_accounts (extended : evaluator.ExtendedBy other)
    (inside : expr ∈ whole.parts) :
    (fold evaluator expr).Accounts (whole.Blames evaluator) (whole.Refuses map)
      (fold other expr) := by
  unfold fold
  split
  next result evaluated =>
    rw [extended expr result evaluated]
    exact .pure _
  next reason failed => exact .throw ⟨expr, inside, reason, failed, rfl⟩

theorem binary_accounts {op : BinaryOp} (leftAccounted : left.Accounted map evaluator other)
    (rightAccounted : right.Accounted map evaluator other)
    (mentioned : (binary op left right).referencesRow = true) :
    (binary op left right).Accounted map evaluator other := by
  have leftInside : left.parts ⊆ (binary op left right).parts := by
    simp [parts, List.subset_cons_of_subset]
  have rightInside : right.parts ⊆ (binary op left right).parts := by
    simp [parts, List.subset_cons_of_subset]
  unfold Accounted
  cases op with
  | connective op =>
      rw [operand_connective mentioned, operand_connective mentioned]
      apply operand_next_accounts leftAccounted leftInside
      intro operand named
      apply (Operand.condition_accounts (leftInside left.mem_parts_self) named).bind
      intro _ first _ _
      apply operand_next_accounts rightAccounted rightInside
      intro operand named
      apply (Operand.condition_accounts (rightInside right.mem_parts_self) named).bind
      exact fun _ second _ _ => .pure _
  | comparison op =>
      rw [operand_comparison mentioned, operand_comparison mentioned]
      apply beside_next_accounts leftAccounted rightAccounted leftInside rightInside
      intro first second
      exact (Operand.compareOperands_accounts op first second).bind fun _ _ _ _ => .pure _
  | arithmetic op =>
      rw [operand_arithmetic mentioned, operand_arithmetic mentioned]
      apply beside_next_accounts leftAccounted rightAccounted leftInside rightInside
      intro first second
      exact first.render_next_accounts fun _ => second.render_next_accounts fun _ => .pure _

theorem unary_accounts {op : UnaryOp} (innerAccounted : inner.Accounted map evaluator other)
    (mentioned : (unary op inner).referencesRow = true) :
    (unary op inner).Accounted map evaluator other := by
  have inside : inner.parts ⊆ (unary op inner).parts := List.subset_cons_self _ _
  unfold Accounted
  cases op with
  | neg =>
      rw [operand_neg mentioned, operand_neg mentioned]
      apply operand_next_accounts innerAccounted inside
      exact fun operand _ => operand.render_next_accounts fun _ => .pure _
  | not =>
      rw [operand_not mentioned, operand_not mentioned]
      apply operand_next_accounts innerAccounted inside
      intro operand named
      apply (Operand.negatedCondition_accounts (inside inner.mem_parts_self) named).bind
      exact fun _ _ _ _ => .pure _

theorem parts_subset_allParts {argument : Expr} (member : argument ∈ arguments) :
    argument.parts ⊆ allParts arguments := by
  induction arguments with
  | nil => cases member
  | cons first rest inductionHypothesis =>
      rw [allParts]
      rcases List.mem_cons.mp member with rfl | later
      · exact List.subset_append_left _ _
      · exact List.Subset.trans (inductionHypothesis later) (List.subset_append_right _ _)

theorem methodOperand_accounts (text : Term) (mentioned : whole.referencesRow = true)
    (accounted : ∀ argument ∈ arguments, argument.Accounted map evaluator other)
    (inside : ∀ argument ∈ arguments, argument.parts ⊆ whole.parts) :
    (methodOperand map evaluator whole text name arguments).Accounts (whole.Blames evaluator)
      (whole.Refuses map) (methodOperand map other whole text name arguments) := by
  have argument_next {α : Type} {next otherNext : Operand → Compile α} {argument : Expr}
      (member : argument ∈ arguments) (rest : ∀ operand, (next operand).Accounts
        (whole.Blames evaluator) (whole.Refuses map) (otherNext operand)) :
      (argument.operand map evaluator >>= next).Accounts (whole.Blames evaluator)
        (whole.Refuses map) (argument.operand map other >>= otherNext) :=
    operand_next_accounts (accounted argument member) (inside argument member)
      fun operand _ => rest operand
  unfold methodOperand
  split
  case h_1 | h_2 | h_3 | h_4 | h_5 => exact .pure _
  case h_6 | h_8 =>
    apply argument_next (.head _)
    intro operand
    apply operand.render_next_accounts
    intro first
    apply argument_next (.tail _ (.head _))
    exact fun operand => operand.render_next_accounts fun _ => .pure _
  case h_7 =>
    apply argument_next (.head _)
    exact fun operand => operand.render_next_accounts fun _ => .pure _
  case h_9 | h_10 | h_11 =>
    apply argument_next (.head _)
    intro operand
    apply (Operand.likeTerm_accounts whole.mem_parts_self mentioned _ text operand).bind
    exact fun _ _ _ _ => .pure _
  case h_12 => exact .fail (.unsupported whole.mem_parts_self mentioned)

theorem method_accounts (targetAccounted : target.Accounted map evaluator other)
    (argumentsAccounted : ∀ argument ∈ arguments, argument.Accounted map evaluator other)
    (mentioned : (method target name arguments).referencesRow = true) :
    (method target name arguments).Accounted map evaluator other := by
  have targetInside : target.parts ⊆ (method target name arguments).parts := by
    simp [parts, List.subset_cons_of_subset]
  have argumentsInside : ∀ argument ∈ arguments,
      argument.parts ⊆ (method target name arguments).parts := by
    intro argument member
    refine List.Subset.trans (parts_subset_allParts member) ?_
    simp [parts, List.subset_cons_of_subset]
  unfold Accounted
  rw [operand_method mentioned, operand_method mentioned]
  apply operand_next_accounts targetAccounted targetInside
  intro operand _
  apply operand.render_next_accounts
  intro text
  exact methodOperand_accounts text mentioned argumentsAccounted argumentsInside

theorem member_accounts (mentioned : (member target name).referencesRow = true) :
    (member target name).Accounted map evaluator other := by
  unfold Accounted
  cases target with
  | row =>
      have looked : Result.FailsAs ((field name).Refuses map) (map.property name) := by
        unfold TableMap.property
        split
        · exact .ok _
        · exact .fail (.unknownField (field name).mem_parts_self ‹_›)
      simp only [operand, isRow, if_true]
      exact (Compile.Accounts.ofResult looked).bind fun _ _ _ _ => .pure _
  | _ =>
      have targetMentioned := mentioned
      rw [referencesRow] at targetMentioned
      simp only [operand, isRow, targetMentioned, if_true, Bool.false_eq_true, if_false]
      exact .fail (.unsupported (mem_parts_self _) mentioned)

/-- What does not mention the row is evaluated, so only the rest has to be considered. -/
theorem accounted_by_mention (extended : evaluator.ExtendedBy other)
    (whenMentioned : expr.referencesRow = true → expr.Accounted map evaluator other) :
    expr.Accounted map evaluator other := by
  cases mentioned : expr.referencesRow with
  | true => exact whenMentioned mentioned
  | false =>
      cases composed : expr.isValue with
      | false =>
          unfold Accounted
          rw [operand_of_rowFree mentioned composed, operand_of_rowFree mentioned composed]
          exact fold_accounts extended expr.mem_parts_self
      | true =>
          cases expr with
          | value constant => exact .pure _
          | _ => cases composed

mutual

theorem operand_accounts (extended : evaluator.ExtendedBy other) (expr : Expr) :
    expr.Accounted map evaluator other := by
  apply accounted_by_mention extended
  intro mentioned
  cases expr with
  | row => exact .fail (.unsupported (mem_parts_self _) mentioned)
  | value _ | deferred _ _ => cases mentioned
  | member target name => exact member_accounts mentioned
  | binary op left right =>
      exact binary_accounts (operand_accounts extended left) (operand_accounts extended right)
        mentioned
  | unary op inner => exact unary_accounts (operand_accounts extended inner) mentioned
  | method target name arguments =>
      exact method_accounts (operand_accounts extended target)
        (operands_account extended arguments) mentioned
  | call name arguments =>
      have argumentsMention : anyReferencesRow arguments = true := mentioned
      simp only [Accounted, operand, argumentsMention, if_true]
      exact .fail (.unsupported (mem_parts_self _) mentioned)
  | record typeName fields =>
      have fieldsMention : anyFieldReferencesRow fields = true := mentioned
      simp only [Accounted, operand, fieldsMention, if_true]
      exact .fail (.unsupported (mem_parts_self _) mentioned)
  | list items =>
      have itemsMention : anyReferencesRow items = true := mentioned
      simp only [Accounted, operand, itemsMention, if_true]
      exact .fail (.unsupported (mem_parts_self _) mentioned)

theorem operands_account (extended : evaluator.ExtendedBy other) (exprs : List Expr) :
    ∀ expr ∈ exprs, expr.Accounted map evaluator other := by
  cases exprs with
  | nil => exact List.forall_mem_nil _
  | cons expr rest =>
      exact List.forall_mem_cons.mpr
        ⟨operand_accounts extended expr, operands_account extended rest⟩

end

theorem predicate_accounts (extended : evaluator.ExtendedBy other) (expr : Expr) :
    (expr.predicate map evaluator).Accounts (expr.Blames evaluator) (expr.Refuses map)
      (expr.predicate map other) := by
  apply operand_next_accounts (operand_accounts extended expr) (List.Subset.refl _)
  exact fun operand named => Operand.condition_accounts expr.mem_parts_self named

end Expr

/-! ## Kinds of failures -/

/-- The error is about what a value map of a column stores, which has no literal. -/
def TableMap.StoresUnwritable (map : TableMap) (error : Error) : Prop :=
  ∃ property ∈ map.properties, ∃ codes, property.valueMap = some codes ∧
    ∃ entry ∈ codes.entries, Literal.ofValue entry.2 = .error error

namespace Expr

variable {expr : Expr} {error : Error}

theorem Refuses.kind_cases (refuses : expr.Refuses map error) :
    error.kind = .unsupportedExpression ∨ error.kind = .invalidStatement ∨
      error.kind = .valueNotMapped ∨
      error.kind = .unsupportedFeature ∧ map.StoresUnwritable error := by
  cases refuses with
  | unsupported => exact .inl rfl
  | unknownField | notBoolean => exact .inr (.inl rfl)
  | unmapped => exact .inr (.inr (.inl rfl))
  | @unwritable name property codes entry inside found coded member noLiteral =>
      have stored : Literal.ofValue entry.2 =
          .error (.of (.unsupportedFeature
            (entry.2.display ++ " cannot be written as a SQL literal"))) := by
        cases result : Literal.ofValue entry.2 with
        | error error => rw [Literal.eq_of_ofValue_eq_error result]
        | ok literal => exact absurd result (noLiteral literal)
      exact .inr (.inr (.inr ⟨rfl, property, List.mem_of_find?_eq_some found, codes, coded, entry,
        member, stored⟩))

/-- What is not supported is a part of the expression, either because the row is mentioned in
it or because the evaluator has no value for it. -/
theorem exists_part_of_unsupported
    (failed : expr.Blames evaluator error ∨ expr.Refuses map error)
    (unsupported : error.kind = .unsupportedExpression) :
    ∃ part ∈ expr.parts, error.fault = .unsupportedExpression part.display ∧
      (part.referencesRow = true ∧ error.causes = [] ∨
        ∃ reason, evaluator part = .error reason ∧ error.causes = reason.chain) := by
  rcases failed with ⟨part, inside, reason, failed, rfl⟩ | refuses
  · exact ⟨part, inside, rfl, .inr ⟨reason, failed, rfl⟩⟩
  · cases refuses with
    | unsupported inside mentioned => exact ⟨_, inside, rfl, .inl ⟨mentioned, rfl⟩⟩
    | unknownField | notBoolean | unmapped | unwritable => cases unsupported

end Expr

theorem Params.compile_eq_error_iff {params : Params} {step : Compile Term} {error : Error} :
    (params.compile step).1 = .error error ↔ (step.outcome []).1 = .error error := by
  rw [params.compile_eq]
  cases (step.outcome []).1 with
  | error other => simp [Except.map]
  | ok term => simp [Except.map]

/-- An expression that has no value fails to evaluate. A condition fails to compile for what
it is or for what is mapped, and as an unsupported feature only for a literal of a value map
that has no form in SQL. An error about an unsupported expression quotes one of its parts, a
part over the row or one that the evaluator fails on. And whatever answers another evaluator
has where this one fails, either the outcome is the same with them, or it is a failure of the
evaluator, reported behind the part that it was asked for. -/
theorem failures_name_causes (map : TableMap) (evaluator other : Evaluator) (expr : Expr)
    (params : Params) (extended : evaluator.ExtendedBy other) :
    (∀ error, expr.evaluate = .error error → error.kind = .evaluationFailed) ∧
    (∀ error, (params.compile (expr.predicate map evaluator)).1 = .error error →
      (error.kind = .unsupportedExpression ∨ error.kind = .invalidStatement ∨
        error.kind = .valueNotMapped ∨
        error.kind = .unsupportedFeature ∧ map.StoresUnwritable error) ∧
      (error.kind = .unsupportedExpression → ∃ part ∈ expr.parts,
        error.fault = .unsupportedExpression part.display ∧
          (part.referencesRow = true ∧ error.causes = [] ∨
            ∃ reason, evaluator part = .error reason ∧ error.causes = reason.chain))) ∧
    ((∃ part ∈ expr.parts, ∃ reason error, evaluator part = .error reason ∧
        (params.compile (expr.predicate map evaluator)).1 = .error error ∧
        error.kind = .unsupportedExpression ∧
        error.message = "expression not supported: " ++ part.display ++ ": " ++ reason.message) ∨
      params.compile (expr.predicate map evaluator) =
        params.compile (expr.predicate map other)) := by
  refine ⟨fun error failed => (expr.evaluate_failsToEvaluate error failed).kind_eq, ?_, ?_⟩
  · intro error failed
    rw [Params.compile_eq_error_iff] at failed
    -- Beside itself, a run fails because the evaluator does or for a refusal.
    have accounts : (expr.predicate map evaluator).Accounts (expr.Blames evaluator)
        (expr.Refuses map) (expr.predicate map evaluator) :=
      Expr.predicate_accounts (fun _ _ answered => answered) expr
    have cause : expr.Blames evaluator error ∨ expr.Refuses map error := by
      rcases accounts [] with ⟨blamed, failedSo, blames⟩ | ⟨-, fails⟩
      · cases failed.symm.trans failedSo
        exact .inl blames
      · exact .inr (fails error failed)
    refine ⟨?_, Expr.exists_part_of_unsupported cause⟩
    rcases cause with ⟨part, inside, reason, answered, rfl⟩ | refuses
    · exact .inl rfl
    · exact refuses.kind_cases
  · rcases Expr.predicate_accounts extended expr [] with
      ⟨error, failed, part, inside, reason, answered, rfl⟩ | ⟨same, -⟩
    · exact .inl ⟨part, inside, reason, _, answered, Params.compile_eq_error_iff.mpr failed, rfl,
        reason.message_context _⟩
    · exact .inr (by rw [Params.compile_eq, Params.compile_eq, same])

namespace Invoice

/-- `p.amount >= today && p.amount < tomorrow` -/
def dueToday : Expr :=
  .binary (.connective .and)
    (.binary (.comparison .ge) (.field "amount") (.deferred "today" (.i32 20)))
    (.binary (.comparison .lt) (.field "amount") (.deferred "tomorrow" (.i32 21)))

/-- Knows what day it is, and with no failure given evaluates the rest. -/
def calendar (failure : Option String) : Evaluator :=
  .ofTable [("today", .i32 20)] failure

theorem calendar_extended : (calendar (some "offline")).ExtendedBy (calendar none) := by
  intro part value answered
  unfold calendar Evaluator.ofTable at *
  split at answered
  · exact answered
  · cases answered

theorem dueToday_fails_offline :
    (calendar (some "offline")).ExtendedBy (calendar none) ∧
    (∃ part ∈ dueToday.parts, ∃ reason error, calendar (some "offline") part = .error reason ∧
      (Params.empty.compile (dueToday.predicate mapping (calendar (some "offline")))).1 =
        .error error ∧ error.kind = .unsupportedExpression ∧
      error.message = "expression not supported: " ++ part.display ++ ": " ++ reason.message) ∧
    ∃ sql after, Params.empty.compile (dueToday.predicate mapping (calendar none)) =
      (.ok sql, after) := by
  obtain ⟨-, -, surfaced⟩ := failures_name_causes mapping (calendar (some "offline"))
    (calendar none) dueToday .empty calendar_extended
  refine ⟨calendar_extended, ?_, _, _, rfl⟩
  rcases surfaced with surfaced | same
  · exact surfaced
  · cases congrArg Prod.fst same

end Invoice

end SqlMapper
