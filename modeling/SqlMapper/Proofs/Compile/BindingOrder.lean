import SqlMapper.Proofs.Compile.Parts

/-!
# The order in which constants are bound

A constant is bound when it is written, and operands are written from left to right. A
constant in front of an operator is the exception: it is written once what follows the
operator has been compiled, so its number comes after the numbers there. In this order, the
slots of a term are those of the constants bound for it, one after another.
-/

namespace SqlMapper

namespace Term

def isSlot : Term → Bool
  | slot _ => true
  | _ => false

/-- The slots on both sides of an operator in the order in which they are bound: a constant
in front waits for what follows. -/
def operatorOrder (left : Term) (first second : List Nat) : List Nat :=
  if left.isSlot then second ++ first else first ++ second

/-- The slots that a term refers to, in the order in which they are bound. -/
def bindingOrder : Term → List Nat
  | column _ | truth _ | columnIs _ _ => []
  | slot index => [index]
  | comparison _ left right | arithmetic _ left right =>
    left.operatorOrder left.bindingOrder right.bindingOrder
  | connective _ left right => left.bindingOrder ++ right.bindingOrder
  | nullTest operand _ | complement operand | negative operand => operand.bindingOrder
  | apply _ argument => argument.bindingOrder
  | replace text pattern replacement =>
    text.bindingOrder ++ pattern.bindingOrder ++ replacement.bindingOrder
  | substring text start => text.bindingOrder ++ start.bindingOrder
  | window text start length => text.bindingOrder ++ start.bindingOrder ++ length.bindingOrder
  | like text pattern => text.bindingOrder ++ pattern.bindingOrder

theorem operatorOrder_perm (left : Term) (first second : List Nat) :
    (left.operatorOrder first second).Perm (first ++ second) := by
  unfold operatorOrder
  split
  · exact List.perm_append_comm
  · exact .refl _

/-- The slots are bound in some order. -/
theorem bindingOrder_perm (term : Term) : term.bindingOrder.Perm term.slots := by
  induction term with
  | column _ | slot _ | truth _ | columnIs _ _ => exact .refl _
  | comparison _ left right leftIH rightIH | arithmetic _ left right leftIH rightIH =>
      exact (left.operatorOrder_perm _ _).trans (leftIH.append rightIH)
  | connective _ left right leftIH rightIH | substring left right leftIH rightIH
  | like left right leftIH rightIH => exact leftIH.append rightIH
  | nullTest operand _ inductionHypothesis | complement operand inductionHypothesis
  | negative operand inductionHypothesis | apply _ operand inductionHypothesis =>
      exact inductionHypothesis
  | replace _ _ _ firstIH secondIH thirdIH | window _ _ _ firstIH secondIH thirdIH =>
      exact (firstIH.append secondIH).append thirdIH

end Term

namespace Compile

variable {α : Type} {bound middle after : List Value} {held first second : List Nat}

/-- Behind the slots at hand come those of the constants that were bound on top of the
earlier ones, one after another. -/
def BoundInTurn (bound after : List Value) (held slots : List Nat) : Prop :=
  ∃ fresh, after = bound ++ fresh ∧ slots = held ++ List.range' bound.length fresh.length

namespace BoundInTurn

theorem refl (bound : List Value) (held : List Nat) : BoundInTurn bound bound held held :=
  ⟨[], (List.append_nil bound).symm, (List.append_nil held).symm⟩

theorem single (bound : List Value) (value : Value) (held : List Nat) :
    BoundInTurn bound (bound ++ [value]) held (held ++ [bound.length]) :=
  ⟨[value], rfl, rfl⟩

theorem trans (earlier : BoundInTurn bound middle held first)
    (later : BoundInTurn middle after first second) : BoundInTurn bound after held second := by
  obtain ⟨fresh, rfl, rfl⟩ := earlier
  obtain ⟨further, rfl, rfl⟩ := later
  refine ⟨fresh ++ further, List.append_assoc _ _ _, ?_⟩
  rw [List.length_append, List.length_append, List.append_assoc, List.range'_append_1]

/-- Slots that stay in front. -/
theorem frame (own : BoundInTurn bound after held first) (others : List Nat) :
    BoundInTurn bound after (others ++ held) (others ++ first) := by
  obtain ⟨fresh, grown, rfl⟩ := own
  exact ⟨fresh, grown, (List.append_assoc _ _ _).symm⟩

theorem append (earlier : BoundInTurn bound middle held first)
    (later : BoundInTurn middle after [] second) :
    BoundInTurn bound after held (first ++ second) := by
  have framed := later.frame first
  rw [List.append_nil] at framed
  exact earlier.trans framed

end BoundInTurn

theorem Yields.and {step : Compile α} {property other : List Value → α → Prop}
    (yields : step.Yields bound property) (also : step.Yields bound other) :
    step.Yields bound fun after result => property after result ∧ other after result :=
  fun result after ran =>
    ⟨(yields result after ran).1, (yields result after ran).2, (also result after ran).2⟩

end Compile

open Compile (BoundInTurn)

namespace Operand

def isConstant : Operand → Bool
  | constant _ => true
  | column _ | term _ => false

/-- The slots that are bound already; those of a constant are not. -/
def bindingOrder : Operand → List Nat
  | column _ | constant _ => []
  | term result => result.bindingOrder

/-- What is written already is no constant. -/
def HoldsNoSlot : Operand → Prop
  | column _ | constant _ => True
  | term result => result.isSlot = false

variable {bound : List Value} {operand left right other met : Operand} {written : Term}

theorem render_in_turn (bound : List Value) (operand : Operand) :
    operand.render.Yields bound fun after written =>
      BoundInTurn bound after operand.bindingOrder written.bindingOrder := by
  cases operand with
  | constant value =>
      rintro _ _ ⟨⟩
      exact ⟨List.prefix_append _ _, .single bound value []⟩
  | column _ | term _ => exact .pure (.refl bound _)

/-- The test of a boolean column binds nothing. -/
theorem test_in_turn (bound : List Value) (property : Property) (value : Bool) :
    (Compile.ofResult (property.test value)).Yields bound fun after written =>
      BoundInTurn bound after [] written.bindingOrder := by
  apply Compile.Yields.ofResult
  intro written tested
  obtain ⟨literal, rfl⟩ := Property.exists_columnIs_of_test tested
  exact .refl bound []

theorem condition_in_turn (expr : Expr) (bound : List Value) (operand : Operand) :
    (operand.condition expr).Yields bound fun after written =>
      BoundInTurn bound after operand.bindingOrder written.bindingOrder := by
  cases operand with
  | column property =>
      simp only [condition]
      split
      next => exact test_in_turn bound property _
      next => exact .fail _
  | constant value =>
      cases value with
      | bool truth => exact .pure (.refl bound [])
      | _ => exact .fail _
  | term result => exact .pure (.refl bound _)

theorem negatedCondition_in_turn (expr : Expr) (bound : List Value) (operand : Operand) :
    (operand.negatedCondition expr).Yields bound fun after written =>
      BoundInTurn bound after operand.bindingOrder written.bindingOrder := by
  have complemented : (do return Term.complement (← operand.condition expr)).Yields bound
      fun after written => BoundInTurn bound after operand.bindingOrder written.bindingOrder := by
    apply (condition_in_turn expr bound operand).bind
    exact fun after tested _ inTurn => .pure inTurn
  cases operand with
  | column property =>
      simp only [negatedCondition]
      split
      next => exact test_in_turn bound property _
      next => exact complemented
  | constant _ | term _ => exact complemented

/-- What goes on with two operands on both sides of an operator, of which one at most is a
constant. -/
theorem render_both_in_turn {β : Type} {next : Term → Term → Compile β}
    {property : List Value → β → Prop} (leftHolds : left.HoldsNoSlot)
    (apart : left.isConstant = false ∨ right.isConstant = false)
    (rest : ∀ after first second,
      BoundInTurn bound after (left.bindingOrder ++ right.bindingOrder)
        (first.operatorOrder first.bindingOrder second.bindingOrder) →
      (next first second).Yields after property) :
    (left.render >>= fun first => right.render >>= fun second =>
      next first second).Yields bound property := by
  cases left with
  | constant value =>
      rw [isConstant, Bool.true_eq_false, false_or] at apart
      -- The operand behind has been compiled, so nothing else is bound but this constant.
      have first : (constant value).render.Yields bound fun after written =>
          written = .slot bound.length ∧ after = bound ++ [value] := by
        rintro _ _ ⟨⟩
        exact ⟨List.prefix_append _ _, rfl, rfl⟩
      apply first.bind
      rintro _ _ - ⟨rfl, rfl⟩
      cases right with
      | constant _ => cases apart
      | column _ | term _ => exact rest _ _ _ (.single bound value _)
  | column column =>
      apply (render_in_turn bound right).bind
      exact fun after second _ inTurn => rest _ _ _ inTurn
  | term result =>
      apply (render_in_turn bound right).bind
      intro after second _ inTurn
      apply rest
      rw [Term.operatorOrder, show result.isSlot = false from leftHolds]
      exact inTurn.frame result.bindingOrder

theorem compareOperands_in_turn (op : Comparison) (leftHolds : left.HoldsNoSlot)
    (apart : left.isConstant = false ∨ right.isConstant = false) :
    (compareOperands op left right).Yields bound fun after written =>
      BoundInTurn bound after (left.bindingOrder ++ right.bindingOrder)
        written.bindingOrder := by
  have unbound {operand : Operand} (null : operand.isNull = true) : operand.bindingOrder = [] := by
    cases operand with
    | constant _ => rfl
    | column _ | term _ => cases null
  unfold compareOperands
  split
  next _ null =>
    rw [unbound null, List.append_nil]
    exact (render_in_turn bound left).bind fun after tested _ inTurn => .pure inTurn
  next _ _ null =>
    rw [unbound null, List.nil_append]
    exact (render_in_turn bound right).bind fun after tested _ inTurn => .pure inTurn
  next =>
    apply render_both_in_turn leftHolds apart
    exact fun after first second inTurn => .pure inTurn

theorem likeTerm_in_turn (whole : Expr) (name : String) (text : Term) (argument : Operand) :
    (likeTerm whole name text argument).Yields bound fun after written =>
      BoundInTurn bound after (text.bindingOrder ++ argument.bindingOrder)
        written.bindingOrder := by
  unfold likeTerm
  split
  next tested =>
    split
    next pattern known =>
      rintro _ _ ⟨⟩
      refine ⟨List.prefix_append _ _, ?_⟩
      rw [bindingOrder, List.append_nil]
      exact .single bound _ _
    next => exact .fail _
  next => exact .fail _

theorem bindingOrder_of_storedBeside (stored : other.storedBeside operand = .ok met) :
    met.bindingOrder = operand.bindingOrder := by
  rcases storedBeside_cases stored with rfl | ⟨_, _, rfl, rfl⟩ <;> rfl

theorem isConstant_of_storedBeside (stored : other.storedBeside operand = .ok met) :
    met.isConstant = operand.isConstant := by
  rcases storedBeside_cases stored with rfl | ⟨_, _, rfl, rfl⟩ <;> rfl

theorem HoldsNoSlot.storedBeside (holds : operand.HoldsNoSlot)
    (stored : other.storedBeside operand = .ok met) : met.HoldsNoSlot := by
  rcases storedBeside_cases stored with rfl | ⟨_, _, rfl, rfl⟩
  · exact holds
  · trivial

end Operand

namespace Expr

variable {map : TableMap} {evaluator : Evaluator} {constants bound : List Value}
variable {expr left right : Expr} {operand : Operand}

/-- An expression compiles to a constant exactly when it does not mention the row. -/
theorem Compiles.isConstant_eq (compiles : expr.Compiles map evaluator constants operand) :
    operand.isConstant = !expr.referencesRow := by
  rcases compiles.forms with ⟨value, folds, rfl⟩ | ⟨name, property, rfl, -, rfl⟩ |
    ⟨compound, term, words, rest, rfl, -⟩
  · rw [folds.referencesRow_eq]
    rfl
  · rfl
  · rw [compound.1]
    rfl

theorem Compiles.holdsNoSlot (compiles : expr.Compiles map evaluator constants operand) :
    operand.HoldsNoSlot := by
  rcases compiles.forms with ⟨value, -, rfl⟩ | ⟨name, property, -, -, rfl⟩ |
    ⟨-, term, words, rest, rfl, begins⟩
  · trivial
  · trivial
  · cases term with
    | slot index => cases begins
    | _ => rfl

section Steps

variable {β : Type} {property : List Value → β → Prop} {compiled other : Compile Operand}
variable {write : Operand → Compile Term}

theorem written_in_turn
    (first : compiled.Yields bound fun after operand =>
      BoundInTurn bound after [] operand.bindingOrder)
    (writes : ∀ bound operand, (write operand).Yields bound fun after written =>
      BoundInTurn bound after operand.bindingOrder written.bindingOrder) :
    (compiled >>= write).Yields bound fun after written =>
      BoundInTurn bound after [] written.bindingOrder := by
  apply first.bind
  intro middle operand _ inTurn written after ran
  obtain ⟨grown, further⟩ := writes middle operand written after ran
  exact ⟨grown, inTurn.trans further⟩

/-- What goes on with an expression once it is written. -/
theorem written_next_in_turn {next : Term → Compile β}
    (first : compiled.Yields bound fun after operand =>
      BoundInTurn bound after [] operand.bindingOrder)
    (writes : ∀ bound operand, (write operand).Yields bound fun after written =>
      BoundInTurn bound after operand.bindingOrder written.bindingOrder)
    (rest : ∀ after written, BoundInTurn bound after [] written.bindingOrder →
      (next written).Yields after property) :
    (compiled >>= fun operand => write operand >>= next).Yields bound property := by
  rw [← bind_assoc]
  exact (written_in_turn first writes).bind fun after written _ inTurn => rest after written inTurn

/-- What goes on with two expressions once each has met the other. -/
theorem beside_next_in_turn {next : Operand → Operand → Compile β}
    (mentioned : (left.referencesRow || right.referencesRow) = true)
    (first : compiled.Yields bound fun after operand =>
      BoundInTurn bound after [] operand.bindingOrder ∧ left.Compiles map evaluator after operand)
    (second : ∀ bound, other.Yields bound fun after operand =>
      BoundInTurn bound after [] operand.bindingOrder ∧ right.Compiles map evaluator after operand)
    (rest : ∀ after metLeft metRight,
      BoundInTurn bound after [] (metLeft.bindingOrder ++ metRight.bindingOrder) →
      metLeft.HoldsNoSlot → (metLeft.isConstant = false ∨ metRight.isConstant = false) →
      (next metLeft metRight).Yields after property) :
    (do
      let leftOperand ← compiled
      let rightOperand ← other
      let rightOperand ← Compile.ofResult (leftOperand.storedBeside rightOperand)
      let leftOperand ← Compile.ofResult (rightOperand.storedBeside leftOperand)
      next leftOperand rightOperand).Yields bound property := by
  apply beside_next first second
  rintro middle after leftOperand rightOperand metLeft metRight grown ⟨leftInTurn, leftCompiles⟩
    ⟨rightInTurn, rightCompiles⟩ ⟨rightStored, leftStored⟩
  apply rest
  · rw [Operand.bindingOrder_of_storedBeside leftStored,
      Operand.bindingOrder_of_storedBeside rightStored]
    exact leftInTurn.append rightInTurn
  · exact leftCompiles.holdsNoSlot.storedBeside leftStored
  · rw [Operand.isConstant_of_storedBeside leftStored,
      Operand.isConstant_of_storedBeside rightStored, leftCompiles.isConstant_eq,
      rightCompiles.isConstant_eq]
    simpa using mentioned

end Steps

theorem fold_in_turn (expr : Expr) :
    (fold evaluator expr).Yields bound fun after operand =>
      BoundInTurn bound after [] operand.bindingOrder := by
  unfold fold
  split
  next => exact .pure (.refl bound [])
  next => exact .throw _

/-- The slots of an operand are bound in turn while it is compiled. -/
theorem operand_in_turn (expr : Expr) (bound : List Value) :
    (expr.operand map evaluator).Yields bound fun after operand =>
      BoundInTurn bound after [] operand.bindingOrder := by
  fun_induction operand map evaluator expr generalizing bound with
  | case1 constant => exact .pure (.refl bound [])
  | case2 | case5 | case16 | case18 | case20 => exact .fail _
  | case3 | case6 | case7 | case11 | case14 | case17 | case19 | case21 => exact fold_in_turn _
  | case4 target name isRow =>
      exact .ofResult_next fun property _ => .pure (.refl bound [])
  | case8 left right mentioned op leftIH rightIH =>
      apply written_next_in_turn (leftIH bound) (Operand.condition_in_turn left)
      intro middle leftTerm leftInTurn
      apply written_next_in_turn (rightIH middle) (Operand.condition_in_turn right)
      exact fun after rightTerm rightInTurn => .pure (leftInTurn.append rightInTurn)
  | case9 left right mentioned op leftIH rightIH =>
      have mentioned : (left.referencesRow || right.referencesRow) = true := by
        simpa only [Bool.not_eq_true', Bool.not_eq_false] using mentioned
      apply beside_next_in_turn mentioned ((leftIH bound).and (operand_shape left bound))
        fun middle => (rightIH middle).and (operand_shape right middle)
      intro middle metLeft metRight inTurn leftHolds apart
      apply (Operand.compareOperands_in_turn op leftHolds apart).bind
      exact fun after written _ further => .pure (inTurn.trans further)
  | case10 left right mentioned op leftIH rightIH =>
      have mentioned : (left.referencesRow || right.referencesRow) = true := by
        simpa only [Bool.not_eq_true', Bool.not_eq_false] using mentioned
      apply beside_next_in_turn mentioned ((leftIH bound).and (operand_shape left bound))
        fun middle => (rightIH middle).and (operand_shape right middle)
      intro middle metLeft metRight inTurn leftHolds apart
      apply Operand.render_both_in_turn leftHolds apart
      exact fun after first second further => .pure (inTurn.trans further)
  | case12 inner mentioned inductionHypothesis =>
      apply written_next_in_turn (inductionHypothesis bound) Operand.render_in_turn
      exact fun after written inTurn => .pure inTurn
  | case13 inner mentioned inductionHypothesis =>
      apply written_next_in_turn (inductionHypothesis bound)
        (Operand.negatedCondition_in_turn inner)
      exact fun after written inTurn => .pure inTurn
  | case15 target name arguments mentioned targetIH argumentsIH =>
      apply written_next_in_turn (targetIH bound) Operand.render_in_turn
      intro middle text inTurn
      split at argumentsIH
      case h_1 | h_2 | h_3 | h_4 | h_5 => exact .pure inTurn
      case h_6 pattern replacement =>
        apply written_next_in_turn (argumentsIH.1 middle) Operand.render_in_turn
        intro later patternTerm patternInTurn
        apply written_next_in_turn (argumentsIH.2 later) Operand.render_in_turn
        exact fun after replacementTerm replacementInTurn =>
          .pure ((inTurn.append patternInTurn).append replacementInTurn)
      case h_7 start =>
        apply written_next_in_turn (argumentsIH middle) Operand.render_in_turn
        exact fun after startTerm startInTurn => .pure (inTurn.append startInTurn)
      case h_8 start length =>
        apply written_next_in_turn (argumentsIH.1 middle) Operand.render_in_turn
        intro later startTerm startInTurn
        apply written_next_in_turn (argumentsIH.2 later) Operand.render_in_turn
        exact fun after lengthTerm lengthInTurn =>
          .pure ((inTurn.append startInTurn).append lengthInTurn)
      case h_9 argument | h_10 argument | h_11 argument =>
        apply (argumentsIH middle).bind
        intro later argumentOperand _ argumentInTurn
        apply (Operand.likeTerm_in_turn _ _ text argumentOperand).bind
        exact fun after written _ further =>
          .pure ((inTurn.append argumentInTurn).trans further)
      case h_12 => exact .fail _

end Expr

/-- Whatever an expression is compiled for, its slots are bound in turn. -/
theorem Compilation.step_in_turn (compilation : Compilation) (bound : List Value) :
    compilation.step.Yields bound fun after written =>
      BoundInTurn bound after [] written.bindingOrder := by
  obtain ⟨map, evaluator, expr, place⟩ := compilation
  cases place with
  | condition =>
      exact Expr.written_in_turn (expr.operand_in_turn bound) (Operand.condition_in_turn expr)
  | value => exact Expr.written_in_turn (expr.operand_in_turn bound) Operand.render_in_turn
  | assignment property =>
      change (expr.assignment map evaluator property).Yields bound _
      rw [Expr.assignment_eq]
      refine Expr.written_in_turn (expr.operand_in_turn bound) fun middle operand => ?_
      apply Compile.Yields.ofResult_next
      intro met stored
      rw [← Operand.bindingOrder_of_storedBeside stored]
      exact met.render_in_turn middle

end SqlMapper
