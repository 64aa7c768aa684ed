import SqlMapper.Proofs.Compile.Parts
import SqlMapper.Proofs.Compile.Spelling

/-!
# Reading compiled expressions back

A negation is compiled to a complement, unless it negates a field or a constant, and nothing
else is. So the operands in the text of an expression delimit themselves as long as the
expression has no negation beside an operator that binds more tightly than `not`; and then
the text is parsed as the tree of operators.
-/

namespace SqlMapper

open Grammar

namespace Expr

/-- The negation of something that is compiled to a condition: neither a field, which is
tested for false instead, nor a constant. -/
def isNegation : Expr → Bool
  | unary .not inner => inner.referencesRow && inner.field?.isNone
  | _ => false

/-- The operands of the outermost operator or method that are written beside an operator
that binds more tightly than `not`. -/
def tightOperands : Expr → List Expr
  | binary (.comparison _) left right | binary (.arithmetic _) left right => [left, right]
  | unary .neg inner => [inner]
  | method _ "substring" (start :: _) => [start]
  | method target "starts_with" [_] | method target "ends_with" [_]
  | method target "contains" [_] => [target]
  | _ => []

/-- Negations stand only where a `not` may stand. -/
def KeepsNegationsLoose (expr : Expr) : Prop :=
  ∀ part ∈ expr.parts, ∀ inner ∈ part.tightOperands, inner.isNegation = false

end Expr

namespace Operand

def IsTidy : Operand → Prop
  | term written => written.IsTidy
  | column _ | constant _ => True

def isComplement : Operand → Bool
  | term written => written.isComplement
  | column _ | constant _ => false

variable {operand other met left right metLeft metRight : Operand} {written : Term}
variable {constants : List Value}

theorem Renders.isTidy_iff (renders : operand.Renders constants written) :
    written.IsTidy ↔ operand.IsTidy := by
  cases operand with
  | column property =>
      cases renders
      simp [IsTidy, Term.IsTidy, Term.tightOperands]
  | constant value =>
      obtain ⟨index, -, rfl⟩ := renders
      simp [IsTidy, Term.IsTidy, Term.tightOperands]
  | term result =>
      cases renders
      rfl

theorem Renders.isComplement_eq (renders : operand.Renders constants written) :
    written.isComplement = operand.isComplement := by
  cases operand with
  | column property =>
      cases renders
      rfl
  | constant value =>
      obtain ⟨index, -, rfl⟩ := renders
      rfl
  | term result =>
      cases renders
      rfl

theorem Tests.isTidy_iff (tests : operand.Tests written) : written.IsTidy ↔ operand.IsTidy := by
  cases operand with
  | column property =>
      obtain ⟨literal, rfl⟩ := Property.exists_columnIs_of_test tests.2
      simp [IsTidy, Term.IsTidy, Term.tightOperands]
  | constant value =>
      obtain ⟨truth, -, rfl⟩ := tests
      simp [IsTidy, Term.IsTidy, Term.tightOperands]
  | term result =>
      cases tests
      rfl

theorem Refutes.isTidy_iff (refutes : operand.Refutes written) :
    written.IsTidy ↔ operand.IsTidy := by
  cases operand with
  | column property =>
      obtain ⟨literal, rfl⟩ := Property.exists_columnIs_of_test refutes.2
      simp [IsTidy, Term.IsTidy, Term.tightOperands]
  | constant value =>
      obtain ⟨tested, tests, rfl⟩ := refutes
      exact tests.isTidy_iff
  | term result =>
      obtain ⟨tested, tests, rfl⟩ := refutes
      exact tests.isTidy_iff

theorem storedBeside_shape (stored : other.storedBeside operand = .ok met) :
    (met.IsTidy ↔ operand.IsTidy) ∧ met.isComplement = operand.isComplement := by
  rcases storedBeside_cases stored with rfl | ⟨_, _, rfl, rfl⟩ <;> exact ⟨.rfl, rfl⟩

theorem isNull_shape (null : operand.isNull = true) :
    operand.isComplement = false ∧ operand.IsTidy := by
  cases operand with
  | constant value => exact ⟨rfl, trivial⟩
  | _ => cases null

/-- A comparison is tidy when its operands are, and neither is a complement. -/
theorem Compares.isTidy_iff {op : Comparison}
    (compares : left.Compares constants op right written) :
    written.IsTidy ↔ (left.isComplement = false ∧ right.isComplement = false) ∧
      left.IsTidy ∧ right.IsTidy := by
  cases compares with
  | nullRight test null renders =>
      obtain ⟨simple, tidy⟩ := isNull_shape null
      rw [← renders.isComplement_eq, ← renders.isTidy_iff]
      simp [Term.IsTidy, Term.tightOperands, simple, tidy]
  | nullLeft test notNull null renders =>
      obtain ⟨simple, tidy⟩ := isNull_shape null
      rw [← renders.isComplement_eq, ← renders.isTidy_iff]
      simp [Term.IsTidy, Term.tightOperands, simple, tidy]
  | values noTest leftRenders rightRenders =>
      rw [← leftRenders.isComplement_eq, ← rightRenders.isComplement_eq,
        ← leftRenders.isTidy_iff, ← rightRenders.isTidy_iff]
      simp only [Term.IsTidy, Term.tightOperands, List.forall_mem_cons, List.forall_mem_append,
        and_assoc]

end Operand

namespace Expr

variable {map : TableMap} {evaluator : Evaluator} {constants : List Value}
variable {expr : Expr} {operand : Operand}

theorem isNegation_of_rowFree (rowFree : expr.referencesRow = false) :
    expr.isNegation = false := by
  unfold isNegation
  split
  next =>
    rw [referencesRow] at rowFree
    rw [rowFree]
    rfl
  next => rfl

/-- A negation compiles to a complement, and nothing else does. -/
theorem Compiles.isComplement_eq (compiles : expr.Compiles map evaluator constants operand) :
    operand.isComplement = expr.isNegation := by
  cases compiles with
  | constant folds => exact (isNegation_of_rowFree folds.referencesRow_eq).symm
  | column found => rfl
  | comparison mentioned leftTo rightTo meet compares => cases compares <;> rfl
  | @not inner operand term mentioned innerTo refutes =>
      rw [referencesRow] at mentioned
      rcases innerTo.forms with ⟨value, folds, rfl⟩ | ⟨name, property, rfl, found, rfl⟩ |
        ⟨compound, inside, _, _, rfl, -⟩
      · rw [folds.referencesRow_eq] at mentioned
        cases mentioned
      · obtain ⟨literal, rfl⟩ := Property.exists_columnIs_of_test refutes.2
        rfl
      · obtain ⟨tested, -, rfl⟩ := refutes
        rw [isNegation, mentioned, compound.2]
        rfl
  | @change target operand text name functions mentioned targetTo renders known =>
      cases functions with
      | nil => simp [TextFunction.ofMethod] at known
      | cons function rest => rfl
  | _ => rfl

theorem tightOperands_method_nil {target : Expr} {name : String} :
    (method target name []).tightOperands = [] := by
  unfold tightOperands
  split <;> simp_all

theorem tightOperands_method_test {target argument : Expr} {name tested pattern : String}
    (known : likePattern name tested = some pattern) :
    (method target name [argument]).tightOperands = [target] := by
  unfold likePattern at known
  split at known
  case h_4 => cases known
  all_goals rfl

theorem rowFree_of_mem_tightOperands {inner : Expr} (rowFree : expr.referencesRow = false)
    (tight : inner ∈ expr.tightOperands) : inner.referencesRow = false := by
  unfold tightOperands at tight
  split at tight
  case h_1 | h_2 =>
    simp only [referencesRow, Bool.or_eq_false_iff] at rowFree
    rcases List.mem_pair.mp tight with rfl | rfl
    · exact rowFree.1
    · exact rowFree.2
  case h_3 =>
    cases List.mem_singleton.mp tight
    exact rowFree
  case h_4 =>
    simp only [referencesRow, anyReferencesRow, Bool.or_eq_false_iff] at rowFree
    cases List.mem_singleton.mp tight
    exact rowFree.2.1
  case h_5 | h_6 | h_7 =>
    simp only [referencesRow, Bool.or_eq_false_iff] at rowFree
    cases List.mem_singleton.mp tight
    exact rowFree.1
  case h_8 => cases tight

theorem keepsNegationsLoose_of_rowFree (rowFree : expr.referencesRow = false) :
    expr.KeepsNegationsLoose :=
  fun _ inside _ tight => isNegation_of_rowFree
    (rowFree_of_mem_tightOperands (rowFree_of_mem_parts rowFree inside) tight)

/-- What an expression compiles to is tidy exactly when its negations stand where a `not`
may stand. -/
theorem Compiles.isTidy_iff (compiles : expr.Compiles map evaluator constants operand) :
    operand.IsTidy ↔ expr.KeepsNegationsLoose := by
  induction compiles with
  | constant folds =>
      exact iff_of_true trivial (keepsNegationsLoose_of_rowFree folds.referencesRow_eq)
  | column found =>
      refine iff_of_true trivial ?_
      simp [KeepsNegationsLoose, parts, field, tightOperands]
  | connective mentioned leftTo rightTo leftTests rightTests leftIH rightIH =>
      have left := leftTests.isTidy_iff.trans leftIH
      have right := rightTests.isTidy_iff.trans rightIH
      simp only [KeepsNegationsLoose, parts, tightOperands, List.forall_mem_cons,
        List.forall_mem_append, Operand.IsTidy, Term.IsTidy, Term.tightOperands] at left right ⊢
      simp [left, right]
  | @comparison op left right first second metLeft metRight term mentioned leftTo rightTo meet
      compares leftIH rightIH =>
      obtain ⟨leftTidy, leftSimple⟩ := Operand.storedBeside_shape meet.2
      obtain ⟨rightTidy, rightSimple⟩ := Operand.storedBeside_shape meet.1
      rw [Operand.IsTidy, compares.isTidy_iff, leftSimple, rightSimple, leftTo.isComplement_eq,
        rightTo.isComplement_eq, leftTidy, rightTidy, leftIH, rightIH]
      simp only [KeepsNegationsLoose, parts, tightOperands, List.forall_mem_cons,
        List.forall_mem_append]
      simp
  | arithmetic mentioned leftTo rightTo meet leftRenders rightRenders leftIH rightIH =>
      obtain ⟨leftTidy, leftSimple⟩ := Operand.storedBeside_shape meet.2
      obtain ⟨rightTidy, rightSimple⟩ := Operand.storedBeside_shape meet.1
      have left := leftRenders.isTidy_iff.trans (leftTidy.trans leftIH)
      have right := rightRenders.isTidy_iff.trans (rightTidy.trans rightIH)
      have leftOwn := (leftRenders.isComplement_eq.trans leftSimple).trans leftTo.isComplement_eq
      have rightOwn :=
        (rightRenders.isComplement_eq.trans rightSimple).trans rightTo.isComplement_eq
      simp only [KeepsNegationsLoose, parts, tightOperands, List.forall_mem_cons,
        List.forall_mem_append, Operand.IsTidy, Term.IsTidy, Term.tightOperands] at left right ⊢
      simp [left, right, leftOwn, rightOwn, and_assoc]
  | neg mentioned innerTo renders inductionHypothesis =>
      have inner := renders.isTidy_iff.trans inductionHypothesis
      have own := renders.isComplement_eq.trans innerTo.isComplement_eq
      simp only [KeepsNegationsLoose, parts, tightOperands, List.forall_mem_cons,
        Operand.IsTidy, Term.IsTidy, Term.tightOperands] at inner ⊢
      simp [inner, own]
  | not mentioned innerTo refutes inductionHypothesis =>
      have inner := refutes.isTidy_iff.trans inductionHypothesis
      simp only [KeepsNegationsLoose, parts, tightOperands, List.forall_mem_cons,
        Operand.IsTidy] at inner ⊢
      simp [inner]
  | @change target operand text name functions mentioned targetTo renders known
      inductionHypothesis =>
      have target := renders.isTidy_iff.trans inductionHypothesis
      have changed : (functions.foldr Term.apply text).tightOperands = text.tightOperands := by
        clear known
        induction functions with
        | nil => rfl
        | cons function rest inductionHypothesis => exact inductionHypothesis
      simp only [KeepsNegationsLoose, parts, allParts, tightOperands_method_nil,
        List.forall_mem_cons, List.append_nil, Operand.IsTidy, Term.IsTidy, changed] at target ⊢
      simp [target]
  | replace mentioned targetTo patternTo replacementTo renders patternRenders
      replacementRenders targetIH patternIH replacementIH =>
      have target := renders.isTidy_iff.trans targetIH
      have pattern := patternRenders.isTidy_iff.trans patternIH
      have replacement := replacementRenders.isTidy_iff.trans replacementIH
      simp only [KeepsNegationsLoose, parts, allParts, tightOperands, List.forall_mem_cons,
        List.forall_mem_append, Operand.IsTidy, Term.IsTidy, Term.tightOperands]
        at target pattern replacement ⊢
      simp [target, pattern, replacement, and_assoc]
  | substring mentioned targetTo startTo renders startRenders targetIH startIH =>
      have target := renders.isTidy_iff.trans targetIH
      have start := startRenders.isTidy_iff.trans startIH
      have own := startRenders.isComplement_eq.trans startTo.isComplement_eq
      simp only [KeepsNegationsLoose, parts, allParts, tightOperands, List.forall_mem_cons,
        List.forall_mem_append, Operand.IsTidy, Term.IsTidy, Term.tightOperands]
        at target start ⊢
      simp [target, start, own]
  | window mentioned targetTo startTo lengthTo renders startRenders lengthRenders targetIH
      startIH lengthIH =>
      have target := renders.isTidy_iff.trans targetIH
      have start := startRenders.isTidy_iff.trans startIH
      have length := lengthRenders.isTidy_iff.trans lengthIH
      have own := startRenders.isComplement_eq.trans startTo.isComplement_eq
      simp only [KeepsNegationsLoose, parts, allParts, tightOperands, List.forall_mem_cons,
        List.forall_mem_append, Operand.IsTidy, Term.IsTidy, Term.tightOperands]
        at target start length ⊢
      simp [target, start, length, own, and_assoc]
  | like mentioned targetTo argumentTo renders known patternBound targetIH argumentIH =>
      have target := renders.isTidy_iff.trans targetIH
      have argument := argumentIH.mp trivial
      have own := renders.isComplement_eq.trans targetTo.isComplement_eq
      simp only [KeepsNegationsLoose, parts, allParts, tightOperands_method_test known,
        List.forall_mem_cons, List.forall_mem_append, Operand.IsTidy, Term.IsTidy,
        Term.tightOperands]
        at target argument ⊢
      have slot (index : Nat) : (Term.slot index).isComplement = false := rfl
      simp [target, own, slot, and_iff_left argument]

end Expr

theorem Operand.Fills.isTidy_iff {operand : Operand} {written : Term} {constants : List Value}
    {place : Place} (fills : operand.Fills constants written place) :
    written.IsTidy ↔ operand.IsTidy := by
  cases place with
  | condition => exact Tests.isTidy_iff fills
  | value => exact Renders.isTidy_iff fills
  | assignment property =>
      obtain ⟨met, stored, renders⟩ := fills
      exact renders.isTidy_iff.trans (storedBeside_shape stored).1

/-- Wherever an expression is compiled for, its text has the structure of the expression. An
operand of a comparison, of arithmetic, of a sign, of a null test or of a text test delimits
itself unless it is a bare complement; all of them do exactly when no such operand is a
negation in the expression, and then the text is parsed as the tree of operators. -/
theorem operands_selfDelimiting_iff (compilation : Compilation) {params after : Params}
    {sql : Sql} (compiled : params.compile compilation.step = (.ok sql, after)) :
    ∃ constants names operand written, names.length = constants.length ∧
      params.Adds after (names.zip constants) ∧
      compilation.expr.Compiles compilation.map compilation.evaluator constants operand ∧
      operand.Fills constants written compilation.place ∧ sql = written.sql names ∧
      (∀ inner ∈ written.tightOperands,
        selfDelimiting (lexemes (inner.sql names)) = true ↔ inner.isComplement = false) ∧
      ((∀ inner ∈ written.tightOperands, selfDelimiting (lexemes (inner.sql names)) = true) ↔
        compilation.expr.KeepsNegationsLoose) ∧
      (compilation.expr.KeepsNegationsLoose →
        parse sql = some (written.tree fun index => names.getD index "")) := by
  obtain ⟨constants, names, operand, written, length, adds, compiles, fills, rfl⟩ :=
    compilation.shape compiled
  have tidy : written.IsTidy ↔ compilation.expr.KeepsNegationsLoose :=
    fills.isTidy_iff.trans compiles.isTidy_iff
  refine ⟨constants, names, operand, written, length, adds, compiles, fills, rfl, ?_, ?_, ?_⟩
  · exact fun inner _ => inner.selfDelimiting_iff names
  · simp only [Term.selfDelimiting_iff]
    exact tidy
  · exact fun loose => (tidy.mpr loose).parse_eq names

namespace Invoice

/-- `!(p.amount > 2)` -/
def notAboveTwo : Expr :=
  .unary .not (.binary (.comparison .gt) (.field "amount") (.value (.i32 2)))

/-- `!(p.amount > 2) && p.paid` -/
def notAboveTwoAndPaid : Compilation :=
  ⟨mapping, .standard, .binary (.connective .and) notAboveTwo (.field "paid"), .condition⟩

def notAboveTwoAndPaidSql : Sql :=
  [.text "(", .text "not ", .text "(", .identifier "amount", .text " > ", .placeholder "p0",
    .text ")", .text " and ", .text "(", .identifier "is_paid", .text " = ",
    .literal (.string "Y"), .text ")", .text ")"]

theorem notAboveTwoAndPaid_parsed :
    notAboveTwoAndPaid.expr.KeepsNegationsLoose ∧ ∃ names, ∃ written : Term,
      notAboveTwoAndPaidSql = written.sql names ∧
      (∀ inner ∈ written.tightOperands, selfDelimiting (lexemes (inner.sql names)) = true) ∧
      parse notAboveTwoAndPaidSql = some (written.tree fun index => names.getD index "") := by
  have loose : notAboveTwoAndPaid.expr.KeepsNegationsLoose := by
    unfold Expr.KeepsNegationsLoose
    decide
  have compiled : Params.empty.compile notAboveTwoAndPaid.step =
      (.ok notAboveTwoAndPaidSql, .numbered 0 [.i32 2]) := rfl
  obtain ⟨constants, names, operand, written, -, -, -, -, text, -, delimited, parsed⟩ :=
    operands_selfDelimiting_iff notAboveTwoAndPaid compiled
  exact ⟨loose, names, written, text, delimited.mpr loose, parsed loose⟩

/-- `!(p.amount > 2) == p.paid` -/
def notAboveTwoIsPaid : Expr :=
  .eq notAboveTwo (.field "paid")

/-- Compared with a column, a negation is written without parentheses, and the `not` takes
the whole comparison. -/
theorem notAboveTwoIsPaid_parsed_otherwise :
    ∃ sql after, Params.empty.compile (notAboveTwoIsPaid.predicate mapping .standard) =
        (.ok sql, after) ∧
      parse sql = some (.signed .complement (.operation (.binary (.comparison .eq))
        (.operation (.binary (.comparison .gt)) (.leaf (.identifier "amount"))
          (.leaf (.placeholder "p0"))) (.leaf (.identifier "is_paid")))) ∧
      [.text "not ", .text "(", .identifier "amount", .text " > ", .placeholder "p0",
        .text ")"] <:+: sql ∧
      selfDelimiting (lexemes ([.text "not ", .text "(", .identifier "amount", .text " > ",
        .placeholder "p0", .text ")"] : Sql)) = false := by
  refine ⟨_, _, rfl, rfl, ⟨[.text "("], [.text " = ", .identifier "is_paid", .text ")"], rfl⟩, rfl⟩

end Invoice

end SqlMapper
