import SqlMapper.Proofs.Compile.Denotation
import SqlMapper.Proofs.Compile.Sharing
import SqlMapper.Proofs.Result

/-!
# What an expression compiles to

The compiler keeps the structure of an expression: every operator and method over the row
becomes one node of the term, over what its operands compile to. `Expr.Compiles` says so
as a relation, given the constants that are bound in the end; the order in which constants
are bound and the steps that fail are left to the compiler.
-/

namespace SqlMapper

namespace Operand

/-- The operand written as a value is `written`. -/
def Renders (constants : List Value) : Operand → Term → Prop
  | .column property, written => written = .column property.column
  | .constant value, written => ∃ index, constants[index]? = some value ∧ written = .slot index
  | .term result, written => written = result

/-- The operand written as a condition is `written`. -/
def Tests : Operand → Term → Prop
  | .column property, written => property.kind.isBool = true ∧ property.test true = .ok written
  | .constant value, written => ∃ truth, value = .bool truth ∧ written = .truth truth
  | .term result, written => written = result

/-- The operand written as a condition that must not hold is `written`. -/
def Refutes : Operand → Term → Prop
  | .column property, written => property.kind.isBool = true ∧ property.test false = .ok written
  | operand, written => ∃ tested, operand.Tests tested ∧ written = .complement tested

/-- Beside each other, `left` and `right` take the forms `first` and `second`. -/
def Meet (left right first second : Operand) : Prop :=
  left.storedBeside right = .ok second ∧ second.storedBeside left = .ok first

/-- In its place, the operand is written as `written`. A constant that is assigned takes
its stored form, as it does beside the column. -/
def Fills (constants : List Value) (operand : Operand) (written : Term) : Place → Prop
  | .condition => operand.Tests written
  | .value => operand.Renders constants written
  | .assignment property =>
    ∃ met, (column property).storedBeside operand = .ok met ∧ met.Renders constants written

/-- The comparison of two operands, which may be a null test of one of them, is written as
a term. -/
inductive Compares (constants : List Value) (op : Comparison) :
    Operand → Operand → Term → Prop where
  | nullRight {left right : Operand} {tested : Term} {expected : Bool}
      (test : op.nullTest? = some expected) (null : right.isNull = true)
      (renders : left.Renders constants tested) :
      Compares constants op left right (.nullTest tested expected)
  | nullLeft {left right : Operand} {tested : Term} {expected : Bool}
      (test : op.nullTest? = some expected) (notNull : right.isNull = false)
      (null : left.isNull = true) (renders : right.Renders constants tested) :
      Compares constants op left right (.nullTest tested expected)
  | values {left right : Operand} {first second : Term}
      (noTest : op.nullTest? = none ∨ right.isNull = false ∧ left.isNull = false)
      (leftRenders : left.Renders constants first)
      (rightRenders : right.Renders constants second) :
      Compares constants op left right (.comparison op first second)

end Operand

/-- The functions that a method without arguments applies, the outermost first. -/
def TextFunction.ofMethod : List (String × List TextFunction) :=
  [("trim", [.ltrim, .rtrim]), ("trim_start", [.ltrim]), ("trim_end", [.rtrim]),
    ("to_upper", [.ucase]), ("to_lower", [.lcase])]

namespace Expr

/-- The expression is a constant for the compiler. -/
def FoldsTo (evaluator : Evaluator) (expr : Expr) (value : Value) : Prop :=
  expr = .value value ∨
    expr.referencesRow = false ∧ expr.isValue = false ∧ evaluator expr = .ok value

/-- With the constants bound in the end, the expression compiles to the operand. -/
inductive Compiles (map : TableMap) (evaluator : Evaluator) (constants : List Value) :
    Expr → Operand → Prop where
  | constant {expr : Expr} {value : Value} (folds : expr.FoldsTo evaluator value) :
      Compiles map evaluator constants expr (.constant value)
  | column {name : String} {property : Property} (found : map.property name = .ok property) :
      Compiles map evaluator constants (field name) (.column property)
  | connective {op : Connective} {left right : Expr} {first second : Operand}
      {leftTerm rightTerm : Term}
      (mentioned : (binary (.connective op) left right).referencesRow = true)
      (leftTo : Compiles map evaluator constants left first)
      (rightTo : Compiles map evaluator constants right second)
      (leftTests : first.Tests leftTerm) (rightTests : second.Tests rightTerm) :
      Compiles map evaluator constants (binary (.connective op) left right)
        (.term (.connective op leftTerm rightTerm))
  | comparison {op : Comparison} {left right : Expr}
      {first second leftOperand rightOperand : Operand} {term : Term}
      (mentioned : (binary (.comparison op) left right).referencesRow = true)
      (leftTo : Compiles map evaluator constants left first)
      (rightTo : Compiles map evaluator constants right second)
      (meet : first.Meet second leftOperand rightOperand)
      (compares : leftOperand.Compares constants op rightOperand term) :
      Compiles map evaluator constants (binary (.comparison op) left right) (.term term)
  | arithmetic {op : Arithmetic} {left right : Expr}
      {first second leftOperand rightOperand : Operand} {leftTerm rightTerm : Term}
      (mentioned : (binary (.arithmetic op) left right).referencesRow = true)
      (leftTo : Compiles map evaluator constants left first)
      (rightTo : Compiles map evaluator constants right second)
      (meet : first.Meet second leftOperand rightOperand)
      (leftRenders : leftOperand.Renders constants leftTerm)
      (rightRenders : rightOperand.Renders constants rightTerm) :
      Compiles map evaluator constants (binary (.arithmetic op) left right)
        (.term (.arithmetic op leftTerm rightTerm))
  | neg {inner : Expr} {operand : Operand} {term : Term}
      (mentioned : (unary .neg inner).referencesRow = true)
      (innerTo : Compiles map evaluator constants inner operand)
      (renders : operand.Renders constants term) :
      Compiles map evaluator constants (unary .neg inner) (.term (.negative term))
  | not {inner : Expr} {operand : Operand} {term : Term}
      (mentioned : (unary .not inner).referencesRow = true)
      (innerTo : Compiles map evaluator constants inner operand) (refutes : operand.Refutes term) :
      Compiles map evaluator constants (unary .not inner) (.term term)
  | change {target : Expr} {operand : Operand} {text : Term} {name : String}
      {functions : List TextFunction}
      (mentioned : (method target name []).referencesRow = true)
      (targetTo : Compiles map evaluator constants target operand)
      (renders : operand.Renders constants text)
      (known : (name, functions) ∈ TextFunction.ofMethod) :
      Compiles map evaluator constants (method target name [])
        (.term (functions.foldr Term.apply text))
  | replace {target pattern replacement : Expr}
      {operand patternOperand replacementOperand : Operand}
      {text patternTerm replacementTerm : Term}
      (mentioned : (method target "replace" [pattern, replacement]).referencesRow = true)
      (targetTo : Compiles map evaluator constants target operand)
      (patternTo : Compiles map evaluator constants pattern patternOperand)
      (replacementTo : Compiles map evaluator constants replacement replacementOperand)
      (renders : operand.Renders constants text)
      (patternRenders : patternOperand.Renders constants patternTerm)
      (replacementRenders : replacementOperand.Renders constants replacementTerm) :
      Compiles map evaluator constants (method target "replace" [pattern, replacement])
        (.term (.replace text patternTerm replacementTerm))
  | substring {target start : Expr} {operand startOperand : Operand} {text startTerm : Term}
      (mentioned : (method target "substring" [start]).referencesRow = true)
      (targetTo : Compiles map evaluator constants target operand)
      (startTo : Compiles map evaluator constants start startOperand)
      (renders : operand.Renders constants text)
      (startRenders : startOperand.Renders constants startTerm) :
      Compiles map evaluator constants (method target "substring" [start])
        (.term (.substring text startTerm))
  | window {target start length : Expr} {operand startOperand lengthOperand : Operand}
      {text startTerm lengthTerm : Term}
      (mentioned : (method target "substring" [start, length]).referencesRow = true)
      (targetTo : Compiles map evaluator constants target operand)
      (startTo : Compiles map evaluator constants start startOperand)
      (lengthTo : Compiles map evaluator constants length lengthOperand)
      (renders : operand.Renders constants text)
      (startRenders : startOperand.Renders constants startTerm)
      (lengthRenders : lengthOperand.Renders constants lengthTerm) :
      Compiles map evaluator constants (method target "substring" [start, length])
        (.term (.window text startTerm lengthTerm))
  | like {target argument : Expr} {operand : Operand} {text : Term} {name tested pattern : String}
      {index : Nat} (mentioned : (method target name [argument]).referencesRow = true)
      (targetTo : Compiles map evaluator constants target operand)
      (argumentTo : Compiles map evaluator constants argument (.constant (.string tested)))
      (renders : operand.Renders constants text)
      (known : likePattern name tested = some pattern)
      (bound : constants[index]? = some (.string pattern)) :
      Compiles map evaluator constants (method target name [argument])
        (.term (.like text (.slot index)))

end Expr

variable {map : TableMap} {evaluator : Evaluator} {bound after : List Value}

namespace Compile.Yields

variable {α : Type} {property : List Value → α → Prop}

/-- A step that fails has no result. -/
theorem throw (error : Error) :
    (MonadExcept.throw error : Compile α).Yields bound property := by
  rintro _ _ ⟨⟩

theorem fail (fault : Fault) : (Compile.fail fault : Compile α).Yields bound property :=
  throw (.of fault)

/-- What goes on with a result that binds nothing. -/
theorem ofResult_next {β : Type} {result : Result β} {next : β → Compile α}
    (rest : ∀ value, result = .ok value → (next value).Yields bound property) :
    (Compile.ofResult result >>= next).Yields bound property := by
  have looked : (Compile.ofResult result).Yields bound fun after value =>
      bound = after ∧ result = .ok value := .ofResult fun _ found => ⟨rfl, found⟩
  apply looked.bind
  rintro _ value - ⟨rfl, found⟩
  exact rest value found

end Compile.Yields

theorem getElem?_of_grown {index : Nat} {value : Value} (known : bound[index]? = some value)
    (grown : bound <+: after) : after[index]? = some value := by
  obtain ⟨later, rfl⟩ := grown
  obtain ⟨inside, -⟩ := List.getElem?_eq_some_iff.mp known
  rw [List.getElem?_append_left inside, known]

namespace Operand

variable {left right operand : Operand} {written : Term}

theorem Renders.mono (renders : operand.Renders bound written) (grown : bound <+: after) :
    operand.Renders after written := by
  cases operand with
  | constant value =>
      obtain ⟨index, known, rfl⟩ := renders
      exact ⟨index, getElem?_of_grown known grown, rfl⟩
  | _ => exact renders

theorem Compares.mono {op : Comparison} (compares : left.Compares bound op right written)
    (grown : bound <+: after) : left.Compares after op right written := by
  cases compares with
  | nullRight test null renders => exact .nullRight test null (renders.mono grown)
  | nullLeft test notNull null renders => exact .nullLeft test notNull null (renders.mono grown)
  | values noTest leftRenders rightRenders =>
      exact .values noTest (leftRenders.mono grown) (rightRenders.mono grown)

theorem render_yields (operand : Operand) :
    operand.render.Yields bound fun after written => operand.Renders after written := by
  cases operand with
  | constant value =>
      intro result after ran
      obtain ⟨grown, index, rfl, known⟩ := Compile.Yields.bind_constant value result after ran
      exact ⟨grown, index, known, rfl⟩
  | column property => exact .pure rfl
  | term result => exact .pure rfl

theorem condition_yields (operand : Operand) (expr : Expr) :
    (operand.condition expr).Yields bound fun _ written => operand.Tests written := by
  cases operand with
  | column property =>
      simp only [condition]
      split
      next isBool => exact .ofResult fun written tested => ⟨isBool, tested⟩
      next => exact .fail _
  | constant value =>
      cases value with
      | bool truth => exact .pure ⟨truth, rfl, rfl⟩
      | _ => exact .fail _
  | term result => exact .pure rfl

theorem negatedCondition_yields (operand : Operand) (expr : Expr) :
    (operand.negatedCondition expr).Yields bound fun _ written => operand.Refutes written := by
  cases operand with
  | column property =>
      simp only [negatedCondition]
      split
      next isBool => exact .ofResult fun written tested => ⟨isBool, tested⟩
      next notBool =>
        apply (condition_yields (.column property) expr).bind
        intro after written _ tested
        exact absurd tested.1 notBool
  | constant value =>
      apply (condition_yields (.constant value) expr).bind
      exact fun after written _ tested => .pure ⟨written, tested, rfl⟩
  | term result =>
      apply (condition_yields (.term result) expr).bind
      exact fun after written _ tested => .pure ⟨written, tested, rfl⟩

/-- What goes on with two operands as values. -/
theorem render_both_shape {β : Type} {next : Term → Term → Compile β}
    {property : List Value → β → Prop}
    (rest : ∀ after first second, bound <+: after → left.Renders after first →
      right.Renders after second → (next first second).Yields after property) :
    (left.render >>= fun first => right.render >>= fun second =>
      next first second).Yields bound property := by
  apply (render_yields left).bind
  intro middle first grown leftRenders
  apply (render_yields right).bind
  intro after second further rightRenders
  exact rest after first second (grown.trans further) (leftRenders.mono further) rightRenders

theorem compareOperands_shape (op : Comparison) (left right : Operand) :
    (compareOperands op left right).Yields bound fun after written =>
      left.Compares after op right written := by
  unfold compareOperands
  split
  next test null =>
    exact (render_yields left).bind fun after tested _ renders =>
      .pure (.nullRight test null renders)
  next test notNull null =>
    exact (render_yields right).bind fun after tested _ renders =>
      .pure (.nullLeft test notNull null renders)
  next noRight noLeft =>
    apply render_both_shape
    intro after first second _ leftRenders rightRenders
    refine .pure (.values ?_ leftRenders rightRenders)
    cases test : op.nullTest? with
    | none => exact .inl rfl
    | some expected =>
        have rightNotNull : right.isNull = false := by
          rw [← Bool.not_eq_true]
          exact fun null => noRight expected test null
        refine .inr ⟨rightNotNull, ?_⟩
        rw [← Bool.not_eq_true]
        exact fun null => noLeft expected test rightNotNull null

theorem likeTerm_shape (whole : Expr) (name : String) (text : Term) (argument : Operand) :
    (likeTerm whole name text argument).Yields bound fun after written =>
      ∃ tested pattern index, argument = .constant (.string tested) ∧
        likePattern name tested = some pattern ∧ after[index]? = some (.string pattern) ∧
        written = .like text (.slot index) := by
  unfold likeTerm
  split
  next tested =>
    split
    next pattern known =>
      apply (Compile.Yields.bind_constant (.string pattern)).bind
      rintro after _ _ ⟨index, rfl, stored⟩
      exact .pure ⟨tested, pattern, index, rfl, known, stored, rfl⟩
    next => exact .fail _
  next => exact .fail _

end Operand

/-- The test of a boolean column compares it with a literal. -/
theorem Property.exists_columnIs_of_test {property : Property} {value : Bool} {written : Term}
    (tested : property.test value = .ok written) :
    ∃ literal, written = .columnIs property.column literal := by
  simp only [Property.test, Result.bind_eq_ok, Result.pure_eq_ok] at tested
  obtain ⟨stored, -, literal, -, rfl⟩ := tested
  exact ⟨literal, rfl⟩

namespace Expr

variable {expr left right target : Expr} {operand : Operand}

theorem Compiles.mono (compiles : expr.Compiles map evaluator bound operand)
    (grown : bound <+: after) : expr.Compiles map evaluator after operand := by
  induction compiles with
  | constant folds => exact .constant folds
  | column found => exact .column found
  | connective mentioned _ _ leftTests rightTests leftIH rightIH =>
      exact .connective mentioned leftIH rightIH leftTests rightTests
  | comparison mentioned _ _ meet compares leftIH rightIH =>
      exact .comparison mentioned leftIH rightIH meet (compares.mono grown)
  | arithmetic mentioned _ _ meet leftRenders rightRenders leftIH rightIH =>
      exact .arithmetic mentioned leftIH rightIH meet (leftRenders.mono grown)
        (rightRenders.mono grown)
  | neg mentioned _ renders inductionHypothesis =>
      exact .neg mentioned inductionHypothesis (renders.mono grown)
  | not mentioned _ refutes inductionHypothesis =>
      exact .not mentioned inductionHypothesis refutes
  | change mentioned _ renders known inductionHypothesis =>
      exact .change mentioned inductionHypothesis (renders.mono grown) known
  | replace mentioned _ _ _ renders patternRenders replacementRenders targetIH patternIH
      replacementIH =>
      exact .replace mentioned targetIH patternIH replacementIH (renders.mono grown)
        (patternRenders.mono grown) (replacementRenders.mono grown)
  | substring mentioned _ _ renders startRenders targetIH startIH =>
      exact .substring mentioned targetIH startIH (renders.mono grown) (startRenders.mono grown)
  | window mentioned _ _ _ renders startRenders lengthRenders targetIH startIH lengthIH =>
      exact .window mentioned targetIH startIH lengthIH (renders.mono grown)
        (startRenders.mono grown) (lengthRenders.mono grown)
  | like mentioned _ _ renders known patternBound targetIH argumentIH =>
      exact .like mentioned targetIH argumentIH (renders.mono grown) known
        (getElem?_of_grown patternBound grown)

theorem fold_shape (rowFree : expr.referencesRow = false) (composed : expr.isValue = false) :
    (fold evaluator expr).Yields bound fun after operand =>
      expr.Compiles map evaluator after operand := by
  unfold fold
  split
  next result evaluated => exact .pure (.constant (.inr ⟨rowFree, composed, evaluated⟩))
  next => exact .throw _

section Steps

variable {β : Type} {property : List Value → β → Prop} {compiled other : Compile Operand}

/-- What goes on with an expression as a value. -/
theorem render_next_shape {next : Term → Compile β}
    (first : compiled.Yields bound fun after operand => expr.Compiles map evaluator after operand)
    (rest : ∀ after operand written, bound <+: after →
      expr.Compiles map evaluator after operand → operand.Renders after written →
      (next written).Yields after property) :
    (compiled >>= fun operand => operand.render >>= next).Yields bound property := by
  apply first.bind
  intro middle operand grown compiles
  apply operand.render_yields.bind
  intro after written further renders
  exact rest after operand written (grown.trans further) (compiles.mono further) renders

/-- What goes on with an expression as a condition. -/
theorem condition_next_shape {next : Term → Compile β}
    (first : compiled.Yields bound fun after operand => expr.Compiles map evaluator after operand)
    (rest : ∀ after operand written, bound <+: after →
      expr.Compiles map evaluator after operand → operand.Tests written →
      (next written).Yields after property) :
    (compiled >>= fun operand => operand.condition expr >>= next).Yields bound property := by
  apply first.bind
  intro middle operand grown compiles
  apply (operand.condition_yields expr).bind
  intro after written further tests
  exact rest after operand written (grown.trans further) (compiles.mono further) tests

/-- What goes on with two operands once each has met the other, which binds nothing. -/
theorem beside_next {next : Operand → Operand → Compile β}
    {leftHolds : List Value → Operand → Prop}
    {rightHolds : List Value → List Value → Operand → Prop}
    (first : compiled.Yields bound leftHolds)
    (second : ∀ middle, other.Yields middle (rightHolds middle))
    (rest : ∀ middle after leftOperand rightOperand metLeft metRight, middle <+: after →
      leftHolds middle leftOperand → rightHolds middle after rightOperand →
      leftOperand.Meet rightOperand metLeft metRight →
      (next metLeft metRight).Yields after property) :
    (do
      let leftOperand ← compiled
      let rightOperand ← other
      let rightOperand ← Compile.ofResult (leftOperand.storedBeside rightOperand)
      let leftOperand ← Compile.ofResult (rightOperand.storedBeside leftOperand)
      next leftOperand rightOperand).Yields bound property := by
  apply first.bind
  intro middle leftOperand _ leftKept
  apply (second middle).bind
  intro after rightOperand grown rightKept
  apply Compile.Yields.ofResult_next
  intro metRight rightStored
  apply Compile.Yields.ofResult_next
  intro metLeft leftStored
  exact rest middle after leftOperand rightOperand metLeft metRight grown leftKept rightKept
    ⟨rightStored, leftStored⟩

/-- What goes on with two expressions once each has met the other. -/
theorem beside_next_shape {next : Operand → Operand → Compile β}
    (first : compiled.Yields bound fun after operand => left.Compiles map evaluator after operand)
    (second : ∀ bound, other.Yields bound fun after operand =>
      right.Compiles map evaluator after operand)
    (rest : ∀ after leftOperand rightOperand metLeft metRight,
      left.Compiles map evaluator after leftOperand →
      right.Compiles map evaluator after rightOperand →
      leftOperand.Meet rightOperand metLeft metRight →
      (next metLeft metRight).Yields after property) :
    (do
      let leftOperand ← compiled
      let rightOperand ← other
      let rightOperand ← Compile.ofResult (leftOperand.storedBeside rightOperand)
      let leftOperand ← Compile.ofResult (rightOperand.storedBeside leftOperand)
      next leftOperand rightOperand).Yields bound property := by
  apply beside_next first second
  intro middle after leftOperand rightOperand metLeft metRight grown leftCompiles
  exact rest after leftOperand rightOperand metLeft metRight (leftCompiles.mono grown)

end Steps

/-- Whatever an expression compiles to has its structure. -/
theorem operand_shape (expr : Expr) (bound : List Value) :
    (expr.operand map evaluator).Yields bound fun after operand =>
      expr.Compiles map evaluator after operand := by
  fun_induction operand map evaluator expr generalizing bound with
  | case1 constant => exact .pure (.constant (.inl rfl))
  | case2 => exact .fail _
  | case3 | case6 | case7 | case11 | case14 | case17 | case19 | case21 =>
      apply fold_shape
      · simp_all [referencesRow]
      · rfl
  | case5 | case16 | case18 | case20 => exact .fail _
  | case4 target name isRow =>
      have target : target = row := by
        cases target with
        | row => rfl
        | _ => cases isRow
      subst target
      exact .ofResult_next fun property found => .pure (.column found)
  | case8 left right mentioned op leftIH rightIH =>
      have mentioned : (binary (.connective op) left right).referencesRow = true := by
        simpa only [Bool.not_eq_true', Bool.not_eq_false, referencesRow] using mentioned
      apply condition_next_shape (leftIH bound)
      intro middle first leftTerm _ leftCompiles leftTests
      apply condition_next_shape (rightIH middle)
      intro after second rightTerm grown rightCompiles rightTests
      exact .pure (.connective mentioned (leftCompiles.mono grown) rightCompiles leftTests
        rightTests)
  | case9 left right mentioned op leftIH rightIH =>
      have mentioned : (binary (.comparison op) left right).referencesRow = true := by
        simpa only [Bool.not_eq_true', Bool.not_eq_false, referencesRow] using mentioned
      apply beside_next_shape (leftIH bound) rightIH
      intro middle first second metLeft metRight leftCompiles rightCompiles meet
      apply (Operand.compareOperands_shape op metLeft metRight).bind
      intro after written grown compares
      exact .pure (.comparison mentioned (leftCompiles.mono grown) (rightCompiles.mono grown)
        meet compares)
  | case10 left right mentioned op leftIH rightIH =>
      have mentioned : (binary (.arithmetic op) left right).referencesRow = true := by
        simpa only [Bool.not_eq_true', Bool.not_eq_false, referencesRow] using mentioned
      apply beside_next_shape (leftIH bound) rightIH
      intro middle first second metLeft metRight leftCompiles rightCompiles meet
      apply Operand.render_both_shape
      intro after leftTerm rightTerm grown leftRenders rightRenders
      exact .pure (.arithmetic mentioned (leftCompiles.mono grown) (rightCompiles.mono grown)
        meet leftRenders rightRenders)
  | case12 inner mentioned inductionHypothesis =>
      have mentioned : (unary .neg inner).referencesRow = true := by
        simpa only [Bool.not_eq_true', Bool.not_eq_false, referencesRow] using mentioned
      apply render_next_shape (inductionHypothesis bound)
      exact fun after operand written _ compiles renders => .pure (.neg mentioned compiles renders)
  | case13 inner mentioned inductionHypothesis =>
      have mentioned : (unary .not inner).referencesRow = true := by
        simpa only [Bool.not_eq_true', Bool.not_eq_false, referencesRow] using mentioned
      apply (inductionHypothesis bound).bind
      intro middle operand _ compiles
      apply (operand.negatedCondition_yields inner).bind
      exact fun after written grown refutes => .pure (.not mentioned (compiles.mono grown) refutes)
  | case15 target name arguments mentioned targetIH argumentsIH =>
      have mentioned : (method target name arguments).referencesRow = true := by
        simpa only [Bool.not_eq_true', Bool.not_eq_false, referencesRow] using mentioned
      apply render_next_shape (targetIH bound)
      intro middle operand text _ targetCompiles renders
      have changed {name : String} (functions : List TextFunction)
          (mentioned : (method target name []).referencesRow = true)
          (known : (name, functions) ∈ TextFunction.ofMethod) :
          (pure (.term (functions.foldr .apply text)) : Compile Operand).Yields middle
            fun after operand => (method target name []).Compiles map evaluator after operand :=
        .pure (.change mentioned targetCompiles renders known)
      split at argumentsIH
      case h_6 pattern replacement =>
        apply render_next_shape (argumentsIH.1 middle)
        intro second patternOperand patternTerm grown patternCompiles patternRenders
        apply render_next_shape (argumentsIH.2 second)
        intro after replacementOperand replacementTerm further replacementCompiles
          replacementRenders
        exact .pure (.replace mentioned (targetCompiles.mono (grown.trans further))
          (patternCompiles.mono further) replacementCompiles (renders.mono (grown.trans further))
          (patternRenders.mono further) replacementRenders)
      case h_7 start =>
        apply render_next_shape (argumentsIH middle)
        intro after startOperand startTerm grown startCompiles startRenders
        exact .pure (.substring mentioned (targetCompiles.mono grown) startCompiles
          (renders.mono grown) startRenders)
      case h_8 start length =>
        apply render_next_shape (argumentsIH.1 middle)
        intro second startOperand startTerm grown startCompiles startRenders
        apply render_next_shape (argumentsIH.2 second)
        intro after lengthOperand lengthTerm further lengthCompiles lengthRenders
        exact .pure (.window mentioned (targetCompiles.mono (grown.trans further))
          (startCompiles.mono further) lengthCompiles (renders.mono (grown.trans further))
          (startRenders.mono further) lengthRenders)
      case h_9 argument | h_10 argument | h_11 argument =>
        apply (argumentsIH middle).bind
        intro last argumentOperand grown argumentCompiles
        apply (Operand.likeTerm_shape _ _ text argumentOperand).bind
        intro after written further matched
        obtain ⟨tested, pattern, index, rfl, known, bound, rfl⟩ := matched
        exact .pure (.like mentioned (targetCompiles.mono (grown.trans further))
          (argumentCompiles.mono further) (renders.mono (grown.trans further)) known bound)
      case h_12 => exact .fail _
      case h_1 => exact changed [.ltrim, .rtrim] mentioned (by decide)
      case h_2 => exact changed [.ltrim] mentioned (by decide)
      case h_3 => exact changed [.rtrim] mentioned (by decide)
      case h_4 => exact changed [.ucase] mentioned (by decide)
      case h_5 => exact changed [.lcase] mentioned (by decide)

/-- An expression over the row that is more than a field. -/
def IsCompound (expr : Expr) : Prop :=
  expr.referencesRow = true ∧ expr.field? = none

/-- What is a constant does not mention the row. -/
theorem FoldsTo.referencesRow_eq {value : Value} (folds : expr.FoldsTo evaluator value) :
    expr.referencesRow = false := by
  rcases folds with rfl | ⟨rowFree, -, -⟩
  · rfl
  · exact rowFree

/-- A constant has one value. -/
theorem FoldsTo.unique {value same : Value} (folds : expr.FoldsTo evaluator value)
    (again : expr.FoldsTo evaluator same) : value = same := by
  rcases folds with rfl | ⟨-, composed, evaluated⟩
  · rcases again with isValue | ⟨-, composed, -⟩
    · exact Expr.value.inj isValue
    · cases composed
  · rcases again with rfl | ⟨-, -, evaluatedAgain⟩
    · cases composed
    · exact Except.ok.inj (evaluated.symm.trans evaluatedAgain)

/-- A constant, a field and a compound expression compile to operands of a kind each. The
term of a compound expression begins with fixed wording. -/
theorem Compiles.forms {constants : List Value}
    (compiles : expr.Compiles map evaluator constants operand) :
    (∃ value, expr.FoldsTo evaluator value ∧ operand = .constant value) ∨
      (∃ name property, expr = field name ∧ map.property name = .ok property ∧
        operand = .column property) ∨
      (expr.IsCompound ∧ ∃ term words rest, operand = .term term ∧
        term.pieces = .text words :: rest) := by
  cases compiles with
  | constant folds => exact .inl ⟨_, folds, rfl⟩
  | column found => exact .inr (.inl ⟨_, _, rfl, found, rfl⟩)
  | comparison mentioned left right meet compares =>
      refine .inr (.inr ⟨⟨mentioned, rfl⟩, ?_⟩)
      cases compares <;> exact ⟨_, _, _, rfl, rfl⟩
  | @not inner operand term mentioned compiles refutes =>
      refine .inr (.inr ⟨⟨mentioned, rfl⟩, ?_⟩)
      cases operand with
      | column property =>
          obtain ⟨literal, rfl⟩ := Property.exists_columnIs_of_test refutes.2
          exact ⟨_, _, _, rfl, rfl⟩
      | constant _ | term _ =>
          obtain ⟨tested, -, rfl⟩ := refutes
          exact ⟨_, _, _, rfl, rfl⟩
  | @change target operand text name functions mentioned compiles renders known =>
      refine .inr (.inr ⟨⟨mentioned, rfl⟩, ?_⟩)
      cases functions with
      | nil => simp [TextFunction.ofMethod] at known
      | cons function rest => exact ⟨_, _, _, rfl, rfl⟩
  | connective mentioned | arithmetic mentioned | neg mentioned | replace mentioned
  | substring mentioned | window mentioned | like mentioned =>
      exact .inr (.inr ⟨⟨mentioned, rfl⟩, _, _, _, rfl, rfl⟩)

theorem predicate_shape (expr : Expr) (bound : List Value) :
    (expr.predicate map evaluator).Yields bound fun after written =>
      ∃ operand, expr.Compiles map evaluator after operand ∧
        operand.Fills after written .condition := by
  apply (operand_shape expr bound).bind
  intro middle operand _ compiles written after ran
  obtain ⟨grown, tests⟩ := operand.condition_yields expr written after ran
  exact ⟨grown, operand, compiles.mono grown, tests⟩

theorem term_shape (expr : Expr) (bound : List Value) :
    (expr.term map evaluator).Yields bound fun after written =>
      ∃ operand, expr.Compiles map evaluator after operand ∧
        operand.Fills after written .value := by
  apply (operand_shape expr bound).bind
  intro middle operand _ compiles written after ran
  obtain ⟨grown, renders⟩ := operand.render_yields written after ran
  exact ⟨grown, operand, compiles.mono grown, renders⟩

/-- What is assigned is written as it would be beside the column. -/
theorem assignment_eq (property : Property) (expr : Expr) :
    expr.assignment map evaluator property = (do
      let operand ← expr.operand map evaluator
      (← Compile.ofResult ((Operand.column property).storedBeside operand)).render) := by
  unfold assignment
  congr 1
  funext operand
  cases operand with
  | constant value =>
      cases stored : property.toStored value with
      | error error => simp only [Operand.storedBeside, stored]; rfl
      | ok literal => simp only [Operand.storedBeside, stored]; rfl
  | _ => rfl

theorem assignment_shape (property : Property) (expr : Expr) (bound : List Value) :
    (expr.assignment map evaluator property).Yields bound fun after written =>
      ∃ operand, expr.Compiles map evaluator after operand ∧
        operand.Fills after written (.assignment property) := by
  rw [assignment_eq]
  apply (operand_shape expr bound).bind
  intro middle operand _ compiles
  apply Compile.Yields.ofResult_next
  intro met stored written after ran
  obtain ⟨grown, renders⟩ := met.render_yields written after ran
  exact ⟨grown, operand, compiles.mono grown, met, stored, renders⟩

end Expr

namespace Compilation

theorem step_shape (compilation : Compilation) (bound : List Value) :
    compilation.step.Yields bound fun after written => ∃ operand,
      compilation.expr.Compiles compilation.map compilation.evaluator after operand ∧
        operand.Fills after written compilation.place := by
  obtain ⟨map, evaluator, expr, place⟩ := compilation
  cases place with
  | condition => exact expr.predicate_shape bound
  | value => exact expr.term_shape bound
  | assignment property => exact expr.assignment_shape property bound

/-- A compiled expression has the structure of the expression, and its constants are bound
under names of their own. -/
theorem shape {compilation : Compilation} {params final : Params} {sql : Sql}
    (compiled : params.compile compilation.step = (.ok sql, final)) :
    ∃ constants names operand written, names.length = constants.length ∧
      params.Adds final (names.zip constants) ∧
      compilation.expr.Compiles compilation.map compilation.evaluator constants operand ∧
      operand.Fills constants written compilation.place ∧ sql = written.sql names := by
  rw [params.compile_eq, Prod.mk.injEq] at compiled
  obtain ⟨emitted, rfl⟩ := compiled
  obtain ⟨written, success, rfl⟩ := Result.map_eq_ok.mp emitted
  obtain ⟨-, operand, compiles, fills⟩ :=
    compilation.step_shape [] written _ (Prod.ext success rfl)
  obtain ⟨length, adds⟩ := params.pushAll_adds (compilation.step.outcome []).2
  exact ⟨_, _, operand, written, length, adds, compiles, fills, rfl⟩

end Compilation

end SqlMapper
