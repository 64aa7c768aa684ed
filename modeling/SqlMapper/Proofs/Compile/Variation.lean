import Mathlib.Data.List.Forall2
import SqlMapper.Proofs.Compile.Denotation
import SqlMapper.Proofs.Compile.Operand
import SqlMapper.Proofs.Result

/-!
# Expressions that differ in texts

Two expressions of the same form, with other texts where the row is mentioned beside
them, compile to the same term: the texts only ever become constants. `Compile.Varies`
relates two runs of a step that differ in this way, and `Expr.Varies.operand` takes it
through the compiler by induction over the form that the expressions share.
-/

namespace SqlMapper

/-- The same value, or two related texts, both as they are or both as patterns. -/
inductive Value.Varies (related : String → String → Prop) : Value → Value → Prop where
  | same (value : Value) : Varies related value value
  | text {text other : String} (varied : related text other) :
      Varies related (.string text) (.string other)
  | pattern {test text other pattern otherPattern : String} (varied : related text other)
      (written : likePattern test text = some pattern)
      (otherWritten : likePattern test other = some otherPattern) :
      Varies related (.string pattern) (.string otherPattern)

/-- The expression is a field whose values are stored in another form. -/
def TableMap.Codes (map : TableMap) (expr : Expr) : Prop :=
  ∃ name property, expr = .field name ∧ map.property name = .ok property ∧
    property.valueMap.isSome = true

/-- Whether a test can be written as a pattern does not depend on the text. -/
theorem likePattern_eq_none_iff {test text : String} (other : String) :
    likePattern test text = none ↔ likePattern test other = none := by
  unfold likePattern
  split <;> simp

namespace Expr

section Forms

variable (map : TableMap) (related : String → String → Prop)

mutual

/-- The same expression up to related texts. A text may differ only as an operand or
argument of a part that mentions the row, and not beside a column with a value map. -/
inductive Varies : Expr → Expr → Prop where
  | row : Varies .row .row
  | value (constant : Value) : Varies (.value constant) (.value constant)
  | deferred (name : String) (result : Value) :
      Varies (.deferred name result) (.deferred name result)
  | member {target other : Expr} (name : String) (inner : Varies target other) :
      Varies (.member target name) (.member other name)
  | binary {left otherLeft right otherRight : Expr} (op : BinaryOp)
      (first : VariesAt (right.referencesRow = true ∧ ¬map.Codes right) left otherLeft)
      (second : VariesAt (left.referencesRow = true ∧ ¬map.Codes left) right otherRight) :
      Varies (.binary op left right) (.binary op otherLeft otherRight)
  | unary {operand other : Expr} (op : UnaryOp) (inner : Varies operand other) :
      Varies (.unary op operand) (.unary op other)
  | method {target other : Expr} {arguments others : List Expr} (name : String)
      (first : VariesAt ((target.referencesRow || anyReferencesRow arguments) = true)
        target other)
      (rest : VariesAll ((target.referencesRow || anyReferencesRow arguments) = true)
        arguments others) :
      Varies (.method target name arguments) (.method other name others)
  | call {arguments others : List Expr} (name : String)
      (inner : VariesAll (anyReferencesRow arguments = true) arguments others) :
      Varies (.call name arguments) (.call name others)
  | record {fields others : List (String × Expr)} (typeName : Option String)
      (inner : VariesFields (anyFieldReferencesRow fields = true) fields others) :
      Varies (.record typeName fields) (.record typeName others)
  | list {items others : List Expr}
      (inner : VariesAll (anyReferencesRow items = true) items others) :
      Varies (.list items) (.list others)

/-- The same part up to related texts, or two related texts in its place where that is
`allowed`. -/
inductive VariesAt : Prop → Expr → Expr → Prop where
  | part {allowed : Prop} {expr other : Expr} (inner : Varies expr other) :
      VariesAt allowed expr other
  | text {allowed : Prop} {text other : String} (varied : related text other)
      (here : allowed) : VariesAt allowed (.value (.string text)) (.value (.string other))

inductive VariesAll : Prop → List Expr → List Expr → Prop where
  | nil {allowed : Prop} : VariesAll allowed [] []
  | cons {allowed : Prop} {first other : Expr} {rest others : List Expr}
      (here : VariesAt allowed first other) (later : VariesAll allowed rest others) :
      VariesAll allowed (first :: rest) (other :: others)

inductive VariesFields : Prop → List (String × Expr) → List (String × Expr) → Prop where
  | nil {allowed : Prop} : VariesFields allowed [] []
  | cons {allowed : Prop} {first other : Expr} {rest others : List (String × Expr)}
      (name : String) (here : VariesAt allowed first other)
      (later : VariesFields allowed rest others) :
      VariesFields allowed ((name, first) :: rest) ((name, other) :: others)

end

end Forms

variable {map : TableMap} {related : String → String → Prop}

/-! ## What the form determines -/

mutual

theorem Varies.referencesRow_eq {expr other : Expr} :
    Varies map related expr other → expr.referencesRow = other.referencesRow
  | .row | .value _ | .deferred _ _ => rfl
  | .member _ inner | .unary _ inner => inner.referencesRow_eq
  | .binary _ first second => by
      rw [referencesRow, referencesRow, first.referencesRow_eq, second.referencesRow_eq]
  | .method _ first rest => by
      rw [referencesRow, referencesRow, first.referencesRow_eq, rest.referencesRow_eq]
  | .call _ inner | .record _ inner | .list inner => inner.referencesRow_eq

theorem VariesAt.referencesRow_eq {allowed : Prop} {expr other : Expr} :
    VariesAt map related allowed expr other → expr.referencesRow = other.referencesRow
  | .part inner => inner.referencesRow_eq
  | .text _ _ => rfl

theorem VariesAll.referencesRow_eq {allowed : Prop} {exprs others : List Expr} :
    VariesAll map related allowed exprs others →
      anyReferencesRow exprs = anyReferencesRow others
  | .nil => rfl
  | .cons here later => by
      rw [anyReferencesRow, anyReferencesRow, here.referencesRow_eq, later.referencesRow_eq]

theorem VariesFields.referencesRow_eq {allowed : Prop} {fields others : List (String × Expr)} :
    VariesFields map related allowed fields others →
      anyFieldReferencesRow fields = anyFieldReferencesRow others
  | .nil => rfl
  | .cons _ here later => by
      rw [anyFieldReferencesRow, anyFieldReferencesRow, here.referencesRow_eq,
        later.referencesRow_eq]

end

mutual

/-- What does not mention the row does not differ. -/
theorem Varies.eq_of_rowFree {expr other : Expr} (rowFree : expr.referencesRow = false) :
    Varies map related expr other → expr = other
  | .row | .value _ | .deferred _ _ => rfl
  | .member _ inner | .unary _ inner => by rw [inner.eq_of_rowFree (by exact rowFree)]
  | .binary _ first second => by
      obtain ⟨leftFree, rightFree⟩ := Bool.or_eq_false_iff.mp rowFree
      rw [first.eq_of_rowFree leftFree (by simp [rightFree]),
        second.eq_of_rowFree rightFree (by simp [leftFree])]
  | .method _ first rest => by
      obtain ⟨targetFree, argumentsFree⟩ := Bool.or_eq_false_iff.mp rowFree
      rw [first.eq_of_rowFree targetFree (by simp [targetFree, argumentsFree]),
        rest.eq_of_rowFree argumentsFree (by simp [targetFree, argumentsFree])]
  | .call _ inner | .record _ inner | .list inner => by
      rw [inner.eq_of_rowFree (by exact rowFree) (Bool.not_eq_true _ ▸ rowFree)]

theorem VariesAt.eq_of_rowFree {allowed : Prop} {expr other : Expr}
    (rowFree : expr.referencesRow = false) (forbidden : ¬allowed) :
    VariesAt map related allowed expr other → expr = other
  | .part inner => inner.eq_of_rowFree rowFree
  | .text _ here => absurd here forbidden

theorem VariesAll.eq_of_rowFree {allowed : Prop} {exprs others : List Expr}
    (rowFree : anyReferencesRow exprs = false) (forbidden : ¬allowed) :
    VariesAll map related allowed exprs others → exprs = others
  | .nil => rfl
  | .cons here later => by
      obtain ⟨firstFree, restFree⟩ := Bool.or_eq_false_iff.mp rowFree
      rw [here.eq_of_rowFree firstFree forbidden, later.eq_of_rowFree restFree forbidden]

theorem VariesFields.eq_of_rowFree {allowed : Prop} {fields others : List (String × Expr)}
    (rowFree : anyFieldReferencesRow fields = false) (forbidden : ¬allowed) :
    VariesFields map related allowed fields others → fields = others
  | .nil => rfl
  | .cons _ here later => by
      obtain ⟨firstFree, restFree⟩ := Bool.or_eq_false_iff.mp rowFree
      rw [here.eq_of_rowFree firstFree forbidden, later.eq_of_rowFree restFree forbidden]

end

end Expr

/-! ## Two runs of a step -/

namespace Compile

variable {α β : Type} {related : String → String → Prop}

/-- From constants that vary, both runs fail, or both give results that are alike and
constants that vary. -/
def Varies (related : String → String → Prop) (step other : Compile α)
    (alike : α → α → Prop) : Prop :=
  ∀ bound otherBound, List.Forall₂ (Value.Varies related) bound otherBound →
    (∃ error otherError, (step.outcome bound).1 = .error error ∧
      (other.outcome otherBound).1 = .error otherError) ∨
    ∃ result otherResult, (step.outcome bound).1 = .ok result ∧
      (other.outcome otherBound).1 = .ok otherResult ∧ alike result otherResult ∧
      List.Forall₂ (Value.Varies related) (step.outcome bound).2 (other.outcome otherBound).2

namespace Varies

variable {step other : Compile α} {next otherNext : α → Compile β}
variable {alike middle : α → α → Prop} {final : β → β → Prop}

theorem pure {result otherResult : α} (holds : alike result otherResult) :
    Varies related (Pure.pure result) (Pure.pure otherResult) alike :=
  fun _ _ varied => .inr ⟨result, otherResult, rfl, rfl, holds, varied⟩

theorem throw (error otherError : Error) :
    Varies related (MonadExcept.throw error : Compile α) (MonadExcept.throw otherError) alike :=
  fun _ _ _ => .inl ⟨error, otherError, rfl, rfl⟩

theorem fail (fault otherFault : Fault) :
    Varies related (Compile.fail fault : Compile α) (Compile.fail otherFault) alike :=
  throw _ _

theorem ofResult {result : Result α} (holds : ∀ value, result = .ok value → alike value value) :
    Varies related (Compile.ofResult result) (Compile.ofResult result) alike := by
  cases result with
  | error error => exact throw error error
  | ok value => exact pure (holds value rfl)

theorem mono {weaker : α → α → Prop} (varies : Varies related step other alike)
    (implies : ∀ result otherResult, alike result otherResult → weaker result otherResult) :
    Varies related step other weaker := by
  intro bound otherBound varied
  rcases varies bound otherBound varied with
    failed | ⟨result, otherResult, ran, otherRan, holds, after⟩
  · exact .inl failed
  · exact .inr ⟨result, otherResult, ran, otherRan, implies _ _ holds, after⟩

/-- Two steps one after another. -/
theorem bind (first : Varies related step other middle)
    (second : ∀ value otherValue, middle value otherValue →
      Varies related (next value) (otherNext otherValue) final) :
    Varies related (step >>= next) (other >>= otherNext) final := by
  intro bound otherBound varied
  have began := first bound otherBound varied
  rw [outcome_bind, outcome_bind]
  rcases ran : step.outcome bound with ⟨result, after⟩
  rcases otherRan : other.outcome otherBound with ⟨otherResult, otherAfter⟩
  simp only [ran, otherRan] at began
  rcases began with ⟨error, otherError, rfl, rfl⟩ |
    ⟨value, otherValue, rfl, rfl, holds, afterVaried⟩
  · exact .inl ⟨error, otherError, rfl, rfl⟩
  · exact second value otherValue holds after otherAfter afterVaried

/-- Constants that vary get the same slot. -/
theorem bind_constant {value otherValue : Value} (varied : value.Varies related otherValue) :
    Varies related (Compile.bind value) (Compile.bind otherValue) Eq := by
  intro bound otherBound earlier
  refine .inr ⟨_, _, rfl, rfl, congrArg Term.slot earlier.length_eq, ?_⟩
  exact List.rel_append earlier (.cons varied .nil)

end Varies

end Compile

namespace Operand

variable {map : TableMap} {related : String → String → Prop} {allowed : Prop}
variable {operand other : Operand}

/-- The same operand, or related texts where those are `allowed`. -/
inductive VariesAt (related : String → String → Prop) (allowed : Prop) :
    Operand → Operand → Prop where
  | same (operand : Operand) : VariesAt related allowed operand operand
  | text {text other : String} (varied : related text other) (here : allowed) :
      VariesAt related allowed (.constant (.string text)) (.constant (.string other))

/-- What two forms of an expression compile to. A column with a value map is compiled from
its field alone. -/
structure Alike (map : TableMap) (related : String → String → Prop) (allowed : Prop)
    (expr : Expr) (operand other : Operand) : Prop where
  varies : operand.VariesAt related allowed other
  coded : ∀ property, operand = .column property → property.valueMap.isSome = true →
    map.Codes expr

namespace VariesAt

theorem isNull_eq (varies : operand.VariesAt related allowed other) :
    operand.isNull = other.isNull := by
  cases varies <;> rfl

theorem render (varies : operand.VariesAt related allowed other) :
    Compile.Varies related operand.render other.render Eq := by
  cases varies with
  | same =>
      cases operand with
      | constant value => exact .bind_constant (.same value)
      | _ => exact .pure rfl
  | text varied _ => exact .bind_constant (.text varied)

theorem condition (varies : operand.VariesAt related allowed other) (expr otherExpr : Expr) :
    Compile.Varies related (operand.condition expr) (other.condition otherExpr) Eq := by
  cases varies with
  | same =>
      unfold Operand.condition
      split
      next property =>
        split
        next => exact .ofResult fun _ _ => rfl
        next => exact .fail _ _
      next => exact .pure rfl
      next => exact .fail _ _
      next => exact .pure rfl
  | text => exact .fail _ _

theorem negatedCondition (varies : operand.VariesAt related allowed other)
    (expr otherExpr : Expr) :
    Compile.Varies related (operand.negatedCondition expr) (other.negatedCondition otherExpr)
      Eq := by
  have complemented (operand other : Operand) (varies : operand.VariesAt related allowed other) :
      Compile.Varies related (do return Term.complement (← operand.condition expr))
        (do return Term.complement (← other.condition otherExpr)) Eq :=
    (varies.condition expr otherExpr).bind fun _ _ same => .pure (congrArg Term.complement same)
  cases varies with
  | same =>
      cases operand with
      | column property =>
          unfold Operand.negatedCondition
          dsimp only
          split
          next => exact .ofResult fun _ _ => rfl
          next => exact complemented _ _ (.same _)
      | _ => exact complemented _ _ (.same _)
  | text varied here => exact complemented _ _ (.text varied here)

/-- Two operands as values. -/
theorem render_both {left otherLeft right otherRight : Operand} {beside : Prop}
    (first : left.VariesAt related allowed otherLeft)
    (second : right.VariesAt related beside otherRight) {β : Type} {alike : β → β → Prop}
    {next otherNext : Term → Term → Compile β}
    (rest : ∀ first second, Compile.Varies related (next first second) (otherNext first second)
      alike) :
    Compile.Varies related
      (left.render >>= fun first => right.render >>= fun second => next first second)
      (otherLeft.render >>= fun first => otherRight.render >>= fun second =>
        otherNext first second) alike := by
  apply first.render.bind
  rintro first _ rfl
  apply second.render.bind
  rintro second _ rfl
  exact rest first second

theorem compareOperands {left otherLeft right otherRight : Operand} {beside : Prop}
    (op : Comparison) (first : left.VariesAt related allowed otherLeft)
    (second : right.VariesAt related beside otherRight) :
    Compile.Varies related (compareOperands op left right)
      (compareOperands op otherLeft otherRight) Eq := by
  unfold SqlMapper.compareOperands
  rw [← first.isNull_eq, ← second.isNull_eq]
  split
  next expected _ _ => exact first.render.bind fun _ _ same => .pure (by rw [same])
  next expected _ _ _ => exact second.render.bind fun _ _ same => .pure (by rw [same])
  next => exact first.render_both second fun _ _ => .pure rfl

theorem likeTerm (varies : operand.VariesAt related allowed other) (whole otherWhole : Expr)
    (test : String) (text : Term) :
    Compile.Varies related (likeTerm whole test text operand)
      (likeTerm otherWhole test text other) Eq := by
  have matching {value otherValue : Value} (varied : value.Varies related otherValue) :
      Compile.Varies related (do return Term.like text (← Compile.bind value))
        (do return Term.like text (← Compile.bind otherValue)) Eq :=
    (Compile.Varies.bind_constant varied).bind fun _ _ same => .pure (congrArg _ same)
  cases varies with
  | same =>
      unfold SqlMapper.likeTerm
      split
      next pattern =>
        split
        next => exact matching (.same _)
        next => exact .fail _ _
      next => exact .fail _ _
  | @text pattern otherPattern varied _ =>
      unfold SqlMapper.likeTerm
      dsimp only
      cases written : likePattern test pattern with
      | none =>
          rw [(likePattern_eq_none_iff otherPattern).mp written]
          exact .fail _ _
      | some found =>
          cases otherWritten : likePattern test otherPattern with
          | none =>
              rw [(likePattern_eq_none_iff pattern).mp otherWritten] at written
              cases written
          | some otherFound => exact matching (.pattern varied written otherWritten)

end VariesAt

/-- A constant that stands beside a column with a value map does not vary. -/
theorem Alike.storedBeside {left right : Expr} {first otherFirst second otherSecond : Operand}
    {beside : Prop} (firstAlike : first.Alike map related allowed left otherFirst)
    (secondAlike : second.Alike map related beside right otherSecond)
    (apart : beside → ¬map.Codes left) :
    Compile.Varies related (Compile.ofResult (first.storedBeside second))
      (Compile.ofResult (otherFirst.storedBeside otherSecond))
      (Alike map related beside right) := by
  obtain ⟨firstVaries, firstCoded⟩ := firstAlike
  obtain ⟨secondVaries, secondCoded⟩ := secondAlike
  cases secondVaries with
  | text varied here =>
      have plain : first.IsPlain := by
        cases first with
        | column property =>
            cases mapped : property.valueMap with
            | none => exact mapped
            | some codes =>
                exact absurd (firstCoded property rfl (by rw [mapped]; rfl)) (apart here)
        | _ => trivial
      have otherPlain : otherFirst.IsPlain := by
        cases firstVaries with
        | same => exact plain
        | text => trivial
      rw [plain.storedBeside, otherPlain.storedBeside]
      exact .pure ⟨.text varied here, secondCoded⟩
  | same =>
      cases firstVaries with
      | @text text otherText =>
          have plain (text : String) : (constant (.string text)).IsPlain := trivial
          rw [(plain text).storedBeside, (plain otherText).storedBeside]
          exact .pure ⟨.same second, secondCoded⟩
      | same =>
          refine .ofResult fun result stored => ⟨.same result, ?_⟩
          rintro property rfl
          exact secondCoded property (storedBeside_eq_column stored)

end Operand

/-! ## Two forms of an expression -/

namespace Expr

variable {map : TableMap} {related : String → String → Prop} {evaluator : Evaluator}

/-- What goes on with two operands once each has met the other. -/
theorem beside_then_varies {left otherLeft right otherRight : Expr} {allowed beside : Prop}
    {next otherNext : Operand → Operand → Compile Operand}
    {alike : Operand → Operand → Prop}
    (first : Compile.Varies related (left.operand map evaluator)
      (otherLeft.operand map evaluator) (Operand.Alike map related allowed left))
    (second : Compile.Varies related (right.operand map evaluator)
      (otherRight.operand map evaluator) (Operand.Alike map related beside right))
    (leftApart : allowed → ¬map.Codes right) (rightApart : beside → ¬map.Codes left)
    (rest : ∀ left otherLeft right otherRight, left.VariesAt related allowed otherLeft →
      right.VariesAt related beside otherRight →
      Compile.Varies related (next left right) (otherNext otherLeft otherRight) alike) :
    Compile.Varies related
      (do
        let first ← left.operand map evaluator
        let second ← right.operand map evaluator
        let second ← Compile.ofResult (first.storedBeside second)
        let first ← Compile.ofResult (second.storedBeside first)
        next first second)
      (do
        let first ← otherLeft.operand map evaluator
        let second ← otherRight.operand map evaluator
        let second ← Compile.ofResult (first.storedBeside second)
        let first ← Compile.ofResult (second.storedBeside first)
        otherNext first second) alike := by
  apply first.bind
  intro first otherFirst firstAlike
  apply second.bind
  intro second otherSecond secondAlike
  apply (firstAlike.storedBeside secondAlike rightApart).bind
  intro second otherSecond secondAlike
  apply (secondAlike.storedBeside firstAlike leftApart).bind
  intro first otherFirst firstAlike
  exact rest _ _ _ _ firstAlike.varies secondAlike.varies

/-- A term is compiled from no field. -/
theorem alike_term {expr : Expr} {term other : Term} (same : term = other) :
    Operand.Alike map related False expr (.term term) (.term other) :=
  ⟨same ▸ .same _, fun _ isColumn => nomatch isColumn⟩

theorem fold_varies (expr : Expr) :
    Compile.Varies related (fold evaluator expr) (fold evaluator expr)
      (Operand.Alike map related False expr) := by
  unfold fold
  split
  next => exact .pure ⟨.same _, fun _ isColumn => nomatch isColumn⟩
  next => exact .throw _ _

/-- What goes on with an operand as a value. -/
theorem render_then_varies {allowed : Prop} {expr other : Expr} {α : Type}
    {next otherNext : Term → Compile α} {alike : α → α → Prop}
    (first : Compile.Varies related (expr.operand map evaluator) (other.operand map evaluator)
      (Operand.Alike map related allowed expr))
    (rest : ∀ term, Compile.Varies related (next term) (otherNext term) alike) :
    Compile.Varies related (expr.operand map evaluator >>= fun operand => operand.render >>= next)
      (other.operand map evaluator >>= fun operand => operand.render >>= otherNext) alike := by
  apply first.bind
  intro operand otherOperand operandAlike
  apply operandAlike.varies.render.bind
  rintro term _ rfl
  exact rest term

theorem binary_varies {left otherLeft right otherRight : Expr} {allowed beside : Prop}
    (op : BinaryOp) (mentioned : (binary op left right).referencesRow = true)
    (otherMentioned : (binary op otherLeft otherRight).referencesRow = true)
    (first : Compile.Varies related (left.operand map evaluator)
      (otherLeft.operand map evaluator) (Operand.Alike map related allowed left))
    (second : Compile.Varies related (right.operand map evaluator)
      (otherRight.operand map evaluator) (Operand.Alike map related beside right))
    (leftApart : allowed → ¬map.Codes right) (rightApart : beside → ¬map.Codes left) :
    Compile.Varies related ((binary op left right).operand map evaluator)
      ((binary op otherLeft otherRight).operand map evaluator)
      (Operand.Alike map related False (binary op left right)) := by
  cases op with
  | connective op =>
      rw [operand_connective mentioned, operand_connective otherMentioned]
      apply first.bind
      intro first otherFirst firstAlike
      apply (firstAlike.varies.condition left otherLeft).bind
      rintro first _ rfl
      apply second.bind
      intro second otherSecond secondAlike
      apply (secondAlike.varies.condition right otherRight).bind
      rintro second _ rfl
      exact .pure (alike_term rfl)
  | comparison op =>
      rw [operand_comparison mentioned, operand_comparison otherMentioned]
      apply beside_then_varies first second leftApart rightApart
      intro first otherFirst second otherSecond firstVaries secondVaries
      apply (firstVaries.compareOperands op secondVaries).bind
      rintro term _ rfl
      exact .pure (alike_term rfl)
  | arithmetic op =>
      rw [operand_arithmetic mentioned, operand_arithmetic otherMentioned]
      apply beside_then_varies first second leftApart rightApart
      intro first otherFirst second otherSecond firstVaries secondVaries
      apply firstVaries.render_both secondVaries
      intro first second
      exact .pure (alike_term rfl)

theorem unary_varies {inner other : Expr} (op : UnaryOp)
    (mentioned : (unary op inner).referencesRow = true)
    (otherMentioned : (unary op other).referencesRow = true)
    (varies : Compile.Varies related (inner.operand map evaluator)
      (other.operand map evaluator) (Operand.Alike map related False inner)) :
    Compile.Varies related ((unary op inner).operand map evaluator)
      ((unary op other).operand map evaluator)
      (Operand.Alike map related False (unary op inner)) := by
  cases op with
  | neg =>
      rw [operand_neg mentioned, operand_neg otherMentioned]
      apply render_then_varies varies
      intro term
      exact .pure (alike_term rfl)
  | not =>
      rw [operand_not mentioned, operand_not otherMentioned]
      apply varies.bind
      intro operand otherOperand alike
      apply (alike.varies.negatedCondition inner other).bind
      rintro term _ rfl
      exact .pure (alike_term rfl)

/-- The arguments of two calls compile alike, one by one. -/
abbrev CompileAlike (map : TableMap) (related : String → String → Prop) (evaluator : Evaluator)
    (expr other : Expr) : Prop :=
  ∃ allowed, Compile.Varies related (expr.operand map evaluator) (other.operand map evaluator)
    (Operand.Alike map related allowed expr)

theorem methodOperand_varies {whole otherWhole : Expr} {name : String}
    {arguments others : List Expr} (text : Term)
    (rest : List.Forall₂ (CompileAlike map related evaluator) arguments others) :
    Compile.Varies related (methodOperand map evaluator whole text name arguments)
      (methodOperand map evaluator otherWhole text name others)
      (Operand.Alike map related False whole) := by
  -- Both runs take the branch of the same name and number of arguments.
  rcases rest with _ | ⟨⟨_, first⟩, _ | ⟨⟨_, second⟩, _ | ⟨_, _⟩⟩⟩
  · unfold methodOperand
    split
    case h_12 => exact .fail _ _
    all_goals first | exact .pure (alike_term rfl) | contradiction
  · unfold methodOperand
    split
    case h_7 same =>
      cases same
      apply render_then_varies first
      intro start
      exact .pure (alike_term rfl)
    case h_9 same | h_10 same | h_11 same =>
      cases same
      apply first.bind
      intro operand otherOperand alike
      apply (alike.varies.likeTerm whole otherWhole _ text).bind
      rintro term _ rfl
      exact .pure (alike_term rfl)
    case h_12 =>
      split
      case h_12 => exact .fail _ _
      all_goals simp_all
    all_goals
      rename_i same
      cases same
  · unfold methodOperand
    split
    case h_6 same =>
      cases same
      apply render_then_varies first
      intro pattern
      apply render_then_varies second
      intro replacement
      exact .pure (alike_term rfl)
    case h_8 same =>
      cases same
      apply render_then_varies first
      intro start
      apply render_then_varies second
      intro length
      exact .pure (alike_term rfl)
    case h_12 =>
      split
      case h_12 => exact .fail _ _
      all_goals simp_all
    all_goals
      rename_i same
      cases same
  · unfold methodOperand
    split
    case h_12 =>
      split
      case h_12 => exact .fail _ _
      all_goals simp_all
    all_goals
      rename_i same
      cases same

/-- A field of the row compiles to its column, and a member of anything else that mentions
the row does not compile. -/
theorem member_varies {target other : Expr} (name : String)
    (inner : Varies map related target other)
    (mentioned : (member target name).referencesRow = true)
    (otherMentioned : (member other name).referencesRow = true) :
    Compile.Varies related ((member target name).operand map evaluator)
      ((member other name).operand map evaluator)
      (Operand.Alike map related False (member target name)) := by
  rw [referencesRow] at mentioned otherMentioned
  cases inner with
  | row =>
      have looked : Compile.Varies related (Compile.ofResult (map.property name))
          (Compile.ofResult (map.property name))
          (fun property other => property = other ∧ map.property name = .ok property) :=
        .ofResult fun _ found => ⟨rfl, found⟩
      simp only [operand, isRow, if_true]
      apply looked.bind
      rintro property _ ⟨rfl, found⟩
      refine .pure ⟨.same _, ?_⟩
      intro other isColumn coded
      cases isColumn
      exact ⟨name, property, rfl, found, coded⟩
  | _ =>
      simp only [operand, isRow, mentioned, otherMentioned, if_true, Bool.false_eq_true, if_false]
      exact .fail _ _

theorem method_varies {target other : Expr} {arguments others : List Expr} {allowed : Prop}
    (name : String) (mentioned : (method target name arguments).referencesRow = true)
    (otherMentioned : (method other name others).referencesRow = true)
    (first : Compile.Varies related (target.operand map evaluator)
      (other.operand map evaluator) (Operand.Alike map related allowed target))
    (rest : List.Forall₂ (CompileAlike map related evaluator) arguments others) :
    Compile.Varies related ((method target name arguments).operand map evaluator)
      ((method other name others).operand map evaluator)
      (Operand.Alike map related False (method target name arguments)) := by
  rw [operand_method mentioned, operand_method otherMentioned]
  apply render_then_varies first
  intro text
  exact methodOperand_varies text rest

/-- What does not mention the row is the same in both forms and is evaluated. -/
theorem varies_by_mention {expr other : Expr} (varies : Varies map related expr other)
    (whenMentioned : expr.referencesRow = true → other.referencesRow = true →
      Compile.Varies related (expr.operand map evaluator) (other.operand map evaluator)
        (Operand.Alike map related False expr)) :
    Compile.Varies related (expr.operand map evaluator) (other.operand map evaluator)
      (Operand.Alike map related False expr) := by
  cases mentioned : expr.referencesRow with
  | true => exact whenMentioned mentioned (varies.referencesRow_eq ▸ mentioned)
  | false =>
      rw [← varies.eq_of_rowFree mentioned]
      cases composed : expr.isValue with
      | false =>
          rw [operand_of_rowFree mentioned composed]
          exact fold_varies expr
      | true =>
          cases expr with
          | value constant => exact .pure ⟨.same _, fun _ isColumn => nomatch isColumn⟩
          | _ => cases composed

mutual

/-- Forms of one expression compile to the same operand. -/
theorem Varies.operand (evaluator : Evaluator) {expr other : Expr} :
    Varies map related expr other →
      Compile.Varies related (expr.operand map evaluator) (other.operand map evaluator)
        (Operand.Alike map related False expr)
  | .row => .fail _ _
  | .value _ => .pure ⟨.same _, fun _ isColumn => nomatch isColumn⟩
  | .deferred _ _ => fold_varies _
  | .member name inner =>
      varies_by_mention (.member name inner) (member_varies name inner)
  | .binary op first second =>
      varies_by_mention (.binary op first second) fun mentioned otherMentioned =>
        binary_varies op mentioned otherMentioned (first.operand evaluator)
          (second.operand evaluator) And.right And.right
  | .unary op inner =>
      varies_by_mention (.unary op inner) fun mentioned otherMentioned =>
        unary_varies op mentioned otherMentioned (inner.operand evaluator)
  | .method name first rest =>
      varies_by_mention (.method name first rest) fun mentioned otherMentioned =>
        method_varies name mentioned otherMentioned (first.operand evaluator)
          (rest.operands evaluator)
  | .call name inner =>
      varies_by_mention (.call name inner) fun mentioned otherMentioned => by
        rw [referencesRow] at mentioned otherMentioned
        simpa only [Expr.operand, mentioned, otherMentioned, if_true] using .fail _ _
  | .record typeName inner =>
      varies_by_mention (.record typeName inner) fun mentioned otherMentioned => by
        rw [referencesRow] at mentioned otherMentioned
        simpa only [Expr.operand, mentioned, otherMentioned, if_true] using .fail _ _
  | .list inner =>
      varies_by_mention (.list inner) fun mentioned otherMentioned => by
        rw [referencesRow] at mentioned otherMentioned
        simpa only [Expr.operand, mentioned, otherMentioned, if_true] using .fail _ _

/-- In the place of an operand or argument, a text may have become another constant. -/
theorem VariesAt.operand (evaluator : Evaluator) {allowed : Prop} {expr other : Expr} :
    VariesAt map related allowed expr other →
      Compile.Varies related (expr.operand map evaluator) (other.operand map evaluator)
        (Operand.Alike map related allowed expr)
  | .part inner => (inner.operand evaluator).mono fun _ _ alike =>
      ⟨by cases alike.varies with
          | same => exact .same _
          | text _ here => exact here.elim, alike.coded⟩
  | .text varied here => .pure ⟨.text varied here, fun _ isColumn => nomatch isColumn⟩

theorem VariesAll.operands (evaluator : Evaluator) {allowed : Prop} {exprs others : List Expr} :
    VariesAll map related allowed exprs others →
      List.Forall₂ (CompileAlike map related evaluator) exprs others
  | .nil => .nil
  | .cons here later => .cons ⟨_, here.operand evaluator⟩ (later.operands evaluator)

end

/-- Forms of one predicate compile to the same condition. -/
theorem Varies.predicate (evaluator : Evaluator) {expr other : Expr}
    (varies : Varies map related expr other) :
    Compile.Varies related (expr.predicate map evaluator) (other.predicate map evaluator) Eq :=
  (varies.operand evaluator).bind fun _ _ alike => alike.varies.condition expr other

/-- Forms of one predicate both give no query, or they give queries of the same text and the
same names, and of values that vary. -/
theorem Varies.query (evaluator : Evaluator) (dialect : Dialect) (offset : Nat)
    {expr other : Expr} (varies : Varies map related expr other) :
    (∃ error otherError, expr.query map evaluator dialect offset = .error error ∧
      other.query map evaluator dialect offset = .error otherError) ∨
    ∃ sql values others, expr.query map evaluator dialect offset =
        .ok ⟨sql, .numbered offset values⟩ ∧
      other.query map evaluator dialect offset = .ok ⟨sql, .numbered offset others⟩ ∧
      List.Forall₂ (Value.Varies related) values others := by
  simp only [Expr.query, ← Params.numbered_nil, Params.compile_numbered]
  rcases varies.predicate evaluator [] [] .nil with ⟨error, otherError, failed, otherFailed⟩ |
    ⟨term, _, ran, otherRan, rfl, varied⟩
  · rw [failed, otherFailed]
    exact .inl ⟨error, otherError, rfl, rfl⟩
  · rw [ran, otherRan, varied.length_eq]
    exact .inr ⟨_, _, _, rfl, rfl, varied⟩

end Expr

end SqlMapper
