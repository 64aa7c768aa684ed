import SqlMapper.Proofs.Compile.Step
import SqlMapper.Statement

/-!
# Predicates as templates

A predicate compiles to one template and one list of constants, whatever the
dialect and the offset of the generated names. `Expr.operand_uses` shows by
induction over expressions that every bound constant is referred to exactly once;
`predicate_template` puts the numbers and the dialect in.
-/

namespace SqlMapper

/-- The wording of terms: everything in a term that is neither a column, a
literal nor a constant. -/
def Term.wording : List String :=
  ["(", ")", "(1 = 1)", "(1 = 0)", " is null)", " is not null)", "not ", "(-",
    " = ", " <> ", " >= ", " > ", " <= ", " < ", " and ", " or ",
    " + ", " - ", " * ", " / ", " % ", " like ",
    "ltrim(", "rtrim(", "ucase(", "lcase(", "replace(", ", ", "substr(", " + 1)", " + 1, "]

namespace TableMap

/-- A mapped column. -/
def HasColumn (map : TableMap) (name : String) : Prop :=
  ∃ property ∈ map.properties, property.column = name

/-- A literal that stands for a truth value of some column. -/
def WritesLiteral (map : TableMap) (literal : Literal) : Prop :=
  ∃ property ∈ map.properties, ∃ truth stored,
    property.toStored (.bool truth) = .ok stored ∧ Literal.ofValue stored = .ok literal

theorem mem_of_property_eq_ok {map : TableMap} {name : String} {property : Property}
    (found : map.property name = .ok property) : property ∈ map.properties := by
  unfold TableMap.property at found
  split at found
  next result lookup =>
    cases found
    exact List.mem_of_find?_eq_some lookup
  next => cases found

theorem name_of_property_eq_ok {map : TableMap} {name : String} {property : Property}
    (found : map.property name = .ok property) : property.name = name := by
  unfold TableMap.property at found
  split at found
  next result lookup =>
    cases found
    simpa using List.find?_some lookup
  next => cases found

end TableMap

/-- What may stand in a template over a mapped row. -/
def Piece.IsOver {ρ : Type} (map : TableMap) : Piece ρ → Prop
  | text words => words ∈ Term.wording
  | raw _ | number _ => False
  | identifier name => map.HasColumn name
  | literal constant => map.WritesLiteral constant
  | placeholder _ => True

@[simp] theorem Piece.isOver_text {ρ : Type} {map : TableMap} {words : String} :
    (Piece.text words : Piece ρ).IsOver map ↔ words ∈ Term.wording := .rfl

@[simp] theorem Piece.isOver_identifier {ρ : Type} {map : TableMap} {name : String} :
    (Piece.identifier name : Piece ρ).IsOver map ↔ map.HasColumn name := .rfl

@[simp] theorem Piece.isOver_placeholder {ρ : Type} {map : TableMap} {parameter : ρ} :
    (Piece.placeholder parameter).IsOver map :=
  trivial

theorem Piece.isOver_map {ρ σ : Type} {map : TableMap} {rename : ρ → σ} {piece : Piece ρ} :
    (piece.map rename).IsOver map ↔ piece.IsOver map := by
  cases piece <;> rfl

/-- The columns and literals of a term belong to the map. -/
def Term.IsOver (map : TableMap) : Term → Prop
  | column name => map.HasColumn name
  | slot _ | truth _ => True
  | columnIs name literal => map.HasColumn name ∧ map.WritesLiteral literal
  | comparison _ left right | connective _ left right | arithmetic _ left right =>
    left.IsOver map ∧ right.IsOver map
  | nullTest operand _ | complement operand | negative operand => operand.IsOver map
  | apply _ argument => argument.IsOver map
  | replace text pattern replacement =>
    text.IsOver map ∧ pattern.IsOver map ∧ replacement.IsOver map
  | substring text start => text.IsOver map ∧ start.IsOver map
  | window text start length => text.IsOver map ∧ start.IsOver map ∧ length.IsOver map
  | like text pattern => text.IsOver map ∧ pattern.IsOver map

variable {map : TableMap}

/-- Two fragments over a map stay so with an operator between them. -/
theorem Term.isOver_of_mem_infixPieces {left right : Template} {symbol : String}
    (worded : " " ++ symbol ++ " " ∈ wording)
    (leftOver : ∀ piece ∈ left, piece.IsOver map)
    (rightOver : ∀ piece ∈ right, piece.IsOver map) :
    ∀ piece ∈ infixPieces left symbol right, piece.IsOver map := by
  intro piece member
  simp only [infixPieces, List.cons_append, List.mem_cons, List.mem_append,
    List.not_mem_nil, or_false] at member
  rcases member with rfl | (member | rfl | member) | rfl
  · exact (by decide : "(" ∈ wording)
  · exact leftOver piece member
  · exact worded
  · exact rightOver piece member
  · exact (by decide : ")" ∈ wording)

/-- A fragment over a map stays so with wording on both sides. -/
theorem Term.isOver_of_mem_wrapped {opening closing : String} {inner : Template}
    (opened : opening ∈ wording) (closed : closing ∈ wording)
    (innerOver : ∀ piece ∈ inner, piece.IsOver map) :
    ∀ piece ∈ .text opening :: inner ++ [.text closing], piece.IsOver map := by
  simp only [List.forall_mem_append, List.forall_mem_cons, Piece.isOver_text]
  exact ⟨⟨opened, innerOver⟩, closed, List.forall_mem_nil _⟩

/-- A term over a map is written with nothing but wording, columns, literals and
slots. -/
theorem Term.isOver_of_mem_pieces {term : Term} (isOver : term.IsOver map) :
    ∀ piece ∈ term.pieces, piece.IsOver map := by
  induction term with
  | column name => simpa [pieces, Piece.IsOver, IsOver] using isOver
  | slot index => simp [pieces, Piece.IsOver]
  | truth value => cases value <;> simp [pieces, Piece.IsOver, wording]
  | columnIs name literal =>
      apply isOver_of_mem_infixPieces (by decide)
      · simpa [Piece.IsOver] using isOver.1
      · simpa [Piece.IsOver] using isOver.2
  | comparison op left right leftIH rightIH =>
      exact isOver_of_mem_infixPieces (by cases op <;> decide) (leftIH isOver.1) (rightIH isOver.2)
  | connective op left right leftIH rightIH =>
      exact isOver_of_mem_infixPieces (by cases op <;> decide) (leftIH isOver.1) (rightIH isOver.2)
  | arithmetic op left right leftIH rightIH =>
      exact isOver_of_mem_infixPieces (by cases op <;> decide) (leftIH isOver.1) (rightIH isOver.2)
  | like text pattern textIH patternIH =>
      exact isOver_of_mem_infixPieces (by decide) (textIH isOver.1) (patternIH isOver.2)
  | nullTest operand expected inductionHypothesis =>
      apply isOver_of_mem_wrapped (by decide) (by cases expected <;> decide)
      exact inductionHypothesis isOver
  | complement operand inductionHypothesis =>
      rw [pieces, List.forall_mem_cons]
      exact ⟨(by decide : "not " ∈ wording), inductionHypothesis isOver⟩
  | negative operand inductionHypothesis =>
      exact isOver_of_mem_wrapped (by decide) (by decide) (inductionHypothesis isOver)
  | apply function argument inductionHypothesis =>
      apply isOver_of_mem_wrapped (by cases function <;> decide) (by decide)
      exact inductionHypothesis isOver
  | replace text pattern replacement textIH patternIH replacementIH =>
      obtain ⟨textOver, patternOver, replacementOver⟩ := isOver
      simp only [pieces, List.forall_mem_append, List.forall_mem_cons, Piece.isOver_text]
      exact ⟨⟨⟨⟨by decide, textIH textOver⟩, by decide, patternIH patternOver⟩,
        by decide, replacementIH replacementOver⟩, by decide, List.forall_mem_nil _⟩
  | substring text start textIH startIH =>
      obtain ⟨textOver, startOver⟩ := isOver
      simp only [pieces, List.forall_mem_append, List.forall_mem_cons, Piece.isOver_text]
      exact ⟨⟨⟨by decide, textIH textOver⟩, by decide, startIH startOver⟩, by decide,
        List.forall_mem_nil _⟩
  | window text start length textIH startIH lengthIH =>
      obtain ⟨textOver, startOver, lengthOver⟩ := isOver
      simp only [pieces, List.forall_mem_append, List.forall_mem_cons, Piece.isOver_text]
      exact ⟨⟨⟨⟨by decide, textIH textOver⟩, by decide, startIH startOver⟩,
        by decide, lengthIH lengthOver⟩, by decide, List.forall_mem_nil _⟩

namespace Operand

/-- The slots that an operand refers to. -/
def slots : Operand → List Nat
  | column _ | constant _ => []
  | term result => result.slots

/-- The columns and literals of an operand belong to the map. -/
def IsOver (map : TableMap) : Operand → Prop
  | column property => property ∈ map.properties
  | constant _ => True
  | term result => result.IsOver map

theorem render_uses {operand : Operand} (isOver : operand.IsOver map) :
    operand.render.Uses operand.slots Term.slots (Term.IsOver map) := by
  cases operand with
  | column property => exact .pure ⟨property, isOver, rfl⟩ (by simp [Term.slots, slots])
  | constant value =>
      exact (Compile.Uses.bind_constant value).weaken (by rintro _ ⟨index, rfl⟩; trivial)
  | term result => exact .pure isOver (.refl _)

/-- A constant takes its stored form without touching a slot. -/
theorem storedBeside_eq_ok {other operand result : Operand} (isOver : operand.IsOver map)
    (stored : other.storedBeside operand = .ok result) :
    result.IsOver map ∧ result.slots = operand.slots := by
  unfold storedBeside at stored
  split at stored
  next property value =>
    rcases form : property.toStored value with error | form
    · rw [form] at stored
      cases stored
    · rw [form] at stored
      cases stored
      exact ⟨trivial, rfl⟩
  next =>
    cases stored
    exact ⟨isOver, rfl⟩

end Operand

/-- Comparing a boolean column with the literal of a truth value binds nothing. -/
theorem Property.test_eq_ok {property : Property} {value : Bool} {term : Term}
    (mapped : property ∈ map.properties) (tested : property.test value = .ok term) :
    term.IsOver map ∧ term.slots = [] := by
  unfold Property.test at tested
  rcases form : property.toStored (.bool value) with error | stored
  · rw [form] at tested
    cases tested
  · rcases written : Literal.ofValue stored with error | literal
    · simp only [form, bind, Except.bind, written] at tested
      cases tested
    · simp only [form, bind, Except.bind, written] at tested
      cases tested
      exact ⟨⟨⟨property, mapped, rfl⟩, property, mapped, value, stored, form, written⟩, rfl⟩

namespace Operand

theorem condition_uses {operand : Operand} (isOver : operand.IsOver map) (expr : Expr) :
    (operand.condition expr).Uses operand.slots Term.slots (Term.IsOver map) := by
  unfold condition
  split
  next property =>
    split
    · apply Compile.Uses.ofResult
      intro term tested
      have ⟨termOver, noSlots⟩ := Property.test_eq_ok isOver tested
      exact ⟨termOver, by simp [noSlots, slots]⟩
    · exact .fail _
  next => exact .pure trivial (.refl _)
  next => exact .fail _
  next => exact .pure isOver (.refl _)

theorem negatedCondition_uses {operand : Operand} (isOver : operand.IsOver map) (expr : Expr) :
    (operand.negatedCondition expr).Uses operand.slots Term.slots (Term.IsOver map) := by
  have complemented : (do return Term.complement (← operand.condition expr)).Uses operand.slots
      Term.slots (Term.IsOver map) :=
    (condition_uses isOver expr).bind fun term termOver => .pure termOver (.refl _)
  unfold negatedCondition
  split
  next property =>
    split
    · apply Compile.Uses.ofResult
      intro term tested
      have ⟨termOver, noSlots⟩ := Property.test_eq_ok isOver tested
      exact ⟨termOver, by simp [noSlots, slots]⟩
    · exact complemented
  next => exact complemented

/-- What goes on with two operands as values. -/
theorem render_both_then_uses {β : Type} {left right : Operand} {slots : β → List Nat}
    {sound : β → Prop} {next : Term → Term → Compile β}
    (leftOver : left.IsOver map) (rightOver : right.IsOver map)
    (rest : ∀ first second, first.IsOver map → second.IsOver map →
      (next first second).Uses (first.slots ++ second.slots) slots sound) :
    (left.render >>= fun first => right.render >>= fun second => next first second).Uses
      (left.slots ++ right.slots) slots sound := by
  apply ((render_uses leftOver).frameRight right.slots).bind
  intro first firstOver
  apply ((render_uses rightOver).frameLeft first.slots).bind
  intro second secondOver
  exact rest first second firstOver secondOver

/-- A constant has no slots. -/
theorem slots_of_isNull {operand : Operand} (null : operand.isNull = true) :
    operand.slots = [] := by
  unfold isNull at null
  split at null
  · rfl
  · cases null

end Operand

theorem compareOperands_uses {left right : Operand} (op : Comparison)
    (leftOver : left.IsOver map) (rightOver : right.IsOver map) :
    (compareOperands op left right).Uses (left.slots ++ right.slots) Term.slots
      (Term.IsOver map) := by
  unfold compareOperands
  split
  next expected _ rightNull =>
    rw [Operand.slots_of_isNull rightNull, List.append_nil]
    exact (Operand.render_uses leftOver).bind fun term termOver => .pure termOver (.refl _)
  next expected _ _ leftNull =>
    rw [Operand.slots_of_isNull leftNull, List.nil_append]
    exact (Operand.render_uses rightOver).bind fun term termOver => .pure termOver (.refl _)
  next =>
    exact Operand.render_both_then_uses leftOver rightOver
      fun first second firstOver secondOver => .pure ⟨firstOver, secondOver⟩ (.refl _)

theorem likeTerm_uses {text : Term} {argument : Operand} (whole : Expr) (test : String)
    (textOver : text.IsOver map) :
    (likeTerm whole test text argument).Uses (text.slots ++ argument.slots) Term.slots
      (Term.IsOver map) := by
  unfold likeTerm
  split
  next pattern =>
    split
    · refine ((Compile.Uses.bind_constant _).frameLeft text.slots).bind ?_
      rintro _ ⟨index, rfl⟩
      exact .pure ⟨textOver, trivial⟩ (.refl _)
    · exact .fail _
  next => exact .fail _

namespace Expr

variable (evaluator : Evaluator)

theorem fold_uses (expr : Expr) :
    (fold evaluator expr).Uses [] Operand.slots (Operand.IsOver map) := by
  unfold fold
  split
  · exact .pure trivial (.refl _)
  · exact .throw _

section Operands

variable {β : Type} {compiled : Compile Operand} {held : List Nat}
variable {slots : β → List Nat} {sound : β → Prop}

/-- What goes on with an operand as a value. -/
theorem render_then_uses {next : Term → Compile β}
    (first : compiled.Uses [] Operand.slots (Operand.IsOver map))
    (second : ∀ term, term.IsOver map → (next term).Uses (held ++ term.slots) slots sound) :
    (compiled >>= fun operand => operand.render >>= next).Uses held slots sound := by
  have framed := first.frameLeft held
  rw [List.append_nil] at framed
  apply framed.bind
  intro operand operandOver
  exact ((Operand.render_uses operandOver).frameLeft held).bind second

/-- What goes on with an operand as a condition. -/
theorem condition_then_uses {next : Term → Compile β} (expr : Expr)
    (first : compiled.Uses [] Operand.slots (Operand.IsOver map))
    (second : ∀ term, term.IsOver map → (next term).Uses (held ++ term.slots) slots sound) :
    (compiled >>= fun operand => operand.condition expr >>= next).Uses held slots sound := by
  have framed := first.frameLeft held
  rw [List.append_nil] at framed
  apply framed.bind
  intro operand operandOver
  exact ((Operand.condition_uses operandOver expr).frameLeft held).bind second

/-- What goes on with two operands once each has met the other. -/
theorem beside_then_uses {other : Compile Operand} {next : Operand → Operand → Compile β}
    (first : compiled.Uses [] Operand.slots (Operand.IsOver map))
    (second : other.Uses [] Operand.slots (Operand.IsOver map))
    (rest : ∀ left right, left.IsOver map → right.IsOver map →
      (next left right).Uses (left.slots ++ right.slots) slots sound) :
    (do
      let left ← compiled
      let right ← other
      let right ← Compile.ofResult (left.storedBeside right)
      let left ← Compile.ofResult (right.storedBeside left)
      next left right).Uses [] slots sound := by
  apply first.bind
  intro left leftOver
  have framed := second.frameLeft left.slots
  rw [List.append_nil] at framed
  apply framed.bind
  intro right rightOver
  have rightMet : (Compile.ofResult (left.storedBeside right)).Uses (left.slots ++ right.slots)
      (fun right => left.slots ++ right.slots) (Operand.IsOver map) :=
    .ofResult fun result stored =>
      have ⟨isOver, same⟩ := Operand.storedBeside_eq_ok rightOver stored
      ⟨isOver, .of_eq (by rw [same])⟩
  apply rightMet.bind
  intro right rightOver
  have leftMet : (Compile.ofResult (right.storedBeside left)).Uses (left.slots ++ right.slots)
      (fun left => left.slots ++ right.slots) (Operand.IsOver map) :=
    .ofResult fun result stored =>
      have ⟨isOver, same⟩ := Operand.storedBeside_eq_ok leftOver stored
      ⟨isOver, .of_eq (by rw [same])⟩
  exact leftMet.bind fun left leftOver => rest left right leftOver rightOver

end Operands

/-- Every expression compiles to an operand that refers to each constant it binds
exactly once, and otherwise to columns and literals of the map. -/
theorem operand_uses (expr : Expr) :
    (expr.operand map evaluator).Uses [] Operand.slots (Operand.IsOver map) := by
  fun_induction operand map evaluator expr with
  | case1 constant => exact .pure trivial (.refl _)
  | case2 => exact .fail _
  | case3 | case6 | case7 | case11 | case14 | case17 | case19 | case21 =>
      exact fold_uses evaluator _
  | case5 | case16 | case18 | case20 => exact .fail _
  | case4 target name isRow =>
      have looked : (Compile.ofResult (map.property name)).Uses [] (fun _ => [])
          (· ∈ map.properties) :=
        .ofResult fun property found => ⟨TableMap.mem_of_property_eq_ok found, .refl _⟩
      exact looked.bind fun property mapped => .pure mapped (.refl _)
  | case8 left right mentioned op leftIH rightIH =>
      apply condition_then_uses left leftIH
      intro first firstOver
      apply condition_then_uses right rightIH
      intro second secondOver
      exact .pure ⟨firstOver, secondOver⟩ (.refl _)
  | case9 left right mentioned op leftIH rightIH =>
      apply beside_then_uses leftIH rightIH
      intro left right leftOver rightOver
      exact (compareOperands_uses op leftOver rightOver).bind fun term isOver =>
        .pure isOver (.refl _)
  | case10 left right mentioned op leftIH rightIH =>
      apply beside_then_uses leftIH rightIH
      intro left right leftOver rightOver
      exact Operand.render_both_then_uses leftOver rightOver
        fun first second firstOver secondOver => .pure ⟨firstOver, secondOver⟩ (.refl _)
  | case12 inner mentioned inductionHypothesis =>
      exact render_then_uses inductionHypothesis fun term isOver => .pure isOver (.refl _)
  | case13 inner mentioned inductionHypothesis =>
      apply inductionHypothesis.bind
      intro operand operandOver
      exact (Operand.negatedCondition_uses operandOver inner).bind fun term isOver =>
        .pure isOver (.refl _)
  | case15 target name arguments mentioned targetIH argumentsIH =>
      apply render_then_uses targetIH
      intro text textOver
      rw [List.nil_append]
      split at argumentsIH
      case h_6 pattern replacement =>
        apply render_then_uses argumentsIH.1
        intro pattern patternOver
        apply render_then_uses argumentsIH.2
        intro replacement replacementOver
        exact .pure ⟨textOver, patternOver, replacementOver⟩ (.refl _)
      case h_7 start =>
        apply render_then_uses argumentsIH
        intro start startOver
        exact .pure ⟨textOver, startOver⟩ (.refl _)
      case h_8 start length =>
        apply render_then_uses argumentsIH.1
        intro start startOver
        apply render_then_uses argumentsIH.2
        intro length lengthOver
        exact .pure ⟨textOver, startOver, lengthOver⟩ (.refl _)
      case h_9 argument | h_10 argument | h_11 argument =>
        have framed := argumentsIH.frameLeft text.slots
        rw [List.append_nil] at framed
        apply framed.bind
        intro argument argumentOver
        exact (likeTerm_uses _ _ textOver).bind fun term isOver => .pure isOver (.refl _)
      case h_12 => exact .fail _
      all_goals exact .pure textOver (.refl _)

theorem predicate_uses (expr : Expr) :
    (expr.predicate map evaluator).Uses [] Term.slots (Term.IsOver map) :=
  (operand_uses evaluator expr).bind fun _ isOver => Operand.condition_uses isOver expr

theorem assignment_uses (property : Property) (expr : Expr) :
    (expr.assignment map evaluator property).Uses [] Term.slots (Term.IsOver map) := by
  apply (operand_uses evaluator expr).bind
  intro operand isOver
  split
  next result =>
    have stored : (Compile.ofResult (property.toStored result)).Uses [] (fun _ => [])
        (fun _ => True) :=
      .ofResult fun _ _ => ⟨trivial, .refl _⟩
    have constant (value : Value) : (Operand.constant value).IsOver map := trivial
    exact stored.bind fun value _ => Operand.render_uses (constant value)
  next => exact Operand.render_uses isOver

end Expr

/-- The fragment in which each slot names the parameter whose number is the slot
counted from `offset`. -/
def Template.numbered (offset : Nat) (template : Template) : Sql :=
  template.map (Piece.map fun slot => Params.generatedName (offset + slot))

/-- Naming the slots by consecutive numbers reaches every slot that was bound. -/
theorem Term.sql_numbers {term : Term} {count : Nat} (offset : Nat)
    (bound : ∀ slot ∈ term.slots, slot < count) :
    term.sql (Params.generatedNames offset count) =
      Template.numbered offset term.pieces := by
  apply List.map_congr_left
  intro piece member
  cases piece with
  | placeholder slot =>
      have isSlot : slot ∈ term.slots := by
        rw [← term.placeholders_pieces]
        exact List.mem_filterMap.mpr ⟨_, member, rfl⟩
      simp only [Piece.map, Params.getD_generatedNames (bound slot isSlot)]
  | _ => rfl

/-- Naming the slots leaves everything else over the map. -/
theorem Term.isOver_of_mem_sql {term : Term} {names : List String} (isOver : term.IsOver map) :
    ∀ piece ∈ term.sql names, piece.IsOver map := by
  intro piece member
  obtain ⟨own, ownMember, rfl⟩ := List.mem_map.mp member
  exact Piece.isOver_map.mpr (isOver_of_mem_pieces isOver own ownMember)

/-- A step compiled against numbered parameters: its constants get the next
numbers. -/
theorem Params.compile_numbered (first : Nat) (values : List Value) (step : Compile Term) :
    (numbered first values).compile step =
      ((step.outcome []).1.map fun term =>
          term.sql (generatedNames (first + values.length) (step.outcome []).2.length),
        numbered first (values ++ (step.outcome []).2)) := by
  simp only [Params.compile, pushAll_numbered]
  rfl

end SqlMapper
