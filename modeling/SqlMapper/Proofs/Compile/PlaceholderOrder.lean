import SqlMapper.Proofs.Compile.BindingOrder

/-!
# Placeholders in the order of the parameters

A text has its placeholders in the order of the parameters unless a constant stands in
front of an operator that other constants follow, which are bound before it.
-/

namespace SqlMapper

namespace Term

/-- No constant stands in front of an operator that other constants follow. -/
def IsInTurn : Term → Prop
  | column _ | slot _ | truth _ | columnIs _ _ => True
  | comparison _ left right | arithmetic _ left right =>
    (left.isSlot = true → right.slots = []) ∧ left.IsInTurn ∧ right.IsInTurn
  | connective _ left right => left.IsInTurn ∧ right.IsInTurn
  | nullTest operand _ | complement operand | negative operand => operand.IsInTurn
  | apply _ argument => argument.IsInTurn
  | replace text pattern replacement =>
    (text.IsInTurn ∧ pattern.IsInTurn) ∧ replacement.IsInTurn
  | substring text start => text.IsInTurn ∧ start.IsInTurn
  | window text start length => (text.IsInTurn ∧ start.IsInTurn) ∧ length.IsInTurn
  | like text pattern => text.IsInTurn ∧ pattern.IsInTurn

variable {left right term : Term} {first second : List Nat}

theorem append_eq_append_iff_of_perm {own other : List Nat} (same : own.Perm first) :
    own ++ other = first ++ second ↔ own = first ∧ other = second :=
  ⟨fun equal => List.append_inj equal same.length_eq, fun ⟨left, right⟩ => by rw [left, right]⟩

/-- A constant stands in the order of the text when there is nothing to wait for. -/
theorem operatorOrder_eq_iff (distinct : (left.slots ++ right.slots).Nodup) :
    left.operatorOrder left.bindingOrder right.bindingOrder = left.slots ++ right.slots ↔
      (left.isSlot = true → right.slots = []) ∧ left.bindingOrder = left.slots ∧
        right.bindingOrder = right.slots := by
  have others : left.bindingOrder ++ right.bindingOrder = left.slots ++ right.slots ↔
      left.bindingOrder = left.slots ∧ right.bindingOrder = right.slots :=
    append_eq_append_iff_of_perm left.bindingOrder_perm
  cases left with
  | slot index =>
      have second := right.bindingOrder_perm
      have waits : (slot index).operatorOrder [index] right.bindingOrder =
          right.bindingOrder ++ [index] := if_pos rfl
      simp only [bindingOrder, slots, waits, isSlot, true_and, forall_const]
      constructor
      · intro equal
        cases written : right.bindingOrder with
        | nil =>
            rw [written, List.nil_perm] at second
            exact ⟨second, second.symm⟩
        | cons head rest =>
            rw [written, List.cons_append, List.singleton_append, List.cons.injEq] at equal
            have repeated : index ∈ right.slots :=
              second.subset (written ▸ equal.1 ▸ List.mem_cons_self)
            exact absurd repeated (List.nodup_cons.mp distinct).1
      · rintro ⟨empty, same⟩
        rw [same, empty]
        rfl
  | _ => simpa [operatorOrder, isSlot] using others

/-- The constants are bound in the order of the text exactly when none waits for others. -/
theorem bindingOrder_eq_slots_iff (distinct : term.slots.Nodup) :
    term.bindingOrder = term.slots ↔ term.IsInTurn := by
  induction term with
  | column _ | slot _ | truth _ | columnIs _ _ => exact iff_of_true rfl trivial
  | comparison _ left right leftIH rightIH | arithmetic _ left right leftIH rightIH =>
      rw [IsInTurn, ← leftIH distinct.of_append_left, ← rightIH distinct.of_append_right]
      exact operatorOrder_eq_iff distinct
  | connective _ left right leftIH rightIH | substring left right leftIH rightIH
  | like left right leftIH rightIH =>
      rw [IsInTurn, ← leftIH distinct.of_append_left, ← rightIH distinct.of_append_right]
      exact append_eq_append_iff_of_perm left.bindingOrder_perm
  | nullTest operand _ inductionHypothesis | complement operand inductionHypothesis
  | negative operand inductionHypothesis | apply _ operand inductionHypothesis =>
      exact inductionHypothesis distinct
  | replace one two three firstIH secondIH thirdIH
  | window one two three firstIH secondIH thirdIH =>
      have early := List.Nodup.of_append_left distinct
      rw [IsInTurn, ← firstIH early.of_append_left, ← secondIH early.of_append_right,
        ← thirdIH distinct.of_append_right, ← append_eq_append_iff_of_perm one.bindingOrder_perm]
      exact append_eq_append_iff_of_perm (one.bindingOrder_perm.append two.bindingOrder_perm)

end Term

namespace Expr

/-- A constant stands in front of an operator, and more than a field follows. -/
def LeadsWithConstant : Expr → Prop
  | binary (.comparison _) left right | binary (.arithmetic _) left right =>
    left.referencesRow = false ∧ right.IsCompound
  | _ => False

end Expr

namespace Operand

variable {constants : List Value} {operand left right : Operand} {written : Term}

/-- What is written already has its constants in turn. -/
def IsInTurn : Operand → Prop
  | column _ | constant _ => True
  | term result => result.IsInTurn

theorem IsInTurn.storedBeside {other met : Operand} (inTurn : operand.IsInTurn)
    (stored : other.storedBeside operand = .ok met) : met.IsInTurn := by
  rcases storedBeside_cases stored with rfl | ⟨_, _, rfl, rfl⟩
  · exact inTurn
  · trivial

theorem Renders.isSlot_eq (renders : operand.Renders constants written)
    (holds : operand.HoldsNoSlot) : written.isSlot = operand.isConstant := by
  cases operand with
  | column _ =>
      cases renders
      rfl
  | constant _ =>
      obtain ⟨index, -, rfl⟩ := renders
      rfl
  | term result =>
      cases renders
      exact holds

theorem Renders.isInTurn (renders : operand.Renders constants written)
    (inTurn : operand.IsInTurn) : written.IsInTurn := by
  cases operand with
  | column _ =>
      cases renders
      trivial
  | constant _ =>
      obtain ⟨index, -, rfl⟩ := renders
      trivial
  | term result =>
      cases renders
      exact inTurn

theorem Tests.isInTurn (tests : operand.Tests written) (inTurn : operand.IsInTurn) :
    written.IsInTurn := by
  cases operand with
  | column property =>
      obtain ⟨literal, rfl⟩ := Property.exists_columnIs_of_test tests.2
      trivial
  | constant _ =>
      obtain ⟨truth, -, rfl⟩ := tests
      trivial
  | term result =>
      cases tests
      exact inTurn

theorem Refutes.isInTurn (refutes : operand.Refutes written) (inTurn : operand.IsInTurn) :
    written.IsInTurn := by
  cases operand with
  | column property =>
      obtain ⟨literal, rfl⟩ := Property.exists_columnIs_of_test refutes.2
      trivial
  | constant _ | term _ =>
      obtain ⟨tested, tests, rfl⟩ := refutes
      exact tests.isInTurn inTurn

end Operand

namespace Expr

variable {map : TableMap} {evaluator : Evaluator} {constants : List Value}
variable {expr left right : Expr} {operand first second metLeft metRight : Operand}
variable {leftTerm rightTerm : Term}

/-- What follows a constant has no constants, unless it is compound. -/
theorem Compiles.operator_isInTurn (mentioned : (left.referencesRow || right.referencesRow) = true)
    (trails : ¬(left.referencesRow = false ∧ right.IsCompound))
    (leftTo : left.Compiles map evaluator constants first)
    (rightTo : right.Compiles map evaluator constants second)
    (meet : first.Meet second metLeft metRight)
    (leftRenders : metLeft.Renders constants leftTerm)
    (rightRenders : metRight.Renders constants rightTerm)
    (leftInTurn : first.IsInTurn) (rightInTurn : second.IsInTurn) :
    (leftTerm.isSlot = true → rightTerm.slots = []) ∧ leftTerm.IsInTurn ∧ rightTerm.IsInTurn := by
  obtain ⟨rightStored, leftStored⟩ := meet
  refine ⟨?_, leftRenders.isInTurn (leftInTurn.storedBeside leftStored),
    rightRenders.isInTurn (rightInTurn.storedBeside rightStored)⟩
  intro leads
  rw [leftRenders.isSlot_eq (leftTo.holdsNoSlot.storedBeside leftStored),
    Operand.isConstant_of_storedBeside leftStored, leftTo.isConstant_eq,
    Bool.not_eq_true'] at leads
  rw [leads, Bool.false_or] at mentioned
  rcases rightTo.forms with ⟨value, folds, -⟩ | ⟨name, property, -, -, rfl⟩ | ⟨compound, -⟩
  · rw [folds.referencesRow_eq] at mentioned
    cases mentioned
  · rw [Operand.storedBeside_column, Except.ok.injEq] at rightStored
    cases rightStored
    cases rightRenders
    rfl
  · exact absurd ⟨leads, compound⟩ trails

theorem isInTurn_foldr_apply (functions : List TextFunction) {text : Term}
    (inTurn : text.IsInTurn) : (functions.foldr Term.apply text).IsInTurn := by
  induction functions with
  | nil => exact inTurn
  | cons function rest inductionHypothesis => exact inductionHypothesis

/-- When nothing compound follows a constant in front of an operator, the constants are in
turn. -/
theorem Compiles.isInTurn (compiles : expr.Compiles map evaluator constants operand)
    (trails : ∀ part ∈ expr.parts, ¬part.LeadsWithConstant) : operand.IsInTurn := by
  induction compiles with
  | constant _ | column _ => trivial
  | connective mentioned leftTo rightTo leftTests rightTests leftIH rightIH =>
      obtain ⟨-, trails⟩ := List.forall_mem_cons.mp trails
      obtain ⟨inLeft, inRight⟩ := List.forall_mem_append.mp trails
      exact ⟨leftTests.isInTurn (leftIH inLeft), rightTests.isInTurn (rightIH inRight)⟩
  | comparison mentioned leftTo rightTo meet compares leftIH rightIH =>
      obtain ⟨own, trails⟩ := List.forall_mem_cons.mp trails
      obtain ⟨inLeft, inRight⟩ := List.forall_mem_append.mp trails
      cases compares with
      | nullRight test null renders =>
          exact renders.isInTurn ((leftIH inLeft).storedBeside meet.2)
      | nullLeft test notNull null renders =>
          exact renders.isInTurn ((rightIH inRight).storedBeside meet.1)
      | values noTest leftRenders rightRenders =>
          exact operator_isInTurn mentioned own leftTo rightTo meet leftRenders rightRenders
            (leftIH inLeft) (rightIH inRight)
  | arithmetic mentioned leftTo rightTo meet leftRenders rightRenders leftIH rightIH =>
      obtain ⟨own, trails⟩ := List.forall_mem_cons.mp trails
      obtain ⟨inLeft, inRight⟩ := List.forall_mem_append.mp trails
      exact operator_isInTurn mentioned own leftTo rightTo meet leftRenders rightRenders
        (leftIH inLeft) (rightIH inRight)
  | neg mentioned innerTo renders inductionHypothesis =>
      obtain ⟨-, trails⟩ := List.forall_mem_cons.mp trails
      exact renders.isInTurn (inductionHypothesis trails)
  | not mentioned innerTo refutes inductionHypothesis =>
      obtain ⟨-, trails⟩ := List.forall_mem_cons.mp trails
      exact refutes.isInTurn (inductionHypothesis trails)
  | change mentioned targetTo renders known inductionHypothesis =>
      obtain ⟨-, trails⟩ := List.forall_mem_cons.mp trails
      obtain ⟨inTarget, -⟩ := List.forall_mem_append.mp trails
      exact isInTurn_foldr_apply _ (renders.isInTurn (inductionHypothesis inTarget))
  | replace mentioned targetTo patternTo replacementTo renders patternRenders
      replacementRenders targetIH patternIH replacementIH =>
      simp only [parts, allParts, List.forall_mem_cons, List.forall_mem_append] at trails
      obtain ⟨-, inTarget, inPattern, inReplacement, -⟩ := trails
      exact ⟨⟨renders.isInTurn (targetIH inTarget), patternRenders.isInTurn (patternIH inPattern)⟩,
        replacementRenders.isInTurn (replacementIH inReplacement)⟩
  | substring mentioned targetTo startTo renders startRenders targetIH startIH =>
      simp only [parts, allParts, List.forall_mem_cons, List.forall_mem_append] at trails
      obtain ⟨-, inTarget, inStart, -⟩ := trails
      exact ⟨renders.isInTurn (targetIH inTarget), startRenders.isInTurn (startIH inStart)⟩
  | window mentioned targetTo startTo lengthTo renders startRenders lengthRenders targetIH
      startIH lengthIH =>
      simp only [parts, allParts, List.forall_mem_cons, List.forall_mem_append] at trails
      obtain ⟨-, inTarget, inStart, inLength, -⟩ := trails
      exact ⟨⟨renders.isInTurn (targetIH inTarget), startRenders.isInTurn (startIH inStart)⟩,
        lengthRenders.isInTurn (lengthIH inLength)⟩
  | like mentioned targetTo argumentTo renders known patternBound targetIH argumentIH =>
      simp only [parts, allParts, List.forall_mem_cons, List.forall_mem_append] at trails
      obtain ⟨-, inTarget, -⟩ := trails
      exact ⟨renders.isInTurn (targetIH inTarget), trivial⟩

end Expr

theorem Operand.Fills.isInTurn {constants : List Value} {operand : Operand} {written : Term}
    {place : Place} (fills : operand.Fills constants written place) (inTurn : operand.IsInTurn) :
    written.IsInTurn := by
  cases place with
  | condition => exact Tests.isInTurn fills inTurn
  | value => exact Renders.isInTurn fills inTurn
  | assignment property =>
      obtain ⟨met, stored, renders⟩ := fills
      exact renders.isInTurn (inTurn.storedBeside stored)

/-- Under distinct names, placeholders are in the order of the names when the slots are in
order. -/
theorem Term.placeholders_sql_eq_iff {term : Term} {names : List String} (distinct : names.Nodup)
    (used : term.slots.Perm (List.range names.length)) :
    placeholders (term.sql names) = names ↔ term.slots = List.range names.length := by
  rw [placeholders_sql]
  constructor
  · intro inOrder
    apply List.ext_getElem used.length_eq
    intro index inside _
    have known : term.slots[index] < names.length :=
      List.mem_range.mp (used.subset (List.getElem_mem inside))
    have named := List.getElem_of_eq inOrder (by simpa using inside)
    simp only [List.getElem_map, List.getD_eq_getElem?_getD, List.getElem?_eq_getElem known,
      Option.getD_some, distinct.getElem_inj_iff] at named
    rw [named, List.getElem_range]
  · intro inOrder
    rw [inOrder, map_getD_range]

/-- Whatever an expression is compiled for, its slots in binding order stand for the entries
that the compilation adds, in their order. So the placeholders are in the order of the
parameters exactly when no constant stands in front of an operator that other constants
follow; an expression where nothing compound follows such a constant is among these. -/
theorem placeholders_in_binding_order (compilation : Compilation) {params final : Params}
    {sql : Sql} (compiled : params.compile compilation.step = (.ok sql, final)) :
    ∃ added, params.Adds final added ∧ ∃ written,
      (compilation.step.outcome []).1 = .ok written ∧
      sql = written.sql (NameTable.names added) ∧
      written.bindingOrder.map (fun slot => (NameTable.names added).getD slot "") =
        NameTable.names added ∧
      (placeholders sql).Perm (NameTable.names added) ∧
      (placeholders sql = NameTable.names added ↔ written.IsInTurn) ∧
      ((∀ part ∈ compilation.expr.parts, ¬part.LeadsWithConstant) →
        placeholders sql = NameTable.names added) := by
  rw [params.compile_eq, Prod.mk.injEq] at compiled
  obtain ⟨emitted, rfl⟩ := compiled
  obtain ⟨written, success, rfl⟩ := Result.map_eq_ok.mp emitted
  have ran : compilation.step.outcome [] = (.ok written, (compilation.step.outcome []).2) :=
    Prod.ext success rfl
  generalize (compilation.step.outcome []).2 = constants at ran ⊢
  obtain ⟨-, operand, compiles, fills⟩ := compilation.step_shape [] written constants ran
  obtain ⟨-, fresh, grown, inTurn⟩ := compilation.step_in_turn [] written constants ran
  obtain ⟨length, adds⟩ := params.pushAll_adds constants
  have ownNames : NameTable.names ((params.pushAll constants).1.zip constants) =
      (params.pushAll constants).1 := List.map_fst_zip (Nat.le_of_eq length)
  refine ⟨_, adds, written, ?_⟩
  have distinct := adds.distinct
  rw [ownNames] at distinct ⊢
  generalize (params.pushAll constants).1 = names at length distinct ⊢
  have order : written.bindingOrder = List.range names.length := by
    rw [inTurn, length, grown, List.range_eq_range']
    rfl
  have used : written.slots.Perm (List.range names.length) :=
    order ▸ written.bindingOrder_perm.symm
  have inOrder : placeholders (written.sql names) = names ↔ written.IsInTurn := by
    rw [Term.placeholders_sql_eq_iff distinct used, ← order, eq_comm,
      Term.bindingOrder_eq_slots_iff (used.nodup_iff.mpr List.nodup_range)]
  refine ⟨success, rfl, ?_, Term.placeholders_sql_perm used, inOrder, fun trails => ?_⟩
  · rw [order, map_getD_range]
  · exact inOrder.mpr (fills.isInTurn (compiles.isInTurn trails))

namespace Invoice

/-- `p.amount + 1 == 3` -/
def nextIsThree : Expr :=
  .binary (.comparison .eq) (.binary (.arithmetic .add) (.field "amount") (.value (.i32 1)))
    (.value (.i32 3))

theorem nextIsThree_in_order :
    ∃ sql final, Params.empty.compile (nextIsThree.predicate mapping .standard) =
        (.ok sql, final) ∧ placeholders sql = final.names := by
  have trails : ∀ part ∈ nextIsThree.parts, ¬part.LeadsWithConstant := by
    simp [nextIsThree, Expr.parts, Expr.field, Expr.LeadsWithConstant, Expr.referencesRow]
  have compiled : Params.empty.compile (nextIsThree.predicate mapping .standard) =
      (.ok _, .numbered 0 [.i32 1, .i32 3]) := rfl
  obtain ⟨added, adds, written, -, -, -, -, -, inOrder⟩ := placeholders_in_binding_order
    ⟨mapping, .standard, nextIsThree, .condition⟩ compiled
  exact ⟨_, _, compiled, (inOrder trails).trans adds.names_eq.symm⟩

/-- `3 == p.amount + 1` -/
def threeIsNext : Expr :=
  .binary (.comparison .eq) (.value (.i32 3))
    (.binary (.arithmetic .add) (.field "amount") (.value (.i32 1)))

/-- A constant waits for the sum that follows it. -/
theorem threeIsNext_out_of_order :
    ∃ sql final, Params.empty.compile (threeIsNext.predicate mapping .standard) =
        (.ok sql, final) ∧
      sql = [.text "(", .placeholder "p1", .text " = ", .text "(", .identifier "amount",
        .text " + ", .placeholder "p0", .text ")", .text ")"] ∧
      final.entries = [("p0", .i32 1), ("p1", .i32 3)] ∧
      placeholders sql ≠ final.names :=
  ⟨_, _, rfl, rfl, rfl, by decide⟩

end Invoice

end SqlMapper
