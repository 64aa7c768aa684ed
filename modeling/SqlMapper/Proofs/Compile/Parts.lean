import SqlMapper.Proofs.Compile.Shape

/-!
# Parts of a compiled expression

Whatever is inside an expression is compiled with it, and its text stands in the text of
the whole: what surrounds an operand does not change how the operand is written.
-/

namespace SqlMapper

namespace Term

/-- The terms that a term is written around. -/
def operands : Term → List Term
  | column _ | slot _ | truth _ | columnIs _ _ => []
  | comparison _ left right | connective _ left right | arithmetic _ left right => [left, right]
  | nullTest operand _ | complement operand | negative operand => [operand]
  | apply _ argument => [argument]
  | replace text pattern replacement => [text, pattern, replacement]
  | substring text start => [text, start]
  | window text start length => [text, start, length]
  | like text pattern => [text, pattern]

theorem within_infixPieces {inner left right : Template} (symbol : String)
    (side : inner = left ∨ inner = right) : inner <:+: infixPieces left symbol right := by
  rcases side with rfl | rfl
  · exact ⟨[.text "("], .text (" " ++ symbol ++ " ") :: right ++ [.text ")"],
      by simp [infixPieces]⟩
  · exact ⟨.text "(" :: left ++ [.text (" " ++ symbol ++ " ")], [.text ")"],
      by simp [infixPieces]⟩

/-- An operand stands in the text of the term in one piece. -/
theorem pieces_within {inner outer : Term} (member : inner ∈ outer.operands) :
    inner.pieces <:+: outer.pieces := by
  cases outer with
  | column _ | slot _ | truth _ | columnIs _ _ => cases member
  | comparison op left right | connective op left right | arithmetic op left right
  | like left right =>
      apply within_infixPieces
      simp only [operands, List.mem_cons, List.not_mem_nil, or_false] at member
      exact member.imp (congrArg pieces) (congrArg pieces)
  | nullTest operand expected =>
      cases List.mem_singleton.mp member
      exact ⟨[.text "("], [_], rfl⟩
  | complement operand =>
      cases List.mem_singleton.mp member
      exact ⟨[.text "not "], [], List.append_nil _⟩
  | negative operand =>
      cases List.mem_singleton.mp member
      exact ⟨[.text "(-"], [_], rfl⟩
  | apply function argument =>
      cases List.mem_singleton.mp member
      exact ⟨[_], [_], rfl⟩
  | replace text pattern replacement =>
      simp only [operands, List.mem_cons, List.not_mem_nil, or_false] at member
      rcases member with rfl | rfl | rfl
      · exact ⟨[.text "replace("], .text ", " :: pattern.pieces ++ .text ", " ::
          replacement.pieces ++ [.text ")"], by simp [pieces]⟩
      · exact ⟨.text "replace(" :: text.pieces ++ [.text ", "], .text ", " ::
          replacement.pieces ++ [.text ")"], by simp [pieces]⟩
      · exact ⟨.text "replace(" :: text.pieces ++ .text ", " :: pattern.pieces ++ [.text ", "],
          [.text ")"], by simp [pieces]⟩
  | substring text start =>
      simp only [operands, List.mem_cons, List.not_mem_nil, or_false] at member
      rcases member with rfl | rfl
      · exact ⟨[.text "substr("], .text ", " :: start.pieces ++ [.text " + 1)"],
          by simp [pieces]⟩
      · exact ⟨.text "substr(" :: text.pieces ++ [.text ", "], [.text " + 1)"],
          by simp [pieces]⟩
  | window text start length =>
      simp only [operands, List.mem_cons, List.not_mem_nil, or_false] at member
      rcases member with rfl | rfl | rfl
      · exact ⟨[.text "substr("], .text ", " :: start.pieces ++ .text " + 1, " ::
          length.pieces ++ [.text ")"], by simp [pieces]⟩
      · exact ⟨.text "substr(" :: text.pieces ++ [.text ", "], .text " + 1, " ::
          length.pieces ++ [.text ")"], by simp [pieces]⟩
      · exact ⟨.text "substr(" :: text.pieces ++ .text ", " :: start.pieces ++
          [.text " + 1, "], [.text ")"], by simp [pieces]⟩

theorem pieces_within_foldr_apply (functions : List TextFunction) (text : Term) :
    text.pieces <:+: (functions.foldr apply text).pieces := by
  induction functions with
  | nil => exact List.infix_rfl
  | cons function rest inductionHypothesis =>
      exact inductionHypothesis.trans (pieces_within (List.mem_singleton.mpr rfl))

end Term

namespace Operand

variable {left right metLeft metRight : Operand} {op : Comparison} {constants : List Value}
variable {inner written : Term} {property : Property}

/-- Only constants are changed by what they stand beside. -/
theorem storedBeside_term (other : Operand) (term : Term) :
    other.storedBeside (.term term) = .ok (.term term) := by
  cases other <;> rfl

theorem storedBeside_column (other : Operand) (property : Property) :
    other.storedBeside (.column property) = .ok (.column property) := by
  cases other <;> rfl

/-- A constant that is changed stays a constant. -/
theorem storedBeside_cases {other operand met : Operand}
    (stored : other.storedBeside operand = .ok met) :
    met = operand ∨ ∃ value form, operand = .constant value ∧ met = .constant form := by
  cases operand with
  | constant value =>
      cases other with
      | column property =>
          obtain ⟨form, -, rfl⟩ := Result.map_eq_ok.mp stored
          exact .inr ⟨value, form, rfl, rfl⟩
      | constant _ | term _ =>
          cases stored
          exact .inl rfl
  | column _ | term _ => cases other <;> cases stored <;> exact .inl rfl

theorem Meet.left_term (meet : (term inner).Meet right metLeft metRight) :
    metLeft = .term inner := by
  have same := meet.2
  rw [storedBeside_term, Except.ok.injEq] at same
  exact same.symm

theorem Meet.right_term (meet : left.Meet (term inner) metLeft metRight) :
    metRight = .term inner := by
  have same := meet.1
  rw [storedBeside_term, Except.ok.injEq] at same
  exact same.symm

/-- A column stays what it is, and the other operand takes its form beside the column. -/
theorem Meet.left_column (meet : (column property).Meet right metLeft metRight) :
    metLeft = .column property ∧ (column property).storedBeside right = .ok metRight := by
  have same := meet.2
  rw [storedBeside_column, Except.ok.injEq] at same
  exact ⟨same.symm, meet.1⟩

theorem Meet.right_column (meet : left.Meet (column property) metLeft metRight) :
    metRight = .column property ∧ (column property).storedBeside left = .ok metLeft := by
  have same := meet.1
  rw [storedBeside_column, Except.ok.injEq] at same
  exact ⟨same.symm, same.symm ▸ meet.2⟩

end Operand

namespace Expr

variable {map : TableMap} {evaluator : Evaluator} {constants : List Value}
variable {whole node : Expr} {operand left right metLeft metRight : Operand}
variable {own written around : Term} {op : Comparison}

/-- The expression is compiled, and its text stands in that of the operand. -/
def StandsIn (map : TableMap) (evaluator : Evaluator) (constants : List Value) (node : Expr)
    (operand : Operand) : Prop :=
  ∃ own outer, node.Compiles map evaluator constants (.term own) ∧ operand = .term outer ∧
    own.pieces <:+: outer.pieces

namespace StandsIn

theorem self (compiles : node.Compiles map evaluator constants (.term own)) :
    node.StandsIn map evaluator constants (.term own) :=
  ⟨own, own, compiles, rfl, List.infix_rfl⟩

/-- What stands in an operand stands in the term that the operand is written into. -/
theorem rendered (stands : node.StandsIn map evaluator constants operand)
    (renders : operand.Renders constants written) (placed : written ∈ around.operands) :
    node.StandsIn map evaluator constants (.term around) := by
  obtain ⟨own, outer, compiles, rfl, inside⟩ := stands
  cases renders
  exact ⟨own, around, compiles, rfl, inside.trans (Term.pieces_within placed)⟩

theorem tested (stands : node.StandsIn map evaluator constants operand)
    (tests : operand.Tests written) (placed : written ∈ around.operands) :
    node.StandsIn map evaluator constants (.term around) := by
  obtain ⟨own, outer, compiles, rfl, inside⟩ := stands
  cases tests
  exact ⟨own, around, compiles, rfl, inside.trans (Term.pieces_within placed)⟩

theorem refuted (stands : node.StandsIn map evaluator constants operand)
    (refutes : operand.Refutes written) : node.StandsIn map evaluator constants (.term written) := by
  obtain ⟨own, outer, compiles, rfl, inside⟩ := stands
  obtain ⟨_, rfl, rfl⟩ := refutes
  exact ⟨own, _, compiles, rfl, inside.trans (Term.pieces_within (.head _))⟩

/-- Texts stay what they are beside other operands. -/
theorem leftMet (stands : node.StandsIn map evaluator constants left)
    (meet : left.Meet right metLeft metRight) : node.StandsIn map evaluator constants metLeft := by
  obtain ⟨own, outer, compiles, rfl, inside⟩ := stands
  exact ⟨own, outer, compiles, meet.left_term, inside⟩

theorem rightMet (stands : node.StandsIn map evaluator constants right)
    (meet : left.Meet right metLeft metRight) : node.StandsIn map evaluator constants metRight := by
  obtain ⟨own, outer, compiles, rfl, inside⟩ := stands
  exact ⟨own, outer, compiles, meet.right_term, inside⟩

/-- A comparison is written around both sides, or around the one that is tested for null. -/
theorem comparedLeft (stands : node.StandsIn map evaluator constants left)
    (compares : left.Compares constants op right written) :
    node.StandsIn map evaluator constants (.term written) := by
  cases compares with
  | nullRight test null renders => exact stands.rendered renders (.head _)
  | nullLeft test notNull null renders =>
      obtain ⟨_, _, -, rfl, -⟩ := stands
      cases null
  | values noTest leftRenders rightRenders => exact stands.rendered leftRenders (.head _)

theorem comparedRight (stands : node.StandsIn map evaluator constants right)
    (compares : left.Compares constants op right written) :
    node.StandsIn map evaluator constants (.term written) := by
  cases compares with
  | nullRight test null renders =>
      obtain ⟨_, _, -, rfl, -⟩ := stands
      cases null
  | nullLeft test notNull null renders => exact stands.rendered renders (.head _)
  | values noTest leftRenders rightRenders =>
      exact stands.rendered rightRenders (.tail _ (.head _))

end StandsIn

/-- Whatever is inside an expression is compiled with it, and stands in its text. -/
theorem Compiles.of_mem_parts (compiles : whole.Compiles map evaluator constants operand)
    (member : node ∈ whole.parts) (compound : node.IsCompound) (notRow : node.isRow = false) :
    node.StandsIn map evaluator constants operand := by
  induction compiles with
  | constant folds =>
      have rowFree := rowFree_of_mem_parts folds.referencesRow_eq member
      exact absurd compound.1 (by simp [rowFree])
  | column found =>
      rcases List.mem_cons.mp member with rfl | isRow
      · cases compound.2
      · cases List.mem_singleton.mp isRow
        cases notRow
  | connective mentioned leftTo rightTo leftTests rightTests leftIH rightIH =>
      rcases List.mem_cons.mp member with rfl | inside
      · exact .self (.connective mentioned leftTo rightTo leftTests rightTests)
      rcases List.mem_append.mp inside with inLeft | inRight
      · exact (leftIH inLeft).tested leftTests (.head _)
      · exact (rightIH inRight).tested rightTests (.tail _ (.head _))
  | comparison mentioned leftTo rightTo meet compares leftIH rightIH =>
      rcases List.mem_cons.mp member with rfl | inside
      · exact .self (.comparison mentioned leftTo rightTo meet compares)
      rcases List.mem_append.mp inside with inLeft | inRight
      · exact ((leftIH inLeft).leftMet meet).comparedLeft compares
      · exact ((rightIH inRight).rightMet meet).comparedRight compares
  | arithmetic mentioned leftTo rightTo meet leftRenders rightRenders leftIH rightIH =>
      rcases List.mem_cons.mp member with rfl | inside
      · exact .self (.arithmetic mentioned leftTo rightTo meet leftRenders rightRenders)
      rcases List.mem_append.mp inside with inLeft | inRight
      · exact ((leftIH inLeft).leftMet meet).rendered leftRenders (.head _)
      · exact ((rightIH inRight).rightMet meet).rendered rightRenders (.tail _ (.head _))
  | neg mentioned innerTo renders inductionHypothesis =>
      rcases List.mem_cons.mp member with rfl | inside
      · exact .self (.neg mentioned innerTo renders)
      · exact (inductionHypothesis inside).rendered renders (.head _)
  | not mentioned innerTo refutes inductionHypothesis =>
      rcases List.mem_cons.mp member with rfl | inside
      · exact .self (.not mentioned innerTo refutes)
      · exact (inductionHypothesis inside).refuted refutes
  | change mentioned targetTo renders known inductionHypothesis =>
      rcases List.mem_cons.mp member with rfl | inside
      · exact .self (.change mentioned targetTo renders known)
      rcases List.mem_append.mp inside with inTarget | inArguments
      · obtain ⟨own, outer, compiles, rfl, ownInside⟩ := inductionHypothesis inTarget
        cases renders
        exact ⟨own, _, compiles, rfl, ownInside.trans (Term.pieces_within_foldr_apply _ _)⟩
      · cases inArguments
  | replace mentioned targetTo patternTo replacementTo renders patternRenders
      replacementRenders targetIH patternIH replacementIH =>
      rcases List.mem_cons.mp member with rfl | inside
      · exact .self (.replace mentioned targetTo patternTo replacementTo renders patternRenders
          replacementRenders)
      simp only [allParts, List.mem_append, List.append_nil] at inside
      rcases inside with inTarget | inPattern | inReplacement
      · exact (targetIH inTarget).rendered renders (.head _)
      · exact (patternIH inPattern).rendered patternRenders (.tail _ (.head _))
      · exact (replacementIH inReplacement).rendered replacementRenders
          (.tail _ (.tail _ (.head _)))
  | substring mentioned targetTo startTo renders startRenders targetIH startIH =>
      rcases List.mem_cons.mp member with rfl | inside
      · exact .self (.substring mentioned targetTo startTo renders startRenders)
      simp only [allParts, List.mem_append, List.append_nil] at inside
      rcases inside with inTarget | inStart
      · exact (targetIH inTarget).rendered renders (.head _)
      · exact (startIH inStart).rendered startRenders (.tail _ (.head _))
  | window mentioned targetTo startTo lengthTo renders startRenders lengthRenders targetIH
      startIH lengthIH =>
      rcases List.mem_cons.mp member with rfl | inside
      · exact .self (.window mentioned targetTo startTo lengthTo renders startRenders
          lengthRenders)
      simp only [allParts, List.mem_append, List.append_nil] at inside
      rcases inside with inTarget | inStart | inLength
      · exact (targetIH inTarget).rendered renders (.head _)
      · exact (startIH inStart).rendered startRenders (.tail _ (.head _))
      · exact (lengthIH inLength).rendered lengthRenders (.tail _ (.tail _ (.head _)))
  | like mentioned targetTo argumentTo renders known patternBound targetIH argumentIH =>
      rcases List.mem_cons.mp member with rfl | inside
      · exact .self (.like mentioned targetTo argumentTo renders known patternBound)
      simp only [allParts, List.mem_append, List.append_nil] at inside
      rcases inside with inTarget | inArgument
      · exact (targetIH inTarget).rendered renders (.head _)
      · obtain ⟨_, _, _, isTerm, -⟩ := argumentIH inArgument
        cases isTerm

end Expr

end SqlMapper
