import SqlMapper.Proofs.Precedence
import SqlMapper.Term

/-!
# How terms are spelled

Every form of a term is written in parentheses of its own, as a call or as a single token,
except for a complement, which is written as a bare `not` in front of its operand. So a term
delimits itself exactly when it is not a complement; and a term in which nothing that binds
more tightly than `not` has a complement for an operand is parsed as its tree.
-/

namespace SqlMapper

open Grammar

namespace Term

variable {ρ : Type}

/-- The operands of everything in the term that binds more tightly than `not`: of
comparisons, arithmetic, null tests, signs and text tests, and the position of a substring,
to which one is added. -/
def tightOperands : Term → List Term
  | column _ | slot _ | truth _ | columnIs _ _ => []
  | comparison _ left right | arithmetic _ left right | like left right =>
    left :: right :: (left.tightOperands ++ right.tightOperands)
  | connective _ left right => left.tightOperands ++ right.tightOperands
  | nullTest operand _ | negative operand => operand :: operand.tightOperands
  | complement operand => operand.tightOperands
  | apply _ argument => argument.tightOperands
  | replace text pattern replacement =>
    text.tightOperands ++ pattern.tightOperands ++ replacement.tightOperands
  | substring text start => start :: (text.tightOperands ++ start.tightOperands)
  | window text start length =>
    start :: (text.tightOperands ++ start.tightOperands ++ length.tightOperands)

def isComplement : Term → Bool
  | complement _ => true
  | _ => false

/-- No operand that binds more tightly than `not` is a complement. -/
def IsTidy (term : Term) : Prop :=
  ∀ operand ∈ term.tightOperands, operand.isComplement = false

/-- A number in fixed wording. -/
def numberLeaf (count : Nat) : OperatorTree ρ :=
  .leaf (.number count)

/-- One more than a position in a text. -/
def successorTree (position : OperatorTree ρ) : OperatorTree ρ :=
  .operation (.binary (.arithmetic .add)) position (numberLeaf 1)

def successor (position : List (Lexeme ρ)) : List (Lexeme ρ) :=
  joined (.binary (.arithmetic .add)) position [.operand (.number 1)]

variable (naming : Nat → ρ)

/-- The term by its operators, with its slots named. Arguments of a function are joined by
commas. -/
def tree : Term → OperatorTree ρ
  | column name => .leaf (.identifier name)
  | slot index => .leaf (.placeholder (naming index))
  | truth value =>
    .operation (.binary (.comparison .eq)) (numberLeaf 1) (numberLeaf value.toNat)
  | columnIs name literal =>
    .operation (.binary (.comparison .eq)) (.leaf (.identifier name)) (.leaf (.literal literal))
  | comparison op left right => .operation (.binary (.comparison op)) left.tree right.tree
  | connective op left right => .operation (.binary (.connective op)) left.tree right.tree
  | arithmetic op left right => .operation (.binary (.arithmetic op)) left.tree right.tree
  | nullTest operand expected => .nullTest operand.tree expected
  | complement operand => .signed .complement operand.tree
  | negative operand => .signed .minus operand.tree
  | apply function argument => .call function.name argument.tree
  | replace text pattern replacement =>
    .call "replace" (.operation .comma (.operation .comma text.tree pattern.tree) replacement.tree)
  | substring text start => .call "substr" (.operation .comma text.tree (successorTree start.tree))
  | window text start length =>
    .call "substr"
      (.operation .comma (.operation .comma text.tree (successorTree start.tree)) length.tree)
  | like text pattern => .operation .like text.tree pattern.tree

/-- The term as lexemes, with its slots named. -/
def spelling : Term → List (Lexeme ρ)
  | column name => [.operand (.identifier name)]
  | slot index => [.operand (.placeholder (naming index))]
  | truth value =>
    enclose .opening (joined (.binary (.comparison .eq)) [.operand (.number 1)]
      [.operand (.number value.toNat)])
  | columnIs name literal =>
    enclose .opening (joined (.binary (.comparison .eq)) [.operand (.identifier name)]
      [.operand (.literal literal)])
  | comparison op left right =>
    enclose .opening (joined (.binary (.comparison op)) left.spelling right.spelling)
  | connective op left right =>
    enclose .opening (joined (.binary (.connective op)) left.spelling right.spelling)
  | arithmetic op left right =>
    enclose .opening (joined (.binary (.arithmetic op)) left.spelling right.spelling)
  | nullTest operand expected => enclose .opening (operand.spelling ++ [.nullTest expected])
  | complement operand => .sign .complement :: operand.spelling
  | negative operand => enclose .opening (.sign .minus :: operand.spelling)
  | apply function argument => enclose (.call function.name) argument.spelling
  | replace text pattern replacement =>
    enclose (.call "replace")
      (joined .comma (joined .comma text.spelling pattern.spelling) replacement.spelling)
  | substring text start =>
    enclose (.call "substr") (joined .comma text.spelling (successor start.spelling))
  | window text start length =>
    enclose (.call "substr")
      (joined .comma (joined .comma text.spelling (successor start.spelling)) length.spelling)
  | like text pattern => enclose .opening (joined .like text.spelling pattern.spelling)

variable {naming}

theorem pieceLexemes_operator (op : BinaryOp) :
    pieceLexemes (.text (" " ++ op.sqlSymbol ++ " ") : Piece ρ) = [.operator (.binary op)] := by
  rcases op with op | op | op <;> cases op <;> rfl

theorem pieceLexemes_function (function : TextFunction) :
    pieceLexemes (.text (function.name ++ "(") : Piece ρ) = [.call function.name] := by
  cases function <;> rfl

@[simp] theorem lexemes_cons (piece : Piece ρ) (rest : List (Piece ρ)) :
    lexemes (piece :: rest) = pieceLexemes piece ++ lexemes rest := rfl

@[simp] theorem lexemes_nil : lexemes ([] : List (Piece ρ)) = [] := rfl

@[simp] theorem lexemes_append (left right : List (Piece ρ)) :
    lexemes (left ++ right) = lexemes left ++ lexemes right :=
  List.flatMap_append

theorem lexemes_infixPieces {left right : List (Piece ρ)} {symbol : String} {op : Connector}
    (known : pieceLexemes (.text (" " ++ symbol ++ " ") : Piece ρ) = [.operator op]) :
    lexemes (infixPieces left symbol right) =
      enclose .opening (joined op (lexemes left) (lexemes right)) := by
  have opening : pieceLexemes (.text "(" : Piece ρ) = [.opening] := rfl
  have closing : pieceLexemes (.text ")" : Piece ρ) = [.closing] := rfl
  simp [infixPieces, enclose, joined, known, opening, closing]

/-- The text of a term is spelled as it should be. -/
theorem lexemes_pieces (term : Term) :
    lexemes (term.pieces.map (Piece.map naming)) = term.spelling naming := by
  have words (words : String) : Piece.map naming (.text words) = .text words := rfl
  have closing : pieceLexemes (.text ")" : Piece ρ) = [.closing] := rfl
  induction term with
  | column _ | slot _ => rfl
  | truth value => cases value <;> rfl
  | columnIs name literal =>
      rw [pieces, map_infixPieces]
      exact lexemes_infixPieces (pieceLexemes_operator (.comparison .eq))
  | comparison op left right leftIH rightIH =>
      rw [pieces, map_infixPieces, spelling, ← leftIH, ← rightIH]
      exact lexemes_infixPieces (pieceLexemes_operator (.comparison op))
  | connective op left right leftIH rightIH =>
      rw [pieces, map_infixPieces, spelling, ← leftIH, ← rightIH]
      exact lexemes_infixPieces (pieceLexemes_operator (.connective op))
  | arithmetic op left right leftIH rightIH =>
      rw [pieces, map_infixPieces, spelling, ← leftIH, ← rightIH]
      exact lexemes_infixPieces (pieceLexemes_operator (.arithmetic op))
  | like text pattern textIH patternIH =>
      have known : pieceLexemes (.text (" " ++ "like" ++ " ") : Piece ρ) = [.operator .like] := rfl
      rw [pieces, map_infixPieces, spelling, ← textIH, ← patternIH]
      exact lexemes_infixPieces known
  | nullTest operand expected inductionHypothesis =>
      have test : pieceLexemes (.text (if expected then " is null)" else " is not null)") :
          Piece ρ) = [.nullTest expected, .closing] := by
        cases expected <;> rfl
      have opening : pieceLexemes (.text "(" : Piece ρ) = [.opening] := rfl
      simp [pieces, spelling, enclose, words, test, opening, inductionHypothesis]
  | complement operand inductionHypothesis =>
      have sign : pieceLexemes (.text "not " : Piece ρ) = [.sign .complement] := rfl
      simp [pieces, spelling, words, sign, inductionHypothesis]
  | negative operand inductionHypothesis =>
      have sign : pieceLexemes (.text "(-" : Piece ρ) = [.opening, .sign .minus] := rfl
      simp [pieces, spelling, enclose, words, sign, closing, inductionHypothesis]
  | apply function argument inductionHypothesis =>
      simp [pieces, spelling, enclose, words, pieceLexemes_function, closing,
        inductionHypothesis]
  | replace text pattern replacement textIH patternIH replacementIH =>
      have call : pieceLexemes (.text "replace(" : Piece ρ) = [.call "replace"] := rfl
      have comma : pieceLexemes (.text ", " : Piece ρ) = [.operator .comma] := rfl
      simp [pieces, spelling, enclose, joined, words, call, comma, closing, textIH, patternIH,
        replacementIH]
  | substring text start textIH startIH =>
      have call : pieceLexemes (.text "substr(" : Piece ρ) = [.call "substr"] := rfl
      have comma : pieceLexemes (.text ", " : Piece ρ) = [.operator .comma] := rfl
      have last : pieceLexemes (.text " + 1)" : Piece ρ) =
        [.operator (.binary (.arithmetic .add)), .operand (.number 1), .closing] := rfl
      simp [pieces, spelling, enclose, joined, successor, words, call, comma, last, textIH,
        startIH]
  | window text start length textIH startIH lengthIH =>
      have call : pieceLexemes (.text "substr(" : Piece ρ) = [.call "substr"] := rfl
      have comma : pieceLexemes (.text ", " : Piece ρ) = [.operator .comma] := rfl
      have middle : pieceLexemes (.text " + 1, " : Piece ρ) =
        [.operator (.binary (.arithmetic .add)), .operand (.number 1), .operator .comma] := rfl
      simp [pieces, spelling, enclose, joined, successor, words, call, comma, middle, closing,
        textIH, startIH, lengthIH]

/-- An operation in parentheses. -/
theorem parsesAt_group {left right : List (Lexeme ρ)} {first second : OperatorTree ρ}
    (op : Connector)
    (leftParses : ∀ frames level, ParsesAt frames level left first)
    (rightParses : ∀ frames level, ParsesAt frames level right second)
    (frames : List (Pending ρ)) (level : Nat) :
    ParsesAt frames level (enclose .opening (joined op left right)) (.operation op first second) :=
  ((ParsesAt.operation op (leftParses _ _) (fun _ => rfl) (rightParses _ _)).mono
    (Nat.zero_le _)).group level

/-- One more than a position, as an argument behind another one. -/
theorem parsesAt_successor {position : List (Lexeme ρ)} {counted : OperatorTree ρ}
    (parses : ∀ frames level, ParsesAt frames level position counted) (frames : List (Pending ρ))
    (before : OperatorTree ρ) :
    ParsesAt (.operation .comma before :: frames) 0 (successor position)
      (successorTree counted) :=
  (ParsesAt.operation _ (parses _ _) (fun _ => rfl) (.operand _ _ _)).mono (Nat.zero_le _)

/-- A tidy term is parsed as its tree: a complement wherever a `not` may stand, any other
term wherever an operand may stand. -/
theorem IsTidy.parsesAt {term : Term} (tidy : term.IsTidy) (frames : List (Pending ρ))
    (level : Nat) (place : term.isComplement = false ∨ level ≤ Sign.complement.level ∧
      frames.head?.any (fun frame => Sign.complement.level < frame.level) = false) :
    ParsesAt frames level (term.spelling naming) (term.tree naming) := by
  induction term generalizing frames level with
  | column name => exact .operand frames level _
  | slot index => exact .operand frames level _
  | truth value =>
      exact parsesAt_group _ (fun _ _ => .operand _ _ _) (fun _ _ => .operand _ _ _) frames level
  | columnIs name literal =>
      exact parsesAt_group _ (fun _ _ => .operand _ _ _) (fun _ _ => .operand _ _ _) frames level
  | comparison op left right leftIH rightIH | arithmetic op left right leftIH rightIH
  | like left right leftIH rightIH =>
      simp only [IsTidy, tightOperands, List.forall_mem_cons, List.forall_mem_append] at tidy
      obtain ⟨leftSimple, rightSimple, leftTidy, rightTidy⟩ := tidy
      exact parsesAt_group _ (fun _ _ => leftIH leftTidy _ _ (.inl leftSimple))
        (fun _ _ => rightIH rightTidy _ _ (.inl rightSimple)) frames level
  | connective op left right leftIH rightIH =>
      simp only [IsTidy, tightOperands, List.forall_mem_append] at tidy
      have loose : (Connector.binary (.connective op)).level ≤ Sign.complement.level := by
        cases op <;> decide
      have first := leftIH tidy.1 (.group :: frames) _ (.inr ⟨loose, rfl⟩)
      have second := rightIH tidy.2
        (.operation (.binary (.connective op)) (left.tree naming) :: .group :: frames) _
        (.inr ⟨loose, by cases op <;> rfl⟩)
      exact ((ParsesAt.operation _ first (fun _ => rfl) second).mono (Nat.zero_le _)).group level
  | nullTest operand expected inductionHypothesis =>
      simp only [IsTidy, tightOperands, List.forall_mem_cons] at tidy
      have inside := inductionHypothesis tidy.2 (.group :: frames) nullTestLevel (.inl tidy.1)
      exact (inside.nullTest (fun _ => rfl) expected 0).group level
  | negative operand inductionHypothesis =>
      simp only [IsTidy, tightOperands, List.forall_mem_cons] at tidy
      have inside := inductionHypothesis tidy.2 (.signed .minus :: .group :: frames)
        Sign.minus.level (.inl tidy.1)
      exact ((ParsesAt.signed rfl inside).mono (Nat.zero_le _)).group level
  | complement operand inductionHypothesis =>
      obtain ⟨below, loose⟩ := place.resolve_left nofun
      have inside := inductionHypothesis tidy (.signed .complement :: frames)
        Sign.complement.level (.inr ⟨Nat.le_refl _, rfl⟩)
      exact (ParsesAt.signed loose inside).mono below
  | apply function argument inductionHypothesis =>
      have inside := inductionHypothesis tidy (.call function.name :: frames) 0
        (.inr ⟨Nat.zero_le _, rfl⟩)
      exact inside.call level
  | replace text pattern replacement textIH patternIH replacementIH =>
      simp only [IsTidy, tightOperands, List.forall_mem_append] at tidy
      obtain ⟨⟨textTidy, patternTidy⟩, replacementTidy⟩ := tidy
      have first := textIH textTidy (.call "replace" :: frames) 0 (.inr ⟨Nat.zero_le _, rfl⟩)
      have second := patternIH patternTidy (.operation .comma (text.tree naming) ::
        .call "replace" :: frames) 0 (.inr ⟨Nat.zero_le _, rfl⟩)
      have pair := ParsesAt.operation .comma first (fun _ => rfl) second
      have third := replacementIH replacementTidy (.operation .comma (.operation .comma
        (text.tree naming) (pattern.tree naming)) :: .call "replace" :: frames) 0
        (.inr ⟨Nat.zero_le _, rfl⟩)
      exact (ParsesAt.operation .comma pair (fun _ => rfl) third).call level
  | substring text start textIH startIH =>
      simp only [IsTidy, tightOperands, List.forall_mem_cons, List.forall_mem_append] at tidy
      obtain ⟨startSimple, textTidy, startTidy⟩ := tidy
      have first := textIH textTidy (.call "substr" :: frames) 0 (.inr ⟨Nat.zero_le _, rfl⟩)
      have second := parsesAt_successor (fun _ _ => startIH startTidy _ _ (.inl startSimple))
        (.call "substr" :: frames) (text.tree naming)
      exact (ParsesAt.operation .comma first (fun _ => rfl) second).call level
  | window text start length textIH startIH lengthIH =>
      simp only [IsTidy, tightOperands, List.forall_mem_cons, List.forall_mem_append] at tidy
      obtain ⟨startSimple, ⟨textTidy, startTidy⟩, lengthTidy⟩ := tidy
      have first := textIH textTidy (.call "substr" :: frames) 0 (.inr ⟨Nat.zero_le _, rfl⟩)
      have second := parsesAt_successor (fun _ _ => startIH startTidy _ _ (.inl startSimple))
        (.call "substr" :: frames) (text.tree naming)
      have pair := ParsesAt.operation .comma first (fun _ => rfl) second
      have third := lengthIH lengthTidy (.operation .comma (.operation .comma
        (text.tree naming) (successorTree (start.tree naming))) :: .call "substr" :: frames) 0
        (.inr ⟨Nat.zero_le _, rfl⟩)
      exact (ParsesAt.operation .comma pair (fun _ => rfl) third).call level

/-- Whatever a term opens it closes, and it is delimited unless it is a complement. -/
theorem spelling_delimited (term : Term) : Balanced (term.spelling naming) ∧
    (term.isComplement = false → Delimited (term.spelling naming)) := by
  have delimited {lexemes : List (Lexeme ρ)} {simple : Prop} (own : Delimited lexemes) :
      Balanced lexemes ∧ (simple → Delimited lexemes) :=
    ⟨own.balanced, fun _ => own⟩
  induction term with
  | column _ | slot _ => exact delimited (.operand _)
  | truth _ | columnIs _ _ =>
      exact delimited (.enclosed rfl (.joined _ (.operand _) (.operand _)))
  | comparison op left right leftIH rightIH | connective op left right leftIH rightIH
  | arithmetic op left right leftIH rightIH | like left right leftIH rightIH =>
      exact delimited (.enclosed rfl (.joined _ leftIH.1 rightIH.1))
  | nullTest operand expected inductionHypothesis =>
      have test : Balanced [(.nullTest expected : Lexeme ρ)] := .cons rfl nofun .nil
      exact delimited (.enclosed rfl (inductionHypothesis.1.append test))
  | negative operand inductionHypothesis =>
      exact delimited (.enclosed rfl (.cons rfl nofun inductionHypothesis.1))
  | complement operand inductionHypothesis =>
      exact ⟨.cons rfl nofun inductionHypothesis.1, nofun⟩
  | apply function argument inductionHypothesis =>
      exact delimited (.enclosed rfl inductionHypothesis.1)
  | replace text pattern replacement textIH patternIH replacementIH =>
      exact delimited (.enclosed rfl (.joined _ (.joined _ textIH.1 patternIH.1)
        replacementIH.1))
  | substring text start textIH startIH =>
      exact delimited (.enclosed rfl (.joined _ textIH.1 (.joined _ startIH.1 (.operand _))))
  | window text start length textIH startIH lengthIH =>
      exact delimited (.enclosed rfl (.joined _ (.joined _ textIH.1
        (.joined _ startIH.1 (.operand _))) lengthIH.1))

/-- In its text, a term delimits itself exactly when it is not a complement. -/
theorem selfDelimiting_iff (term : Term) (names : List String) :
    selfDelimiting (lexemes (term.sql names)) = true ↔ term.isComplement = false := by
  rw [sql, lexemes_pieces]
  constructor
  · intro delimits
    cases term with
    | complement operand => cases delimits
    | _ => rfl
  · intro simple
    exact (term.spelling_delimited.2 simple).selfDelimiting_eq

/-- The text of a tidy term is parsed as its tree. -/
theorem IsTidy.parse_eq {term : Term} (tidy : term.IsTidy) (names : List String) :
    parse (term.sql names) = some (term.tree fun index => names.getD index "") := by
  apply ParsesAt.parse_eq
  rw [sql, lexemes_pieces]
  exact tidy.parsesAt [] 0 (.inr ⟨Nat.zero_le _, rfl⟩)

end Term

end SqlMapper
