import SqlMapper.Operator
import SqlMapper.Sql

/-!
# Terms

A term is a condition or a value in SQL, as a tree. Its constants are numbered
slots, so that the same term can be written for any dialect and with any names
for its parameters; only the literals of boolean columns are part of the term.
-/

namespace SqlMapper

/-- A function from text to text that every engine provides. -/
inductive TextFunction where
  | ltrim
  | rtrim
  | ucase
  | lcase
  deriving DecidableEq

/-- A condition or a value in SQL. -/
inductive Term where
  | column (name : String)
  /-- A constant, by its position among those bound so far. -/
  | slot (index : Nat)
  /-- The condition that always or never holds. -/
  | truth (value : Bool)
  /-- A column compared with the literal stored for a boolean. -/
  | columnIs (name : String) (literal : Literal)
  | comparison (op : Comparison) (left right : Term)
  | connective (op : Connective) (left right : Term)
  | arithmetic (op : Arithmetic) (left right : Term)
  /-- `is null`, or `is not null` when null is not `expected`. -/
  | nullTest (operand : Term) (expected : Bool)
  | complement (operand : Term)
  | negative (operand : Term)
  | apply (function : TextFunction) (argument : Term)
  | replace (text pattern replacement : Term)
  /-- The rest of a text from a position counted from zero. -/
  | substring (text start : Term)
  /-- A part of a text of given length. -/
  | window (text start length : Term)
  | like (text pattern : Term)

/-- The name of a function in SQL. -/
def TextFunction.name : TextFunction → String
  | ltrim => "ltrim"
  | rtrim => "rtrim"
  | ucase => "ucase"
  | lcase => "lcase"

/-- A comparison as SQL writes it. -/
def Comparison.sqlSymbol : Comparison → String
  | eq => "="
  | ne => "<>"
  | ge => ">="
  | gt => ">"
  | le => "<="
  | lt => "<"

/-- A connective as SQL writes it. -/
def Connective.sqlSymbol : Connective → String
  | and => "and"
  | or => "or"

/-- An arithmetic operation as SQL writes it. -/
def Arithmetic.sqlSymbol (op : Arithmetic) : String :=
  op.symbol

namespace Term

/-- Two fragments with an operator between them, in parentheses. -/
def infixPieces {ρ : Type} (left : List (Piece ρ)) (symbol : String) (right : List (Piece ρ)) :
    List (Piece ρ) :=
  .text "(" :: left ++ .text (" " ++ symbol ++ " ") :: right ++ [.text ")"]

theorem map_infixPieces {ρ σ : Type} (rename : ρ → σ) (left right : List (Piece ρ))
    (symbol : String) :
    (infixPieces left symbol right).map (Piece.map rename) =
      infixPieces (left.map (Piece.map rename)) symbol (right.map (Piece.map rename)) := by
  simp [infixPieces, Piece.map]

/-- The term in pieces. Positions in a text are counted from one in SQL. -/
def pieces : Term → Template
  | column name => [.identifier name]
  | slot index => [.placeholder index]
  | truth true => [.text "(1 = 1)"]
  | truth false => [.text "(1 = 0)"]
  | columnIs name literal => infixPieces [.identifier name] "=" [.literal literal]
  | comparison op left right => infixPieces left.pieces op.sqlSymbol right.pieces
  | connective op left right => infixPieces left.pieces op.sqlSymbol right.pieces
  | arithmetic op left right => infixPieces left.pieces op.sqlSymbol right.pieces
  | nullTest operand expected =>
    .text "(" :: operand.pieces ++ [.text (if expected then " is null)" else " is not null)")]
  | complement operand => .text "not " :: operand.pieces
  | negative operand => .text "(-" :: operand.pieces ++ [.text ")"]
  | apply function argument =>
    .text (function.name ++ "(") :: argument.pieces ++ [.text ")"]
  | replace text pattern replacement =>
    .text "replace(" :: text.pieces ++ .text ", " :: pattern.pieces ++
      .text ", " :: replacement.pieces ++ [.text ")"]
  | substring text start =>
    .text "substr(" :: text.pieces ++ .text ", " :: start.pieces ++ [.text " + 1)"]
  | window text start length =>
    .text "substr(" :: text.pieces ++ .text ", " :: start.pieces ++
      .text " + 1, " :: length.pieces ++ [.text ")"]
  | like text pattern => infixPieces text.pieces "like" pattern.pieces

/-- The slots that a term refers to, in the order of its text. -/
def slots : Term → List Nat
  | column _ | truth _ | columnIs _ _ => []
  | slot index => [index]
  | comparison _ left right | connective _ left right | arithmetic _ left right =>
    left.slots ++ right.slots
  | nullTest operand _ | complement operand | negative operand => operand.slots
  | apply _ argument => argument.slots
  | replace text pattern replacement => text.slots ++ pattern.slots ++ replacement.slots
  | substring text start => text.slots ++ start.slots
  | window text start length => text.slots ++ start.slots ++ length.slots
  | like text pattern => text.slots ++ pattern.slots

/-- The slots of a term are the placeholders of its pieces. -/
theorem placeholders_pieces (term : Term) : placeholders term.pieces = term.slots := by
  induction term with
  | truth value => cases value <;> rfl
  | _ => simp [pieces, infixPieces, slots, *]

/-- The term with its slots named. -/
def sql (term : Term) (names : List String) : Sql :=
  term.pieces.map (Piece.map fun index => names.getD index "")

end Term

end SqlMapper
