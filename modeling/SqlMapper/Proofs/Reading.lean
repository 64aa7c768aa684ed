import SqlMapper.Proofs.Operators
import SqlMapper.Term

/-!
# Reading conditions back

The database sees a condition as text and takes it apart by its parentheses.
`read` does so piece by piece, with a stack of what has been opened, and refuses
what would depend on the precedence of an operator. The `Reading` that results has
a meaning over a stored row and bound parameters. Conditions that are put together
from readable parts are readable, as the lemmas of `ReadsAs` say.
-/

namespace SqlMapper

/-- A condition or a value as the database understands it. -/
inductive Reading (ρ : Type) where
  | column (name : String)
  | parameter (reference : ρ)
  | literal (constant : Literal)
  | truth (value : Bool)
  | operation (op : BinaryOp) (left right : Reading ρ)
  | negative (operand : Reading ρ)
  | complement (operand : Reading ρ)

/-- What a piece contributes to a condition. -/
inductive Token (ρ : Type) where
  /-- Something that is complete on its own. -/
  | operand (reading : Reading ρ)
  | operator (op : BinaryOp)
  | opening
  /-- A parenthesis with a sign behind it. -/
  | openingNegative
  | closing
  | complement

/-- What has been opened and is still incomplete. -/
inductive Frame (ρ : Type) where
  | group
  /-- A group whose left operand and operator have been read. -/
  | operator (op : BinaryOp) (left : Reading ρ)
  | negative
  | complement

/-- How far a condition has been read: what is open, innermost first, and the
operand that was completed last. -/
structure Reader (ρ : Type) where
  frames : List (Frame ρ)
  read? : Option (Reading ρ)

/-- An operator as SQL writes it. -/
def BinaryOp.sqlSymbol : BinaryOp → String
  | comparison op => op.sqlSymbol
  | connective op => op.sqlSymbol
  | arithmetic op => op.sqlSymbol

/-- The operator that stands between spaces. -/
def BinaryOp.ofWords? (words : String) : Option BinaryOp :=
  all.find? fun op => " " ++ op.sqlSymbol ++ " " = words

variable {ρ : Type}

/-- A piece as a token. Text of the caller and numbers do not occur in a
condition. -/
def Piece.token? : Piece ρ → Option (Token ρ)
  | identifier name => some (.operand (.column name))
  | literal constant => some (.operand (.literal constant))
  | placeholder reference => some (.operand (.parameter reference))
  | text words =>
    match words with
    | "(" => some .opening
    | "(-" => some .openingNegative
    | ")" => some .closing
    | "not " => some .complement
    | "(1 = 1)" => some (.operand (.truth true))
    | "(1 = 0)" => some (.operand (.truth false))
    | _ => (BinaryOp.ofWords? words).map .operator
  | raw _ | number _ => none

def Reading.isComplement : Reading ρ → Bool
  | complement _ => true
  | _ => false

/-- Whether an operator binds more tightly than `not`. -/
def BinaryOp.isTight (op : BinaryOp) : Bool :=
  !op.isConnective

/-- Whether what follows is an operand of something that binds more tightly than
`not`. -/
def Frame.isTight : Frame ρ → Bool
  | operator op _ => op.isTight
  | negative => true
  | group | complement => false

namespace Reader

/-- Add a complete operand. Complements that were waiting for it are complete as
well; one that stands where only a tighter operand can is refused. -/
def complete : List (Frame ρ) → Reading ρ → Option (Reader ρ)
  | .complement :: frames, reading => complete frames (.complement reading)
  | frames, reading =>
    if reading.isComplement && frames.head?.any Frame.isTight then none
    else some ⟨frames, some reading⟩

/-- Read one more piece. -/
def put (reader : Reader ρ) (piece : Piece ρ) : Option (Reader ρ) :=
  match piece.token?, reader.read?, reader.frames with
  | some (.operand reading), none, frames => complete frames reading
  | some .opening, none, frames => some ⟨.group :: frames, none⟩
  | some .openingNegative, none, frames => some ⟨.negative :: frames, none⟩
  | some .complement, none, frames => some ⟨.complement :: frames, none⟩
  | some (.operator op), some left, .group :: frames =>
    if left.isComplement && op.isTight then none else some ⟨.operator op left :: frames, none⟩
  | some .closing, some right, .operator op left :: frames =>
    complete frames (.operation op left right)
  | some .closing, some operand, .negative :: frames => complete frames (.negative operand)
  | _, _, _ => none

variable {frames : List (Frame ρ)} {left operand : Reading ρ}

theorem put_operand {piece : Piece ρ} (token : piece.token? = some (.operand operand)) :
    put ⟨frames, none⟩ piece = complete frames operand := by
  rw [put, token]

@[simp] theorem put_opening :
    put ⟨frames, none⟩ (.text "(") = some ⟨.group :: frames, none⟩ := rfl

@[simp] theorem put_openingNegative :
    put ⟨frames, none⟩ (.text "(-") = some ⟨.negative :: frames, none⟩ := rfl

@[simp] theorem put_complement :
    put ⟨frames, none⟩ (.text "not ") = some ⟨.complement :: frames, none⟩ := rfl

@[simp] theorem put_operator (op : BinaryOp) :
    put ⟨.group :: frames, some left⟩ (.text (" " ++ op.sqlSymbol ++ " ")) =
      if left.isComplement && op.isTight then none
      else some ⟨.operator op left :: frames, none⟩ := by
  have token : (Piece.text (" " ++ op.sqlSymbol ++ " ") : Piece ρ).token? =
      some (.operator op) := by
    rcases op with op | op | op <;> cases op <;> rfl
  rw [put, token]

@[simp] theorem put_closing_operator (op : BinaryOp) :
    put ⟨.operator op left :: frames, some operand⟩ (.text ")") =
      complete frames (.operation op left operand) := rfl

@[simp] theorem put_closing_negative :
    put ⟨.negative :: frames, some operand⟩ (.text ")") =
      complete frames (.negative operand) := rfl

/-- An operand that is not a complement is complete wherever it stands. -/
theorem complete_simple {frame : Frame ρ} (simple : operand.isComplement = false)
    (waits : frame ≠ .complement) :
    complete (frame :: frames) operand = some ⟨frame :: frames, some operand⟩ := by
  cases frame with
  | complement => exact absurd rfl waits
  | _ => simp [complete, simple]

/-- Any operand is complete where nothing binds more tightly than `not`. -/
theorem complete_loose {frame : Frame ρ} (loose : frame.isTight = false)
    (waits : frame ≠ .complement) :
    complete (frame :: frames) operand = some ⟨frame :: frames, some operand⟩ := by
  cases frame with
  | complement => exact absurd rfl waits
  | _ => simp [complete, loose]

end Reader

/-- The tree that a whole condition spells out. -/
def read (pieces : List (Piece ρ)) : Option (Reading ρ) :=
  match pieces.foldlM Reader.put ⟨[], none⟩ with
  | some ⟨[], some reading⟩ => some reading
  | _ => none

/-- The pieces are read as one operand wherever they stand. -/
def ReadsAs (pieces : List (Piece ρ)) (reading : Reading ρ) : Prop :=
  ∀ frames, pieces.foldlM Reader.put ⟨frames, none⟩ = Reader.complete frames reading

namespace ReadsAs

variable {pieces left right : List (Piece ρ)} {reading first second : Reading ρ}

theorem read_eq (readable : ReadsAs pieces reading) : read pieces = some reading := by
  rw [read, readable []]
  simp [Reader.complete]

theorem ofToken {piece : Piece ρ} (token : piece.token? = some (.operand reading)) :
    ReadsAs [piece] reading := by
  intro frames
  simp [Reader.put_operand token]

/-- Two operands with an operator between them are read as its operation. -/
theorem operation {op : BinaryOp} (leftReads : ReadsAs left first)
    (rightReads : ReadsAs right second)
    (simple : op.isTight = true → first.isComplement = false ∧ second.isComplement = false) :
    ReadsAs (Term.infixPieces left op.sqlSymbol right) (.operation op first second) := by
  intro frames
  have leftCloses : Reader.complete (.group :: frames) first =
      some ⟨.group :: frames, some first⟩ :=
    Reader.complete_loose rfl nofun
  have accepted : (first.isComplement && op.isTight) = false := by
    cases tight : op.isTight with
    | true => simp [simple tight]
    | false => simp
  have rightCloses : Reader.complete (.operator op first :: frames) second =
      some ⟨.operator op first :: frames, some second⟩ := by
    cases tight : op.isTight with
    | true => exact Reader.complete_simple (simple tight).2 nofun
    | false => exact Reader.complete_loose tight nofun
  simp only [Term.infixPieces, List.cons_append, List.append_assoc,
    List.foldlM_cons, List.foldlM_append, List.foldlM_nil, Reader.put_opening,
    Option.bind_eq_bind, Option.bind_some, leftReads _, leftCloses, Reader.put_operator, accepted,
    Bool.false_eq_true, if_false, rightReads _, rightCloses, Reader.put_closing_operator,
    Option.pure_def, Option.bind_fun_some]

/-- A signed operand in parentheses is read as its negative. -/
theorem negative (readable : ReadsAs pieces reading) (simple : reading.isComplement = false) :
    ReadsAs (.text "(-" :: pieces ++ [.text ")"]) (.negative reading) := by
  intro frames
  have closes : Reader.complete (.negative :: frames) reading =
      some ⟨.negative :: frames, some reading⟩ :=
    Reader.complete_simple simple nofun
  simp [readable _, closes]

theorem complement (readable : ReadsAs pieces reading) :
    ReadsAs (.text "not " :: pieces) (.complement reading) := by
  intro frames
  simp [readable _, Reader.complete]

end ReadsAs

/-- What the database computes with: numbers of any size, truth values, and
constants that it can only compare for equality. -/
inductive Datum where
  | number (value : Int)
  | truth (value : Bool)
  | constant (value : Value)

/-- The value that a literal stands for. -/
def Literal.value : Literal → Value
  | null => .null
  | bool value => .bool value
  | i32 value => .i32 value
  | i64 value => .i64 value
  | f64 value => .f64 value
  | string value => .string value

theorem Literal.value_of_ofValue {value : Value} {literal : Literal}
    (written : Literal.ofValue value = .ok literal) : literal.value = value := by
  cases value with
  | member _ | list _ | record _ => cases written
  | _ =>
      cases written
      rfl

/-- A stored value as the database sees it: a boolean is a number, as in its
literal, and null is not a value. -/
def Datum.ofValue? (value : Value) : Option Datum :=
  match value with
  | .null => none
  | .bool value => some (.number value.toInt)
  | .i32 value => some (.number value.toInt)
  | .i64 value => some (.number value.toInt)
  | other => some (.constant other)

theorem Datum.ofValue?_of_integer {value : Value} {number : Int}
    (integer : value.integer? = some number) : ofValue? value = some (.number number) := by
  cases value <;> cases integer <;> rfl

/-- The outcome of a comparison. Only numbers have an order. -/
def Comparison.onData? (op : Comparison) (left right : Datum) : Option Bool :=
  match op, left, right with
  | _, .number left, .number right => some (op.onIntegers left right)
  | eq, .constant left, .constant right => some (left.same right)
  | ne, .constant left, .constant right => some (!left.same right)
  | _, _, _ => none

/-- The outcome of an operation. -/
def BinaryOp.onData? (op : BinaryOp) (left right : Datum) : Option Datum :=
  match op, left, right with
  | comparison op, left, right => (op.onData? left right).map .truth
  | connective op, .truth left, .truth right => some (.truth (op.onTruth left right))
  | arithmetic op, .number left, .number right => (op.unbounded? left right).map .number
  | _, _, _ => none

/-- What a condition is evaluated over: the columns of a stored row and the
parameters. -/
structure Store (ρ : Type) where
  column : String → Value
  parameter : ρ → Option Value

/-- The value of a reading, if the database can compute one. -/
def Reading.datum? (store : Store ρ) : Reading ρ → Option Datum
  | column name => Datum.ofValue? (store.column name)
  | parameter reference => (store.parameter reference).bind Datum.ofValue?
  | literal constant => Datum.ofValue? constant.value
  | truth value => some (.truth value)
  | operation op left right => do op.onData? (← left.datum? store) (← right.datum? store)
  | negative operand =>
    match operand.datum? store with
    | some (.number value) => some (.number (-value))
    | _ => none
  | complement operand =>
    match operand.datum? store with
    | some (.truth value) => some (.truth !value)
    | _ => none

/-- Only truth values are complements. -/
theorem Reading.isComplement_of_datum {store : Store ρ} {reading : Reading ρ} {datum : Datum}
    (computed : reading.datum? store = some datum) (notTruth : ∀ value, datum ≠ .truth value) :
    reading.isComplement = false := by
  cases reading with
  | complement operand =>
      simp only [datum?] at computed
      split at computed
      next value _ =>
        cases computed
        exact absurd rfl (notTruth _)
      next => cases computed
  | _ => rfl

/-- Operators that bind more tightly than `not` have no truth values as operands. -/
theorem BinaryOp.not_truth_of_isTight {op : BinaryOp} {left right datum : Datum}
    (tight : op.isTight = true) (computed : op.onData? left right = some datum) :
    (∀ value, left ≠ .truth value) ∧ ∀ value, right ≠ .truth value := by
  constructor
  · rintro value rfl
    rcases op with op | op | op
    · cases op <;> cases computed
    · cases tight
    · cases computed
  · rintro value rfl
    rcases op with op | op | op
    · cases op <;> cases left <;> cases computed
    · cases tight
    · cases left <;> cases computed

end SqlMapper
