import SqlMapper.Proofs.Reading

/-!
# Precedence in SQL

The database takes a condition apart by the precedence of its operators: `or`, `and`, `not`,
comparisons, sums, products and the sign, from the loosest to the tightest, where operators
of one level associate to the left. `Grammar.parse` does so with a stack of what is
incomplete. Whatever has been read is combined as soon as a looser operator or a closing
parenthesis follows, and `not` is refused where only a tighter operand can stand.

An operand is self-delimiting when it is a single lexeme, a call, or text in a pair of
parentheses of its own, so that no operator beside it can take a part of it.
-/

namespace SqlMapper.Grammar

/-- What stands between two operands. A comma is the loosest operator. -/
inductive Connector where
  | comma
  | binary (op : BinaryOp)
  | like

/-- What stands in front of an operand. -/
inductive Sign where
  | complement
  | minus

/-- A condition or a value by its operators. -/
inductive OperatorTree (ρ : Type) where
  | leaf (piece : Piece ρ)
  | operation (op : Connector) (left right : OperatorTree ρ)
  | signed (sign : Sign) (operand : OperatorTree ρ)
  | nullTest (operand : OperatorTree ρ) (expected : Bool)
  | call (name : String) (arguments : OperatorTree ρ)

inductive Lexeme (ρ : Type) where
  /-- Something that is complete on its own. -/
  | operand (piece : Piece ρ)
  | opening
  /-- The name of a function with the parenthesis that follows it. -/
  | call (name : String)
  | closing
  | operator (op : Connector)
  | sign (sign : Sign)
  /-- `is null`, or `is not null` when null is not `expected`. -/
  | nullTest (expected : Bool)
  | unknown

/-- How tightly an operator binds. -/
def Connector.level : Connector → Nat
  | comma => 0
  | binary (.connective .or) => 1
  | binary (.connective .and) => 2
  | binary (.comparison _) | like => 4
  | binary (.arithmetic .add) | binary (.arithmetic .sub) => 5
  | binary (.arithmetic _) => 6

def Sign.level : Sign → Nat
  | complement => 3
  | minus => 7

/-- A null test binds like a comparison. -/
def nullTestLevel : Nat := 4

variable {ρ : Type}

/-- Fixed wording as lexemes. -/
def wordLexemes (words : String) : List (Lexeme ρ) :=
  match words with
  | "(" => [.opening]
  | ")" => [.closing]
  | "(-" => [.opening, .sign .minus]
  | "not " => [.sign .complement]
  | ", " => [.operator .comma]
  | " like " => [.operator .like]
  | " is null)" => [.nullTest true, .closing]
  | " is not null)" => [.nullTest false, .closing]
  | "(1 = 1)" =>
    [.opening, .operand (.number 1), .operator (.binary (.comparison .eq)),
      .operand (.number 1), .closing]
  | "(1 = 0)" =>
    [.opening, .operand (.number 1), .operator (.binary (.comparison .eq)),
      .operand (.number 0), .closing]
  | " + 1)" => [.operator (.binary (.arithmetic .add)), .operand (.number 1), .closing]
  | " + 1, " =>
    [.operator (.binary (.arithmetic .add)), .operand (.number 1), .operator .comma]
  | "ltrim(" => [.call "ltrim"]
  | "rtrim(" => [.call "rtrim"]
  | "ucase(" => [.call "ucase"]
  | "lcase(" => [.call "lcase"]
  | "replace(" => [.call "replace"]
  | "substr(" => [.call "substr"]
  | _ =>
    match BinaryOp.ofWords? words with
    | some op => [.operator (.binary op)]
    | none => [.unknown]

/-- A piece as lexemes. Identifiers, literals and placeholders are single lexemes. -/
def pieceLexemes : Piece ρ → List (Lexeme ρ)
  | .text words => wordLexemes words
  | .raw _ => [.unknown]
  | piece => [.operand piece]

def lexemes (pieces : List (Piece ρ)) : List (Lexeme ρ) :=
  pieces.flatMap pieceLexemes

/-! ## Reading by precedence -/

/-- What has been opened and is still incomplete. -/
inductive Pending (ρ : Type) where
  | group
  | call (name : String)
  /-- An operator whose left operand has been read. -/
  | operation (op : Connector) (left : OperatorTree ρ)
  | signed (sign : Sign)

/-- How tightly what follows has to bind. -/
def Pending.level : Pending ρ → Nat
  | group | call _ => 0
  | operation op _ => op.level
  | signed sign => sign.level

/-- How far a text has been read: what is open, innermost first, and the operand that was
completed last. -/
structure State (ρ : Type) where
  frames : List (Pending ρ)
  read? : Option (OperatorTree ρ)

/-- Combine the operand with what binds at least as tightly as `level`. -/
def reduce (level : Nat) : List (Pending ρ) → OperatorTree ρ → List (Pending ρ) × OperatorTree ρ
  | .operation op left :: frames, operand =>
    if level ≤ op.level then reduce level frames (.operation op left operand)
    else (.operation op left :: frames, operand)
  | .signed sign :: frames, operand =>
    if level ≤ sign.level then reduce level frames (.signed sign operand)
    else (.signed sign :: frames, operand)
  | frames, operand => (frames, operand)

/-- Read one more lexeme. -/
def State.put (state : State ρ) (lexeme : Lexeme ρ) : Option (State ρ) :=
  match lexeme, state.read? with
  | .operand piece, none => some ⟨state.frames, some (.leaf piece)⟩
  | .opening, none => some ⟨.group :: state.frames, none⟩
  | .call name, none => some ⟨.call name :: state.frames, none⟩
  | .sign sign, none =>
    if state.frames.head?.any fun frame => sign.level < frame.level then none
    else some ⟨.signed sign :: state.frames, none⟩
  | .operator op, some operand =>
    let (frames, left) := reduce op.level state.frames operand
    some ⟨.operation op left :: frames, none⟩
  | .nullTest expected, some operand =>
    let (frames, tested) := reduce nullTestLevel state.frames operand
    some ⟨frames, some (.nullTest tested expected)⟩
  | .closing, some operand =>
    match reduce 0 state.frames operand with
    | (.group :: frames, inner) => some ⟨frames, some inner⟩
    | (.call name :: frames, arguments) => some ⟨frames, some (.call name arguments)⟩
    | _ => none
  | _, _ => none

/-- Read several lexemes. -/
def run (lexemes : List (Lexeme ρ)) (state : State ρ) : Option (State ρ) :=
  lexemes.foldlM State.put state

section Run

variable {lexeme : Lexeme ρ} {left rest : List (Lexeme ρ)} {state next : State ρ}

theorem run_nil (state : State ρ) : run [] state = some state := rfl

theorem run_cons (put : state.put lexeme = some next) :
    run (lexeme :: rest) state = run rest next := by
  rw [run, List.foldlM_cons, put]
  rfl

theorem run_append (ran : run left state = some next) :
    run (left ++ rest) state = run rest next := by
  rw [run, List.foldlM_append, ← run, ran]
  rfl

end Run

/-- The tree that a whole text spells out. -/
def parse (pieces : List (Piece ρ)) : Option (OperatorTree ρ) :=
  match run (lexemes pieces) ⟨[], none⟩ with
  | some ⟨frames, some operand⟩ =>
    match reduce 0 frames operand with
    | ([], whole) => some whole
    | _ => none
  | _ => none

/-- After `frames`, the lexemes are read as `tree`, for all that binds no more tightly than
`level`. -/
def ParsesAt (frames : List (Pending ρ)) (level : Nat) (lexemes : List (Lexeme ρ))
    (tree : OperatorTree ρ) : Prop :=
  ∃ opened core, run lexemes ⟨frames, none⟩ = some ⟨opened, some core⟩ ∧
    ∀ lower ≤ level, reduce lower opened core = reduce lower frames tree

/-- Two operands with an operator between them. -/
def joined (op : Connector) (left right : List (Lexeme ρ)) : List (Lexeme ρ) :=
  left ++ .operator op :: right

/-- A lexeme that opens a group or the arguments of a function. -/
def Lexeme.opens : Lexeme ρ → Bool
  | opening | call _ => true
  | _ => false

/-- Lexemes in a pair of parentheses of their own. -/
def enclose (opener : Lexeme ρ) (body : List (Lexeme ρ)) : List (Lexeme ρ) :=
  opener :: (body ++ [.closing])

namespace ParsesAt

variable {frames : List (Pending ρ)} {level : Nat} {left right body : List (Lexeme ρ)}
variable {first second inner : OperatorTree ρ}

theorem operand (frames : List (Pending ρ)) (level : Nat) (piece : Piece ρ) :
    ParsesAt frames level [.operand piece] (.leaf piece) :=
  ⟨frames, .leaf piece, rfl, fun _ _ => rfl⟩

/-- The left operand is complete when the operator follows, and the operation is for all
that binds no more tightly. -/
theorem operation (op : Connector) (leftParses : ParsesAt frames op.level left first)
    (complete : ∀ operand, reduce op.level frames operand = (frames, operand))
    (rightParses : ParsesAt (.operation op first :: frames) op.level right second) :
    ParsesAt frames op.level (joined op left right) (.operation op first second) := by
  obtain ⟨opened, core, leftRan, leftReduces⟩ := leftParses
  obtain ⟨final, last, rightRan, rightReduces⟩ := rightParses
  refine ⟨final, last, ?_, ?_⟩
  · have reduced : reduce op.level opened core = (frames, first) :=
      (leftReduces op.level (Nat.le_refl _)).trans (complete first)
    have put : State.put ⟨opened, some core⟩ (.operator op) =
        some ⟨.operation op first :: frames, none⟩ := by
      simp [State.put, reduced]
    rw [joined, run_append leftRan, run_cons put, rightRan]
  · intro lower below
    rw [rightReduces lower below, reduce, if_pos below]

/-- A sign may stand where nothing tighter waits for its operand. -/
theorem signed {sign : Sign}
    (loose : frames.head?.any (fun frame => sign.level < frame.level) = false)
    (parses : ParsesAt (.signed sign :: frames) sign.level body inner) :
    ParsesAt frames sign.level (.sign sign :: body) (.signed sign inner) := by
  obtain ⟨opened, core, ran, reduces⟩ := parses
  refine ⟨opened, core, ?_, ?_⟩
  · have put : State.put ⟨frames, none⟩ (.sign sign) =
        some ⟨.signed sign :: frames, none⟩ := by
      simp only [State.put, loose, Bool.false_eq_true, if_false]
    rw [run_cons put, ran]
  · intro lower below
    rw [reduces lower below, reduce, if_pos below]

theorem nullTest (parses : ParsesAt frames nullTestLevel body inner)
    (complete : ∀ operand, reduce nullTestLevel frames operand = (frames, operand))
    (expected : Bool) (level : Nat) :
    ParsesAt frames level (body ++ [.nullTest expected]) (.nullTest inner expected) := by
  obtain ⟨opened, core, ran, reduces⟩ := parses
  have reduced : reduce nullTestLevel opened core = (frames, inner) :=
    (reduces nullTestLevel (Nat.le_refl _)).trans (complete inner)
  refine ⟨frames, .nullTest inner expected, ?_, fun _ _ => rfl⟩
  have put : State.put ⟨opened, some core⟩ (.nullTest expected) =
      some ⟨frames, some (.nullTest inner expected)⟩ := by
    simp [State.put, reduced]
  rw [run_append ran, run_cons put, run_nil]

/-- Text in parentheses of its own is complete, whatever stands around it. -/
theorem group (parses : ParsesAt (.group :: frames) 0 body inner) (level : Nat) :
    ParsesAt frames level (enclose .opening body) inner := by
  obtain ⟨opened, core, ran, reduces⟩ := parses
  have reduced : reduce 0 opened core = (.group :: frames, inner) := reduces 0 (Nat.le_refl _)
  have put : State.put ⟨opened, some core⟩ .closing = some ⟨frames, some inner⟩ := by
    simp [State.put, reduced]
  refine ⟨frames, inner, ?_, fun _ _ => rfl⟩
  have entered : State.put ⟨frames, none⟩ .opening = some ⟨.group :: frames, none⟩ := rfl
  rw [enclose, run_cons entered, run_append ran, run_cons put, run_nil]

/-- A call is complete, whatever stands around it. -/
theorem call {name : String} (parses : ParsesAt (.call name :: frames) 0 body inner)
    (level : Nat) : ParsesAt frames level (enclose (.call name) body) (.call name inner) := by
  obtain ⟨opened, core, ran, reduces⟩ := parses
  have reduced : reduce 0 opened core = (.call name :: frames, inner) := reduces 0 (Nat.le_refl _)
  have put : State.put ⟨opened, some core⟩ .closing =
      some ⟨frames, some (.call name inner)⟩ := by
    simp [State.put, reduced]
  refine ⟨frames, .call name inner, ?_, fun _ _ => rfl⟩
  have entered : State.put ⟨frames, none⟩ (.call name) = some ⟨.call name :: frames, none⟩ :=
    rfl
  rw [enclose, run_cons entered, run_append ran, run_cons put, run_nil]

theorem mono {lower : Nat} (parses : ParsesAt frames level body inner) (below : lower ≤ level) :
    ParsesAt frames lower body inner := by
  obtain ⟨opened, core, ran, reduces⟩ := parses
  exact ⟨opened, core, ran, fun other under => reduces other (Nat.le_trans under below)⟩

theorem parse_eq {pieces : List (Piece ρ)} (parses : ParsesAt [] 0 (lexemes pieces) inner) :
    parse pieces = some inner := by
  obtain ⟨opened, core, ran, reduces⟩ := parses
  have reduced : reduce 0 opened core = ([], inner) := reduces 0 (Nat.le_refl _)
  rw [parse, ran]
  simp only [reduced]

end ParsesAt

/-! ## Operands that delimit themselves -/

/-- Whether the parenthesis that is open closes with the last lexeme; `depth` more have been
opened inside it. -/
def closesLast : Nat → List (Lexeme ρ) → Bool
  | _, [] => false
  | 0, .closing :: rest => rest.isEmpty
  | depth + 1, .closing :: rest => closesLast depth rest
  | depth, lexeme :: rest => closesLast (if lexeme.opens then depth + 1 else depth) rest

/-- A single lexeme, or lexemes whose first opens a parenthesis that closes with the last. -/
def selfDelimiting : List (Lexeme ρ) → Bool
  | [.operand _] => true
  | lexeme :: rest => lexeme.opens && closesLast 0 rest
  | [] => false

/-- Whatever the lexemes open, they close. -/
def Balanced (lexemes : List (Lexeme ρ)) : Prop :=
  ∀ depth rest, closesLast depth (lexemes ++ rest) = closesLast depth rest

namespace Balanced

variable {left right body : List (Lexeme ρ)} {lexeme opener : Lexeme ρ}

theorem operand (piece : Piece ρ) : Balanced [.operand piece] := by
  intro depth rest
  cases depth <;> rfl

theorem append (first : Balanced left) (second : Balanced right) : Balanced (left ++ right) := by
  intro depth rest
  rw [List.append_assoc, first, second]

/-- A lexeme that is no parenthesis changes nothing. -/
theorem cons (opens : lexeme.opens = false) (closes : lexeme ≠ .closing) (tail : Balanced body) :
    Balanced (lexeme :: body) := by
  intro depth rest
  have skipped : closesLast depth (lexeme :: (body ++ rest)) = closesLast depth (body ++ rest) := by
    cases lexeme with
    | closing => exact absurd rfl closes
    | opening | call _ => cases opens
    | _ => cases depth <;> rfl
  rw [List.cons_append, skipped, tail]

theorem nil : Balanced ([] : List (Lexeme ρ)) := fun _ _ => rfl

theorem joined (op : Connector) (first : Balanced left) (second : Balanced right) :
    Balanced (joined op left right) :=
  first.append (second.cons rfl nofun)

theorem enclose (opens : opener.opens = true) (inner : Balanced body) :
    Balanced (enclose opener body) := by
  intro depth rest
  have opened : closesLast depth (Grammar.enclose opener body ++ rest) =
      closesLast (depth + 1) (body ++ .closing :: rest) := by
    rw [Grammar.enclose, List.cons_append, List.append_assoc]
    cases opener with
    | opening | call _ => cases depth <;> rfl
    | _ => cases opens
  rw [opened, inner]
  rfl

end Balanced

/-- A single lexeme, or lexemes in a pair of parentheses of their own. -/
inductive Delimited : List (Lexeme ρ) → Prop where
  | operand (piece : Piece ρ) : Delimited [.operand piece]
  | enclosed {opener : Lexeme ρ} {body : List (Lexeme ρ)} (opens : opener.opens = true)
      (inner : Balanced body) : Delimited (enclose opener body)

namespace Delimited

variable {lexemes : List (Lexeme ρ)}

theorem balanced (delimited : Delimited lexemes) : Balanced lexemes := by
  cases delimited with
  | operand piece => exact .operand piece
  | enclosed opens inner => exact .enclose opens inner

theorem selfDelimiting_eq (delimited : Delimited lexemes) : selfDelimiting lexemes = true := by
  cases delimited with
  | operand piece => rfl
  | @enclosed opener body opens inner =>
      have closes : closesLast 0 (body ++ [.closing]) = true := by
        rw [inner]
        rfl
      cases opener with
      | opening | call _ => exact closes
      | _ => cases opens

end Delimited

end SqlMapper.Grammar
