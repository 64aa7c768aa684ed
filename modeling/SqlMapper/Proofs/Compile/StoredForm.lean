import SqlMapper.Proofs.Compile.Parts
import SqlMapper.Proofs.TableMap
import SqlMapper.Proofs.ValueMap

/-!
# What meets a column with a value map

A constant that is assigned to a column with a value map, or compared with one for
equality, is bound in stored form, tested for null, or refused; this holds wherever in an
expression the comparison stands. A field is written as its column, and an expression over
the row as it is, whatever values they have.
-/

namespace SqlMapper

/-- A stored form is null or one of the literals of the map. -/
theorem ValueMap.exists_key_of_toStored {coding : ValueMap} {value stored : Value}
    (translated : coding.toStored value = .ok stored) (notNull : stored ≠ .null) :
    ∃ key, (key, stored) ∈ coding.entries := by
  cases null : value.isNull with
  | true =>
      simp only [toStored, null, if_true, Except.ok.injEq] at translated
      exact absurd translated.symm notNull
  | false =>
      obtain ⟨key, listed, -⟩ := mem_of_toStored null translated
      exact ⟨key, listed⟩

theorem Term.sql_comparison (op : Comparison) (left right : Term) (names : List String) :
    (comparison op left right).sql names =
      infixPieces (left.sql names) op.sqlSymbol (right.sql names) :=
  map_infixPieces _ _ _ _

namespace Operand.Compares

variable {constants : List Value} {op : Comparison} {expected : Bool} {property : Property}
variable {met : Operand} {written : Term}

/-- Beside a column, null makes a null test and anything else a comparison. -/
theorem column_left (compares : (column property).Compares constants op met written)
    (test : op.nullTest? = some expected) :
    (met.isNull = true ∧ written = .nullTest (.column property.column) expected) ∨
      (met.isNull = false ∧ ∃ beside, met.Renders constants beside ∧
        written = .comparison op (.column property.column) beside) := by
  cases compares with
  | nullRight found null renders =>
      cases renders
      cases test.symm.trans found
      exact .inl ⟨null, rfl⟩
  | nullLeft found notNull null renders => cases null
  | values noTest leftRenders rightRenders =>
      cases leftRenders
      rw [test] at noTest
      obtain ⟨notNull, -⟩ := noTest.resolve_left nofun
      exact .inr ⟨notNull, _, rightRenders, rfl⟩

theorem column_right (compares : met.Compares constants op (column property) written)
    (test : op.nullTest? = some expected) :
    (met.isNull = true ∧ written = .nullTest (.column property.column) expected) ∨
      (met.isNull = false ∧ ∃ beside, met.Renders constants beside ∧
        written = .comparison op beside (.column property.column)) := by
  cases compares with
  | nullRight found null renders => cases null
  | nullLeft found notNull null renders =>
      cases renders
      cases test.symm.trans found
      exact .inl ⟨null, rfl⟩
  | values noTest leftRenders rightRenders =>
      cases rightRenders
      rw [test] at noTest
      obtain ⟨-, notNull⟩ := noTest.resolve_left nofun
      exact .inr ⟨notNull, _, leftRenders, rfl⟩

end Operand.Compares

/-- A constant is bound under the name at its place. -/
theorem mem_zip_of_getElem? {names : List String} {constants : List Value} {index : Nat}
    {value : Value} (length : names.length = constants.length)
    (known : constants[index]? = some value) :
    (names.getD index "", value) ∈ names.zip constants := by
  obtain ⟨inside, -⟩ := List.getElem?_eq_some_iff.mp known
  have named : names[index]? = some (names.getD index "") := by simp [length, inside]
  exact List.mem_of_getElem? (List.getElem?_zip_eq_some.mpr ⟨named, known⟩)

/-- The null test of the column. -/
def Property.nullTestSql (property : Property) (expected : Bool) : Sql :=
  [.text "(", .identifier property.column,
    .text (if expected then " is null)" else " is not null)")]

namespace Expr

/-- The expression is a constant that is stored as null. -/
def FoldsToNull (evaluator : Evaluator) (coding : ValueMap) (expr : Expr) : Prop :=
  ∃ value, expr.FoldsTo evaluator value ∧ coding.toStored value = .ok .null

/-- What an expression that is not null is written as where it meets a column with the value
map `coding`. Constants are bound under their names. -/
inductive StandsAs (map : TableMap) (evaluator : Evaluator) (coding : ValueMap)
    (constants : List Value) (names : List String) : Expr → Sql → Prop where
  /-- A constant is a placeholder bound to the literal that stores it. -/
  | literal {expr : Expr} {value stored key : Value} {name : String}
      (folds : expr.FoldsTo evaluator value) (translated : coding.toStored value = .ok stored)
      (listed : (key, stored) ∈ coding.entries) (bound : (name, stored) ∈ names.zip constants) :
      StandsAs map evaluator coding constants names expr [.placeholder name]
  /-- A field is its column. -/
  | column {name : String} {other : Property} (found : map.property name = .ok other) :
      StandsAs map evaluator coding constants names (field name) [.identifier other.column]
  /-- Any other expression over the row is text of its own, which begins with a parenthesis,
  the name of a function or a `not`. -/
  | compound {expr : Expr} {term : Term} {words : String} {rest : Sql}
      (compound : expr.IsCompound) (compiles : expr.Compiles map evaluator constants (.term term))
      (begins : term.sql names = .text words :: rest) :
      StandsAs map evaluator coding constants names expr (term.sql names)

variable {map : TableMap} {evaluator : Evaluator} {coding : ValueMap} {constants : List Value}
variable {names : List String} {expr other : Expr} {property : Property}

theorem StandsAs.translated {sql : Sql} {value : Value}
    (stands : expr.StandsAs map evaluator coding constants names sql)
    (folds : expr.FoldsTo evaluator value) : ∃ stored, coding.toStored value = .ok stored := by
  cases stands with
  | literal own translated =>
      cases own.unique folds
      exact ⟨_, translated⟩
  | column found => cases folds.referencesRow_eq
  | compound compound =>
      rw [IsCompound, folds.referencesRow_eq] at compound
      exact absurd compound.1 Bool.false_ne_true

/-- Beside a column with a value map, an expression is null or has a form of its own. -/
theorem Compiles.standsAs {operand met : Operand} (length : names.length = constants.length)
    (coded : property.valueMap = some coding)
    (compiles : expr.Compiles map evaluator constants operand)
    (stored : (Operand.column property).storedBeside operand = .ok met) :
    (met = .constant .null ∧ expr.FoldsToNull evaluator coding) ∨
      (met.isNull = false ∧ ∀ written, met.Renders constants written →
        expr.StandsAs map evaluator coding constants names (written.sql names)) := by
  rcases compiles.forms with ⟨value, folds, rfl⟩ | ⟨name, other, rfl, found, rfl⟩ |
    ⟨compound, fragment, words, rest, rfl, begins⟩
  · have translated : ∃ literal, coding.toStored value = .ok literal ∧ .constant literal = met := by
      simpa only [Operand.storedBeside, Property.toStored, coded, Functor.map,
        Result.map_eq_ok] using stored
    obtain ⟨literal, translated, rfl⟩ := translated
    by_cases null : literal = .null
    · subst null
      exact .inl ⟨rfl, value, folds, translated⟩
    · obtain ⟨key, listed⟩ := ValueMap.exists_key_of_toStored translated null
      refine .inr ⟨?_, ?_⟩
      · cases literal with
        | null => exact absurd rfl null
        | _ => rfl
      · rintro _ ⟨index, known, rfl⟩
        exact .literal folds translated listed (mem_zip_of_getElem? length known)
  · cases stored
    refine .inr ⟨rfl, ?_⟩
    rintro _ rfl
    exact .column found
  · cases stored
    refine .inr ⟨rfl, ?_⟩
    intro written same
    have begun : written.sql names = .text words :: rest.map (Piece.map fun index =>
        names.getD index "") := by
      rw [same, Term.sql, begins]
      rfl
    cases same
    exact .compound compound compiles begun

/-- How a comparison of a coded column is written: a null test of the column, or `joined`
with what the other operand stands as. -/
def MeetsColumn (map : TableMap) (evaluator : Evaluator) (coding : ValueMap)
    (constants : List Value) (names : List String) (property : Property) (expected : Bool)
    (other : Expr) (joined : Sql → Sql) (sql : Sql) : Prop :=
  (other.FoldsToNull evaluator coding ∧ property.nullTestSql expected <:+: sql) ∨
    ∃ beside, other.StandsAs map evaluator coding constants names beside ∧ joined beside <:+: sql

theorem Compiles.field_eq {name : String} {operand : Operand}
    (compiles : (field name).Compiles map evaluator constants operand)
    (found : map.property name = .ok property) : operand = .column property := by
  rcases compiles.forms with ⟨value, folds, -⟩ | ⟨_, other, same, otherFound, rfl⟩ |
    ⟨compound, -⟩
  · cases folds.referencesRow_eq
  · cases same
    rw [found, Except.ok.injEq] at otherFound
    rw [otherFound]
  · cases compound.2

theorem sql_within {own outer : Term} (inside : own.pieces <:+: outer.pieces) :
    own.sql names <:+: outer.sql names :=
  inside.map _

theorem Compiles.meetsColumn {operand met : Operand} {written : Term} {expected : Bool}
    {join : Term → Term} {joined : Sql → Sql} (length : names.length = constants.length)
    (coded : property.valueMap = some coding)
    (compiles : other.Compiles map evaluator constants operand)
    (stored : (Operand.column property).storedBeside operand = .ok met)
    (compared : (met.isNull = true ∧ written = .nullTest (.column property.column) expected) ∨
      (met.isNull = false ∧ ∃ beside, met.Renders constants beside ∧ written = join beside))
    (joins : ∀ beside, (join beside).sql names = joined (beside.sql names)) :
    MeetsColumn map evaluator coding constants names property expected other joined
      (written.sql names) := by
  rcases compiles.standsAs length coded stored with ⟨rfl, null⟩ | ⟨notNull, stands⟩
  · rcases compared with ⟨-, rfl⟩ | ⟨notNull, -⟩
    · exact .inl ⟨null, List.infix_rfl⟩
    · cases notNull
  · rcases compared with ⟨isNull, -⟩ | ⟨-, beside, renders, rfl⟩
    · rw [notNull] at isNull
      cases isNull
    · exact .inr ⟨_, stands beside renders, joins beside ▸ List.infix_rfl⟩

theorem Compiles.meetsColumn_left {op : Comparison} {expected : Bool} {own : Term}
    (length : names.length = constants.length) (coded : property.valueMap = some coding)
    (found : map.property property.name = .ok property) (test : op.nullTest? = some expected)
    (compiles : (binary (.comparison op) (field property.name) other).Compiles map evaluator
      constants (.term own)) :
    MeetsColumn map evaluator coding constants names property expected other
      (fun beside => Term.infixPieces [.identifier property.column] op.sqlSymbol beside)
      (own.sql names) := by
  cases compiles with
  | comparison mentioned leftTo rightTo meet compares =>
      cases leftTo.field_eq found
      obtain ⟨rfl, stored⟩ := meet.left_column
      exact rightTo.meetsColumn length coded stored (compares.column_left test)
        fun beside => Term.sql_comparison op _ beside names

theorem Compiles.meetsColumn_right {op : Comparison} {expected : Bool} {own : Term}
    (length : names.length = constants.length) (coded : property.valueMap = some coding)
    (found : map.property property.name = .ok property) (test : op.nullTest? = some expected)
    (compiles : (binary (.comparison op) other (field property.name)).Compiles map evaluator
      constants (.term own)) :
    MeetsColumn map evaluator coding constants names property expected other
      (fun beside => Term.infixPieces beside op.sqlSymbol [.identifier property.column])
      (own.sql names) := by
  cases compiles with
  | comparison mentioned leftTo rightTo meet compares =>
      cases rightTo.field_eq found
      obtain ⟨rfl, stored⟩ := meet.right_column
      exact leftTo.meetsColumn length coded stored (compares.column_right test)
        fun beside => Term.sql_comparison op beside _ names

theorem MeetsColumn.mono {expected : Bool} {joined : Sql → Sql} {fragment sql : Sql}
    (meets : MeetsColumn map evaluator coding constants names property expected other joined
      fragment) (inside : fragment <:+: sql) :
    MeetsColumn map evaluator coding constants names property expected other joined sql := by
  rcases meets with ⟨null, written⟩ | ⟨beside, stands, written⟩
  · exact .inl ⟨null, written.trans inside⟩
  · exact .inr ⟨beside, stands, written.trans inside⟩

theorem MeetsColumn.translated {expected : Bool} {joined : Sql → Sql} {sql : Sql} {value : Value}
    (meets : MeetsColumn map evaluator coding constants names property expected other joined sql)
    (folds : other.FoldsTo evaluator value) : ∃ stored, coding.toStored value = .ok stored := by
  rcases meets with ⟨⟨own, ownFolds, stored⟩, -⟩ | ⟨beside, stands, -⟩
  · cases ownFolds.unique folds
    exact ⟨_, stored⟩
  · exact stands.translated folds

end Expr

/-- The whole expression is written as its term, if it compiles to one. -/
theorem Operand.Fills.eq_of_term {outer written : Term} {constants : List Value} {place : Place}
    (fills : (Operand.term outer).Fills constants written place) : written = outer := by
  cases place with
  | condition | value => exact fills
  | assignment property =>
      obtain ⟨met, stored, renders⟩ := fills
      cases stored
      exact renders

namespace Compilation

/-- The expression is assigned to the column or compared with it for equality, be it
somewhere inside the compiled expression. -/
inductive Meets (compilation : Compilation) (property : Property) : Expr → Prop where
  | assigned (place : compilation.place = .assignment property) :
      Meets compilation property compilation.expr
  | left {op : Comparison} {expected : Bool} {other : Expr} (test : op.nullTest? = some expected)
      (inside : .binary (.comparison op) (.field property.name) other ∈ compilation.expr.parts) :
      Meets compilation property other
  | right {op : Comparison} {expected : Bool} {other : Expr} (test : op.nullTest? = some expected)
      (inside : .binary (.comparison op) other (.field property.name) ∈ compilation.expr.parts) :
      Meets compilation property other

/-- Whatever meets the column in `sql` is written as its value map demands. -/
structure Translates (compilation : Compilation) (property : Property) (coding : ValueMap)
    (constants : List Value) (names : List String) (sql : Sql) : Prop where
  /-- What is assigned is a placeholder bound to null, or stands as what it is. -/
  assigned : compilation.place = .assignment property →
    (compilation.expr.FoldsToNull compilation.evaluator coding ∧
      ∃ name, sql = [.placeholder name] ∧ (name, .null) ∈ names.zip constants) ∨
    compilation.expr.StandsAs compilation.map compilation.evaluator coding constants names sql
  left : ∀ op expected other, op.nullTest? = some expected →
    .binary (.comparison op) (.field property.name) other ∈ compilation.expr.parts →
    Expr.MeetsColumn compilation.map compilation.evaluator coding constants names property
      expected other (Term.infixPieces [.identifier property.column] op.sqlSymbol) sql
  right : ∀ op expected other, op.nullTest? = some expected →
    .binary (.comparison op) other (.field property.name) ∈ compilation.expr.parts →
    Expr.MeetsColumn compilation.map compilation.evaluator coding constants names property
      expected other
      (fun beside => Term.infixPieces beside op.sqlSymbol [.identifier property.column]) sql

variable {compilation : Compilation} {property : Property} {coding : ValueMap} {params : Params}

theorem Translates.translated {constants : List Value} {names : List String} {sql : Sql}
    {other : Expr} {value : Value}
    (translates : compilation.Translates property coding constants names sql)
    (meets : compilation.Meets property other) (folds : other.FoldsTo compilation.evaluator value) :
    ∃ stored, coding.toStored value = .ok stored := by
  cases meets with
  | assigned place =>
      rcases translates.assigned place with ⟨⟨own, ownFolds, stored⟩, -⟩ | stands
      · cases ownFolds.unique folds
        exact ⟨_, stored⟩
      · exact stands.translated folds
  | left test inside => exact (translates.left _ _ _ test inside).translated folds
  | right test inside => exact (translates.right _ _ _ test inside).translated folds

/-- What a compilation writes where something meets a column with a value map. -/
theorem translates {sql : Sql} {after : Params}
    (found : compilation.map.property property.name = .ok property)
    (coded : property.valueMap = some coding)
    (compiled : params.compile compilation.step = (.ok sql, after)) :
    ∃ constants names, names.length = constants.length ∧
      params.Adds after (names.zip constants) ∧
      compilation.Translates property coding constants names sql := by
  obtain ⟨constants, names, operand, written, length, adds, compiles, fills, rfl⟩ :=
    shape compiled
  -- A comparison inside the expression is compiled, and its text is part of the whole.
  have compared {node : Expr} (inside : node ∈ compilation.expr.parts)
      (compound : node.IsCompound) (notRow : node.isRow = false) :
      ∃ own, node.Compiles compilation.map compilation.evaluator constants (.term own) ∧
        own.sql names <:+: written.sql names := by
    obtain ⟨own, outer, ownCompiles, rfl, within⟩ :=
      compiles.of_mem_parts inside compound notRow
    rw [fills.eq_of_term]
    exact ⟨own, ownCompiles, Expr.sql_within within⟩
  refine ⟨constants, names, length, adds, ?_, ?_, ?_⟩
  · intro place
    rw [place] at fills
    obtain ⟨met, stored, renders⟩ := fills
    rcases compiles.standsAs length coded stored with ⟨rfl, null⟩ | ⟨-, stands⟩
    · obtain ⟨index, known, rfl⟩ := renders
      exact .inl ⟨null, _, rfl, mem_zip_of_getElem? length known⟩
    · exact .inr (stands written renders)
  · intro op expected other test inside
    have mentioned : (Expr.binary (.comparison op) (.field property.name) other).IsCompound :=
      ⟨by simp [Expr.referencesRow, Expr.field], rfl⟩
    obtain ⟨own, ownCompiles, within⟩ := compared inside mentioned rfl
    exact (ownCompiles.meetsColumn_left length coded found test).mono within
  · intro op expected other test inside
    have mentioned : (Expr.binary (.comparison op) other (.field property.name)).IsCompound :=
      ⟨by simp [Expr.referencesRow, Expr.field], rfl⟩
    obtain ⟨own, ownCompiles, within⟩ := compared inside mentioned rfl
    exact (ownCompiles.meetsColumn_right length coded found test).mono within

end Compilation

/-- A constant that is assigned to a column with a value map or compared with one is bound
as null or as a literal of the map, or makes a null test; one that the map does not
translate is refused. A field is written as its column, and any other expression over the
row as text of its own. -/
theorem constants_stored_at_coded_columns (compilation : Compilation) {property : Property}
    {coding : ValueMap} (accepted : compilation.map.verify = .ok ())
    (mapped : property ∈ compilation.map.properties) (coded : property.valueMap = some coding)
    (params : Params) :
    (∀ sql after, params.compile compilation.step = (.ok sql, after) →
      ∃ constants names, names.length = constants.length ∧
        params.Adds after (names.zip constants) ∧
        compilation.Translates property coding constants names sql) ∧
    ∀ other value error, compilation.Meets property other →
      other.FoldsTo compilation.evaluator value → coding.toStored value = .error error →
      ∃ failure, (params.compile compilation.step).1 = .error failure := by
  have found := TableMap.property_name_eq_ok (TableMap.unique_of_verify_eq_ok accepted) mapped
  constructor
  · intro sql after compiled
    exact Compilation.translates found coded compiled
  · intro other value error meets folds refused
    cases result : (params.compile compilation.step).1 with
    | error failure => exact ⟨failure, rfl⟩
    | ok sql =>
        obtain ⟨_, _, -, -, translates⟩ :=
          Compilation.translates found coded (Prod.ext result rfl)
        obtain ⟨stored, translated⟩ := translates.translated meets folds
        rw [refused] at translated
        cases translated

namespace Invoice

def letters : ValueMap :=
  .ofBool (.string "Y") (.string "N")

/-- `p.amount > 2` -/
def aboveTwo : Expr :=
  .binary (.comparison .gt) (.field "amount") (.value (.i32 2))

/-- `p.amount > 2 && true == p.paid` -/
def aboveTwoAndPaid : Compilation :=
  ⟨mapping, .standard, .binary (.connective .and) aboveTwo (.eq (.value (.bool true))
    (.field "paid")), .condition⟩

/-- `p.paid == 5` -/
def paidIsFive : Compilation :=
  ⟨mapping, .standard, .eq (.field "paid") (.value (.i32 5)), .condition⟩

theorem paid_compared_stored :
    (∃ constants names, names.length = constants.length ∧
      Params.empty.Adds (.numbered 0 [.i32 2, .string "Y"]) (names.zip constants) ∧
      aboveTwoAndPaid.Translates paid letters constants names
        [.text "(", .text "(", .identifier "amount", .text " > ", .placeholder "p0", .text ")",
          .text " and ", .text "(", .placeholder "p1", .text " = ", .identifier "is_paid",
          .text ")", .text ")"]) ∧
    ∃ failure, (Params.empty.compile paidIsFive.step).1 = .error failure := by
  have accepted : mapping.verify = .ok () := rfl
  have mapped : paid ∈ mapping.properties := .head _
  constructor
  · exact (constants_stored_at_coded_columns aboveTwoAndPaid accepted mapped rfl .empty).1 _ _ rfl
  · have equality : Comparison.eq.nullTest? = some true := rfl
    exact (constants_stored_at_coded_columns paidIsFive accepted mapped rfl .empty).2 _ _ _
      (.left equality (.head _)) (.inl rfl) rfl

/-- Assigned to a column with a value map, a comparison is written as it is, which is neither
a placeholder nor a column. -/
theorem aboveTwo_assigned_to_paid :
    mapping.verify = .ok () ∧ paid ∈ mapping.properties ∧ paid.valueMap = some letters ∧
      ∃ sql after, Params.empty.compile (aboveTwo.assignment mapping .standard paid) =
        (.ok sql, after) ∧
        (∀ name, sql ≠ [.placeholder name]) ∧ ∀ column, sql ≠ [.identifier column] := by
  refine ⟨rfl, .head _, rfl, _, _, rfl, nofun, nofun⟩

end Invoice

end SqlMapper
