import SqlMapper.Statement

/-!
# Selects

A select reads the mapped columns of the rows that meet its conditions. The
selection and the source can be replaced, rows can be grouped and ordered, and
either a limit or a page restricts them: the last of the two that was asked for.
A page without an order is taken in the order of the primary key.
-/

namespace SqlMapper

/-- The direction of an order term. -/
inductive Direction where
  | ascending
  | descending
  deriving DecidableEq

/-- An order term: a field and a direction. -/
structure OrderTerm where
  field : String
  direction : Direction

/-- Which rows are asked for. -/
inductive RowRange where
  | all
  | limit (count : Nat)
  /-- A page counted from one, of `size` rows. -/
  | page (number size : Nat)

namespace RowRange

/-- At most `count` rows, all of them when the count is zero. -/
def ofLimit (count : Nat) : RowRange :=
  if count = 0 then all else limit count

def isAll : RowRange → Bool
  | all => true
  | _ => false

def isPage : RowRange → Bool
  | page _ _ => true
  | _ => false

end RowRange

/-- A clause of a select. -/
inductive SelectClause where
  | filter (clause : FilterClause)
  /-- Replace the selection by a text. -/
  | selection (text : String)
  /-- Replace the source by a text. -/
  | source (text : String)
  | orderBy (term : OrderTerm)
  | groupBy (field : String)
  | limit (count : Nat)
  | page (number size : Nat)

/-- A select under construction. -/
structure SelectDraft where
  draft : Draft
  selection : Option String
  source : Option String
  order : List OrderTerm
  grouping : List String
  rows : RowRange

namespace SelectDraft

/-- A select without clauses. -/
def start (map : TableMap) (dialect : Dialect) : SelectDraft :=
  ⟨Draft.start map dialect, none, none, [], [], .all⟩

/-- Apply a clause. -/
def apply (select : SelectDraft) : SelectClause → Result SelectDraft
  | .filter clause => return { select with draft := ← select.draft.filter clause }
  | .selection text => return { select with selection := some text }
  | .source text => return { select with source := some text }
  | .orderBy term => return { select with order := select.order ++ [term] }
  | .groupBy field => return { select with grouping := select.grouping ++ [field] }
  | .limit count => return { select with rows := .ofLimit count }
  | .page number size =>
    if number = 0 ∨ size = 0 then (StatementFault.invalidPage number size).fail
    else return { select with rows := .page number size }

/-- Whether no clause left a trace. -/
def isPristine (select : SelectDraft) : Bool :=
  select.draft.isPristine && select.selection.isNone && select.source.isNone &&
    select.order.isEmpty && select.grouping.isEmpty && select.rows.isAll

/-- What is selected. -/
def selectionSql (select : SelectDraft) : Sql :=
  match select.selection with
  | some text => [.raw text]
  | none => select.draft.map.defaultSelection

/-- What is selected from. -/
def sourceSql (select : SelectDraft) : Sql :=
  match select.source with
  | some text => [.raw text]
  | none => select.draft.map.tableSql

/-- The columns that rows are grouped by. -/
def groupingSql (select : SelectDraft) : Result (Option Sql) :=
  if select.grouping.isEmpty then .ok none
  else do
    let columns ← select.grouping.mapM fun field =>
      return (← select.draft.map.property field).columnSql
    return some (joinPieces ", " columns)

/-- One order term. -/
def termSql (map : TableMap) (term : OrderTerm) : Result Sql := do
  let column := (← map.property term.field).columnSql
  match term.direction with
  | .ascending => return column
  | .descending => return column ++ [.text " desc"]

/-- The order: the given terms, or the primary key for a page without any. -/
def orderSql (select : SelectDraft) : Result (Option Sql) := do
  let map := select.draft.map
  if !select.order.isEmpty then
    return some (joinPieces ", " (← select.order.mapM (termSql map)))
  else if select.rows.isPage then
    map.requirePrimaryKey "paging without an explicit order"
    return some (joinPieces ", " (map.primaryKey.map Property.columnSql))
  else return none

/-- The statement's limit, offset and fetch count. The offset of a page is one
more than the number of rows on the pages before it. -/
def rowCounts : RowRange → Result (Nat × Nat × Nat)
  | .all => .ok (0, 0, 0)
  | .limit count => .ok (count, 0, 0)
  | .page number size =>
    if (number - 1) * size + 1 ≤ maxRowCount then .ok (0, (number - 1) * size + 1, size)
    else (StatementFault.pageOutOfRange number).fail

/-- The clauses of the statement. -/
def parts (select : SelectDraft) : Result SelectParts := do
  let grouping ← select.groupingSql
  let order ← select.orderSql
  let (limit, offset, fetch) ← rowCounts select.rows
  return { selection := select.selectionSql, source := select.sourceSql
           conditions := select.draft.conditionSql, grouping, order, limit, offset, fetch }

/-- The clauses of the statement that counts the rows. -/
def countParts (select : SelectDraft) : SelectParts :=
  { SelectParts.plain [.text "count(*)"] select.sourceSql with
    conditions := select.draft.conditionSql }

end SelectDraft

namespace Select

/-- The select with all its clauses applied. -/
def draft (model : Model) (dialect : Dialect) (clauses : List SelectClause) :
    SchemaM SelectDraft := do
  let map ← Schema.tableMap model
  SchemaM.ofResult (clauses.foldlM SelectDraft.apply (SelectDraft.start map dialect))

/-- The select of the rows that the clauses ask for. -/
def compile (model : Model) (dialect : Dialect) (clauses : List SelectClause) :
    SchemaM Query := do
  let select ← draft model dialect clauses
  let parts ← SchemaM.ofResult select.parts
  return select.draft.finish (← SchemaM.ofResult (dialect.select parts))

/-- The number of the rows that meet the conditions, whatever their order and
however they are restricted. -/
def count (model : Model) (dialect : Dialect) (clauses : List SelectClause) :
    SchemaM Query := do
  let select ← draft model dialect clauses
  return select.draft.finish (← SchemaM.ofResult (dialect.select select.countParts))

/-- The shape that reads one row. -/
def byKeySql (map : TableMap) (dialect : Dialect) : Result Sql := do
  map.requirePrimaryKey "a select by primary key"
  dialect.select { SelectParts.plain map.defaultSelection map.tableSql with
    conditions := some (map.keyConditions 0) }

/-- The select of the row with the key fields of `key`. -/
def byKey (model : Model) (dialect : Dialect) (clauses : List SelectClause) (key : Source) :
    SchemaM Query := do
  let select ← draft model dialect clauses
  if !select.isPristine then
    SchemaM.ofResult (StatementFault.combinedWithKey "a select").fail
  else
    let text ← select.draft.rememberedText .selectByKey (byKeySql select.draft.map dialect)
    let fields ← SchemaM.ofResult (key.values select.draft.map)
    let draft ← SchemaM.ofResult (select.draft.bindKey fields)
    return ⟨text, draft.params⟩

end Select

end SqlMapper
