import SqlMapper.Statement

/-!
# Updates

An update assigns values or expressions to fields of the rows that meet its
conditions. Keys and columns that the database fills are never assigned: naming
one in an assignment of its own is refused, and among the values of a row they
are passed over.
-/

namespace SqlMapper

/-- A clause of an update. -/
inductive UpdateClause where
  | filter (clause : FilterClause)
  /-- Assign every updatable field among the values. -/
  | set (source : Source)
  /-- Assign an expression to a field. -/
  | setField (field : String) (expr : Expr)

/-- An update under construction. -/
structure UpdateDraft where
  draft : Draft
  assignments : List Sql

namespace UpdateDraft

/-- Bind the stored form of a value and assign it. -/
def assignValue (update : UpdateDraft) (property : Property) (value : Value) :
    Result UpdateDraft := do
  let stored ← property.toStored value
  let (name, draft) := update.draft.bind stored
  return ⟨draft, update.assignments ++ [property.assignSql [.placeholder name]]⟩

/-- Assign each named value whose field is updatable. -/
def assignFields (update : UpdateDraft) (fields : List (String × Value)) :
    Result UpdateDraft :=
  fields.foldlM (fun update field => do
    let property ← update.draft.map.property field.1
    if property.updatable then update.assignValue property field.2 else return update) update

/-- Assign an expression to a field that has to be updatable. -/
def assignExpr (update : UpdateDraft) (field : String) (expr : Expr) : Result UpdateDraft := do
  let map := update.draft.map
  let property ← map.property field
  if !property.updatable then (StatementFault.notUpdatable map.name property.name).fail
  else
    let (value, draft) ←
      update.draft.compile (expr.assignment map update.draft.evaluator property)
    return ⟨draft, update.assignments ++ [property.assignSql value]⟩

/-- Apply a clause. -/
def apply (update : UpdateDraft) : UpdateClause → Result UpdateDraft
  | .filter clause => return { update with draft := ← update.draft.filter clause }
  | .set source => do update.assignFields (← source.values update.draft.map)
  | .setField field expr => update.assignExpr field expr

end UpdateDraft

namespace Update

/-- The statement with its assignments and optional conditions. -/
def sql (map : TableMap) (assignments : List Sql) (conditions : Option Sql) : Sql :=
  .text "update " :: map.tableSql ++ .text " set " :: joinPieces ", " assignments ++
    SelectParts.clause " where " conditions

/-- The update with all its clauses applied. -/
def draft (model : Model) (dialect : Dialect) (clauses : List UpdateClause) :
    SchemaM UpdateDraft := do
  let map ← Schema.tableMap model
  SchemaM.ofResult (clauses.foldlM UpdateDraft.apply ⟨Draft.start map dialect, []⟩)

/-- The update of the rows that meet the conditions. -/
def compile (model : Model) (dialect : Dialect) (clauses : List UpdateClause) :
    SchemaM Query := do
  let ⟨draft, assignments⟩ ← draft model dialect clauses
  if assignments.isEmpty then
    SchemaM.ofResult (StatementFault.noAssignments draft.map.name).fail
  else return draft.finish (sql draft.map assignments draft.conditionSql)

/-- The shape that writes every updatable field of one row. -/
def byKeySql (map : TableMap) : Result Sql := do
  map.requirePrimaryKey "an update by primary key"
  let assignments := (TableMap.numbered map.updatable 0).map fun (property, name) =>
    property.assignSql [.placeholder name]
  if assignments.isEmpty then (StatementFault.nothingUpdatable map.name).fail
  else return sql map assignments (some (map.keyConditions assignments.length))

/-- The update of the row with the primary key of `row`. -/
def byKey (model : Model) (dialect : Dialect) (clauses : List UpdateClause) (row : Row) :
    SchemaM Query := do
  let ⟨draft, assignments⟩ ← draft model dialect clauses
  if !assignments.isEmpty || !draft.isPristine then
    SchemaM.ofResult (StatementFault.combinedWithKey "an update").fail
  else
    let text ← draft.rememberedText .updateByKey (byKeySql draft.map)
    let values ← SchemaM.ofResult
      (draft.map.updatable.mapM fun property => property.storedOf row)
    let draft := { draft with params := (draft.params.pushAll values).2 }
    let fields ← SchemaM.ofResult ((Source.row row).values draft.map)
    let draft ← SchemaM.ofResult (draft.bindKey fields)
    return ⟨text, draft.params⟩

end Update

end SqlMapper
