import SqlMapper.Statement

/-!
# Deletes

A delete removes the rows that meet its conditions, all of them when there are
none, or the row with a given primary key.
-/

namespace SqlMapper.Delete

/-- The statement with optional conditions. -/
def sql (map : TableMap) (conditions : Option Sql) : Sql :=
  .text "delete from " :: map.tableSql ++ SelectParts.clause " where " conditions

/-- The delete with all its clauses applied. -/
def draft (model : Model) (dialect : Dialect) (clauses : List FilterClause) :
    SchemaM Draft := do
  let map ← Schema.tableMap model
  SchemaM.ofResult (clauses.foldlM Draft.filter (Draft.start map dialect))

/-- The delete of the rows that meet the conditions. -/
def compile (model : Model) (dialect : Dialect) (clauses : List FilterClause) :
    SchemaM Query := do
  let draft ← draft model dialect clauses
  return draft.finish (sql draft.map draft.conditionSql)

/-- The shape that removes one row. -/
def byKeySql (map : TableMap) : Result Sql := do
  map.requirePrimaryKey "a delete by primary key"
  return sql map (some (map.keyConditions 0))

/-- The delete of the row with the key fields of `key`. -/
def byKey (model : Model) (dialect : Dialect) (clauses : List FilterClause) (key : Source) :
    SchemaM Query := do
  let draft ← draft model dialect clauses
  if !draft.isPristine then
    SchemaM.ofResult (StatementFault.combinedWithKey "a delete").fail
  else
    let text ← draft.rememberedText .deleteByKey (byKeySql draft.map)
    let fields ← SchemaM.ofResult (key.values draft.map)
    let draft ← SchemaM.ofResult (draft.bindKey fields)
    return ⟨text, draft.params⟩

end SqlMapper.Delete
