import SqlMapper.Statement

/-!
# Inserts

An insert writes every insertable field of a row and reports the identity of the
new row when the model has one.
-/

namespace SqlMapper.Insert

/-- The columns and their values, or the words for none. -/
def valuesSql (map : TableMap) : Sql :=
  let columns := TableMap.numbered map.insertable 0
  if columns.isEmpty then [.text " default values"]
  else
    .text " (" :: joinPieces ", " (columns.map fun (property, _) => property.columnSql) ++
      .text ") values (" ::
      joinPieces ", " (columns.map fun (_, name) => [.placeholder name]) ++ [.text ")"]

/-- What reports the identity of the new row. -/
def identitySql (map : TableMap) (dialect : Dialect) : Result Sql :=
  match map.identity? with
  | some identity => dialect.identityClause identity.columnSql
  | none => .ok []

/-- The statement; its parameters are numbered in the order of the columns. -/
def sql (map : TableMap) (dialect : Dialect) : Result Sql := do
  let identity ← identitySql map dialect
  return .text "insert into " :: map.tableSql ++ valuesSql map ++ identity

/-- The insert of a row, which has to be given. -/
def compile (model : Model) (dialect : Dialect) (row? : Option Row) : SchemaM Query := do
  let map ← Schema.tableMap model
  let draft := Draft.start map dialect
  match row? with
  | none => SchemaM.ofResult (StatementFault.noValues map.name).fail
  | some row =>
    let text ← draft.rememberedText .insert (sql map dialect)
    let values ← SchemaM.ofResult (map.insertable.mapM fun property => property.storedOf row)
    return ⟨text, (draft.params.pushAll values).2⟩

end SqlMapper.Insert
