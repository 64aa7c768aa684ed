import SqlMapper.Statement.Delete
import SqlMapper.Statement.Insert
import SqlMapper.Statement.Select
import SqlMapper.Statement.Update

/-!
# Shortcuts

The common statements on a model, against a schema on which nothing was derived
yet.
-/

namespace SqlMapper

/-- The result of a computation against the standard schema. -/
def SchemaM.onStandard {α : Type} (computation : SchemaM α) : Result α :=
  (computation.run.run .standard).1

namespace Query

/-- The insert of a row. -/
def insert (model : Model) (dialect : Dialect) (row : Row) : Result Query :=
  (Insert.compile model dialect (some row)).onStandard

/-- The update of every updatable field of a row. -/
def update (model : Model) (dialect : Dialect) (row : Row) : Result Query :=
  (Update.byKey model dialect [] row).onStandard

/-- The delete of the row with a key. -/
def delete (model : Model) (dialect : Dialect) (key : Source) : Result Query :=
  (Delete.byKey model dialect [] key).onStandard

/-- The select of the row with a key. -/
def get (model : Model) (dialect : Dialect) (key : Source) : Result Query :=
  (Select.byKey model dialect [] key).onStandard

/-- The select of the rows that meet a condition. -/
def select (model : Model) (dialect : Dialect) (condition : Expr) : Result Query :=
  (Select.compile model dialect [.filter (.condition condition)]).onStandard

/-- The number of the rows that meet a condition, or of all. -/
def count (model : Model) (dialect : Dialect) (condition? : Option Expr) : Result Query :=
  let clauses := condition?.toList.map fun condition =>
    SelectClause.filter (.condition condition)
  (Select.count model dialect clauses).onStandard

end Query

end SqlMapper
