import SqlMapper.Compile
import SqlMapper.Dialect.Select
import SqlMapper.Schema

/-!
# Statements under construction

What the statements share: the finished form, a text with its parameters; the
sources of named values; and the draft, which collects conditions and binds their
constants. The shapes that find a row by its primary key number their
placeholders in advance, so that their text can be remembered.
-/

namespace SqlMapper

/-- A finished statement. -/
structure Query where
  sql : String
  params : Params

/-- The query of a condition on its own. Generated names start at `offset`. -/
def Expr.query (expr : Expr) (map : TableMap) (evaluator : Evaluator) (dialect : Dialect)
    (offset : Nat) : Result Query := do
  let (condition, params) := (Params.startingAt offset).compile (expr.predicate map evaluator)
  return ⟨dialect.write (← condition), params⟩

/-- Named values of a model: a whole row, or some of its fields. -/
inductive Source where
  | row (row : Row)
  | record (fields : List (String × Value))

/-- Why a statement cannot be built. -/
inductive StatementFault where
  | noValues (model : String)
  | missingKey (model field : String)
  | notUpdatable (model field : String)
  | noAssignments (model : String)
  | nothingUpdatable (model : String)
  | combinedWithKey (statement : String)
  | invalidPage (page size : Nat)
  | pageOutOfRange (page : Nat)

namespace StatementFault

def message : StatementFault → String
  | noValues model => "insert into `" ++ model ++ "` has no values"
  | missingKey model field => "missing primary key field `" ++ model ++ "." ++ field ++ "`"
  | notUpdatable model field => "`" ++ model ++ "." ++ field ++ "` cannot be updated"
  | noAssignments model => "update of `" ++ model ++ "` assigns no fields"
  | nothingUpdatable model => "`" ++ model ++ "` has no updatable fields"
  | combinedWithKey statement =>
    statement ++ " by primary key cannot be combined with other clauses"
  | invalidPage page size =>
    "invalid page " ++ toString page ++ " of " ++ toString size ++
      " rows; pages and page sizes start at 1"
  | pageOutOfRange page => "page " ++ toString page ++ " is out of range"

def fail {α : Type} (fault : StatementFault) : Result α :=
  (Fault.invalidStatement fault.message).fail

end StatementFault

namespace Source

/-- A field of a record has to be mapped. -/
def requireMapped (map : TableMap) (field : String × Value) : Result (String × Value) :=
  match map.property? field.1 with
  | some _ => .ok field
  | none => (Fault.invalidSchema (FieldFault.unknown map.name field.1).message).fail

/-- The named values in order: those of a row in the order of the map, those of a
record in its own. -/
def values (map : TableMap) : Source → Result (List (String × Value))
  | row given => map.properties.mapM fun property => do
    return (property.name, ← property.valueOf given)
  | record fields => fields.mapM (requireMapped map)

end Source

namespace TableMap

/-- The escaped table. -/
def tableSql (map : TableMap) : Sql :=
  [.identifier map.table]

end TableMap

namespace Property

/-- The escaped column. -/
def columnSql (property : Property) : Sql :=
  [.identifier property.column]

/-- The column under the name of its field. -/
def selection (property : Property) : Sql :=
  if property.column = property.name then property.columnSql
  else property.columnSql ++ [.text " as ", .identifier property.name]

/-- The column compared with a parameter. -/
def equalsParameter (property : Property) (name : String) : Sql :=
  .text "(" :: property.columnSql ++ [.text " = ", .placeholder name, .text ")"]

/-- The column tested for null. -/
def isNullSql (property : Property) : Sql :=
  .text "(" :: property.columnSql ++ [.text " is null)"]

/-- The column set to the value of a fragment. -/
def assignSql (property : Property) (value : Sql) : Sql :=
  property.columnSql ++ .text " = " :: value

@[simp] theorem placeholders_columnSql (property : Property) :
    placeholders property.columnSql = [] := rfl

@[simp] theorem placeholders_selection (property : Property) :
    placeholders property.selection = [] := by
  unfold selection
  split <;> rfl

@[simp] theorem placeholders_equalsParameter (property : Property) (name : String) :
    placeholders (property.equalsParameter name) = [name] := rfl

@[simp] theorem placeholders_isNullSql (property : Property) :
    placeholders property.isNullSql = [] := rfl

@[simp] theorem placeholders_assignSql (property : Property) (value : Sql) :
    placeholders (property.assignSql value) = placeholders value := rfl

end Property

namespace TableMap

/-- Every selectable column. -/
def defaultSelection (map : TableMap) : Sql :=
  joinPieces ", " (map.selectable.map Property.selection)

/-- The generated names from a number on, one for each property. -/
def numbered (properties : List Property) (first : Nat) : List (Property × String) :=
  properties.zipIdx.map fun (property, index) =>
    (property, Params.generatedName (first + index))

/-- The key columns compared with parameters numbered from `first`. -/
def keyConditions (map : TableMap) (first : Nat) : Sql :=
  joinPieces " and " ((numbered map.primaryKey first).map fun (property, name) =>
    property.equalsParameter name)

end TableMap

/-- A statement under construction: its target, the conditions so far and the
parameters they bound. -/
structure Draft where
  map : TableMap
  dialect : Dialect
  evaluator : Evaluator
  params : Params
  conditions : List Sql

/-- A clause that every filtered statement has. -/
inductive FilterClause where
  /-- A condition on the row. -/
  | condition (expr : Expr)
  /-- Every given column has the given value. -/
  | matching (source : Source)
  /-- The columns of the primary key have the given values. -/
  | matchingKey (source : Source)
  /-- Constants of later clauses are evaluated in another way. -/
  | evaluator (evaluator : Evaluator)

namespace Draft

/-- A statement on a mapped model without clauses. -/
def start (map : TableMap) (dialect : Dialect) : Draft :=
  ⟨map, dialect, .standard, .empty, []⟩

/-- Whether no condition and no parameter was added. -/
def isPristine (draft : Draft) : Bool :=
  draft.conditions.isEmpty && draft.params.isEmpty

/-- Bind a value to a generated name. -/
def bind (draft : Draft) (value : Value) : String × Draft :=
  let (name, params) := draft.params.push value
  (name, { draft with params })

/-- Add a condition. -/
def addCondition (draft : Draft) (condition : Sql) : Draft :=
  { draft with conditions := draft.conditions ++ [condition] }

/-- Run a step of compilation against the parameters of the draft. -/
def compile (draft : Draft) (step : Compile Term) : Result (Sql × Draft) := do
  let (result, params) := draft.params.compile step
  return (← result, { draft with params })

/-- Add the condition that a field has a value. -/
def filterField (draft : Draft) (property : Property) (value : Value) : Result Draft := do
  match ← property.toStored value with
  | .null => return draft.addCondition property.isNullSql
  | stored =>
    let (name, draft) := draft.bind stored
    return draft.addCondition (property.equalsParameter name)

/-- Add the condition that each named field, or each key field, has its value. -/
def filterFields (keyOnly : Bool) (draft : Draft) (fields : List (String × Value)) :
    Result Draft :=
  fields.foldlM (fun draft field => do
    let property ← draft.map.property field.1
    if keyOnly && !property.primaryKey then return draft
    else draft.filterField property field.2) draft

/-- Apply a clause. -/
def filter (draft : Draft) : FilterClause → Result Draft
  | .condition expr => do
    let (condition, draft) ← draft.compile (expr.predicate draft.map draft.evaluator)
    return draft.addCondition condition
  | .matching source => do
    draft.filterFields false (← source.values draft.map)
  | .matchingKey source => do
    let fields ← source.values draft.map
    draft.map.requirePrimaryKey "a filter by primary key"
    draft.filterFields true fields
  | .evaluator evaluator => return { draft with evaluator }

/-- The conjunction of all conditions, if there is one. -/
def conditionSql (draft : Draft) : Option Sql :=
  if draft.conditions.isEmpty then none else some (joinPieces " and " draft.conditions)

/-- The value of a key field among named values. -/
def keyValue (map : TableMap) (fields : List (String × Value)) (property : Property) :
    Result Value :=
  match NameTable.get? property.name fields with
  | some value => .ok value
  | none => (StatementFault.missingKey map.name property.name).fail

/-- Bind the values of the primary key in the order of the map. -/
def bindKey (draft : Draft) (fields : List (String × Value)) : Result Draft :=
  draft.map.primaryKey.foldlM (fun draft property => do
    let stored ← property.toStored (← keyValue draft.map fields property)
    return (draft.bind stored).2) draft

/-- The key of a statement whose text is remembered. -/
def key (draft : Draft) (kind : StatementKind) : StatementKey :=
  ⟨kind, draft.dialect.name, draft.map.name⟩

/-- The text of one of the shapes that are remembered. -/
def rememberedText (draft : Draft) (kind : StatementKind) (build : Result Sql) :
    SchemaM String :=
  Schema.text (draft.key kind) (build.map draft.dialect.write)

/-- The finished statement with the given text. -/
def finish (draft : Draft) (sql : Sql) : Query :=
  ⟨draft.dialect.write sql, draft.params⟩

end Draft

end SqlMapper
