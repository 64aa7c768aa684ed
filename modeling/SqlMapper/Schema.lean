import SqlMapper.TableMap

/-!
# Schemas

A schema fixes how tables are named and remembers what was derived under it: the
table map of every model that was mapped, and the text of every statement that
depends on the model and the dialect alone. What failed is not remembered, and
nothing is forgotten.
-/

namespace SqlMapper

/-- The statements whose text depends on the model and the dialect alone. -/
inductive StatementKind where
  | insert
  | updateByKey
  | deleteByKey
  | selectByKey
  deriving DecidableEq

/-- What identifies a remembered statement text. -/
structure StatementKey where
  kind : StatementKind
  dialect : String
  model : String
  deriving DecidableEq

/-- The naming of tables together with what was derived under it. -/
structure Schema where
  /-- Put in front of every table name. -/
  tableStem : Option String
  naming : Naming
  /-- Table maps by record type. -/
  maps : List (String × TableMap)
  texts : List (StatementKey × String)

/-- A computation against a schema. What it remembered stays when it fails. -/
abbrev SchemaM (α : Type) := ExceptT Error (StateM Schema) α

namespace SchemaM

/-- A result that needs no schema. -/
def ofResult {α : Type} (result : Result α) : SchemaM α :=
  ExceptT.mk (pure result)

end SchemaM

namespace Schema

/-- A schema under which nothing was derived yet. -/
def fresh (tableStem : Option String) (naming : Naming) : Schema :=
  ⟨tableStem, naming, [], []⟩

/-- The schema that is used unless another one is given. -/
def standard : Schema :=
  fresh none .verbatim

/-- Number of models mapped so far. -/
def mapCount (schema : Schema) : Nat :=
  schema.maps.length

/-- Number of statement texts remembered so far. -/
def textCount (schema : Schema) : Nat :=
  schema.texts.length

/-- The remembered text of a statement. -/
def text? (schema : Schema) (key : StatementKey) : Option String :=
  (schema.texts.find? fun entry => entry.1 = key).map Prod.snd

/-- The table map of a model, derived on first use. -/
def tableMap (model : Model) : SchemaM TableMap := do
  let schema ← get
  match NameTable.get? model.type schema.maps with
  | some map => return map
  | none =>
    let map ← SchemaM.ofResult (TableMap.ofModel schema.tableStem schema.naming model)
    set { schema with maps := schema.maps ++ [(model.type, map)] }
    return map

/-- The text of a statement, written by `build` on first use. -/
def text (key : StatementKey) (build : Result String) : SchemaM String := do
  let schema ← get
  match schema.text? key with
  | some text => return text
  | none =>
    let text ← SchemaM.ofResult build
    set { schema with texts := schema.texts ++ [(key, text)] }
    return text

end Schema

end SqlMapper
