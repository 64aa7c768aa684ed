import SqlMapper.Model
import SqlMapper.Naming

/-!
# Table maps

A table map is what the statements work with: the table of a model and the
properties that are mapped to its columns, in order. `TableMap.ofModel` derives
it from a model and refuses models whose statements would be ambiguous.
-/

namespace SqlMapper

/-- Mapping of one field to a column. -/
structure Property where
  /-- The field. -/
  name : String
  /-- The column, unescaped. -/
  column : String
  kind : ValueKind
  primaryKey : Bool
  /-- The database assigns the value on insert. -/
  generated : Bool
  identity : Bool
  computed : Bool
  nullable : Bool
  readOnly : Bool
  selectable : Bool
  valueMap : Option ValueMap
  /-- The record type that the field belongs to. -/
  owner : String

/-- Mapping of a model to a table. -/
structure TableMap where
  /-- The record type. -/
  name : String
  /-- The table, unescaped. -/
  table : String
  /-- The mapped fields in the order of their declaration. -/
  properties : List Property

/-- Why a model cannot be mapped. -/
inductive ModelFault where
  | identityNotKey (model field : String)
  | manyIdentities (model : String) (count : Nat)
  | fieldTwice (model field : String)
  | columnTwice (model column : String)
  | noPrimaryKey (model operation : String)

/-- Why a field cannot be used. -/
inductive FieldFault where
  | unknown (model field : String)
  | foreignRow (field type : String)

namespace ModelFault

def message : ModelFault → String
  | identityNotKey model field =>
    "`" ++ model ++ "." ++ field ++ "` is an identity but not a primary key"
  | manyIdentities model count =>
    "`" ++ model ++ "` declares " ++ toString count ++
      " identity fields; at most one is allowed"
  | fieldTwice model field => "field `" ++ field ++ "` is declared twice on `" ++ model ++ "`"
  | columnTwice model column => "column `" ++ column ++ "` is mapped twice on `" ++ model ++ "`"
  | noPrimaryKey model operation =>
    "`" ++ model ++ "` has no primary key, required by " ++ operation

def fail {α : Type} (fault : ModelFault) : Result α :=
  (Fault.invalidSchema fault.message).fail

end ModelFault

namespace FieldFault

def message : FieldFault → String
  | unknown model field => "`" ++ model ++ "` has no mapped field `" ++ field ++ "`"
  | foreignRow field type => "field `" ++ field ++ "` cannot be read from `" ++ type ++ "`"

def fail {α : Type} (fault : FieldFault) : Result α :=
  (Fault.invalidStatement fault.message).fail

end FieldFault

namespace Property

/-- Whether an insert writes the column. -/
def insertable (property : Property) : Bool :=
  !property.generated && !property.identity && !property.computed

/-- Whether an update may write the column. -/
def updatable (property : Property) : Bool :=
  property.insertable && !property.primaryKey

/-- The value of the field in a row of the record type it belongs to. -/
def valueOf (property : Property) (row : Row) : Result Value :=
  if row.type = property.owner then
    .ok ((NameTable.get? property.name row.values).getD .null)
  else (FieldFault.foreignRow property.name row.type).fail

/-- The form in which a value of the field is stored. -/
def toStored (property : Property) (value : Value) : Result Value :=
  match property.valueMap with
  | some map => map.toStored value
  | none => .ok value

/-- The stored form of the field's value in a row. -/
def storedOf (property : Property) (row : Row) : Result Value := do
  property.toStored (← property.valueOf row)

end Property

namespace TableMap

/-- The property of a mapped field. -/
def propertyOf (naming : Naming) (model : Model) (field : Field) : Property :=
  { name := field.name
    column := field.column.getD (naming.column model.type field.name)
    kind := field.type.kind
    primaryKey := field.primaryKey
    generated := field.generated || field.identity
    identity := field.identity
    computed := field.computed
    nullable := field.nullable
    readOnly := field.readOnly
    selectable := !field.writeOnly
    valueMap := field.valueMap
    owner := model.type }

/-- The map of a model before it is verified. -/
def draft (tableStem : Option String) (naming : Naming) (model : Model) : TableMap :=
  { name := model.type
    table := tableStem.getD "" ++ model.table.getD (naming.table model.type)
    properties := model.mappedFields.map (propertyOf naming model) }

/-- The first identity that is not part of the primary key. -/
def strayIdentity? (map : TableMap) : Option Property :=
  map.properties.find? fun property => property.identity && !property.primaryKey

/-- The number of identities. -/
def identityCount (map : TableMap) : Nat :=
  map.properties.countP fun property => property.identity

/-- The first property whose name or column occurs before it. -/
def repetition? (model : String) (names columns : List String) :
    List Property → Option ModelFault
  | [] => none
  | property :: rest =>
    if property.name ∈ names then some (.fieldTwice model property.name)
    else if property.column ∈ columns then some (.columnTwice model property.column)
    else repetition? model (property.name :: names) (property.column :: columns) rest

/-- The value maps of the properties in order. -/
def valueMaps (map : TableMap) : List ValueMap :=
  map.properties.filterMap Property.valueMap

/-- Accepts a map whose identity is a single key column, whose fields and
columns are distinct, and whose value maps are unambiguous. -/
def verify (map : TableMap) : Result Unit :=
  match map.strayIdentity? with
  | some property => (ModelFault.identityNotKey map.name property.name).fail
  | none =>
    if 1 < map.identityCount then (ModelFault.manyIdentities map.name map.identityCount).fail
    else
      match repetition? map.name [] [] map.properties with
      | some fault => fault.fail
      | none => map.valueMaps.forM ValueMap.verify

/-- The map of a model, with `tableStem` in front of its table name. -/
def ofModel (tableStem : Option String) (naming : Naming) (model : Model) : Result TableMap := do
  let map := draft tableStem naming model
  map.verify
  return map

/-- The property of a field. -/
def property? (map : TableMap) (name : String) : Option Property :=
  map.properties.find? fun property => property.name = name

/-- The property of a field that has to be mapped. -/
def property (map : TableMap) (name : String) : Result Property :=
  match map.property? name with
  | some property => .ok property
  | none => (FieldFault.unknown map.name name).fail

/-- The property whose value the database assigns and reports back. -/
def identity? (map : TableMap) : Option Property :=
  map.properties.find? fun property => property.identity

/-- The properties that identify a row. -/
def primaryKey (map : TableMap) : List Property :=
  map.properties.filter fun property => property.primaryKey

def hasPrimaryKey (map : TableMap) : Bool :=
  map.properties.any fun property => property.primaryKey

/-- The properties that an insert writes. -/
def insertable (map : TableMap) : List Property :=
  map.properties.filter Property.insertable

/-- The properties that an update may write. -/
def updatable (map : TableMap) : List Property :=
  map.properties.filter Property.updatable

/-- The properties that a select reads. -/
def selectable (map : TableMap) : List Property :=
  map.properties.filter fun property => property.selectable

/-- Fails without a primary key; `operation` says what needed it. -/
def requirePrimaryKey (map : TableMap) (operation : String) : Result Unit :=
  if map.hasPrimaryKey then .ok () else (ModelFault.noPrimaryKey map.name operation).fail

end TableMap

end SqlMapper
