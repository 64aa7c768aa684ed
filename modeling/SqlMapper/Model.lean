import SqlMapper.ValueMap

/-!
# Models

A model describes the fields of a record type and how each is stored. The type
of a field fixes its default treatment: enumerated types are stored through
their value map, texts and optional fields may be missing. Marks on a field are
applied in order and refine that treatment.
-/

namespace SqlMapper

/-- The type of a field that is not optional. -/
inductive ScalarType where
  | bool
  | i32
  | i64
  | f64
  | string
  | enumeration (enumeration : Enumeration)

/-- The type of a field. -/
structure FieldType where
  scalar : ScalarType
  optional : Bool

namespace FieldType

/-- The kind of the values of a field that are not null. -/
def kind (type : FieldType) : ValueKind :=
  match type.scalar with
  | .bool => .bool
  | .i32 => .i32
  | .i64 => .i64
  | .f64 => .f64
  | .string => .string
  | .enumeration _ => .enumeration

/-- Whether a value may be missing unless the field says otherwise. -/
def nullable (type : FieldType) : Bool :=
  match type.scalar with
  | .string => true
  | _ => type.optional

/-- How values are stored unless the field says otherwise. -/
def valueMap (type : FieldType) : Option ValueMap :=
  match type.scalar with
  | .enumeration enumeration => some (.ofEnumeration enumeration)
  | _ => none

/-- The value of a field that was never set. -/
def initial (type : FieldType) : Value :=
  if type.optional then .null
  else
    match type.scalar with
    | .bool => .bool false
    | .i32 => .i32 0
    | .i64 => .i64 0
    | .f64 => .f64 0.0
    | .string => .string ""
    | .enumeration enumeration =>
      match enumeration.variants with
      | [] => .null
      | first :: _ => .member (first.member enumeration.name)

end FieldType

/-- A field as a model declares it. -/
structure Field where
  name : String
  type : FieldType
  /-- The column, when it is named explicitly. -/
  column : Option String
  /-- Included in a model that lists its fields explicitly. -/
  optIn : Bool
  ignored : Bool
  primaryKey : Bool
  identity : Bool
  /-- The database assigns the value on insert. -/
  generated : Bool
  computed : Bool
  nullable : Bool
  readOnly : Bool
  /-- Written but never selected. -/
  writeOnly : Bool
  valueMap : Option ValueMap

/-- A mark that refines the treatment of a field. -/
inductive FieldMark where
  | column (name : String)
  | mapped
  | ignore
  | primaryKey
  | identity
  | generated
  | computed
  | nullable (allowed : Bool)
  | readOnly
  | writeOnly
  | valueMap (map : ValueMap)

/-- The mark called `name`, if it takes no argument. -/
def FieldMark.ofName? (name : String) : Option FieldMark :=
  [("mapped", mapped), ("ignore", ignore), ("primary_key", primaryKey),
    ("identity", identity), ("generated", generated), ("computed", computed),
    ("read_only", readOnly), ("write_only", writeOnly)].lookup name

namespace Field

/-- A field with the treatment that follows from its type. -/
def plain (name : String) (type : FieldType) : Field :=
  { name, type, column := none, optIn := false, ignored := false, primaryKey := false
    identity := false, generated := false, computed := false, nullable := type.nullable
    readOnly := false, writeOnly := false, valueMap := type.valueMap }

/-- The field with one more mark. -/
def mark (field : Field) : FieldMark → Field
  | .column name => { field with column := some name, optIn := true }
  | .mapped => { field with optIn := true }
  | .ignore => { field with ignored := true }
  | .primaryKey => { field with primaryKey := true }
  | .identity => { field with identity := true }
  | .generated => { field with generated := true }
  | .computed => { field with computed := true }
  | .nullable allowed => { field with nullable := allowed }
  | .readOnly => { field with readOnly := true }
  | .writeOnly => { field with writeOnly := true }
  | .valueMap map => { field with valueMap := some map }

/-- The field with marks applied in order. -/
def withMarks (field : Field) (marks : List FieldMark) : Field :=
  marks.foldl mark field

end Field

/-- A record type with its fields. A model that names its table maps only the
fields that are opted in. -/
structure Model where
  type : String
  table : Option String
  fields : List Field

/-- An instance of a record type. -/
structure Row where
  type : String
  values : List (String × Value)

namespace Model

/-- Whether the model maps a field. Ignored fields never are mapped; a model that
names its table maps only the fields that are opted in. -/
def maps (model : Model) (field : Field) : Bool :=
  !field.ignored && (model.table.isNone || field.optIn)

/-- The mapped fields in order. -/
def mappedFields (model : Model) : List Field :=
  model.fields.filter model.maps

/-- An instance of the model in which some fields were set. What is not mapped
cannot be read and is left out. -/
def row (model : Model) (values : List (String × Value)) : Row :=
  ⟨model.type, model.mappedFields.map fun field =>
    (field.name, (NameTable.get? field.name values).getD field.type.initial)⟩

end Model

end SqlMapper
