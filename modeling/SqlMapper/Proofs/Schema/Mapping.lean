import SqlMapper.Proofs.Schema.Usage
import SqlMapper.Proofs.TableMap

/-!
# Models that can be mapped

A model is described by declarations, each a field with its marks. `Declaration.property`
says what a declaration amounts to once its column is resolved. A schema maps a model
exactly when the properties of its mapped fields are `Mappable`, whatever it remembers of
other models.
-/

namespace SqlMapper

/-- A field as it is described. -/
structure Declaration where
  name : String
  type : FieldType
  marks : List FieldMark

namespace Field

variable {α : Type}

/-- What no mark changes stays as it is. -/
theorem withMarks_same (get : Field → α) (step : ∀ field mark, get (field.mark mark) = get field)
    (field : Field) (marks : List FieldMark) : get (field.withMarks marks) = get field := by
  induction marks generalizing field with
  | nil => rfl
  | cons mark rest inductionHypothesis => exact (inductionHypothesis _).trans (step field mark)

/-- What some marks set and none takes back is set by any of them. -/
theorem withMarks_any (flag : Field → Bool) (sets : FieldMark → Bool)
    (step : ∀ field mark, flag (field.mark mark) = (flag field || sets mark)) (field : Field)
    (marks : List FieldMark) :
    flag (field.withMarks marks) = (flag field || marks.any sets) := by
  induction marks generalizing field with
  | nil => exact (Bool.or_false _).symm
  | cons mark rest inductionHypothesis =>
      rw [List.any_cons, ← Bool.or_assoc, ← step]
      exact inductionHypothesis (field.mark mark)

/-- Of the marks that give a value, the last one counts. -/
theorem withMarks_last (get : Field → α) (gives : FieldMark → Option α)
    (step : ∀ field mark, get (field.mark mark) = (gives mark).getD (get field)) (field : Field)
    (marks : List FieldMark) :
    get (field.withMarks marks) = (marks.reverse.findSome? gives).getD (get field) := by
  induction marks generalizing field with
  | nil => rfl
  | cons mark rest inductionHypothesis =>
      have later := inductionHypothesis (field.mark mark)
      rw [step] at later
      rw [List.reverse_cons, List.findSome?_append, List.findSome?_singleton]
      cases found : rest.reverse.findSome? gives with
      | none | some value =>
          rw [found] at later
          exact later

end Field

attribute [ext] Field

namespace Declaration

/-- The field with its marks applied. -/
def field (declared : Declaration) : Field :=
  (Field.plain declared.name declared.type).withMarks declared.marks

/-- The value that the last mark gives, of those that give one. -/
def last {α : Type} (declared : Declaration) (gives : FieldMark → Option α) (otherwise : α) : α :=
  (declared.marks.reverse.findSome? gives).getD otherwise

/-- The column, when it is named explicitly. -/
def column? (declared : Declaration) : Option String :=
  declared.last (fun
    | .column name => some (some name)
    | _ => none) none

/-- Whether a value may be missing. -/
def nullable (declared : Declaration) : Bool :=
  declared.last (fun
    | .nullable allowed => some allowed
    | _ => none) declared.type.nullable

def valueMap? (declared : Declaration) : Option ValueMap :=
  declared.last (fun
    | .valueMap map => some (some map)
    | _ => none) declared.type.valueMap

theorem field_eq (declared : Declaration) :
    declared.field =
      { name := declared.name
        type := declared.type
        column := declared.column?
        optIn := declared.marks.any (· matches .mapped | .column _)
        ignored := declared.marks.any (· matches .ignore)
        primaryKey := declared.marks.any (· matches .primaryKey)
        identity := declared.marks.any (· matches .identity)
        generated := declared.marks.any (· matches .generated)
        computed := declared.marks.any (· matches .computed)
        nullable := declared.nullable
        readOnly := declared.marks.any (· matches .readOnly)
        writeOnly := declared.marks.any (· matches .writeOnly)
        valueMap := declared.valueMap? } := by
  have flag (get : Field → Bool) (sets : FieldMark → Bool)
      (step : ∀ field mark, get (field.mark mark) = (get field || sets mark))
      (unset : get (Field.plain declared.name declared.type) = false) :
      get declared.field = declared.marks.any sets := by
    rw [field, Field.withMarks_any get sets step, unset, Bool.false_or]
  apply Field.ext
  case name => exact Field.withMarks_same Field.name (fun _ mark => by cases mark <;> rfl) _ _
  case type => exact Field.withMarks_same Field.type (fun _ mark => by cases mark <;> rfl) _ _
  case column | nullable | valueMap =>
    exact Field.withMarks_last _ _ (fun _ mark => by cases mark <;> rfl) _ _
  all_goals exact flag _ _ (fun _ mark => by cases mark <;> simp [Field.mark]) rfl

/-- A field is mapped unless it is ignored; when the model names its table, the field has to
be opted in. -/
def isMapped (table : Option String) (declared : Declaration) : Bool :=
  !declared.marks.any (· matches .ignore) &&
    (table.isNone || declared.marks.any (· matches .mapped | .column _))

/-- The property that is described, once its column is resolved. -/
def property (naming : Naming) (owner : String) (declared : Declaration) : Property :=
  { name := declared.name
    column := declared.column?.getD (naming.column owner declared.name)
    kind := declared.type.kind
    primaryKey := declared.marks.any (· matches .primaryKey)
    generated := declared.marks.any (· matches .generated) ||
      declared.marks.any (· matches .identity)
    identity := declared.marks.any (· matches .identity)
    computed := declared.marks.any (· matches .computed)
    nullable := declared.nullable
    readOnly := declared.marks.any (· matches .readOnly)
    selectable := !declared.marks.any (· matches .writeOnly)
    valueMap := declared.valueMap?
    owner }

end Declaration

/-- A model as it is described. -/
structure Description where
  type : String
  table : Option String
  declarations : List Declaration

namespace Description

def model (described : Description) : Model :=
  ⟨described.type, described.table, described.declarations.map Declaration.field⟩

/-- The properties of the mapped fields, in order. -/
def properties (naming : Naming) (described : Description) : List Property :=
  (described.declarations.filter (Declaration.isMapped described.table)).map
    (Declaration.property naming described.type)

theorem draft_model (tableStem : Option String) (naming : Naming) (described : Description) :
    TableMap.draft tableStem naming described.model =
      { name := described.type
        table := tableStem.getD "" ++ described.table.getD (naming.table described.type)
        properties := described.properties naming } := by
  have mapped : described.model.maps ∘ Declaration.field =
      Declaration.isMapped described.table := by
    funext declared
    rw [Function.comp_apply, Model.maps, declared.field_eq]
    rfl
  have property : TableMap.propertyOf naming described.model ∘ Declaration.field =
      Declaration.property naming described.type := by
    funext declared
    rw [Function.comp_apply, TableMap.propertyOf, declared.field_eq]
    rfl
  rw [TableMap.draft, Model.mappedFields, properties, ← mapped, ← property, ← List.map_map,
    ← List.filter_map]
  rfl

end Description

/-- A schema maps a model as if for the first time, if what it remembers under the type of
the model, should there be anything, was derived from that model. -/
theorem Schema.tableMap_result (schema : Schema) (model : Model)
    (remembered : ∀ map, NameTable.get? model.type schema.maps = some map →
      TableMap.ofModel schema.tableStem schema.naming model = .ok map) :
    ((tableMap model).outcome schema).1 =
        TableMap.ofModel schema.tableStem schema.naming model ∧
      ∀ error, ((tableMap model).outcome schema).1 = .error error →
        ((tableMap model).outcome schema).2 = schema := by
  rw [outcome_tableMap]
  cases found : NameTable.get? model.type schema.maps with
  | some map => exact ⟨(remembered map found).symm, nofun⟩
  | none =>
      cases TableMap.ofModel schema.tableStem schema.naming model with
      | ok map => exact ⟨rfl, nofun⟩
      | error error => exact ⟨rfl, fun _ _ => rfl⟩

/-- What the database assigns is not inserted. -/
theorem Property.insertable_of_identity {property : Property}
    (identity : property.identity = true) : property.insertable = false := by
  simp [insertable, identity]

/-- A described model is mapped exactly when the properties of its mapped fields are
mappable; otherwise the error is an invalid schema, and nothing is remembered. The map has
these properties in order. Its identity is the one property that is an identity, which no
insert writes; a name finds the one property of that name; and an update may write what an
insert writes, except the primary key. -/
theorem description_mapped_iff (schema : Schema) (described : Description)
    (remembered : ∀ map, NameTable.get? described.type schema.maps = some map →
      TableMap.ofModel schema.tableStem schema.naming described.model = .ok map) :
    ((∃ map, ((Schema.tableMap described.model).outcome schema).1 = .ok map) ↔
      Mappable (described.properties schema.naming)) ∧
    (∀ error, ((Schema.tableMap described.model).outcome schema).1 = .error error →
      error.kind = .invalidSchema ∧
        ((Schema.tableMap described.model).outcome schema).2 = schema) ∧
    ∀ map, ((Schema.tableMap described.model).outcome schema).1 = .ok map →
      map =
        { name := described.type
          table := schema.tableStem.getD "" ++
            described.table.getD (schema.naming.table described.type)
          properties := described.properties schema.naming } ∧
      (∀ property, map.identity? = some property ↔
        property ∈ map.properties ∧ property.identity = true) ∧
      (∀ property, map.identity? = some property → property.insertable = false) ∧
      (∀ name property, map.property? name = some property ↔
        property ∈ map.properties ∧ property.name = name) ∧
      map.updatable = map.insertable.filter fun property => !property.primaryKey := by
  obtain ⟨result, unchanged⟩ :=
    Schema.tableMap_result schema described.model remembered
  rw [result]
  have mapped_iff (map : TableMap) :
      TableMap.ofModel schema.tableStem schema.naming described.model = .ok map ↔
        map = TableMap.draft schema.tableStem schema.naming described.model ∧
          Mappable map.properties :=
    TableMap.ofModel_eq_ok_iff.trans (and_congr_right fun _ => TableMap.verify_eq_ok)
  rw [described.draft_model] at mapped_iff
  refine ⟨?_, fun error refused => ?_, fun map mapped => ?_⟩
  · constructor
    · rintro ⟨map, mapped⟩
      obtain ⟨rfl, mappable⟩ := (mapped_iff map).mp mapped
      exact mappable
    · exact fun mappable => ⟨_, (mapped_iff _).mpr ⟨rfl, mappable⟩⟩
  · exact ⟨TableMap.kind_of_ofModel_eq_error refused, unchanged error (result.trans refused)⟩
  · obtain ⟨same, mappable⟩ := (mapped_iff map).mp mapped
    have identity {property : Property} : map.identity? = some property ↔
        property ∈ map.properties ∧ property.identity = true :=
      TableMap.identity?_eq_some_iff mappable.oneIdentity
    refine ⟨same, fun _ => identity, fun property found => ?_, fun name property => ?_, ?_⟩
    · exact Property.insertable_of_identity (identity.mp found).2
    · exact TableMap.property?_eq_some_iff mappable.names
    · rw [TableMap.updatable, TableMap.insertable, List.filter_filter]
      exact List.filter_congr fun _ _ => Bool.and_comm _ _

namespace Description

/-- A device whose second label is ignored and whose note is not opted in. -/
def device : Description :=
  { type := "Device"
    table := some "devices"
    declarations :=
      [⟨"id", ⟨.i64, false⟩, [.column "device_id", .primaryKey, .identity]⟩,
        ⟨"label", ⟨.string, false⟩, [.mapped]⟩,
        ⟨"label", ⟨.string, false⟩, [.mapped, .ignore]⟩,
        ⟨"note", ⟨.string, false⟩, []⟩,
        ⟨"place", ⟨.string, false⟩, [.mapped]⟩] }

theorem device_mapped :
    Mappable (device.properties .verbatim) ∧
      (∃ map, ((Schema.tableMap device.model).outcome (.fresh (some "lab_") .verbatim)).1 =
        .ok map ∧ map.table = "lab_devices" ∧
          map.identity? = some (Declaration.property .verbatim "Device"
            ⟨"id", ⟨.i64, false⟩, [.column "device_id", .primaryKey, .identity]⟩)) ∧
      ¬Mappable (device.properties ⟨id, fun _ _ => "value"⟩) := by
  obtain ⟨accepted, -, facts⟩ :=
    description_mapped_iff (.fresh (some "lab_") .verbatim) device nofun
  obtain ⟨refused, -, -⟩ :=
    description_mapped_iff (.fresh none ⟨id, fun _ _ => "value"⟩) device nofun
  have mapped : ((Schema.tableMap device.model).outcome (.fresh (some "lab_") .verbatim)).1 =
      .ok _ := rfl
  refine ⟨accepted.mp ⟨_, mapped⟩, ⟨_, mapped, rfl, ?_⟩, fun mappable => ?_⟩
  · exact ((facts _ mapped).2.1 _).mpr ⟨.head _, rfl⟩
  · obtain ⟨map, mapped⟩ := refused.mpr mappable
    cases mapped

end Description

end SqlMapper
