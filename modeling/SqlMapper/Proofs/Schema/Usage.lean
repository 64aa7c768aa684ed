import SqlMapper.Statement.Delete
import SqlMapper.Statement.Insert
import SqlMapper.Statement.Select
import SqlMapper.Statement.Update

/-!
# Schemas in use

A schema remembers table maps under the type of their model, and statement texts
under the names of dialect and model. As long as these names identify what they
stand for, everything remembered is what would be derived anew: `Usage.Explains`
is the invariant, and `Usage.Computes` says of a computation that it keeps the
invariant and that its result does not depend on what is remembered.
-/

namespace SqlMapper

/-- The outcome of a computation with what is remembered afterwards. -/
def SchemaM.outcome {α : Type} (computation : SchemaM α) (schema : Schema) : Result α × Schema :=
  computation.run.run schema

namespace SchemaM

variable {α β : Type}

@[simp] theorem outcome_ofResult (result : Result α) (schema : Schema) :
    (ofResult result).outcome schema = (result, schema) := rfl

theorem outcome_bind (computation : SchemaM α) (next : α → SchemaM β) (schema : Schema) :
    (computation >>= next).outcome schema =
      match computation.outcome schema with
      | (.ok value, after) => (next value).outcome after
      | (.error error, after) => (.error error, after) := by
  simp only [SchemaM.outcome, ExceptT.run_bind, StateT.run_bind]
  cases computation.run.run schema with
  | mk value after => cases value <;> rfl

end SchemaM

/-- What is remembered of a statement for a mapped model. -/
def StatementKind.sql (kind : StatementKind) (map : TableMap) (dialect : Dialect) : Result Sql :=
  match kind with
  | insert => Insert.sql map dialect
  | updateByKey => Update.byKeySql map
  | deleteByKey => Delete.byKeySql map
  | selectByKey => Select.byKeySql map dialect

/-- How tables are named, and the models and dialects that a schema is used with. -/
structure Usage where
  tableStem : Option String
  naming : Naming
  models : List Model
  dialects : List Dialect

namespace Usage

/-- Models are identified by their type and dialects by their name. -/
structure Coherent (usage : Usage) : Prop where
  models : ∀ model ∈ usage.models, ∀ other ∈ usage.models, model.type = other.type →
    model = other
  dialects : ∀ dialect ∈ usage.dialects, ∀ other ∈ usage.dialects, dialect.name = other.name →
    dialect = other

/-- The table map of a model. -/
def map (usage : Usage) (model : Model) : Result TableMap :=
  TableMap.ofModel usage.tableStem usage.naming model

/-- Everything that the schema remembers follows from the usage. -/
structure Explains (usage : Usage) (schema : Schema) : Prop where
  tableStem : schema.tableStem = usage.tableStem
  naming : schema.naming = usage.naming
  maps : ∀ entry ∈ schema.maps, ∃ model ∈ usage.models,
    entry.1 = model.type ∧ usage.map model = .ok entry.2
  texts : ∀ entry ∈ schema.texts, ∃ kind, ∃ model ∈ usage.models, ∃ dialect ∈ usage.dialects,
    ∃ map sql, usage.map model = .ok map ∧ entry.1 = ⟨kind, dialect.name, map.name⟩ ∧
      kind.sql map dialect = .ok sql ∧ entry.2 = dialect.write sql

/-- Whatever is remembered, the computation has the result, and what it remembers
follows from the usage. -/
def Computes {α : Type} (usage : Usage) (computation : SchemaM α) (result : Result α) : Prop :=
  ∀ schema, usage.Explains schema →
    (computation.outcome schema).1 = result ∧ usage.Explains (computation.outcome schema).2

namespace Computes

variable {α β : Type} {usage : Usage}

theorem pure (value : α) : usage.Computes (Pure.pure value) (.ok value) :=
  fun _ explains => ⟨rfl, explains⟩

theorem ofResult (result : Result α) : usage.Computes (SchemaM.ofResult result) result :=
  fun _ explains => ⟨rfl, explains⟩

theorem bind {computation : SchemaM α} {next : α → SchemaM β} {result : Result α}
    {results : α → Result β} (first : usage.Computes computation result)
    (second : ∀ value, result = .ok value → usage.Computes (next value) (results value)) :
    usage.Computes (computation >>= next) (result >>= results) := by
  intro schema explains
  obtain ⟨began, kept⟩ := first schema explains
  rw [SchemaM.outcome_bind]
  rcases ran : computation.outcome schema with ⟨value, after⟩
  rw [ran] at began kept
  subst began
  cases value with
  | error error => exact ⟨rfl, kept⟩
  | ok value => exact second value rfl after kept

end Computes

variable {usage : Usage} {model : Model} {dialect : Dialect} {map : TableMap}

/-- The map of a model is named by its type. -/
theorem name_of_map (mapped : usage.map model = .ok map) : map.name = model.type := by
  unfold Usage.map TableMap.ofModel at mapped
  cases verified : (TableMap.draft usage.tableStem usage.naming model).verify with
  | error error =>
      simp only [verified] at mapped
      cases mapped
  | ok _ =>
      simp only [verified] at mapped
      cases mapped
      rfl

end Usage

namespace Schema

/-- A model is mapped once; a failure is not remembered. -/
theorem outcome_tableMap (schema : Schema) (model : Model) :
    (tableMap model).outcome schema =
      match NameTable.get? model.type schema.maps with
      | some map => (.ok map, schema)
      | none =>
        match TableMap.ofModel schema.tableStem schema.naming model with
        | .ok map => (.ok map, { schema with maps := schema.maps ++ [(model.type, map)] })
        | .error error => (.error error, schema) := by
  have start : (tableMap model).outcome schema =
      SchemaM.outcome (match NameTable.get? model.type schema.maps with
        | some map => return map
        | none => do
          let map ← SchemaM.ofResult
            (TableMap.ofModel schema.tableStem schema.naming model)
          set { schema with maps := schema.maps ++ [(model.type, map)] }
          return map) schema := rfl
  rw [start]
  cases NameTable.get? model.type schema.maps with
  | some map => rfl
  | none => cases TableMap.ofModel schema.tableStem schema.naming model <;> rfl

/-- A text is written once; a failure is not remembered. -/
theorem outcome_text (schema : Schema) (key : StatementKey) (build : Result String) :
    (text key build).outcome schema =
      match schema.text? key with
      | some text => (.ok text, schema)
      | none =>
        match build with
        | .ok text => (.ok text, { schema with texts := schema.texts ++ [(key, text)] })
        | .error error => (.error error, schema) := by
  have start : (text key build).outcome schema =
      SchemaM.outcome (match schema.text? key with
        | some text => return text
        | none => do
          let text ← SchemaM.ofResult build
          set { schema with texts := schema.texts ++ [(key, text)] }
          return text) schema := rfl
  rw [start]
  cases schema.text? key with
  | some text => rfl
  | none => cases build <;> rfl

/-- A text that can be written can be had. -/
theorem exists_outcome_text_eq_ok (schema : Schema) (key : StatementKey) {build : Result String}
    {text : String} (built : build = .ok text) :
    ∃ known, ((Schema.text key build).outcome schema).1 = .ok known := by
  rw [outcome_text, built]
  cases schema.text? key with
  | some known => exact ⟨known, rfl⟩
  | none => exact ⟨text, rfl⟩

/-- What was asked for is remembered afterwards, unless it could not be written. -/
theorem text?_outcome_text (schema : Schema) (key : StatementKey) (build : Result String) :
    ((text key build).outcome schema).2.text? key =
      ((text key build).outcome schema).1.toOption := by
  rw [outcome_text]
  cases found : schema.text? key with
  | some known => exact found
  | none =>
      cases build with
      | error error => exact found
      | ok text =>
          have absent : schema.texts.find? (fun entry => entry.1 = key) = none :=
            Option.map_eq_none_iff.mp found
          simp [text?, List.find?_append, absent, Except.toOption]

end Schema

namespace Usage

variable {usage : Usage} {model : Model} {dialect : Dialect} {map : TableMap}

/-- A model is mapped as if for the first time. -/
theorem Coherent.computes_tableMap (coherent : usage.Coherent) (used : model ∈ usage.models) :
    usage.Computes (Schema.tableMap model) (usage.map model) := by
  intro schema explains
  have derived : TableMap.ofModel schema.tableStem schema.naming model = usage.map model := by
    rw [explains.tableStem, explains.naming, Usage.map]
  rw [Schema.outcome_tableMap, derived]
  split
  next map found =>
    obtain ⟨other, otherUsed, sameType, mapped⟩ :=
      explains.maps _ (NameTable.mem_of_get?_eq_some found)
    rw [coherent.models model used other otherUsed sameType, mapped]
    exact ⟨rfl, explains⟩
  next =>
    split
    next map mapped =>
      refine ⟨mapped.symm, { explains with maps := ?_ }⟩
      intro entry member
      rcases List.mem_append.mp member with earlier | last
      · exact explains.maps entry earlier
      · rw [List.mem_singleton] at last
        subst last
        exact ⟨model, used, rfl, mapped⟩
    next error failed => exact ⟨failed.symm, explains⟩

/-- A statement is written as if for the first time. -/
theorem Coherent.computes_text (coherent : usage.Coherent) (kind : StatementKind)
    (used : model ∈ usage.models) (dialectUsed : dialect ∈ usage.dialects)
    (mapped : usage.map model = .ok map) :
    usage.Computes (Schema.text ⟨kind, dialect.name, map.name⟩
      ((kind.sql map dialect).map dialect.write)) ((kind.sql map dialect).map dialect.write) := by
  intro schema explains
  rw [Schema.outcome_text]
  split
  next text found =>
    unfold Schema.text? at found
    obtain ⟨entry, lookup, rfl⟩ := Option.map_eq_some_iff.mp found
    have sameKey : entry.1 = ⟨kind, dialect.name, map.name⟩ := by
      simpa using List.find?_some lookup
    obtain ⟨otherKind, other, otherUsed, otherDialect, otherDialectUsed, otherMap, sql,
      otherMapped, key, written, text⟩ := explains.texts entry (List.mem_of_find?_eq_some lookup)
    rw [sameKey, StatementKey.mk.injEq] at key
    obtain ⟨rfl, sameDialect, sameName⟩ := key
    have sameType : model.type = other.type := by
      rw [← name_of_map mapped, ← name_of_map otherMapped, sameName]
    cases coherent.models model used other otherUsed sameType
    cases coherent.dialects dialect dialectUsed otherDialect otherDialectUsed sameDialect
    cases mapped.symm.trans otherMapped
    rw [written, text]
    exact ⟨rfl, explains⟩
  next =>
    split
    next text built =>
      refine ⟨built.symm, { explains with texts := ?_ }⟩
      intro entry member
      rcases List.mem_append.mp member with earlier | last
      · exact explains.texts entry earlier
      · rw [List.mem_singleton] at last
        subst last
        cases written : kind.sql map dialect with
        | error error =>
            rw [written] at built
            cases built
        | ok sql =>
            rw [written] at built
            cases built
            exact ⟨kind, model, used, dialect, dialectUsed, map, sql, mapped, rfl, written, rfl⟩
    next error failed => exact ⟨failed.symm, explains⟩

end Usage

end SqlMapper
