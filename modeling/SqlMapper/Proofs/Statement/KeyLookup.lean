import SqlMapper.Proofs.Schema.Remembered
import SqlMapper.Proofs.Statement.ObjectForm
import SqlMapper.Proofs.Statement.Wording

/-!
# Rows found by the key of a record

A delete or a select by primary key can be given some fields of a row, in any order. Of these
it reads the key fields alone: each is found by its name, and their stored values are bound in
the order of the map, which is the order that the remembered text has them in.
-/

namespace SqlMapper

open Params

/-- A statement that finds a row by its key, after some clauses. -/
inductive KeyLookup where
  | delete (clauses : List FilterClause)
  | select (clauses : List SelectClause)

/-- The field is among the given ones, with a value that has the stored form. -/
def Property.GivenAs (property : Property) (fields : List (String × Value)) (stored : Value) :
    Prop :=
  ∃ value, NameTable.get? property.name fields = some value ∧ property.toStored value = .ok stored

namespace TableMap

/-- Every given field is mapped. -/
def Knows (map : TableMap) (fields : List (String × Value)) : Prop :=
  ∀ field ∈ fields, ∃ property, map.property field.1 = .ok property

/-- Both have the same values for the key fields, or the same fields missing. -/
def SameKey (map : TableMap) (fields others : List (String × Value)) : Prop :=
  ∀ property ∈ map.primaryKey,
    NameTable.get? property.name fields = NameTable.get? property.name others

/-- The stored values of the key fields, in the order of the map. -/
def keysOf (map : TableMap) (fields : List (String × Value)) : Result (List Value) :=
  map.primaryKey.mapM (Draft.keyStored map fields)

variable {map : TableMap} {fields others : List (String × Value)}

theorem SameKey.keysOf_eq (same : map.SameKey fields others) :
    map.keysOf fields = map.keysOf others := by
  refine Result.mapM_congr fun property key => ?_
  rw [Draft.keyStored, Draft.keyStored, Draft.keyValue, Draft.keyValue, same property key]

theorem keyStored_eq_ok {property : Property} {stored : Value} :
    Draft.keyStored map fields property = .ok stored ↔ property.GivenAs fields stored := by
  rw [Draft.keyStored, Draft.keyValue, Result.bind_eq_ok, Property.GivenAs]
  cases NameTable.get? property.name fields with
  | none => simp [StatementFault.fail, Fault.fail]
  | some value => simp

end TableMap

/-- A draft in which no clause left a trace binds just the key. -/
theorem Draft.bindKey_of_isPristine {map : TableMap} {dialect : Dialect} {draft : Draft}
    (fields : List (String × Value)) (filtered : (Draft.start map dialect).Filters draft)
    (pristine : draft.isPristine = true) :
    draft.bindKey fields = (draft.map.keysOf fields).map fun keys =>
      { draft with params := .numbered 0 keys } := by
  obtain ⟨_, adds, -⟩ := filtered
  exact bindKey_eq fields (adds.params_of_isPristine pristine)

namespace KeyLookup

variable {map : TableMap} {dialect : Dialect} {lookup : KeyLookup}

/-- The lookup of the row with the key of a record. -/
def request (fields : List (String × Value)) : KeyLookup → Request
  | delete clauses => .deleteByKey clauses (.record fields)
  | select clauses => .selectByKey clauses (.record fields)

/-- The text that is remembered of it. -/
def kind : KeyLookup → StatementKind
  | delete _ => .deleteByKey
  | select _ => .selectByKey

/-- The statement up to its conditions. -/
def opening (map : TableMap) : KeyLookup → Sql
  | delete _ => .text "delete from " :: map.tableSql
  | select _ => .text "select " :: map.defaultSelection ++ .text " from " :: map.tableSql

/-- The clauses leave no trace, so that the key can be given; anything else is refused. -/
def start (map : TableMap) (dialect : Dialect) : KeyLookup → Result Unit
  | delete clauses => do
    let draft ← clauses.foldlM Draft.filter (Draft.start map dialect)
    if draft.isPristine then return () else (StatementFault.combinedWithKey "a delete").fail
  | select clauses => do
    let select ← clauses.foldlM SelectDraft.apply (SelectDraft.start map dialect)
    if select.isPristine then return () else (StatementFault.combinedWithKey "a select").fail

/-- The steps of the lookup for a mapped model. -/
def steps (map : TableMap) (dialect : Dialect) (fields : List (String × Value))
    (lookup : KeyLookup) : SchemaM Query := do
  SchemaM.ofResult (lookup.start map dialect)
  let text ← Schema.text ⟨lookup.kind, dialect.name, map.name⟩
    ((lookup.kind.sql map dialect).map dialect.write)
  let keys ← SchemaM.ofResult (map.keysOf fields)
  return ⟨text, .numbered 0 keys⟩

/-- What follows the clauses, for a draft in which they left no trace. -/
theorem rememberedKey_eq {draft : Draft} (kind : StatementKind)
    {fields : List (String × Value)} (filtered : (Draft.start map dialect).Filters draft)
    (pristine : draft.isPristine = true) (known : map.Knows fields) :
    (do
      let text ← draft.rememberedText kind (kind.sql draft.map dialect)
      let given ← SchemaM.ofResult ((Source.record fields).values draft.map)
      let bound ← SchemaM.ofResult (draft.bindKey given)
      return ⟨text, bound.params⟩ : SchemaM Query) = do
    let text ← Schema.text ⟨kind, dialect.name, map.name⟩ ((kind.sql map dialect).map dialect.write)
    let keys ← SchemaM.ofResult (map.keysOf fields)
    return ⟨text, .numbered 0 keys⟩ := by
  have bound := Draft.bindKey_of_isPristine fields filtered pristine
  obtain ⟨_, adds, -⟩ := filtered
  have sameMap : draft.map = map := adds.map
  have sameDialect : draft.dialect = dialect := adds.dialect
  rw [Draft.rememberedText, Draft.key, sameMap, sameDialect]
  refine congrArg (Schema.text _ _ >>= ·) (funext fun text => ?_)
  rw [Source.values_record_of_mapped known]
  have step : (SchemaM.ofResult (.ok fields) >>= fun given =>
      SchemaM.ofResult (draft.bindKey given) >>= fun bound =>
        (pure ⟨text, bound.params⟩ : SchemaM Query)) =
      SchemaM.ofResult (draft.bindKey fields) >>= fun bound => pure ⟨text, bound.params⟩ := rfl
  rw [step, bound, sameMap]
  cases map.keysOf fields <;> rfl

theorem outcome_request {schema : Schema} {model : Model} {fields : List (String × Value)}
    (describes : schema.Describes model map) (known : map.Knows fields) :
    ((lookup.request fields).run model dialect).outcome schema =
      (lookup.steps map dialect fields).outcome ((Schema.tableMap model).outcome schema).2 := by
  have mapped : (Schema.tableMap model).outcome schema =
      (.ok map, ((Schema.tableMap model).outcome schema).2) :=
    Prod.ext describes.outcome_tableMap rfl
  cases lookup with
  | delete clauses =>
      rw [request, Request.run, Delete.byKey, Delete.draft, bind_assoc, SchemaM.outcome_bind,
        mapped]
      refine congrArg (SchemaM.outcome · _) ?_
      rw [steps, start]
      cases ran : clauses.foldlM Draft.filter (Draft.start map dialect) with
      | error error => rfl
      | ok draft =>
          have filtered := Draft.foldlM_filters ran
          change (if !draft.isPristine then _ else _) =
            SchemaM.ofResult (if draft.isPristine then _ else _) >>= _
          cases pristine : draft.isPristine with
          | false => rfl
          | true => exact rememberedKey_eq .deleteByKey filtered pristine known
  | select clauses =>
      rw [request, Request.run, Select.byKey, Select.draft, bind_assoc, SchemaM.outcome_bind,
        mapped]
      refine congrArg (SchemaM.outcome · _) ?_
      rw [steps, start]
      cases ran : clauses.foldlM SelectDraft.apply (SelectDraft.start map dialect) with
      | error error => rfl
      | ok select =>
          have filtered := (SelectDraft.foldlM_extends ran).1
          change (if !select.isPristine then _ else _) =
            SchemaM.ofResult (if select.isPristine then _ else _) >>= _
          cases pristine : select.isPristine with
          | false => rfl
          | true =>
              have bare := SelectDraft.isPristine_draft pristine
              exact rememberedKey_eq .selectByKey filtered bare known

/-- The text has the conditions of the key after the opening. -/
theorem sql_kind_eq_ok {sql : Sql} :
    lookup.kind.sql map dialect = .ok sql ↔ map.hasPrimaryKey = true ∧
      sql = lookup.opening map ++ .text " where " :: map.keyConditions 0 := by
  cases lookup with
  | delete clauses =>
      simp only [kind, StatementKind.sql, Delete.byKeySql, Result.bind_eq_ok, Result.pure_eq_ok,
        TableMap.requirePrimaryKey_eq_ok, exists_const]
      exact and_congr_right fun _ => eq_comm
  | select clauses =>
      have selected : dialect.select (SelectParts.byKey map) =
          .ok (opening map (.select clauses) ++ .text " where " :: map.keyConditions 0) := by
        change Except.ok (.text "select " :: (SelectParts.byKey map).body) = _
        simp [SelectParts.body, SelectParts.filters, SelectParts.byKey, SelectParts.plain,
          SelectParts.clause, opening]
      simp only [kind, StatementKind.sql, Select.byKeySql, Result.bind_eq_ok,
        TableMap.requirePrimaryKey_eq_ok, exists_const]
      rw [← SelectParts.byKey, selected, Except.ok.injEq]
      exact and_congr_right fun _ => eq_comm

/-- A lookup answers when its clauses left no trace, its text can be had and the key is given. -/
theorem outcome_steps_eq_ok {schema : Schema} {fields : List (String × Value)} {query : Query} :
    ((lookup.steps map dialect fields).outcome schema).1 = .ok query ↔
      lookup.start map dialect = .ok () ∧ ∃ text keys,
        ((Schema.text ⟨lookup.kind, dialect.name, map.name⟩
          ((lookup.kind.sql map dialect).map dialect.write)).outcome schema).1 = .ok text ∧
        map.keysOf fields = .ok keys ∧ query = ⟨text, .numbered 0 keys⟩ := by
  simp only [steps, SchemaM.outcome_bind_eq_ok, SchemaM.outcome_ofResult]
  constructor
  · rintro ⟨_, started, text, asked, keys, stored, finished⟩
    cases finished
    exact ⟨started, text, keys, asked, stored, rfl⟩
  · rintro ⟨started, text, keys, asked, stored, rfl⟩
    exact ⟨(), started, text, asked, keys, stored, rfl⟩

end KeyLookup

/-- The text begins as the lookup does and compares every key column with the parameter of
its number. -/
def Query.ComparesKey (query : Query) (writer : Dialect) (map : TableMap) (lookup : KeyLookup) :
    Prop :=
  query.sql = writer.write (lookup.opening map) ++ " where " ++ writer.keyText map 0

/-- What a text says that was written for a lookup. -/
theorem Query.comparesKey_of_sql {query : Query} {writer : Dialect} {map : TableMap}
    {lookup : KeyLookup} {sql : Sql} (written : lookup.kind.sql map writer = .ok sql)
    (text : query.sql = writer.write sql) : query.ComparesKey writer map lookup := by
  obtain ⟨-, rfl⟩ := KeyLookup.sql_kind_eq_ok.mp written
  rw [ComparesKey, text, Dialect.write_append, Dialect.write_cons, Dialect.write_keyConditions,
    Dialect.writePiece, String.append_assoc]

section Histories

variable {tableStem : Option String} {naming : Naming} {history : List Call} {model : Model}
  {map : TableMap} {dialect : Dialect}

/-- What is remembered of a text was written in a dialect of the name asked for, and in the
asked dialect itself unless the schema was used with different dialects of one name. -/
theorem exists_writer_of_outcome_text (request : Request) {kind : StatementKind} {text : String}
    (mapped : TableMap.ofModel tableStem naming model = .ok map)
    (identified : ∀ call ∈ history, call.model.type = model.type → call.model = model)
    (asked : ((Schema.text ⟨kind, dialect.name, map.name⟩
        ((kind.sql map dialect).map dialect.write)).outcome
      ((Schema.tableMap model).outcome
        ((Schema.fresh tableStem naming).after history)).2).1 = .ok text) :
    ∃ writer : Dialect, writer.name = dialect.name ∧
      ((Usage.ofCalls tableStem naming (.statement model dialect request :: history)).Coherent →
        writer = dialect) ∧
      ∃ sql, kind.sql map writer = .ok sql ∧ text = writer.write sql := by
  by_cases coherent : (Usage.ofCalls tableStem naming
      (.statement model dialect request :: history)).Coherent
  · rw [Usage.outcome_text_after kind coherent mapped, Result.map_eq_ok] at asked
    obtain ⟨sql, written, rfl⟩ := asked
    exact ⟨dialect, rfl, fun _ => rfl, sql, written, rfl⟩
  · have describes := (Schema.Describes.fresh mapped).after identified
    have remembered := (describes.of_tableMap fun _ => rfl).1
    obtain ⟨writer, sql, sameName, written⟩ := remembered.exists_of_outcome_text kind asked
    exact ⟨writer, sameName, fun own => absurd own coherent, sql, written⟩

/-- Whatever a schema was used for, as long as the type of the model belongs to no other: two
records of mapped fields with the same values for the key fields give the same answer, and
leave the same behind, whichever other fields they have, in whatever order and with whatever
values. A lookup succeeds exactly when no other clause left a trace, the model has a primary
key, and every key field is given with a value that can be stored. Its text then compares the
key columns in the order of the map with parameters numbered from zero, and its parameters are
the stored key values in that order. -/
theorem byKey_depends_on_key {fields others : List (String × Value)} (lookup : KeyLookup)
    (dialect : Dialect) (mapped : TableMap.ofModel tableStem naming model = .ok map)
    (identified : ∀ call ∈ history, call.model.type = model.type → call.model = model)
    (known : map.Knows fields) (othersKnown : map.Knows others)
    (same : map.SameKey fields others) :
    let answer (given : List (String × Value)) :=
      ((lookup.request given).run model dialect).outcome
        ((Schema.fresh tableStem naming).after history)
    answer fields = answer others ∧
    ((∃ query, (answer fields).1 = .ok query) ↔
      lookup.start map dialect = .ok () ∧ map.hasPrimaryKey = true ∧
        ∀ property ∈ map.primaryKey, ∃ stored, property.GivenAs fields stored) ∧
    (∀ query, (answer fields).1 = .ok query →
      ∃ (writer : Dialect) (keys : List Value), writer.name = dialect.name ∧
        ((Usage.ofCalls tableStem naming
          (.statement model dialect (lookup.request fields) :: history)).Coherent →
            writer = dialect) ∧
        query.ComparesKey writer map lookup ∧ query.params = .numbered 0 keys ∧
        List.Forall₂ (fun property stored => property.GivenAs fields stored)
          map.primaryKey keys) ∧
    (KeyLookup.delete []).start map dialect = .ok () ∧
    (KeyLookup.select []).start map dialect = .ok () := by
  intro answer
  have describes := (Schema.Describes.fresh mapped).after identified
  have remembered := (describes.of_tableMap fun _ => rfl).1
  have steps {given : List (String × Value)} (known : map.Knows given) :
      answer given = (lookup.steps map dialect given).outcome
        ((Schema.tableMap model).outcome ((Schema.fresh tableStem naming).after history)).2 :=
    KeyLookup.outcome_request describes known
  refine ⟨?alike, ?succeeds, ?binds, rfl, rfl⟩
  case alike =>
    rw [steps known, steps othersKnown, KeyLookup.steps, same.keysOf_eq, ← KeyLookup.steps]
  case succeeds =>
    simp only [steps known, KeyLookup.outcome_steps_eq_ok]
    constructor
    · rintro ⟨query, started, text, keys, asked, stored, -⟩
      obtain ⟨writer, sql, -, written, -⟩ := remembered.exists_of_outcome_text _ asked
      refine ⟨started, (KeyLookup.sql_kind_eq_ok.mp written).1, fun property key => ?_⟩
      obtain ⟨stored, translated⟩ := Result.ok_of_mapM_eq_ok stored property key
      exact ⟨stored, TableMap.keyStored_eq_ok.mp translated⟩
    · rintro ⟨started, keyed, given⟩
      have each : ∀ property ∈ map.primaryKey, ∃ stored,
          Draft.keyStored map fields property = .ok stored := fun property key =>
        (given property key).imp fun _ => TableMap.keyStored_eq_ok.mpr
      obtain ⟨keys, stored⟩ := Result.exists_mapM_eq_ok_iff.mpr each
      have written : lookup.kind.sql map dialect = .ok _ :=
        KeyLookup.sql_kind_eq_ok.mpr ⟨keyed, rfl⟩
      obtain ⟨text, asked⟩ := Schema.exists_outcome_text_eq_ok _ _
        (Result.map_eq_ok.mpr ⟨_, written, rfl⟩)
      exact ⟨_, started, text, keys, asked, stored, rfl⟩
  case binds =>
    intro query answered
    rw [steps known, KeyLookup.outcome_steps_eq_ok] at answered
    obtain ⟨-, text, keys, asked, stored, rfl⟩ := answered
    obtain ⟨writer, sameName, own, sql, written, wrote⟩ :=
      exists_writer_of_outcome_text (lookup.request fields) mapped identified asked
    refine ⟨writer, keys, sameName, own, Query.comparesKey_of_sql written wrote, rfl, ?_⟩
    refine (Result.mapM_eq_ok_iff_forall₂.mp stored).imp ?_
    exact fun _ _ => TableMap.keyStored_eq_ok.mp

end Histories

namespace Berth

/-- The sides of a ship, coded by letters. -/
def sides : ValueMap :=
  ⟨"Side", [(.string "port", .string "P"), (.string "starboard", .string "S")]⟩

/-- Berths, identified by a side and a number. Between the two stands a field that is coded as
well and not part of the key. -/
def model : Model :=
  ⟨"Berth", none, [(Field.plain "side" ⟨.string, false⟩).withMarks [.primaryKey, .valueMap sides],
    (Field.plain "view" ⟨.string, false⟩).mark (.valueMap sides),
    (Field.plain "number" ⟨.i32, false⟩).mark .primaryKey]⟩

/-- The key of a berth, as the map has it. -/
def given : List (String × Value) :=
  [("side", .string "port"), ("number", .i32 7)]

/-- The same key the other way round, beside a view that cannot be stored. -/
def turned : List (String × Value) :=
  [("number", .i32 7), ("view", .string "inside"), ("side", .string "port")]

/-- Another berth was deleted before. -/
def history : List Call :=
  [.statement model .ansi
    (.deleteByKey [] (.record [("side", .string "starboard"), ("number", .i32 2)]))]

theorem turned_same_berth :
    let answer (fields : List (String × Value)) :=
      (((KeyLookup.delete []).request fields).run model .ansi).outcome
        ((Schema.fresh none .verbatim).after history)
    answer given = answer turned ∧ (∃ query, (answer given).1 = .ok query) ∧
      (answer turned).1 = .ok
        ⟨"delete from \"Berth\" where (\"side\" = @p0) and (\"number\" = @p1)",
          .numbered 0 [.string "P", .i32 7]⟩ := by
  intro answer
  have identified : ∀ call ∈ history, call.model.type = model.type → call.model = model := by
    simp [history, Call.model]
  have mapped : TableMap.ofModel none .verbatim model =
      .ok (TableMap.draft none .verbatim model) := rfl
  have known : (TableMap.draft none .verbatim model).Knows given :=
    List.forall_mem_cons.mpr ⟨⟨_, rfl⟩, List.forall_mem_singleton.mpr ⟨_, rfl⟩⟩
  have turnedKnown : (TableMap.draft none .verbatim model).Knows turned :=
    List.forall_mem_cons.mpr ⟨⟨_, rfl⟩, List.forall_mem_cons.mpr ⟨⟨_, rfl⟩,
      List.forall_mem_singleton.mpr ⟨_, rfl⟩⟩⟩
  have same : (TableMap.draft none .verbatim model).SameKey given turned :=
    List.forall_mem_cons.mpr ⟨rfl, List.forall_mem_singleton.mpr rfl⟩
  have stored : ∀ property ∈ (TableMap.draft none .verbatim model).primaryKey,
      ∃ stored, property.GivenAs given stored :=
    List.forall_mem_cons.mpr ⟨⟨.string "P", _, rfl, rfl⟩,
      List.forall_mem_singleton.mpr ⟨.i32 7, _, rfl, rfl⟩⟩
  obtain ⟨alike, succeeds, -⟩ :=
    byKey_depends_on_key (.delete []) .ansi mapped identified known turnedKnown same
  exact ⟨alike, succeeds.mpr ⟨rfl, rfl, stored⟩, rfl⟩

end Berth

end SqlMapper
