import SqlMapper.Proofs.Statement.Request
import SqlMapper.Proofs.Statement.Row

/-!
# Statements by primary key

The shapes by primary key write their text from the table map alone, number the
placeholders in advance and bind the values afterwards. Put together from clauses, the
same statement walks through the row and binds as it goes. For a key without nulls
both ways succeed for the same rows and give the same statement.
-/

namespace SqlMapper

open Params

variable {map : TableMap} {row : Row} {dialect : Dialect} {query : Query}

/-- The row has the fields of the map, which has a key, and `keys` are the stored
values of that key. -/
structure TableMap.HasKey (map : TableMap) (row : Row) (keys : List Value) : Prop where
  owns : map.Owns row
  keyed : map.hasPrimaryKey = true
  stored : map.primaryKey.mapM (Property.heldStored row) = .ok keys

/-- A map with distinct fields, and a row that has no null in the key if it has the
fields at all. -/
structure TableMap.Plain (map : TableMap) (row : Row) : Prop where
  unique : (map.properties.map Property.name).Nodup
  present : map.Owns row → ∀ property ∈ map.primaryKey, property.heldStored row ≠ .ok .null

/-- The select of the row with a key. -/
def SelectParts.byKey (map : TableMap) : SelectParts :=
  { SelectParts.plain map.defaultSelection map.tableSql with
    conditions := some (map.keyConditions 0) }

namespace Draft

variable {draft after : Draft} {values : List Value}

/-- The draft with the key of a row as its condition, where `values` were bound before. -/
def keyed (draft : Draft) (values keys : List Value) : Draft :=
  { draft with
    params := .numbered 0 (values ++ keys)
    conditions := draft.conditions ++
      (TableMap.numbered draft.map.primaryKey values.length).map fun (property, name) =>
        property.equalsParameter name }

/-- The conditions of a filter by primary key are those of the remembered shapes. -/
theorem conditionSql_keyed (keys : List Value) (bare : draft.conditions = [])
    (hasKey : draft.map.hasPrimaryKey = true) :
    (draft.keyed values keys).conditionSql = some (draft.map.keyConditions values.length) := by
  have nonempty : draft.map.primaryKey ≠ [] := TableMap.hasPrimaryKey_iff.mp hasKey
  have present : (draft.keyed values keys).conditions ≠ [] := by
    rw [keyed, bare, List.nil_append, Ne, List.map_eq_nil_iff, ← List.length_eq_zero_iff]
    simpa using nonempty
  rw [conditionSql, if_neg (by simpa using present), keyed, bare]
  rfl

theorem filter_matchingKey_eq_ok (draft : Draft) (plain : draft.map.Plain row)
    (numbered : draft.params = .numbered 0 values) (after : Draft) :
    draft.filter (.matchingKey (.row row)) = .ok after ↔
      ∃ keys, draft.map.HasKey row keys ∧ after = draft.keyed values keys := by
  simp only [filter, Result.bind_eq_ok, TableMap.values_row_eq_ok,
    TableMap.requirePrimaryKey_eq_ok]
  constructor
  · intro given
    obtain ⟨_, ⟨owns, rfl⟩, _, keyed, ran⟩ := given
    rw [filterFields_heldFields plain.unique (plain.present owns) rfl numbered,
      Result.map_eq_ok] at ran
    obtain ⟨keys, stored, rfl⟩ := ran
    exact ⟨keys, ⟨owns, keyed, stored⟩, rfl⟩
  · intro given
    obtain ⟨keys, hasKey, rfl⟩ := given
    refine ⟨_, ⟨hasKey.owns, rfl⟩, (), hasKey.keyed, ?_⟩
    rw [filterFields_heldFields plain.unique (plain.present hasKey.owns) rfl numbered,
      hasKey.stored]
    rfl

@[simp] theorem isPristine_start : (Draft.start map dialect).isPristine = true := rfl

theorem params_start (map : TableMap) (dialect : Dialect) :
    (Draft.start map dialect).params = .numbered 0 [] := rfl

theorem bindKey_row_eq_ok (draft : Draft) (plain : draft.map.Plain row)
    (numbered : draft.params = .numbered 0 values) (after : Draft) :
    (∃ fields, (Source.row row).values draft.map = .ok fields ∧
        draft.bindKey fields = .ok after) ↔
      draft.map.Owns row ∧ ∃ keys,
        draft.map.primaryKey.mapM (Property.heldStored row) = .ok keys ∧
          after = { draft with params := .numbered 0 (values ++ keys) } := by
  constructor
  · intro given
    obtain ⟨fields, read, bound⟩ := given
    obtain ⟨owns, rfl⟩ := TableMap.values_row_eq_ok.mp read
    rw [bindKey_heldFields plain.unique rfl numbered, Result.map_eq_ok] at bound
    obtain ⟨keys, stored, rfl⟩ := bound
    exact ⟨owns, keys, stored, rfl⟩
  · intro given
    obtain ⟨owns, keys, stored, rfl⟩ := given
    refine ⟨_, TableMap.values_row_eq_ok.mpr ⟨owns, rfl⟩, ?_⟩
    rw [bindKey_heldFields plain.unique rfl numbered, stored]
    rfl

end Draft

/-- The assignments of every updatable field, in the order of the map. -/
def Update.assignments (map : TableMap) : List Sql :=
  (TableMap.numbered map.updatable 0).map fun (property, name) =>
    property.assignSql [.placeholder name]

theorem Update.isEmpty_assignments :
    (assignments map).isEmpty = true ↔ map.updatable = [] := by
  rw [List.isEmpty_iff, assignments, List.map_eq_nil_iff, ← List.length_eq_zero_iff,
    TableMap.length_numbered, List.length_eq_zero_iff]

theorem Update.byKeySql_eq_ok {sql : Sql} :
    byKeySql map = .ok sql ↔ map.hasPrimaryKey = true ∧ map.updatable ≠ [] ∧
      sql = Update.sql map (assignments map) (some (map.keyConditions map.updatable.length)) := by
  have length : (assignments map).length = map.updatable.length := by simp [assignments]
  have unfolded : byKeySql map = (do
      map.requirePrimaryKey "an update by primary key"
      if (assignments map).isEmpty then (StatementFault.nothingUpdatable map.name).fail
      else
        return Update.sql map (assignments map)
          (some (map.keyConditions (assignments map).length))) := rfl
  rw [unfolded, length]
  simp only [Result.bind_eq_ok, TableMap.requirePrimaryKey_eq_ok, exists_const,
    isEmpty_assignments]
  split
  next none =>
    simp only [none, ne_eq, not_true_eq_false, false_and, and_false, iff_false, not_and]
    intro _ failed
    cases failed
  next updatable =>
    simp only [Result.pure_eq_ok, ne_eq, updatable, not_false_eq_true, true_and]
    exact and_congr_right fun _ => eq_comm

/-- A draft without conditions that bound some values. -/
def Draft.holding (map : TableMap) (dialect : Dialect) (values : List Value) : Draft :=
  { Draft.start map dialect with params := .numbered 0 values }

/-- Setting the values of a row makes the same assignments as the remembered shape. -/
theorem UpdateDraft.assignFields_eq_ok (dialect : Dialect) (plain : map.Plain row)
    (update : UpdateDraft) :
    UpdateDraft.assignFields ⟨Draft.start map dialect, []⟩ (map.heldFields row) = .ok update ↔
      ∃ stored, map.updatable.mapM (Property.heldStored row) = .ok stored ∧
        update = ⟨Draft.holding map dialect stored, Update.assignments map⟩ := by
  have numbered : (Draft.start map dialect).params = .numbered 0 [] := rfl
  rw [UpdateDraft.assignFields_heldFields plain.unique rfl numbered, Result.map_eq_ok]
  exact exists_congr fun _ => and_congr_right fun _ => eq_comm

/-- A select without further clauses than a key reads the row with that key. -/
theorem SelectDraft.parts_keyed (keys : List Value) (hasKey : map.hasPrimaryKey = true) :
    SelectDraft.parts ⟨(Draft.start map dialect).keyed [] keys, none, none, [], [], .all⟩ =
      .ok (SelectParts.byKey map) := by
  have conditions : ((Draft.start map dialect).keyed [] keys).conditionSql =
      some (map.keyConditions 0) := Draft.conditionSql_keyed keys rfl hasKey
  rw [SelectParts.byKey, ← conditions]
  rfl

/-- The statements by primary key, for the key of a row. -/
inductive KeyedShape where
  | update
  | delete
  | select

namespace KeyedShape

/-- The shape whose text is remembered. -/
def byKey (row : Row) : KeyedShape → Request
  | update => .updateByKey [] row
  | delete => .deleteByKey [] (.row row)
  | select => .selectByKey [] (.row row)

/-- The same statement put together from clauses. -/
def fromClauses (row : Row) : KeyedShape → Request
  | update => .update [.set (.row row), .filter (.matchingKey (.row row))]
  | delete => .delete [.matchingKey (.row row)]
  | select => .select [.filter (.matchingKey (.row row))]

/-- The statement for the key of a row, from the table map and the stored values. -/
def Writes (map : TableMap) (dialect : Dialect) (row : Row) (query : Query)
    (shape : KeyedShape) : Prop :=
  ∃ keys, map.HasKey row keys ∧
    match shape with
    | update => map.updatable ≠ [] ∧
        ∃ stored, map.updatable.mapM (Property.heldStored row) = .ok stored ∧
          query = ⟨dialect.write (Update.sql map (Update.assignments map)
            (some (map.keyConditions map.updatable.length))), .numbered 0 (stored ++ keys)⟩
    | delete =>
        query = ⟨dialect.write (Delete.sql map (some (map.keyConditions 0))), .numbered 0 keys⟩
    | select => ∃ sql, dialect.select (SelectParts.byKey map) = .ok sql ∧
        query = ⟨dialect.write sql, .numbered 0 keys⟩

end KeyedShape

namespace Request

theorem deleteByKey_eq_ok (plain : map.Plain row) :
    (deleteByKey [] (.row row)).result map dialect = .ok query ↔
      KeyedShape.delete.Writes map dialect row query := by
  simp only [result, List.foldlM_nil, pure_bind, Draft.isPristine_start, Bool.not_true,
    Bool.false_eq_true, if_false, Result.bind_eq_ok, Result.map_eq_ok, Result.pure_eq_ok,
    Delete.byKeySql, TableMap.requirePrimaryKey_eq_ok]
  have bindKey := Draft.bindKey_row_eq_ok _ plain (Draft.params_start map dialect)
  constructor
  · intro given
    obtain ⟨_, ⟨_, ⟨_, keyed, rfl⟩, rfl⟩, fields, read, after, bound, rfl⟩ := given
    obtain ⟨owns, keys, stored, rfl⟩ := (bindKey after).mp ⟨fields, read, bound⟩
    exact ⟨keys, ⟨owns, keyed, stored⟩, rfl⟩
  · intro given
    obtain ⟨keys, hasKey, rfl⟩ := given
    obtain ⟨fields, read, bound⟩ := (bindKey _).mpr ⟨hasKey.owns, keys, hasKey.stored, rfl⟩
    exact ⟨_, ⟨_, ⟨(), hasKey.keyed, rfl⟩, rfl⟩, fields, read, _, bound, rfl⟩

theorem delete_matchingKey_eq_ok (plain : map.Plain row) :
    (delete [.matchingKey (.row row)]).result map dialect = .ok query ↔
      KeyedShape.delete.Writes map dialect row query := by
  simp only [result, List.foldlM_cons, List.foldlM_nil, bind_pure, Result.bind_eq_ok,
    Result.pure_eq_ok]
  have filtered := Draft.filter_matchingKey_eq_ok _ plain (Draft.params_start map dialect)
  constructor
  · intro given
    obtain ⟨draft, filter, rfl⟩ := given
    obtain ⟨keys, hasKey, rfl⟩ := (filtered draft).mp filter
    refine ⟨keys, hasKey, ?_⟩
    rw [Draft.conditionSql_keyed keys rfl hasKey.keyed]
    rfl
  · intro given
    obtain ⟨keys, hasKey, rfl⟩ := given
    refine ⟨_, (filtered _).mpr ⟨keys, hasKey, rfl⟩, ?_⟩
    rw [Draft.conditionSql_keyed keys rfl hasKey.keyed]
    rfl

theorem selectByKey_eq_ok (plain : map.Plain row) :
    (selectByKey [] (.row row)).result map dialect = .ok query ↔
      KeyedShape.select.Writes map dialect row query := by
  have pristine : (SelectDraft.start map dialect).isPristine = true := rfl
  simp only [result, List.foldlM_nil, pure_bind, pristine, Bool.not_true, Bool.false_eq_true,
    if_false, Result.bind_eq_ok, Result.map_eq_ok, Result.pure_eq_ok, Select.byKeySql,
    TableMap.requirePrimaryKey_eq_ok]
  have bindKey := Draft.bindKey_row_eq_ok _ plain (Draft.params_start map dialect)
  constructor
  · intro given
    obtain ⟨_, ⟨sql, ⟨_, keyed, selected⟩, rfl⟩, fields, read, after, bound, rfl⟩ := given
    obtain ⟨owns, keys, stored, rfl⟩ := (bindKey after).mp ⟨fields, read, bound⟩
    exact ⟨keys, ⟨owns, keyed, stored⟩, sql, selected, rfl⟩
  · intro given
    obtain ⟨keys, hasKey, sql, selected, rfl⟩ := given
    obtain ⟨fields, read, bound⟩ := (bindKey _).mpr ⟨hasKey.owns, keys, hasKey.stored, rfl⟩
    exact ⟨_, ⟨sql, ⟨(), hasKey.keyed, selected⟩, rfl⟩, fields, read, _, bound, rfl⟩

theorem select_matchingKey_eq_ok (plain : map.Plain row) :
    (select [.filter (.matchingKey (.row row))]).result map dialect = .ok query ↔
      KeyedShape.select.Writes map dialect row query := by
  simp only [result, List.foldlM_cons, List.foldlM_nil, bind_pure, SelectDraft.apply,
    Result.bind_eq_ok, Result.pure_eq_ok]
  have filtered := Draft.filter_matchingKey_eq_ok _ plain (Draft.params_start map dialect)
  constructor
  · intro given
    obtain ⟨_, ⟨draft, filter, rfl⟩, parts, asked, sql, selected, rfl⟩ := given
    obtain ⟨keys, hasKey, rfl⟩ := (filtered draft).mp filter
    cases (SelectDraft.parts_keyed keys hasKey.keyed).symm.trans asked
    exact ⟨keys, hasKey, sql, selected, rfl⟩
  · intro given
    obtain ⟨keys, hasKey, sql, selected, rfl⟩ := given
    have filter := (filtered _).mpr ⟨keys, hasKey, rfl⟩
    exact ⟨_, ⟨_, filter, rfl⟩, _, SelectDraft.parts_keyed keys hasKey.keyed, sql, selected, rfl⟩

theorem updateByKey_eq_ok (plain : map.Plain row) :
    (updateByKey [] row).result map dialect = .ok query ↔
      KeyedShape.update.Writes map dialect row query := by
  have storedOf (owns : map.Owns row) : map.updatable.mapM (fun property =>
      property.storedOf row) = map.updatable.mapM (Property.heldStored row) :=
    Result.mapM_congr fun property member =>
      Property.storedOf_of_owned (owns property (List.mem_filter.mp member).1)
  simp only [result, List.foldlM_nil, pure_bind, Draft.isPristine_start, List.isEmpty_nil,
    Bool.not_true, Bool.or_self, Bool.false_eq_true, if_false, Result.bind_eq_ok,
    Result.map_eq_ok, Result.pure_eq_ok, Update.byKeySql_eq_ok]
  have bindKey (stored : List Value) := Draft.bindKey_row_eq_ok
    { Draft.start map dialect with params := (Params.empty.pushAll stored).2 } plain
    (pushAll_empty stored)
  constructor
  · intro given
    obtain ⟨_, ⟨_, ⟨keyed, updatable, rfl⟩, rfl⟩, stored, computed, given⟩ := given
    obtain ⟨fields, read, after, bound, rfl⟩ := given
    obtain ⟨owns, keys, keyStored, rfl⟩ := (bindKey stored after).mp ⟨fields, read, bound⟩
    exact ⟨keys, ⟨owns, keyed, keyStored⟩, updatable, stored, storedOf owns ▸ computed, rfl⟩
  · intro given
    obtain ⟨keys, hasKey, updatable, stored, computed, rfl⟩ := given
    obtain ⟨fields, read, bound⟩ :=
      (bindKey stored _).mpr ⟨hasKey.owns, keys, hasKey.stored, rfl⟩
    exact ⟨_, ⟨_, ⟨hasKey.keyed, updatable, rfl⟩, rfl⟩, stored, storedOf hasKey.owns ▸ computed,
      fields, read, _, bound, rfl⟩

theorem update_matchingKey_eq_ok (plain : map.Plain row) :
    (update [.set (.row row), .filter (.matchingKey (.row row))]).result map dialect =
        .ok query ↔ KeyedShape.update.Writes map dialect row query := by
  simp only [result, List.foldlM_cons, List.foldlM_nil, bind_pure, UpdateDraft.apply,
    Result.bind_eq_ok, Result.pure_eq_ok, TableMap.values_row_eq_ok]
  have assigned := UpdateDraft.assignFields_eq_ok dialect plain
  have filtered (stored : List Value) :=
    Draft.filter_matchingKey_eq_ok (Draft.holding map dialect stored) plain rfl
  have conditions {stored keys : List Value} (keyed : map.hasPrimaryKey = true)
      (computed : map.updatable.mapM (Property.heldStored row) = .ok stored) :
      ((Draft.holding map dialect stored).keyed stored keys).conditionSql =
        some (map.keyConditions map.updatable.length) := by
    rw [← Result.length_of_mapM_eq_ok computed]
    exact Draft.conditionSql_keyed keys rfl keyed
  constructor
  · intro given
    obtain ⟨_, ⟨update, ⟨_, ⟨owns, rfl⟩, set⟩, draft, filter, rfl⟩, finished⟩ := given
    obtain ⟨stored, computed, rfl⟩ := (assigned update).mp set
    obtain ⟨keys, hasKey, rfl⟩ := (filtered stored draft).mp filter
    rw [conditions hasKey.keyed computed] at finished
    split at finished
    next => cases finished
    next updatable =>
      cases finished
      exact ⟨keys, hasKey, mt Update.isEmpty_assignments.mpr updatable, stored, computed, rfl⟩
  · intro given
    obtain ⟨keys, hasKey, updatable, stored, computed, rfl⟩ := given
    have set := (assigned _).mpr ⟨stored, computed, rfl⟩
    have filter := (filtered stored _).mpr ⟨keys, hasKey, rfl⟩
    refine ⟨_, ⟨_, ⟨_, ⟨hasKey.owns, rfl⟩, set⟩, _, filter, rfl⟩, ?_⟩
    rw [if_neg (mt Update.isEmpty_assignments.mp updatable), conditions hasKey.keyed computed]
    rfl

end Request

namespace KeyedShape

/-- Written with nothing remembered, both ways give the same statements. -/
theorem result_iff (shape : KeyedShape) (plain : map.Plain row) :
    (shape.byKey row).result map dialect = .ok query ↔
      (shape.fromClauses row).result map dialect = .ok query := by
  cases shape with
  | update =>
      exact (Request.updateByKey_eq_ok plain).trans (Request.update_matchingKey_eq_ok plain).symm
  | delete =>
      exact (Request.deleteByKey_eq_ok plain).trans (Request.delete_matchingKey_eq_ok plain).symm
  | select =>
      exact (Request.selectByKey_eq_ok plain).trans (Request.select_matchingKey_eq_ok plain).symm

end KeyedShape

/-- After any history of a schema that is coherent with the model and the dialect, and
for a row none of whose key values is stored as null, the shape by primary key succeeds
with a statement exactly when the clauses do. -/
theorem byKey_agrees_with_clauses {tableStem : Option String} {naming : Naming}
    {history : List Call} {model : Model} {dialect : Dialect} {map : TableMap} {row : Row}
    (shape : KeyedShape)
    (coherent : (Usage.ofCalls tableStem naming
      (.statement model dialect (shape.byKey row) :: history)).Coherent)
    (mapped : TableMap.ofModel tableStem naming model = .ok map)
    (present : ∀ property ∈ map.primaryKey, property.storedOf row ≠ .ok .null) (query : Query) :
    (((shape.byKey row).run model dialect).outcome
        ((Schema.fresh tableStem naming).after history)).1 = .ok query ↔
      (((shape.fromClauses row).run model dialect).outcome
        ((Schema.fresh tableStem naming).after history)).1 = .ok query := by
  have plain : map.Plain row := by
    refine ⟨TableMap.unique_of_ofModel_eq_ok mapped, fun owns property key => ?_⟩
    rw [← Property.storedOf_of_owned (owns property (List.mem_filter.mp key).1)]
    exact present property key
  have remembered := Usage.outcome_after (shape.byKey row) coherent
  have composed := Usage.outcome_after (shape.fromClauses row) coherent
  rw [remembered, composed, mapped]
  exact shape.result_iff plain

open Ticket in
theorem booked_byKey_agrees_with_clauses :
    ((((KeyedShape.byKey booked .update).run model .ansi).outcome schema).1 =
        .ok ⟨"update \"Ticket\" set \"seat\" = @p0 where (\"id\" = @p1)",
          .numbered 0 [.i32 12, .i64 7]⟩) ∧
      (((KeyedShape.fromClauses booked .update).run model .ansi).outcome schema).1 =
        .ok ⟨"update \"Ticket\" set \"seat\" = @p0 where (\"id\" = @p1)",
          .numbered 0 [.i32 12, .i64 7]⟩ := by
  have mapped : TableMap.ofModel none .verbatim model =
      .ok (TableMap.draft none .verbatim model) := rfl
  have present : ∀ property ∈ (TableMap.draft none .verbatim model).primaryKey,
      property.storedOf booked ≠ .ok .null := by
    refine List.forall_mem_cons.mpr ⟨?_, List.forall_mem_nil _⟩
    intro null
    cases null
  have agrees := byKey_agrees_with_clauses .update (coherent _) mapped present
  exact ⟨rfl, (agrees _).mp rfl⟩

end SqlMapper
