import Mathlib.Data.List.Nodup
import SqlMapper.Proofs.Dialect.Identifier
import SqlMapper.Proofs.Statement.Writing

/-!
# Columns as they are written

A table map has every column once, but a dialect may write two columns alike, and nothing
keeps the clauses of an update from assigning a field again. Where a dialect keeps the
columns of a map apart, an insert and an update by primary key write no column twice, and an
update put together from clauses does exactly when no two of them assign the same field.
-/

namespace SqlMapper

/-! ## Columns told apart -/

namespace Dialect

/-- The dialect writes no two columns of the map alike. -/
def KeepsApart (dialect : Dialect) (map : TableMap) : Prop :=
  (dialect.columnTexts map.properties).Nodup

variable {dialect : Dialect} {map : TableMap} {properties : List Property}

/-- Where the columns of a map are kept apart, texts repeat only with their properties. -/
theorem KeepsApart.nodup_columnTexts_iff (apart : dialect.KeepsApart map)
    (mapped : ∀ property ∈ properties, property ∈ map.properties) :
    (dialect.columnTexts properties).Nodup ↔ properties.Nodup := by
  refine ⟨List.Nodup.of_map _, fun unique => ?_⟩
  refine (List.nodup_map_iff_inj_on unique).mpr fun first firstMember second secondMember => ?_
  exact List.inj_on_of_nodup_map apart (mapped first firstMember) (mapped second secondMember)

/-- A dialect without dots in its delimiters keeps columns apart that have none of them. -/
theorem DotFree.keepsApart (dotFree : dialect.DotFree)
    (unique : (map.properties.map Property.column).Nodup)
    (plain : ∀ property ∈ map.properties, dialect.IsPlain property.column) :
    dialect.KeepsApart map := by
  refine (List.nodup_map_iff_inj_on (unique.of_map _)).mpr ?_
  intro first firstMember second secondMember same
  apply List.inj_on_of_nodup_map unique firstMember secondMember
  exact dotFree.eq_of_escapeIdentifier_eq (plain first firstMember) (plain second secondMember) same

end Dialect

/-! ## Properties written once -/

namespace UpdateClause

variable {map : TableMap} {clause : UpdateClause}

/-- The names of a record are given once. -/
def NamesOnce : UpdateClause → Prop
  | set (.record fields) => (NameTable.names fields).Nodup
  | _ => True

/-- A single clause assigns no field twice. -/
theorem nodup_targets (unique : (map.properties.map Property.name).Nodup)
    (once : clause.NamesOnce) : (clause.targets map).Nodup := by
  have named {fields : List (String × Value)} (distinct : (fields.map Prod.fst).Nodup) :
      ((map.changes fields).map Prod.fst).Nodup := by
    rw [TableMap.map_fst_changes]
    refine List.Nodup.filter _ (distinct.filterMap fun first second property found again => ?_)
    rw [← ((TableMap.property?_eq_some_iff unique).mp found).2,
      ((TableMap.property?_eq_some_iff unique).mp again).2]
  cases clause with
  | filter _ => exact List.nodup_nil
  | set source =>
      cases source with
      | row given =>
          refine named ?_
          rw [Source.fields, TableMap.heldFields, List.map_map]
          exact unique
      | record fields => exact named once
  | setField field _ =>
      rw [targets]
      cases map.property? field with
      | none => exact List.nodup_nil
      | some property => exact List.nodup_singleton property

/-- Several clauses assign a field twice when two of them assign it. -/
theorem nodup_flatMap_targets_iff {clauses : List UpdateClause}
    (unique : (map.properties.map Property.name).Nodup)
    (once : ∀ clause ∈ clauses, clause.NamesOnce) :
    (clauses.flatMap (targets map)).Nodup ↔
      clauses.Pairwise fun first second => (first.targets map).Disjoint (second.targets map) := by
  rw [List.nodup_flatMap]
  exact and_iff_right fun clause member => nodup_targets unique (once clause member)

end UpdateClause

section Results

variable {map : TableMap} {dialect : Dialect} {query : Query}

/-- With nothing remembered, an insert is written by its own dialect. -/
theorem inserts_of_result {row? : Option Row}
    (built : (Request.insert row?).result map dialect = .ok query) :
    query.Inserts dialect map := by
  cases row? with
  | none => cases built
  | some row =>
      simp only [Request.result, Result.bind_eq_ok, Result.map_eq_ok, Result.pure_eq_ok] at built
      obtain ⟨_, ⟨sql, written, rfl⟩, values, -, rfl⟩ := built
      exact Insert.exists_reports_of_sql written

/-- With nothing remembered, an update by primary key is written by its own dialect. -/
theorem byKeyText_of_result {clauses : List UpdateClause} {row : Row}
    (built : (Request.updateByKey clauses row).result map dialect = .ok query) :
    query.sql = Update.byKeyText dialect map := by
  obtain ⟨update, -, built⟩ := Result.bind_eq_ok.mp built
  split at built
  next => cases built
  next =>
    simp only [Result.bind_eq_ok, Result.map_eq_ok, Result.pure_eq_ok] at built
    obtain ⟨_, ⟨sql, written, rfl⟩, values, -, fields, -, draft, -, rfl⟩ := built
    exact Update.write_byKeySql written

end Results

/-- What is written in a dialect of the name asked for is written in the asked dialect itself,
unless the schema was used with different dialects of one name. -/
theorem exists_writer_of_answered {tableStem : Option String} {naming : Naming}
    {history : List Call} {model : Model} {map : TableMap} {dialect : Dialect} {query : Query}
    {request : Request} {shape : Dialect → Prop}
    (mapped : TableMap.ofModel tableStem naming model = .ok map)
    (answered : ((request.run model dialect).outcome
      ((Schema.fresh tableStem naming).after history)).1 = .ok query)
    (afresh : request.result map dialect = .ok query → shape dialect)
    (remembered : ∃ writer : Dialect, writer.name = dialect.name ∧ shape writer) :
    ∃ writer : Dialect, writer.name = dialect.name ∧
      ((Usage.ofCalls tableStem naming (.statement model dialect request :: history)).Coherent →
        writer = dialect) ∧
      shape writer := by
  by_cases coherent : (Usage.ofCalls tableStem naming
      (.statement model dialect request :: history)).Coherent
  · rw [Usage.outcome_after request coherent, mapped] at answered
    exact ⟨dialect, rfl, fun _ => rfl, afresh answered⟩
  · obtain ⟨writer, sameName, written⟩ := remembered
    exact ⟨writer, sameName, fun own => absurd own coherent, written⟩

/-- Whatever a schema was used for, as long as types belong to one model each: an insert
lists the columns of the insertable properties and an update by primary key assigns those of
the updatable ones, each property once and in the order of the map. An update assigns what its
clauses name, one clause after the other. Where the dialect keeps the columns of the map apart,
no insert and no update by primary key writes a column twice, and an update does not exactly
when no two of its clauses assign the same field. Every built-in dialect keeps columns apart
whose segments are not delimited already. -/
theorem columns_written_once {tableStem : Option String} {naming : Naming}
    {history : List Call} {model : Model} {map : TableMap} (dialect : Dialect)
    (mapped : TableMap.ofModel tableStem naming model = .ok map)
    (identified : ∀ call ∈ history, call.model.type = model.type → call.model = model) :
    let answer (request : Request) :=
      ((request.run model dialect).outcome ((Schema.fresh tableStem naming).after history)).1
    let coherent (request : Request) :=
      (Usage.ofCalls tableStem naming (.statement model dialect request :: history)).Coherent
    (∀ row? query, answer (.insert row?) = .ok query →
      ∃ writer : Dialect, writer.name = dialect.name ∧
        (coherent (.insert row?) → writer = dialect) ∧
        query.Inserts writer map ∧
        (writer.KeepsApart map → (writer.columnTexts map.insertable).Nodup)) ∧
    (∀ clauses row query, answer (.updateByKey clauses row) = .ok query →
      ∃ writer : Dialect, writer.name = dialect.name ∧
        (coherent (.updateByKey clauses row) → writer = dialect) ∧
        query.sql = Update.byKeyText writer map ∧
        (writer.KeepsApart map → (writer.columnTexts map.updatable).Nodup)) ∧
    (∀ clauses query, answer (.update clauses) = .ok query →
      let assigned := UpdateClause.allAssigned map .standard clauses
      (∃ update, clauses.foldlM UpdateDraft.apply ⟨Draft.start map dialect, []⟩ = .ok update ∧
        query.params = update.draft.params ∧
        query.Updates dialect map assigned update.draft.conditionSql) ∧
        assigned.map Prod.fst = clauses.flatMap (UpdateClause.targets map) ∧
        (dialect.KeepsApart map → (∀ clause ∈ clauses, clause.NamesOnce) →
          ((dialect.columnTexts (assigned.map Prod.fst)).Nodup ↔
            clauses.Pairwise fun first second =>
              (first.targets map).Disjoint (second.targets map)))) ∧
    ((map.properties.map Property.column).Nodup ∧
      map.insertable.Sublist map.properties ∧ map.insertable.Nodup ∧
      map.updatable.Sublist map.properties ∧ map.updatable.Nodup) ∧
    ∀ writer ∈ Dialect.builtin,
      (∀ property ∈ map.properties, writer.IsPlain property.column) → writer.KeepsApart map := by
  intro answer coherent
  have describes := (Schema.Describes.fresh mapped).after identified
  have columns := TableMap.columns_nodup_of_verify_eq_ok (TableMap.verify_of_ofModel_eq_ok mapped)
  have names := TableMap.unique_of_ofModel_eq_ok mapped
  have properties : map.properties.Nodup := columns.of_map _
  have insertable : map.insertable.Sublist map.properties := List.filter_sublist
  have updatable : map.updatable.Sublist map.properties := List.filter_sublist
  refine ⟨?inserts, ?byKey, ?updates, ?once, ?builtin⟩
  case inserts =>
    intro row? query answered
    obtain ⟨writer, sameName, own, inserts⟩ := exists_writer_of_answered mapped answered
      inserts_of_result (inserts_of_outcome describes answered)
    exact ⟨writer, sameName, own, inserts, fun apart => apart.sublist (insertable.map _)⟩
  case byKey =>
    intro clauses row query answered
    obtain ⟨writer, sameName, own, text⟩ := exists_writer_of_answered mapped answered
      byKeyText_of_result (byKeyText_of_outcome describes answered)
    exact ⟨writer, sameName, own, text, fun apart => apart.sublist (updatable.map _)⟩
  case updates =>
    intro clauses query answered assigned
    obtain ⟨updates, changeable⟩ := updates_of_outcome describes answered
    have targets : assigned.map Prod.fst = clauses.flatMap (UpdateClause.targets map) :=
      UpdateClause.map_fst_allAssigned clauses
    refine ⟨updates, targets, fun apart once => ?_⟩
    calc (dialect.columnTexts (assigned.map Prod.fst)).Nodup
      _ ↔ (clauses.flatMap (UpdateClause.targets map)).Nodup := by
        rw [targets]
        exact apart.nodup_columnTexts_iff fun property target => (changeable property target).1
      _ ↔ _ := UpdateClause.nodup_flatMap_targets_iff names once
  case once =>
    exact ⟨columns, insertable, properties.sublist insertable,
      updatable, properties.sublist updatable⟩
  case builtin =>
    intro writer listed plain
    exact (Dialect.dotFree_of_mem_builtin listed).keepsApart columns plain

namespace Ticket

/-- A ticket whose note has a column that only its delimiters tell from that of the seat. -/
def annotated : Model :=
  ⟨"Ticket", none, [Field.plain "seat" ⟨.i32, false⟩,
    (Field.plain "note" ⟨.i32, false⟩).mark (.column "[seat]")]⟩

/-- A single clause writes the seat of a ticket once. -/
theorem seat_written_once :
    let clauses : List UpdateClause :=
      [.filter (.matchingKey (.row booked)), .set (.record [("seat", .i32 2), ("id", .i64 8)])]
    let map := TableMap.draft none .verbatim model
    let assigned := UpdateClause.allAssigned map .standard clauses
    ∃ query update, (((Request.update clauses).run model .ansi).outcome schema).1 = .ok query ∧
      query.Updates .ansi map assigned (Draft.conditionSql update) ∧
      query.sql = "update \"Ticket\" set \"seat\" = @p1 where (\"id\" = @p0)" ∧
      Dialect.ansi.columnTexts (assigned.map Prod.fst) = ["\"seat\""] ∧
      (Dialect.ansi.columnTexts (assigned.map Prod.fst)).Nodup := by
  intro clauses map assigned
  have identified : ∀ call ∈ history, call.model.type = model.type → call.model = model := by
    simp [history, Call.model]
  have mapped : TableMap.ofModel none .verbatim model = .ok map := rfl
  obtain ⟨-, -, updates, -, apart⟩ := columns_written_once .ansi mapped identified
  obtain ⟨⟨update, -, -, updated⟩, -, once⟩ := updates clauses _ rfl
  refine ⟨_, update.draft, rfl, updated, rfl, rfl, (once (apart .ansi ?_ ?_) ?_).mpr ?_⟩
  · simp [Dialect.builtin]
  · decide
  · simp [clauses, UpdateClause.NamesOnce, NameTable.names]
  · simp [clauses, UpdateClause.targets]

/-- Two clauses that name the seat both write it, and columns that differ by delimiters alone
are written alike. -/
theorem seat_written_twice :
    (let clauses : List UpdateClause :=
        [.set (.record [("seat", .i32 1)]), .set (.record [("seat", .i32 2)])]
      let map := TableMap.draft none .verbatim model
      let assigned := (UpdateClause.allAssigned map .standard clauses).map Prod.fst
      ∃ query, (((Request.update clauses).run model .ansi).outcome schema).1 = .ok query ∧
        query.sql = "update \"Ticket\" set \"seat\" = @p0, \"seat\" = @p1" ∧
        query.sql = Update.text .ansi map assigned ["@p0", "@p1"] none ∧
        Dialect.ansi.columnTexts assigned = ["\"seat\"", "\"seat\""] ∧
        ¬ (Dialect.ansi.columnTexts assigned).Nodup) ∧
    let map := TableMap.draft none .verbatim annotated
    ∃ query, (((Request.insert (some ⟨"Ticket", [("seat", .i32 1), ("note", .i32 2)]⟩)).run
        annotated .sqlserver).outcome (.fresh none .verbatim)).1 = .ok query ∧
      query.sql = "insert into [Ticket] ([seat], [seat]) values (@p0, @p1)" ∧
      query.sql = Insert.text .sqlserver map "" ∧
      Dialect.sqlserver.columnTexts map.insertable = ["[seat]", "[seat]"] ∧
      ¬ (Dialect.sqlserver.columnTexts map.insertable).Nodup := by
  refine ⟨⟨_, rfl, rfl, ?_, rfl, ?_⟩, ⟨_, rfl, rfl, ?_, rfl, ?_⟩⟩
  · decide +kernel
  · decide
  · decide +kernel
  · decide

end Ticket

end SqlMapper
