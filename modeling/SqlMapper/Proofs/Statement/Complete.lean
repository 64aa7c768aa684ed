import SqlMapper.Proofs.Statement.Request
import SqlMapper.Proofs.Statement.Scope
import SqlMapper.Proofs.Statement.Separation

/-!
# Statements refer to their parameters

Whatever is asked for, in whatever order of clauses, the parameters of the finished
statement are `p0`, `p1` and so on, and each has exactly one placeholder. For the
shapes that are remembered, the placeholders are the names which the values get when
they are bound.
-/

namespace SqlMapper

open Params

/-- A statement written from pieces within a scope: the parameters have the generated
names from zero on, and the text refers to each of them exactly once and to nothing
else. -/
structure Query.IsComplete (query : Query) (scope : Scope) (sql : Sql) : Prop where
  text : query.sql = scope.dialect.write sql
  names : query.params.names = generatedNames 0 query.params.size
  references : (placeholders sql).Perm query.params.names
  once : (placeholders sql).Nodup
  allowed : scope.AllowsAll sql

namespace Query

variable {scope : Scope} {sql : Sql}

theorem isComplete_numbered {values : List Value} (allowed : scope.AllowsAll sql)
    (references : (placeholders sql).Perm (generatedNames 0 values.length)) :
    IsComplete ⟨scope.dialect.write sql, .numbered 0 values⟩ scope sql where
  text := rfl
  names := by rw [names_numbered, size_numbered]
  references := by rwa [names_numbered]
  once := references.nodup_iff.mpr (nodup_generatedNames 0 values.length)
  allowed := allowed

/-- A statement that refers to exactly what its draft collected. -/
theorem isComplete_finish {draft : Draft} {fragments : List Sql}
    (adds : (Draft.start scope.map scope.dialect).Adds draft fragments)
    (allowed : scope.AllowsAll sql)
    (references : (placeholders sql).Perm (fragments.flatMap placeholders)) :
    (draft.finish sql).IsComplete scope sql := by
  obtain ⟨values, numbered, used⟩ := adds.params [] rfl
  rw [placeholders_flatten] at used
  have complete := isComplete_numbered allowed (references.trans used)
  have sameDialect : draft.dialect = scope.dialect := adds.dialect
  rwa [Draft.finish, sameDialect, numbered, List.nil_append]

end Query

/-- Fragments that were added to a fresh draft are allowed. -/
theorem Draft.Adds.allowsAll {scope : Scope} {draft : Draft} {fragments : List Sql}
    (adds : (Draft.start scope.map scope.dialect).Adds draft fragments) :
    ∀ sql ∈ fragments, scope.AllowsAll sql :=
  fun _ member => Scope.allowsAll_of_isOver fun piece own =>
    adds.pieces piece (List.mem_flatten.mpr ⟨_, member, own⟩)

/-- A run of clauses from the start adds all conditions and keeps only their texts. -/
theorem SelectDraft.collected_of_foldlM {map : TableMap} {dialect : Dialect}
    {clauses : List SelectClause} {select : SelectDraft}
    (applied : clauses.foldlM apply (start map dialect) = .ok select) :
    (Draft.start map dialect).Adds select.draft select.draft.conditions ∧
      ∀ text ∈ select.texts, text ∈ clauses.filterMap SelectClause.text? := by
  obtain ⟨⟨fragments, adds, collected⟩, given⟩ := foldlM_extends applied
  obtain rfl : select.draft.conditions = fragments := collected
  exact ⟨adds, fun text member => (given text member).resolve_left List.not_mem_nil⟩

namespace Request

/-- The texts that a request supplies for the selection and the source. -/
def texts : Request → List String
  | select clauses | count clauses => clauses.filterMap SelectClause.text?
  | _ => []

/-- What is remembered of a request. -/
def kind? : Request → Option StatementKind
  | insert _ => some .insert
  | updateByKey _ _ => some .updateByKey
  | deleteByKey _ _ => some .deleteByKey
  | selectByKey _ _ => some .selectByKey
  | _ => none

/-- A remembered text is complete once the values of its properties are bound, and its
placeholders stand apart. -/
theorem isComplete_remembered (scope : Scope) (kind : StatementKind) {text : String}
    {values : List Value}
    (written : (kind.sql scope.map scope.dialect).map scope.dialect.write = .ok text)
    (bound : values.length = (kind.bound scope.map).length) :
    ∃ sql, Query.IsComplete ⟨text, .numbered 0 values⟩ scope sql ∧
      placeholders sql = (Params.numbered 0 values).names ∧ Apart sql := by
  obtain ⟨sql, pieces, rfl⟩ := Result.map_eq_ok.mp written
  obtain ⟨allowed, references⟩ := StatementKind.sql_references pieces
  rw [← bound] at references
  exact ⟨sql, Query.isComplete_numbered allowed (.of_eq references), by
    rw [references, names_numbered], StatementKind.apart_sql pieces⟩

/-- A shape by primary key is complete once the values of the key are bound. -/
theorem isComplete_byKey (scope : Scope) (kind : StatementKind) {text : String}
    {values : List Value} {fields : List (String × Value)} {draft after : Draft}
    (written : (kind.sql scope.map scope.dialect).map scope.dialect.write = .ok text)
    (sameMap : draft.map = scope.map) (numbered : draft.params = .numbered 0 values)
    (bound : values.length + scope.map.primaryKey.length = (kind.bound scope.map).length)
    (ran : draft.bindKey fields = .ok after) :
    ∃ sql, Query.IsComplete ⟨text, after.params⟩ scope sql ∧
      placeholders sql = after.params.names ∧ Apart sql := by
  rw [Draft.bindKey_eq fields numbered, sameMap, Result.map_eq_ok] at ran
  obtain ⟨keys, stored, rfl⟩ := ran
  apply isComplete_remembered scope kind written
  rw [List.length_append, Result.length_of_mapM_eq_ok stored, bound]

/-- A request by key is complete: its text is the remembered one, completed by the values that
are bound before the key and by those of the key. -/
theorem pieces_byKey {σ : Type} (scope : Scope) (kind : StatementKind) (draft : σ → Draft)
    (values : Result (List Value)) {ran : Result σ} {trace : σ → Bool} {fault : StatementFault}
    {key : Source} {query : Query}
    (written : (do
      let built ← ran
      if trace built then fault.fail
      else
        let text ← (kind.sql scope.map scope.dialect).map scope.dialect.write
        let stored ← values
        let fields ← key.values scope.map
        let after ← ({ draft built with
          params := ((draft built).params.pushAll stored).2 } : Draft).bindKey fields
        return (⟨text, after.params⟩ : Query)) = .ok query)
    (adds : ∀ built, ran = .ok built →
      ∃ fragments, (Draft.start scope.map scope.dialect).Adds (draft built) fragments)
    (bare : ∀ built, trace built = false → (draft built).isPristine = true)
    (bound : ∀ stored, values = .ok stored →
      stored.length + scope.map.primaryKey.length = (kind.bound scope.map).length) :
    ∃ sql, query.IsComplete scope sql ∧ placeholders sql = query.params.names ∧ Apart sql := by
  obtain ⟨built, applied, written⟩ := Result.bind_eq_ok.mp written
  obtain ⟨fragments, adds⟩ := adds built applied
  split at written
  next => cases written
  next traceless =>
    simp only [Result.bind_eq_ok, Result.pure_eq_ok] at written
    obtain ⟨text, remembered, stored, taken, fields, -, after, bindsKey, rfl⟩ := written
    have untouched : (draft built).params = .numbered 0 [] :=
      adds.params_of_isPristine (bare built (by simpa using traceless))
    let own : Draft := { draft built with params := ((draft built).params.pushAll stored).2 }
    have sameMap : own.map = scope.map := adds.map
    have numbered : own.params = .numbered 0 stored := by
      show ((draft built).params.pushAll stored).2 = _
      rw [untouched]
      exact pushAll_empty stored
    exact isComplete_byKey scope kind remembered sameMap numbered (bound stored taken) bindsKey

/-- An update is complete: it consists of its assignments and its condition. -/
theorem pieces_update {map : TableMap} {dialect : Dialect} {clauses : List UpdateClause}
    {update : UpdateDraft}
    (applied : clauses.foldlM UpdateDraft.apply ⟨Draft.start map dialect, []⟩ = .ok update) :
    let sql := Update.sql update.draft.map update.assignments update.draft.conditionSql
    (update.draft.finish sql).IsComplete ⟨map, dialect, []⟩ sql ∧ Apart sql := by
  obtain ⟨fragments, adds, extended⟩ := UpdateDraft.foldlM_extends applied
  have collected : update.fragments.Perm fragments := extended
  obtain ⟨assignedApart, filteredApart⟩ := (UpdateDraft.isApart_start map dialect).foldlM applied
  obtain rfl : update.draft.map = map := adds.map
  refine ⟨Query.isComplete_finish adds ?_ ?_,
    Update.apart_sql _ assignedApart filteredApart.conditionSql⟩
  · have allowed : ∀ sql ∈ update.fragments, Scope.AllowsAll ⟨_, dialect, []⟩ sql :=
      fun sql member => adds.allowsAll sql (collected.mem_iff.mp member)
    obtain ⟨assigned, filtered⟩ := List.forall_mem_append.mp allowed
    exact Update.allowsAll_sql assigned (Draft.allowsAll_conditionSql filtered)
  · rw [Update.placeholders_sql, Draft.placeholders_conditionSql, placeholders_joinPieces,
      ← List.flatMap_append]
    exact collected.flatMap_right _

/-- A select is complete if its parts are within the scope and have the conditions that were
collected. -/
theorem pieces_select {scope : Scope} {clauses : List SelectClause} {select : SelectDraft}
    {parts : SelectParts} {sql : Sql}
    (applied : clauses.foldlM SelectDraft.apply (.start scope.map scope.dialect) = .ok select)
    (within : parts.IsWithin scope) (conditions : parts.conditions = select.draft.conditionSql)
    (selected : scope.dialect.select parts = .ok sql) :
    (select.draft.finish sql).IsComplete scope sql ∧ Apart sql := by
  obtain ⟨adds, -⟩ := SelectDraft.collected_of_foldlM applied
  obtain ⟨allowed, references⟩ := Dialect.select_within within selected
  have collected := (SelectDraft.isApart_start scope.map scope.dialect).foldlM applied
  have filtered : ∀ sql ∈ parts.conditions, Apart sql := by
    rw [conditions]
    exact collected.conditionSql
  refine ⟨Query.isComplete_finish adds allowed (.of_eq ?_),
    Dialect.apart_select within filtered selected⟩
  rw [references, conditions, Draft.placeholders_conditionSql]

/-- Written with nothing remembered, every statement is complete, and its placeholders
stand apart. -/
theorem pieces_result {map : TableMap} {dialect : Dialect} {request : Request}
    {query : Query} (written : request.result map dialect = .ok query) :
    ∃ sql, query.IsComplete ⟨map, dialect, request.texts⟩ sql ∧
      (request.kind?.isSome → placeholders sql = query.params.names) ∧ Apart sql := by
  cases request with
  | insert row? =>
      cases row? with
      | none => cases written
      | some row =>
          simp only [result, Result.bind_eq_ok, Result.pure_eq_ok] at written
          obtain ⟨text, remembered, values, stored, rfl⟩ := written
          rw [pushAll_empty]
          obtain ⟨sql, complete, inOrder, apart⟩ := isComplete_remembered
            ⟨map, dialect, _⟩ .insert remembered (Result.length_of_mapM_eq_ok stored)
          exact ⟨sql, complete, fun _ => inOrder, apart⟩
  | update clauses =>
      simp only [result, Result.bind_eq_ok] at written
      obtain ⟨update, applied, written⟩ := written
      split at written
      next => cases written
      next =>
        cases written
        obtain ⟨complete, apart⟩ := pieces_update applied
        exact ⟨_, complete, by simp [kind?], apart⟩
  | updateByKey clauses row =>
      rw [result] at written
      obtain ⟨sql, complete, inOrder, apart⟩ := pieces_byKey ⟨map, dialect, _⟩ .updateByKey
        UpdateDraft.draft (map.updatable.mapM fun property => property.storedOf row) written
        (fun update applied => (UpdateDraft.foldlM_extends applied).exists_adds)
        (fun update traceless => by simp_all)
        (fun values stored => by
          rw [Result.length_of_mapM_eq_ok stored, StatementKind.bound, List.length_append])
      exact ⟨sql, complete, fun _ => inOrder, apart⟩
  | delete clauses =>
      simp only [result, Result.bind_eq_ok] at written
      obtain ⟨draft, filtered, written⟩ := written
      obtain ⟨fragments, adds, collected⟩ := Draft.foldlM_filters filtered
      have collectedApart := (Draft.isApart_start map dialect).foldlM filtered
      obtain rfl : draft.map = map := adds.map
      obtain rfl : draft.conditions = fragments := collected
      cases written
      refine ⟨_, Query.isComplete_finish adds ?_ ?_, by simp [kind?],
        Delete.apart_sql _ collectedApart.conditionSql⟩
      · exact Delete.allowsAll_sql (Draft.allowsAll_conditionSql adds.allowsAll)
      · rw [Delete.placeholders_sql, Draft.placeholders_conditionSql]
  | deleteByKey clauses key =>
      rw [result] at written
      obtain ⟨sql, complete, inOrder, apart⟩ := pieces_byKey ⟨map, dialect, _⟩ .deleteByKey id
        (.ok []) written
        (fun draft filtered => (Draft.foldlM_filters filtered).exists_adds)
        (fun draft traceless => by simpa using traceless)
        (fun values none => by cases none; exact Nat.zero_add _)
      exact ⟨sql, complete, fun _ => inOrder, apart⟩
  | select clauses =>
      simp only [result, Result.bind_eq_ok] at written
      obtain ⟨select, applied, parts, asked, sql, selected, written⟩ := written
      cases written
      obtain ⟨adds, given⟩ := SelectDraft.collected_of_foldlM applied
      obtain ⟨within, conditions⟩ :=
        SelectDraft.parts_within ⟨map, dialect, _⟩ adds.map given adds.allowsAll asked
      obtain ⟨complete, apart⟩ := pieces_select applied within conditions selected
      exact ⟨sql, complete, by simp [kind?], apart⟩
  | count clauses =>
      simp only [result, Result.bind_eq_ok] at written
      obtain ⟨select, applied, sql, selected, written⟩ := written
      cases written
      obtain ⟨adds, given⟩ := SelectDraft.collected_of_foldlM applied
      have within := SelectDraft.countParts_within ⟨map, dialect, _⟩ adds.map given
        adds.allowsAll
      obtain ⟨complete, apart⟩ := pieces_select applied within rfl selected
      exact ⟨sql, complete, by simp [kind?], apart⟩
  | selectByKey clauses key =>
      rw [result] at written
      obtain ⟨sql, complete, inOrder, apart⟩ := pieces_byKey ⟨map, dialect, _⟩ .selectByKey
        SelectDraft.draft (.ok []) written
        (fun select applied => (SelectDraft.foldlM_extends applied).1.exists_adds)
        (fun select traceless => SelectDraft.isPristine_draft (by simpa using traceless))
        (fun values none => by cases none; exact Nat.zero_add _)
      exact ⟨sql, complete, fun _ => inOrder, apart⟩

/-- Written with nothing remembered, every statement is complete. -/
theorem isComplete_result {map : TableMap} {dialect : Dialect} {request : Request}
    {query : Query} (written : request.result map dialect = .ok query) :
    ∃ sql, query.IsComplete ⟨map, dialect, request.texts⟩ sql ∧
      (request.kind?.isSome → placeholders sql = query.params.names) := by
  obtain ⟨sql, complete, inOrder, -⟩ := pieces_result written
  exact ⟨sql, complete, inOrder⟩

end Request

/-- After any history of a schema that is coherent with a request, a request that
succeeds gives a complete statement on the mapped model. For the shapes that are
remembered, the placeholders come in the order in which the values are bound. -/
theorem statement_isComplete {tableStem : Option String} {naming : Naming}
    {history : List Call} {model : Model} {dialect : Dialect} {request : Request} {query : Query}
    (coherent : (Usage.ofCalls tableStem naming
      (.statement model dialect request :: history)).Coherent)
    (succeeded : ((request.run model dialect).outcome
      ((Schema.fresh tableStem naming).after history)).1 = .ok query) :
    ∃ map sql, TableMap.ofModel tableStem naming model = .ok map ∧
      query.IsComplete ⟨map, dialect, request.texts⟩ sql ∧
      (request.kind?.isSome → placeholders sql = query.params.names) := by
  rw [Usage.outcome_after request coherent, Result.bind_eq_ok] at succeeded
  obtain ⟨map, mapped, written⟩ := succeeded
  obtain ⟨sql, complete, inOrder⟩ := Request.isComplete_result written
  exact ⟨map, sql, mapped, complete, inOrder⟩

open Ticket in
theorem rebooking_isComplete :
    ∃ map sql, TableMap.ofModel none .verbatim model = .ok map ∧
      Query.IsComplete ⟨"update \"Ticket\" set \"seat\" = @p1 where (\"id\" = @p0)",
        .numbered 0 [.i64 7, .i32 12]⟩ ⟨map, .ansi, []⟩ sql := by
  have succeeded : ((rebooking.run model .ansi).outcome schema).1 =
      .ok ⟨"update \"Ticket\" set \"seat\" = @p1 where (\"id\" = @p0)",
        .numbered 0 [.i64 7, .i32 12]⟩ := rfl
  obtain ⟨map, sql, mapped, complete, -⟩ := statement_isComplete (coherent rebooking) succeeded
  exact ⟨map, sql, mapped, complete⟩

end SqlMapper
