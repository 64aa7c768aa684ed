import SqlMapper.Proofs.Compile.Variation
import SqlMapper.Proofs.Related
import SqlMapper.Proofs.Statement.Request
import SqlMapper.Proofs.Statement.Row

/-!
# Statements that differ in values

Two requests with the same clauses, but with other values in them, give the same text as
long as the values are stored as null in the same places. `Draft.Alike` is what two
statements under construction have in common: everything but the values that they bound.
-/

namespace SqlMapper

open Params

/-! ## Values, rows and sources -/

/-- Both values have a stored form, which is null for both or for neither, or they have none
for the same reason. -/
def Property.StoresAlike (property : Property) (value other : Value) : Prop :=
  Result.Related (fun stored otherStored => stored = .null ↔ otherStored = .null)
    (property.toStored value) (property.toStored other)

theorem Property.StoresAlike.refl (property : Property) (value : Value) :
    property.StoresAlike value value :=
  (Result.Related.of_eq _).mono fun _ _ same => by rw [same.1]

theorem Property.StoresAlike.of_plain {property : Property} (plain : property.valueMap = none)
    {value other : Value} (null : value = .null ↔ other = .null) :
    property.StoresAlike value other := by
  simp only [StoresAlike, toStored, plain]
  exact .ok null

namespace TableMap

variable (map : TableMap)

/-- The same field with values that are stored alike. -/
def FieldAlike (field other : String × Value) : Prop :=
  field.1 = other.1 ∧ ∀ property ∈ map.properties, property.name = field.1 →
    property.StoresAlike field.2 other.2

/-- Rows of one type whose fields are stored alike. -/
def RowAlike (row other : Row) : Prop :=
  row.type = other.type ∧ ∀ property ∈ map.properties,
    property.StoresAlike (property.held row) (property.held other)

/-- Two rows or two records whose fields are stored alike. -/
inductive SourceAlike : Source → Source → Prop where
  | row {row other : Row} (alike : map.RowAlike row other) : SourceAlike (.row row) (.row other)
  | record {fields others : List (String × Value)}
      (alike : List.Forall₂ map.FieldAlike fields others) :
      SourceAlike (.record fields) (.record others)

variable {map} {property : Property} {row otherRow : Row} {source other : Source}
  {fields others : List (String × Value)}

theorem RowAlike.valueOf (alike : map.RowAlike row otherRow) (mapped : property ∈ map.properties) :
    Result.Related property.StoresAlike (property.valueOf row) (property.valueOf otherRow) := by
  unfold Property.valueOf
  rw [← alike.1]
  split
  next => exact .ok (alike.2 property mapped)
  next => exact .error _

theorem RowAlike.storedOf (alike : map.RowAlike row otherRow)
    (mapped : property ∈ map.properties) :
    Result.Related (fun stored otherStored => stored = .null ↔ otherStored = .null)
      (property.storedOf row) (property.storedOf otherRow) :=
  (alike.valueOf mapped).bind fun _ _ stored => stored

/-- As many stored values for the same fields. -/
theorem RowAlike.mapM_storedOf (alike : map.RowAlike row otherRow) (selected : Property → Bool) :
    Result.Related (fun values others => values.length = others.length)
      ((map.properties.filter selected).mapM fun property => property.storedOf row)
      ((map.properties.filter selected).mapM fun property => property.storedOf otherRow) := by
  have each : ∀ property ∈ map.properties.filter selected, _ := fun property member =>
    alike.storedOf (List.mem_filter.mp member).1
  exact (Result.Related.mapM_same each).mono fun _ _ paired => paired.length_eq

theorem SourceAlike.refl (source : Source) : map.SourceAlike source source := by
  cases source with
  | row row => exact .row ⟨rfl, fun property _ => .refl property _⟩
  | record fields =>
      exact .record (List.forall₂_same.mpr fun _ _ => ⟨rfl, fun property _ _ => .refl property _⟩)

/-- The named values of sources that are alike. -/
theorem SourceAlike.values (unique : (map.properties.map Property.name).Nodup)
    (alike : map.SourceAlike source other) :
    Result.Related (List.Forall₂ map.FieldAlike) (source.values map) (other.values map) := by
  cases alike with
  | row alike =>
      apply Result.Related.mapM_same
      intro property mapped
      apply (alike.valueOf mapped).bind
      intro value otherValue stored
      refine .pure ⟨rfl, fun named namedMapped sameName => ?_⟩
      rwa [List.inj_on_of_nodup_map unique namedMapped mapped sameName]
  | record alike =>
      apply Result.Related.mapM alike
      rintro ⟨name, value⟩ ⟨_, otherValue⟩ ⟨rfl, stored⟩
      simp only [Source.requireMapped]
      split
      next => exact .ok ⟨rfl, stored⟩
      next => exact .error _

/-- The values of a field among named values that are alike. -/
theorem keyValue_related (paired : List.Forall₂ map.FieldAlike fields others)
    (mapped : property ∈ map.properties) :
    Result.Related property.StoresAlike (Draft.keyValue map fields property)
      (Draft.keyValue map others property) := by
  induction paired with
  | nil => exact .error _
  | @cons field other rest others here _ inductionHypothesis =>
      obtain ⟨name, value⟩ := field
      obtain ⟨otherName, otherValue⟩ := other
      obtain ⟨rfl, stored⟩ := here
      simp only [Draft.keyValue, NameTable.get?] at inductionHypothesis ⊢
      by_cases named : name = property.name
      · simp only [named, if_true]
        exact .ok (stored property mapped named.symm)
      · simpa only [named, if_false] using inductionHypothesis

end TableMap

/-! ## Statements under construction -/

/-- As many values, under the same generated names. -/
def Params.Alike (params other : Params) : Prop :=
  ∃ values others, params = .numbered 0 values ∧ other = .numbered 0 others ∧
    values.length = others.length

namespace Params.Alike

variable {params other : Params}

theorem empty : Params.empty.Alike .empty :=
  ⟨[], [], rfl, rfl, rfl⟩

theorem names_eq (alike : params.Alike other) : params.names = other.names := by
  obtain ⟨values, others, rfl, rfl, same⟩ := alike
  rw [names_numbered, names_numbered, same]

theorem push (alike : params.Alike other) (value otherValue : Value) :
    (params.push value).1 = (other.push otherValue).1 ∧
      (params.push value).2.Alike (other.push otherValue).2 := by
  obtain ⟨values, others, rfl, rfl, same⟩ := alike
  rw [push_numbered, push_numbered, same]
  exact ⟨rfl, values ++ [value], others ++ [otherValue], rfl, rfl, by simp [same]⟩

theorem pushAll (alike : params.Alike other) {values others : List Value}
    (same : values.length = others.length) :
    (params.pushAll values).1 = (other.pushAll others).1 ∧
      (params.pushAll values).2.Alike (other.pushAll others).2 := by
  obtain ⟨bound, otherBound, rfl, rfl, sameBound⟩ := alike
  rw [pushAll_numbered, pushAll_numbered, same, sameBound]
  exact ⟨rfl, bound ++ values, otherBound ++ others, rfl, rfl, by simp [same, sameBound]⟩

end Params.Alike

namespace Draft

variable {map : TableMap} {draft other : Draft} {fields others : List (String × Value)}

/-- The same statement on a map under construction, but for the values that were bound. -/
def Alike (map : TableMap) (draft other : Draft) : Prop :=
  draft.map = map ∧ ∃ params, draft.params.Alike params ∧ other = { draft with params }

theorem Alike.start (map : TableMap) (dialect : Dialect) :
    Alike map (start map dialect) (start map dialect) :=
  ⟨rfl, .empty, .empty, rfl⟩

theorem Alike.pushAll (alike : Alike map draft other) {values others : List Value}
    (same : values.length = others.length) :
    Alike map { draft with params := (draft.params.pushAll values).2 }
      { other with params := (other.params.pushAll others).2 } := by
  obtain ⟨sameMap, params, bound, rfl⟩ := alike
  exact ⟨sameMap, _, (bound.pushAll same).2, rfl⟩

theorem Alike.addCondition (alike : Alike map draft other) (condition : Sql) :
    Alike map (draft.addCondition condition) (other.addCondition condition) := by
  obtain ⟨sameMap, params, bound, rfl⟩ := alike
  exact ⟨sameMap, params, bound, rfl⟩

theorem Alike.bind (alike : Alike map draft other) (value otherValue : Value) :
    (draft.bind value).1 = (other.bind otherValue).1 ∧
      Alike map (draft.bind value).2 (other.bind otherValue).2 := by
  obtain ⟨sameMap, params, bound, rfl⟩ := alike
  obtain ⟨sameName, pushed⟩ := bound.push value otherValue
  exact ⟨sameName, sameMap, _, pushed, rfl⟩

/-- What a step of compilation leaves behind, also when it fails. -/
theorem compile_eq_map (draft : Draft) (step : Compile Term) :
    draft.compile step = (step.outcome []).1.map fun term =>
      (term.sql (draft.params.pushAll (step.outcome []).2).1,
        { draft with params := (draft.params.pushAll (step.outcome []).2).2 }) := by
  have unfolded : draft.compile step = (do
      let sql ← (step.outcome []).1.map fun term =>
        term.sql (draft.params.pushAll (step.outcome []).2).1
      return (sql, { draft with params := (draft.params.pushAll (step.outcome []).2).2 })) := rfl
  rw [unfolded]
  cases (step.outcome []).1 <;> rfl

/-- A step of compilation writes the same text. -/
theorem compile_related (alike : Alike map draft other) (step : Compile Term) :
    Result.Related (fun first second => first.1 = second.1 ∧ Alike map first.2 second.2)
      (draft.compile step) (other.compile step) := by
  obtain ⟨sameMap, params, bound, rfl⟩ := alike
  have sameLength : (step.outcome []).2.length = (step.outcome []).2.length := rfl
  obtain ⟨sameNames, pushed⟩ := bound.pushAll sameLength
  rw [compile_eq_map, compile_eq_map]
  cases (step.outcome []).1 with
  | error error => exact .error error
  | ok term => exact .ok ⟨congrArg term.sql sameNames, sameMap, _, pushed, rfl⟩

theorem filterField_related {property : Property} {value otherValue : Value}
    (alike : Alike map draft other) (stored : property.StoresAlike value otherValue) :
    Result.Related (Alike map) (draft.filterField property value)
      (other.filterField property otherValue) := by
  unfold Property.StoresAlike at stored
  generalize first : property.toStored value = result at stored
  generalize second : property.toStored otherValue = otherResult at stored
  cases stored with
  | error error =>
      unfold filterField
      rw [first, second]
      exact .error error
  | @ok stored otherStored null =>
      by_cases isNull : stored = .null
      · obtain rfl : otherStored = .null := null.mp isNull
        subst isNull
        unfold filterField
        rw [first, second]
        exact .ok (alike.addCondition _)
      · rw [filterField_of_not_null (by simpa [first] using isNull),
          filterField_of_not_null (by simpa [second] using mt null.mpr isNull), first, second]
        obtain ⟨sameMap, params, bound, rfl⟩ := alike
        obtain ⟨sameName, pushed⟩ := bound.push stored otherStored
        refine .ok ⟨sameMap, _, pushed, ?_⟩
        simp only [Collector.bindValue, conditionCollector, sameName, id]

theorem filterFields_related (keyOnly : Bool) (alike : Alike map draft other)
    (paired : List.Forall₂ map.FieldAlike fields others) :
    Result.Related (Alike map) (draft.filterFields keyOnly fields)
      (other.filterFields keyOnly others) := by
  refine Result.Related.foldlM paired ?_ alike
  rintro draft other ⟨name, value⟩ ⟨_, otherValue⟩ alike ⟨rfl, stored⟩
  have sameMap : other.map = draft.map := by
    obtain ⟨_, _, _, rfl⟩ := alike
    rfl
  rw [sameMap]
  refine (Result.Related.of_eq (draft.map.property name)).bind ?_
  rintro property _ ⟨rfl, found⟩
  split
  next => exact .pure alike
  next =>
    have mapped : property ∈ map.properties := alike.1 ▸ TableMap.mem_of_property_eq_ok found
    exact filterField_related alike
      (stored property mapped (TableMap.name_of_property_eq_ok found))

/-- The key is bound in the order of the map. -/
theorem bindKey_related (alike : Alike map draft other)
    (paired : List.Forall₂ map.FieldAlike fields others) :
    Result.Related (Alike map) (draft.bindKey fields) (other.bindKey others) := by
  obtain ⟨rfl, params, bound, rfl⟩ := alike
  refine Result.Related.foldlM_same ?_ ⟨rfl, params, bound, rfl⟩
  intro property key draft other alike
  have mapped := (List.mem_filter.mp key).1
  have sameMap : other.map = draft.map := by
    obtain ⟨_, _, _, rfl⟩ := alike
    rfl
  rw [sameMap, alike.1]
  apply (TableMap.keyValue_related paired mapped).bind
  intro value otherValue stored
  apply Result.Related.bind stored
  intro stored otherStored _
  exact .pure (alike.bind stored otherStored).2

theorem Alike.names_eq (alike : Alike map draft other) :
    draft.params.names = other.params.names := by
  obtain ⟨_, params, bound, rfl⟩ := alike
  exact bound.names_eq

theorem Alike.isPristine_eq (alike : Alike map draft other) :
    draft.isPristine = other.isPristine := by
  obtain ⟨_, params, ⟨values, others, bound, rfl, same⟩, rfl⟩ := alike
  rw [isPristine, isPristine, Params.isEmpty, Params.isEmpty, bound]
  cases values <;> cases others <;> simp_all [Params.numbered]

end Draft

/-! ## Clauses -/

/-- The same clause, but for the values in a source. -/
inductive FilterClause.Alike (map : TableMap) : FilterClause → FilterClause → Prop where
  | condition (expr : Expr) : Alike map (.condition expr) (.condition expr)
  | matching {source other : Source} (alike : map.SourceAlike source other) :
      Alike map (.matching source) (.matching other)
  | matchingKey {source other : Source} (alike : map.SourceAlike source other) :
      Alike map (.matchingKey source) (.matchingKey other)
  | evaluator (evaluator : Evaluator) : Alike map (.evaluator evaluator) (.evaluator evaluator)

theorem FilterClause.Alike.refl {map : TableMap} (clause : FilterClause) :
    clause.Alike map clause := by
  cases clause with
  | condition expr => exact .condition expr
  | matching source => exact .matching (.refl source)
  | matchingKey source => exact .matchingKey (.refl source)
  | evaluator evaluator => exact .evaluator evaluator

inductive UpdateClause.Alike (map : TableMap) : UpdateClause → UpdateClause → Prop where
  | filter {clause other : FilterClause} (alike : clause.Alike map other) :
      Alike map (.filter clause) (.filter other)
  | set {source other : Source} (alike : map.SourceAlike source other) :
      Alike map (.set source) (.set other)
  | setField (field : String) (expr : Expr) :
      Alike map (.setField field expr) (.setField field expr)

inductive SelectClause.Alike (map : TableMap) : SelectClause → SelectClause → Prop where
  | filter {clause other : FilterClause} (alike : clause.Alike map other) :
      Alike map (.filter clause) (.filter other)
  | same (clause : SelectClause) : Alike map clause clause

section Clauses

variable {map : TableMap}

theorem Draft.filter_related (unique : (map.properties.map Property.name).Nodup)
    {draft other : Draft} {clause otherClause : FilterClause} (alike : Alike map draft other)
    (same : clause.Alike map otherClause) :
    Result.Related (Alike map) (draft.filter clause) (other.filter otherClause) := by
  obtain ⟨rfl, params, bound, rfl⟩ := alike
  have alike : Alike draft.map draft { draft with params } := ⟨rfl, params, bound, rfl⟩
  cases same with
  | condition expr =>
      apply (compile_related alike (expr.predicate draft.map draft.evaluator)).bind
      rintro ⟨sql, draft⟩ ⟨_, other⟩ ⟨rfl, alike⟩
      exact .pure (alike.addCondition sql)
  | matching sources =>
      apply (sources.values unique).bind
      intro fields others paired
      exact filterFields_related false alike paired
  | matchingKey sources =>
      apply (sources.values unique).bind
      intro fields others paired
      refine (Result.Related.of_eq (draft.map.requirePrimaryKey "a filter by primary key")).bind ?_
      intro _ _ _
      exact filterFields_related true alike paired
  | evaluator evaluator => exact .pure ⟨rfl, params, bound, rfl⟩

theorem Draft.foldlM_related (unique : (map.properties.map Property.name).Nodup)
    (dialect : Dialect) {clauses others : List FilterClause}
    (paired : List.Forall₂ (FilterClause.Alike map) clauses others) :
    Result.Related (Alike map) (clauses.foldlM filter (start map dialect))
      (others.foldlM filter (start map dialect)) :=
  Result.Related.foldlM paired (fun _ _ _ _ => filter_related unique) (.start map dialect)

namespace UpdateDraft

variable {update other : UpdateDraft}

/-- The same update under construction, but for the values that were bound. -/
def Alike (map : TableMap) (update other : UpdateDraft) : Prop :=
  update.draft.Alike map other.draft ∧ update.assignments = other.assignments

theorem Alike.map_eq (alike : Alike map update other) :
    update.draft.map = map ∧ other.draft.map = map := by
  obtain ⟨⟨sameMap, _, _, same⟩, -⟩ := alike
  rw [same]
  exact ⟨sameMap, sameMap⟩

theorem assignFields_related {fields others : List (String × Value)}
    (alike : Alike map update other) (paired : List.Forall₂ map.FieldAlike fields others) :
    Result.Related (Alike map) (update.assignFields fields) (other.assignFields others) := by
  refine Result.Related.foldlM paired ?_ alike
  rintro update other ⟨name, value⟩ ⟨_, otherValue⟩ alike ⟨rfl, stored⟩
  rw [alike.map_eq.1, alike.map_eq.2]
  apply (Result.Related.of_eq (map.property name)).bind
  rintro property _ ⟨rfl, found⟩
  split
  next =>
    have mapped := TableMap.mem_of_property_eq_ok found
    have named := TableMap.name_of_property_eq_ok found
    apply Result.Related.bind (stored property mapped named)
    intro stored otherStored _
    obtain ⟨sameName, bound⟩ := alike.1.bind stored otherStored
    have assigned : update.assignments ++
          [property.assignSql [.placeholder (update.draft.bind stored).1]] =
        other.assignments ++
          [property.assignSql [.placeholder (other.draft.bind otherStored).1]] := by
      rw [alike.2, sameName]
    exact .pure ⟨bound, assigned⟩
  next => exact .pure alike

theorem assignExpr_related (alike : Alike map update other) (field : String) (expr : Expr) :
    Result.Related (Alike map) (update.assignExpr field expr) (other.assignExpr field expr) := by
  have sameEvaluator : other.draft.evaluator = update.draft.evaluator := by
    obtain ⟨⟨_, _, _, same⟩, -⟩ := alike
    rw [same]
  simp only [assignExpr, alike.map_eq.1, alike.map_eq.2, sameEvaluator]
  apply (Result.Related.of_eq (map.property field)).bind
  rintro property _ ⟨rfl, -⟩
  split
  next => exact .error _
  next =>
    apply (Draft.compile_related alike.1 _).bind
    rintro ⟨sql, draft⟩ ⟨_, otherDraft⟩ ⟨rfl, compiled⟩
    exact .pure ⟨compiled, by rw [alike.2]⟩

theorem apply_related (unique : (map.properties.map Property.name).Nodup)
    {clause otherClause : UpdateClause} (alike : Alike map update other)
    (same : clause.Alike map otherClause) :
    Result.Related (Alike map) (update.apply clause) (other.apply otherClause) := by
  cases same with
  | filter filter =>
      apply (Draft.filter_related unique alike.1 filter).bind
      intro draft other filtered
      exact .pure ⟨filtered, alike.2⟩
  | set sources =>
      simp only [apply, alike.map_eq.1, alike.map_eq.2]
      apply (sources.values unique).bind
      intro fields others paired
      exact assignFields_related alike paired
  | setField field expr => exact assignExpr_related alike field expr

theorem foldlM_related (unique : (map.properties.map Property.name).Nodup) (dialect : Dialect)
    {clauses others : List UpdateClause}
    (paired : List.Forall₂ (UpdateClause.Alike map) clauses others) :
    Result.Related (Alike map) (clauses.foldlM apply ⟨Draft.start map dialect, []⟩)
      (others.foldlM apply ⟨Draft.start map dialect, []⟩) :=
  Result.Related.foldlM paired (fun _ _ _ _ => apply_related unique) ⟨.start map dialect, rfl⟩

end UpdateDraft

namespace SelectDraft

variable {select other : SelectDraft}

/-- The same select under construction, but for the values that were bound. -/
def Alike (map : TableMap) (select other : SelectDraft) : Prop :=
  ∃ draft, select.draft.Alike map draft ∧ other = { select with draft }

theorem apply_related (unique : (map.properties.map Property.name).Nodup)
    {clause otherClause : SelectClause} (alike : Alike map select other)
    (same : clause.Alike map otherClause) :
    Result.Related (Alike map) (select.apply clause) (other.apply otherClause) := by
  obtain ⟨draft, alike, rfl⟩ := alike
  have filtered {filter otherFilter : FilterClause} (same : filter.Alike map otherFilter) :
      Result.Related (Alike map) (select.apply (.filter filter))
        ({ select with draft }.apply (.filter otherFilter)) :=
    (Draft.filter_related unique alike same).bind fun draft _ filtered => .pure ⟨_, filtered, rfl⟩
  cases same with
  | filter same => exact filtered same
  | same =>
      cases clause with
      | filter filter => exact filtered (.refl filter)
      | page number size =>
          simp only [apply]
          split
          next => exact .error _
          next => exact .pure ⟨draft, alike, rfl⟩
      | _ => exact .pure ⟨draft, alike, rfl⟩

theorem foldlM_related (unique : (map.properties.map Property.name).Nodup) (dialect : Dialect)
    {clauses others : List SelectClause}
    (paired : List.Forall₂ (SelectClause.Alike map) clauses others) :
    Result.Related (Alike map) (clauses.foldlM apply (start map dialect))
      (others.foldlM apply (start map dialect)) :=
  Result.Related.foldlM paired (fun _ _ _ _ => apply_related unique)
    ⟨_, .start map dialect, rfl⟩

/-- The clauses of the statement are the same. -/
theorem Alike.parts_eq (alike : Alike map select other) : select.parts = other.parts := by
  obtain ⟨_, ⟨_, _, _, rfl⟩, rfl⟩ := alike
  rfl

theorem Alike.draft (alike : Alike map select other) : select.draft.Alike map other.draft := by
  obtain ⟨_, alike, rfl⟩ := alike
  exact alike

theorem Alike.finish (alike : Alike map select other) (sql : Sql) :
    (select.draft.finish sql).sql = (other.draft.finish sql).sql ∧
      (select.draft.finish sql).params.names = (other.draft.finish sql).params.names := by
  obtain ⟨_, ⟨_, _, bound, rfl⟩, rfl⟩ := alike
  exact ⟨rfl, bound.names_eq⟩

theorem Alike.isPristine_eq (alike : Alike map select other) :
    select.isPristine = other.isPristine := by
  obtain ⟨draft, alike, rfl⟩ := alike
  simp only [isPristine, alike.isPristine_eq]

theorem Alike.countParts_eq (alike : Alike map select other) :
    select.countParts = other.countParts := by
  obtain ⟨_, ⟨_, _, _, rfl⟩, rfl⟩ := alike
  rfl

end SelectDraft

end Clauses

/-! ## Requests -/

/-- The same request, but for the values in its row, its key and its sources. -/
inductive Request.Alike (map : TableMap) : Request → Request → Prop where
  | insertNone : Alike map (.insert none) (.insert none)
  | insert {row other : Row} (alike : map.RowAlike row other) :
      Alike map (.insert (some row)) (.insert (some other))
  | update {clauses others : List UpdateClause}
      (paired : List.Forall₂ (UpdateClause.Alike map) clauses others) :
      Alike map (.update clauses) (.update others)
  | updateByKey {clauses others : List UpdateClause} {row other : Row}
      (paired : List.Forall₂ (UpdateClause.Alike map) clauses others)
      (alike : map.RowAlike row other) :
      Alike map (.updateByKey clauses row) (.updateByKey others other)
  | delete {clauses others : List FilterClause}
      (paired : List.Forall₂ (FilterClause.Alike map) clauses others) :
      Alike map (.delete clauses) (.delete others)
  | deleteByKey {clauses others : List FilterClause} {key other : Source}
      (paired : List.Forall₂ (FilterClause.Alike map) clauses others)
      (alike : map.SourceAlike key other) :
      Alike map (.deleteByKey clauses key) (.deleteByKey others other)
  | select {clauses others : List SelectClause}
      (paired : List.Forall₂ (SelectClause.Alike map) clauses others) :
      Alike map (.select clauses) (.select others)
  | count {clauses others : List SelectClause}
      (paired : List.Forall₂ (SelectClause.Alike map) clauses others) :
      Alike map (.count clauses) (.count others)
  | selectByKey {clauses others : List SelectClause} {key other : Source}
      (paired : List.Forall₂ (SelectClause.Alike map) clauses others)
      (alike : map.SourceAlike key other) :
      Alike map (.selectByKey clauses key) (.selectByKey others other)

/-- The same text with parameters of the same names. -/
def Query.SameText (query other : Query) : Prop :=
  query.sql = other.sql ∧ query.params.names = other.params.names

namespace Request

variable {map : TableMap} {dialect : Dialect}

/-- Written with nothing remembered, requests that differ in values alone give the same
text. -/
theorem result_related (unique : (map.properties.map Property.name).Nodup)
    {request other : Request} (same : request.Alike map other) :
    Result.Related Query.SameText (request.result map dialect) (other.result map dialect) := by
  cases same with
  | insertNone => exact .error _
  | insert alike =>
      apply (Result.Related.of_eq ((Insert.sql map dialect).map dialect.write)).bind
      rintro text _ ⟨rfl, -⟩
      apply (alike.mapM_storedOf Property.insertable).bind
      intro values others sameLength
      exact .pure ⟨rfl, (Params.Alike.empty.pushAll sameLength).2.names_eq⟩
  | update paired =>
      apply (UpdateDraft.foldlM_related unique dialect paired).bind
      rintro ⟨draft, assignments⟩ ⟨other, _⟩ ⟨alike, rfl⟩
      obtain ⟨rfl, params, bound, rfl⟩ := alike
      dsimp only
      split
      next => exact .error _
      next => exact .pure ⟨rfl, bound.names_eq⟩
  | updateByKey paired alike =>
      apply (UpdateDraft.foldlM_related unique dialect paired).bind
      rintro ⟨draft, assignments⟩ ⟨other, _⟩ ⟨built, rfl⟩
      dsimp only
      rw [built.isPristine_eq]
      split
      next => exact .error _
      next =>
        apply (Result.Related.of_eq ((Update.byKeySql map).map dialect.write)).bind
        rintro text _ ⟨rfl, -⟩
        apply (alike.mapM_storedOf Property.updatable).bind
        intro values others sameLength
        apply ((TableMap.SourceAlike.row alike).values unique).bind
        intro fields otherFields paired
        apply (Draft.bindKey_related (built.pushAll sameLength) paired).bind
        intro draft other keyed
        exact .pure ⟨rfl, keyed.names_eq⟩
  | delete paired =>
      apply (Draft.foldlM_related unique dialect paired).bind
      rintro draft _ ⟨rfl, params, bound, rfl⟩
      exact .pure ⟨rfl, bound.names_eq⟩
  | deleteByKey paired alike =>
      apply (Draft.foldlM_related unique dialect paired).bind
      intro draft other built
      rw [built.isPristine_eq]
      split
      next => exact .error _
      next =>
        apply (Result.Related.of_eq ((Delete.byKeySql map).map dialect.write)).bind
        rintro text _ ⟨rfl, -⟩
        apply (alike.values unique).bind
        intro fields otherFields paired
        apply (Draft.bindKey_related built paired).bind
        intro draft other keyed
        exact .pure ⟨rfl, keyed.names_eq⟩
  | select paired =>
      apply (SelectDraft.foldlM_related unique dialect paired).bind
      intro select other alike
      rw [alike.parts_eq]
      apply (Result.Related.of_eq other.parts).bind
      rintro parts _ ⟨rfl, -⟩
      apply (Result.Related.of_eq (dialect.select parts)).bind
      rintro sql _ ⟨rfl, -⟩
      exact .pure (alike.finish sql)
  | count paired =>
      apply (SelectDraft.foldlM_related unique dialect paired).bind
      intro select other alike
      rw [alike.countParts_eq]
      apply (Result.Related.of_eq (dialect.select other.countParts)).bind
      rintro sql _ ⟨rfl, -⟩
      exact .pure (alike.finish sql)
  | selectByKey paired alike =>
      apply (SelectDraft.foldlM_related unique dialect paired).bind
      intro select other built
      rw [built.isPristine_eq]
      split
      next => exact .error _
      next =>
        apply (Result.Related.of_eq ((Select.byKeySql map dialect).map dialect.write)).bind
        rintro text _ ⟨rfl, -⟩
        apply (alike.values unique).bind
        intro fields otherFields paired
        apply (Draft.bindKey_related built.draft paired).bind
        intro draft other keyed
        exact .pure ⟨rfl, keyed.names_eq⟩

end Request

/-- The text of a statement does not depend on the values in it. Forms of one predicate, with
other texts where the row is mentioned beside them, both give no query or give the same text
with the same names, bound to values that differ in these texts alone. And after any
histories of schemas that are coherent with them, requests that differ in values alone both
fail for the same reason or give the same text with the same names. -/
theorem text_independent_of_values :
    (∀ (map : TableMap) (related : String → String → Prop) (expr other : Expr)
        (evaluator : Evaluator) (dialect : Dialect) (offset : Nat),
      Expr.Varies map related expr other →
      (∃ error otherError, expr.query map evaluator dialect offset = .error error ∧
        other.query map evaluator dialect offset = .error otherError) ∨
      ∃ query otherQuery values others, expr.query map evaluator dialect offset = .ok query ∧
        other.query map evaluator dialect offset = .ok otherQuery ∧
        query.SameText otherQuery ∧ query.params = .numbered offset values ∧
        otherQuery.params = .numbered offset others ∧
        List.Forall₂ (Value.Varies related) values others) ∧
    ∀ (tableStem : Option String) (naming : Naming) (model : Model) (map : TableMap)
        (dialect : Dialect) (request other : Request) (history otherHistory : List Call),
      TableMap.ofModel tableStem naming model = .ok map → request.Alike map other →
      (Usage.ofCalls tableStem naming (.statement model dialect request :: history)).Coherent →
      (Usage.ofCalls tableStem naming (.statement model dialect other :: otherHistory)).Coherent →
      Result.Related Query.SameText
        ((request.run model dialect).outcome ((Schema.fresh tableStem naming).after history)).1
        ((other.run model dialect).outcome
          ((Schema.fresh tableStem naming).after otherHistory)).1 := by
  constructor
  · intro map related expr other evaluator dialect offset varies
    rcases varies.query evaluator dialect offset with failed |
      ⟨sql, values, others, ran, otherRan, varied⟩
    · exact .inl failed
    · refine .inr ⟨_, _, values, others, ran, otherRan, ⟨rfl, ?_⟩, rfl, rfl, varied⟩
      rw [names_numbered, names_numbered, varied.length_eq]
  · intro tableStem naming model map dialect request other history otherHistory mapped same
      coherent otherCoherent
    rw [Usage.outcome_after request coherent, Usage.outcome_after other otherCoherent, mapped]
    exact Request.result_related (TableMap.unique_of_ofModel_eq_ok mapped) same

namespace Ticket

/-- The tickets whose seat is called by a text. -/
def seatIs (text : String) : Expr :=
  .eq (.field "seat") (.value (.string text))

def rebooked : Row :=
  ⟨"Ticket", [("id", .i64 8), ("seat", .i32 3)]⟩

theorem seatIs_independent_of_values :
    (∃ query other,
      (seatIs "window").query (TableMap.draft none .verbatim model) .standard .ansi 0 =
        .ok query ∧
      (seatIs "' or 1 = 1 --").query (TableMap.draft none .verbatim model) .standard .ansi 0 =
        .ok other ∧ query.SameText other) ∧
    Result.Related Query.SameText
      (((Request.updateByKey [] booked).run model .ansi).outcome schema).1
      (((Request.updateByKey [] rebooked).run model .ansi).outcome schema).1 := by
  obtain ⟨expressions, requests⟩ := text_independent_of_values
  constructor
  · have varies : Expr.Varies (TableMap.draft none .verbatim model) (fun _ _ => True)
        (seatIs "window") (seatIs "' or 1 = 1 --") := by
      refine .binary _ (.part (.member "seat" .row)) (.text trivial ⟨rfl, ?_⟩)
      rintro ⟨name, property, same, found, coded⟩
      cases same
      cases found
      cases coded
    rcases expressions _ _ _ _ .standard .ansi 0 varies with ⟨error, _, failed, _⟩ |
      ⟨query, other, _, _, ran, otherRan, same, -⟩
    · cases failed
    · exact ⟨query, other, ran, otherRan, same⟩
  · apply requests none .verbatim model _ .ansi _ _ history history rfl _ (coherent _) (coherent _)
    refine .updateByKey .nil ⟨rfl, ?_⟩
    have stored (property : Property) (plain : property.valueMap = none) {value other : Value}
        (present : value ≠ .null) (otherPresent : other ≠ .null) :=
      Property.StoresAlike.of_plain plain (iff_of_false present otherPresent)
    exact List.forall_mem_cons.mpr ⟨stored _ rfl nofun nofun,
      List.forall_mem_cons.mpr ⟨stored _ rfl nofun nofun, List.forall_mem_nil _⟩⟩

end Ticket

end SqlMapper
