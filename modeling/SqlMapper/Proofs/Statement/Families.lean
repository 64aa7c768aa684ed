import Mathlib.Data.List.Induction
import SqlMapper.Proofs.Dialect.Paging
import SqlMapper.Proofs.Statement.Request
import SqlMapper.Proofs.TableMap

/-!
# What the clauses of a select amount to

The clauses of a select come in families. Conditions, order terms and group fields add up in
their order; of the texts for the selection and the source, and of limits and pages, the last
one counts. `SelectDraft.foldlM_apply_eq_ok_iff` says that a run of clauses amounts to what
each family amounts to on its own, so clauses of different families can change places. What
follows for the finished statements is put together in `select_determined_by_families`.
-/

namespace SqlMapper

namespace RowRange

/-- Limits and pages have rows, and pages are counted from one. -/
def IsProper : RowRange → Prop
  | all => True
  | limit count => count ≠ 0
  | page number size => number ≠ 0 ∧ size ≠ 0

theorem isProper_ofLimit (count : Nat) : (ofLimit count).IsProper := by
  unfold ofLimit
  split
  next => trivial
  next nonzero => exact nonzero

end RowRange

namespace SelectClause

/-- What a clause is about. -/
inductive Family where
  | filter
  | selection
  | source
  | order
  | grouping
  | rows
  deriving DecidableEq

@[simp] def family : SelectClause → Family
  | filter _ => .filter
  | selection _ => .selection
  | source _ => .source
  | orderBy _ => .order
  | groupBy _ => .grouping
  | limit _ | page _ _ => .rows

/-- The clause that an update or a delete has as well. A change of the evaluator is one of
them: it concerns the conditions behind it. -/
@[simp] def filter? : SelectClause → Option FilterClause
  | filter clause => some clause
  | _ => none

@[simp] def selection? : SelectClause → Option String
  | selection text => some text
  | _ => none

@[simp] def source? : SelectClause → Option String
  | source text => some text
  | _ => none

@[simp] def orderTerm? : SelectClause → Option OrderTerm
  | orderBy term => some term
  | _ => none

@[simp] def groupField? : SelectClause → Option String
  | groupBy field => some field
  | _ => none

/-- The range of rows that a clause asks for. -/
@[simp] def range? : SelectClause → Option RowRange
  | limit count => some (.ofLimit count)
  | page number size => some (.page number size)
  | _ => none

/-- The range of rows that clauses ask for: the last one. -/
def range (clauses : List SelectClause) : RowRange :=
  (clauses.filterMap range?).getLastD .all

/-- All ranges that clauses ask for are proper. -/
def AreProper (clauses : List SelectClause) : Prop :=
  ∀ asked ∈ clauses.filterMap range?, asked.IsProper

theorem AreProper.range {clauses : List SelectClause} (proper : AreProper clauses) :
    (range clauses).IsProper := by
  have last : SelectClause.range clauses ∈ .all :: clauses.filterMap range? :=
    List.getLastD_mem_cons
  rcases List.mem_cons.mp last with same | member
  · rw [same]
    trivial
  · exact proper _ member

end SelectClause

/-- What the families of clauses amount to. -/
structure SelectFamilies where
  filters : List FilterClause
  selection : Option String
  source : Option String
  order : List OrderTerm
  grouping : List String
  rows : RowRange

namespace SelectFamilies

/-- One more clause. -/
def add (families : SelectFamilies) (clause : SelectClause) : SelectFamilies where
  filters := families.filters ++ clause.filter?.toList
  selection := clause.selection?.or families.selection
  source := clause.source?.or families.source
  order := families.order ++ clause.orderTerm?.toList
  grouping := families.grouping ++ clause.groupField?.toList
  rows := clause.range?.getD families.rows

/-- The select that the families amount to when the conditions are in a draft. -/
def select (families : SelectFamilies) (draft : Draft) : SelectDraft :=
  ⟨draft, families.selection, families.source, families.order, families.grouping, families.rows⟩

end SelectFamilies

namespace SelectClause

/-- What clauses amount to by their families. -/
def families (clauses : List SelectClause) : SelectFamilies where
  filters := clauses.filterMap filter?
  selection := (clauses.filterMap selection?).getLast?
  source := (clauses.filterMap source?).getLast?
  order := clauses.filterMap orderTerm?
  grouping := clauses.filterMap groupField?
  rows := range clauses

theorem families_concat (clauses : List SelectClause) (clause : SelectClause) :
    families (clauses ++ [clause]) = (families clauses).add clause := by
  cases clause <;> simp [families, SelectFamilies.add, range]

theorem areProper_concat {clauses : List SelectClause} {clause : SelectClause} :
    AreProper (clauses ++ [clause]) ↔
      AreProper clauses ∧ ∀ asked ∈ clause.range?, asked.IsProper := by
  simp only [AreProper, List.filterMap_append, List.forall_mem_append, List.filterMap_cons,
    List.filterMap_nil]
  cases clause.range? <;> simp

section Swap

variable {first second : SelectClause}

/-- What is taken from the clauses of one family does not depend on the place of others. -/
theorem filterMap_swap {α : Type} {part : SelectClause → Option α} {family : Family}
    (only : ∀ clause, (part clause).isSome = true → clause.family = family)
    (apart : first.family ≠ second.family) (before rest : List SelectClause) :
    (before ++ second :: first :: rest).filterMap part =
      (before ++ first :: second :: rest).filterMap part := by
  rw [List.filterMap_append, List.filterMap_append]
  cases firstPart : part first with
  | none => simp [List.filterMap_cons, firstPart]
  | some value =>
      have secondPart : part second = none := by
        by_contra given
        have firstFamily := only first (by rw [firstPart]; rfl)
        have secondFamily := only second (Option.isSome_iff_ne_none.mpr given)
        exact apart (firstFamily.trans secondFamily.symm)
      simp [List.filterMap_cons, secondPart]

theorem families_swap (apart : first.family ≠ second.family)
    (before rest : List SelectClause) :
    families (before ++ second :: first :: rest) =
      families (before ++ first :: second :: rest) := by
  have filters : ∀ clause, (filter? clause).isSome = true → clause.family = .filter := by
    intro clause; cases clause <;> simp
  have selections : ∀ clause, (selection? clause).isSome = true →
      clause.family = .selection := by
    intro clause; cases clause <;> simp
  have sources : ∀ clause, (source? clause).isSome = true → clause.family = .source := by
    intro clause; cases clause <;> simp
  have terms : ∀ clause, (orderTerm? clause).isSome = true → clause.family = .order := by
    intro clause; cases clause <;> simp
  have fields : ∀ clause, (groupField? clause).isSome = true →
      clause.family = .grouping := by
    intro clause; cases clause <;> simp
  have ranges : ∀ clause, (range? clause).isSome = true → clause.family = .rows := by
    intro clause; cases clause <;> simp
  simp only [families, range, filterMap_swap filters apart, filterMap_swap selections apart,
    filterMap_swap sources apart, filterMap_swap terms apart, filterMap_swap fields apart,
    filterMap_swap ranges apart]

theorem areProper_swap {before rest : List SelectClause} :
    AreProper (before ++ second :: first :: rest) ↔
      AreProper (before ++ first :: second :: rest) := by
  have same := ((List.Perm.swap first second rest).append_left before).filterMap range?
  exact ⟨fun proper asked member => proper asked (same.mem_iff.mpr member),
    fun proper asked member => proper asked (same.mem_iff.mp member)⟩

end Swap

end SelectClause

namespace SelectDraft

variable {map : TableMap} {dialect : Dialect} {clauses : List SelectClause}
variable {select after : SelectDraft}

/-- A clause adds to what its family amounts to, if it can be applied. -/
theorem apply_select_eq_ok_iff {families : SelectFamilies} {draft : Draft}
    {clause : SelectClause} :
    (families.select draft).apply clause = .ok after ↔
      (∀ asked ∈ clause.range?, asked.IsProper) ∧ ∃ final,
        clause.filter?.toList.foldlM Draft.filter draft = .ok final ∧
        (families.add clause).select final = after := by
  cases clause with
  | filter clause =>
      simp [-bind_pure_comp, apply, SelectFamilies.select, SelectFamilies.add]
  | page number size =>
      have valid : (∀ asked ∈ (SelectClause.page number size).range?, asked.IsProper) ↔
          ¬(number = 0 ∨ size = 0) := by
        simp [RowRange.IsProper]
      rw [valid]
      by_cases improper : number = 0 ∨ size = 0
      · simp [apply, improper, StatementFault.fail, Fault.fail]
      · simp [apply, improper, SelectFamilies.select, SelectFamilies.add]
  | _ =>
      simp [apply, SelectFamilies.select, SelectFamilies.add, RowRange.isProper_ofLimit]

/-- A run of clauses succeeds when their ranges are proper and their conditions can be added,
and leaves what the families amount to. -/
theorem foldlM_apply_eq_ok_iff :
    clauses.foldlM apply (start map dialect) = .ok select ↔
      SelectClause.AreProper clauses ∧ ∃ draft,
        (SelectClause.families clauses).filters.foldlM Draft.filter (Draft.start map dialect) =
          .ok draft ∧
        (SelectClause.families clauses).select draft = select := by
  induction clauses using List.reverseRecOn generalizing select with
  | nil =>
      simp [SelectClause.AreProper, SelectClause.families, SelectClause.range,
        SelectFamilies.select, start]
  | append_singleton clauses clause inductionHypothesis =>
      have filters : ((SelectClause.families clauses).add clause).filters =
          (SelectClause.families clauses).filters ++ clause.filter?.toList := rfl
      rw [SelectClause.families_concat, SelectClause.areProper_concat, filters,
        List.foldlM_append, List.foldlM_append, Result.bind_eq_ok]
      simp only [List.foldlM_cons, List.foldlM_nil, bind_pure]
      constructor
      · rintro ⟨middle, ran, applied⟩
        obtain ⟨proper, draft, filtered, rfl⟩ := inductionHypothesis.mp ran
        obtain ⟨properToo, final, added, rfl⟩ := apply_select_eq_ok_iff.mp applied
        exact ⟨⟨proper, properToo⟩, final,
          Result.bind_eq_ok.mpr ⟨draft, filtered, added⟩, rfl⟩
      · rintro ⟨⟨proper, properToo⟩, final, filtered, rfl⟩
        obtain ⟨draft, filtered, added⟩ := Result.bind_eq_ok.mp filtered
        exact ⟨_, inductionHypothesis.mpr ⟨proper, draft, filtered, rfl⟩,
          apply_select_eq_ok_iff.mpr ⟨properToo, final, added, rfl⟩⟩

theorem parts_eq_ok {parts : SelectParts} (asked : select.parts = .ok parts) :
    parts.conditions = select.draft.conditionSql ∧ select.orderSql = .ok parts.order ∧
      rowCounts select.rows = .ok (parts.limit, parts.offset, parts.fetch) := by
  simp only [SelectDraft.parts, Result.bind_eq_ok] at asked
  obtain ⟨grouping, -, order, ordered, counts, counted, asked⟩ := asked
  cases asked
  exact ⟨rfl, ordered, counted⟩

/-- A limit and a page are not asked for together, and a page is asked for by a page. -/
theorem limit_and_isPaged_of_parts {parts : SelectParts} (asked : select.parts = .ok parts) :
    (parts.limit = 0 ∨ parts.isPaged = false) ∧ parts.isPaged = select.rows.isPage := by
  obtain ⟨-, -, counted⟩ := parts_eq_ok asked
  cases rows : select.rows with
  | all =>
      simp only [rows, rowCounts, Except.ok.injEq, Prod.mk.injEq] at counted
      obtain ⟨noLimit, noOffset, noFetch⟩ := counted
      exact ⟨.inl noLimit.symm, by simp [SelectParts.isPaged, ← noOffset, ← noFetch,
        RowRange.isPage]⟩
  | limit count =>
      simp only [rows, rowCounts, Except.ok.injEq, Prod.mk.injEq] at counted
      obtain ⟨-, noOffset, noFetch⟩ := counted
      have unpaged : parts.isPaged = false := by
        simp [SelectParts.isPaged, ← noOffset, ← noFetch]
      exact ⟨.inr unpaged, unpaged⟩
  | page number size =>
      rw [rows, rowCounts] at counted
      split at counted
      next =>
        simp only [Except.ok.injEq, Prod.mk.injEq] at counted
        obtain ⟨noLimit, offset, -⟩ := counted
        exact ⟨.inl noLimit.symm, by simp [SelectParts.isPaged, ← offset, RowRange.isPage]⟩
      next => cases counted

/-- The columns that rows are put in order by: those of the order terms, or the primary key
when there are none. -/
def orderColumns (map : TableMap) (terms : List OrderTerm) : Result (List Sql) :=
  if terms.isEmpty then .ok (map.primaryKey.map Property.columnSql)
  else terms.mapM (termSql map)

/-- A page has an order. -/
theorem order_of_orderSql {order : Option Sql} (page : select.rows.isPage = true)
    (ordered : select.orderSql = .ok order) :
    ∃ columns, orderColumns select.draft.map select.order = .ok columns ∧ columns ≠ [] ∧
      order = some (joinPieces ", " columns) := by
  simp only [orderSql] at ordered
  split at ordered
  next given =>
    obtain ⟨columns, terms, ordered⟩ := Result.bind_eq_ok.mp ordered
    cases ordered
    have given : select.order ≠ [] := by simpa using given
    refine ⟨columns, ?_, ?_, rfl⟩
    · rw [orderColumns, if_neg (by simpa using given)]
      exact terms
    · have count : columns.length = select.order.length := Result.length_of_mapM_eq_ok terms
      exact List.ne_nil_of_length_pos (count ▸ List.length_pos_of_ne_nil given)
  next none =>
    obtain ⟨done, required, ordered⟩ := Result.bind_eq_ok.mp ordered
    cases ordered
    have keyed := TableMap.hasPrimaryKey_iff.mp (TableMap.requirePrimaryKey_eq_ok.mp required)
    refine ⟨_, ?_, by simpa using keyed, rfl⟩
    rw [orderColumns, if_pos (by simpa using none)]

/-- A select that asks for a page asks for an order. -/
theorem order_of_parts {parts : SelectParts} (asked : select.parts = .ok parts)
    (paged : parts.isPaged = true) :
    ∃ columns, orderColumns select.draft.map select.order = .ok columns ∧ columns ≠ [] ∧
      parts.order = some (joinPieces ", " columns) := by
  obtain ⟨-, ordered, -⟩ := parts_eq_ok asked
  obtain ⟨-, page⟩ := limit_and_isPaged_of_parts asked
  exact order_of_orderSql (page ▸ paged) ordered

section Unordered

theorem property_avoids_unordered (name : String) :
    Result.Avoids .unordered (map.property name) := by
  unfold TableMap.property
  split
  next => exact .ok _
  next =>
    refine .fail fun same => ?_
    -- The message of the fault begins with a backtick.
    have initial := congrArg (·.toList.head?) (Fault.invalidStatement.inj same)
    simp [FieldFault.message] at initial

theorem groupingSql_avoids_unordered : Result.Avoids .unordered select.groupingSql := by
  unfold groupingSql
  split
  next => exact .ok none
  next =>
    have columns : Result.Avoids .unordered (select.grouping.mapM fun field => do
        return (← select.draft.map.property field).columnSql) :=
      .mapM fun field _ => (property_avoids_unordered field).bind fun _ _ => .ok _
    exact columns.bind fun _ _ => .ok _

theorem termSql_avoids_unordered (term : OrderTerm) :
    Result.Avoids .unordered (termSql map term) := by
  refine (property_avoids_unordered term.field).bind fun property _ => ?_
  cases term.direction with
  | ascending => exact .ok _
  | descending => exact .ok _

theorem orderSql_avoids_unordered : Result.Avoids .unordered select.orderSql := by
  unfold orderSql
  split
  next =>
    have terms : Result.Avoids .unordered (select.order.mapM (termSql select.draft.map)) :=
      .mapM fun term _ => termSql_avoids_unordered term
    exact terms.bind fun _ _ => .ok _
  next =>
    split
    next =>
      have keyed : Result.Avoids .unordered
          (select.draft.map.requirePrimaryKey "paging without an explicit order") := by
        unfold TableMap.requirePrimaryKey
        split
        next => exact .ok ()
        next => exact .fail nofun
      exact keyed.bind fun _ _ => .ok _
    next => exact .ok none

theorem rowCounts_avoids_unordered (rows : RowRange) :
    Result.Avoids .unordered (rowCounts rows) := by
  cases rows with
  | all => exact .ok _
  | limit count => exact .ok _
  | page number size =>
      rw [rowCounts]
      split
      next => exact .ok _
      next =>
        refine .fail fun same => ?_
        -- The messages differ in their fourth characters.
        have message : "paging requires an order by clause" =
            "page " ++ toString number ++ " is out of range" := Fault.invalidStatement.inj same
        have chars := congrArg String.toList message
        rw [String.toList_append, String.toList_append, List.append_assoc] at chars
        have initial := congrArg (List.take 4) chars
        rw [List.take_append_of_le_length (by decide)] at initial
        exact absurd initial (by decide)

theorem parts_avoids_unordered : Result.Avoids .unordered select.parts :=
  groupingSql_avoids_unordered.bind fun _ _ => orderSql_avoids_unordered.bind fun _ _ =>
    (rowCounts_avoids_unordered select.rows).bind fun _ _ => .ok _

end Unordered

section Queries

variable {written : Query}

/-- The statement that reads the rows. -/
def query (select : SelectDraft) (dialect : Dialect) : Result Query := do
  let parts ← select.parts
  return select.draft.finish (← dialect.select parts)

/-- The statement that counts the rows. -/
def countQuery (select : SelectDraft) (dialect : Dialect) : Result Query := do
  return select.draft.finish (← dialect.select select.countParts)

/-- Only the conditions and the source matter for the number of rows. -/
theorem countQuery_congr {other : SelectDraft} (draft : other.draft = select.draft)
    (source : other.source = select.source) :
    other.countQuery dialect = select.countQuery dialect := by
  have parts : other.countParts = select.countParts := by
    rw [countParts, countParts, sourceSql, sourceSql, source, draft]
  rw [countQuery, countQuery, parts, draft]

theorem exists_parts_of_query (same : select.draft.dialect = dialect)
    (compiled : select.query dialect = .ok written) :
    written.params = select.draft.params ∧ ∃ parts, select.parts = .ok parts ∧
      dialect.selectText parts = .ok written.sql := by
  obtain ⟨parts, asked, compiled⟩ := Result.bind_eq_ok.mp compiled
  obtain ⟨sql, selected, compiled⟩ := Result.bind_eq_ok.mp compiled
  cases compiled
  refine ⟨rfl, parts, asked, ?_⟩
  rw [Dialect.selectText, selected, Draft.finish, same]
  rfl

theorem selectText_of_countQuery (same : select.draft.dialect = dialect)
    (counted : select.countQuery dialect = .ok written) :
    written.params = select.draft.params ∧
      dialect.selectText select.countParts = .ok written.sql := by
  obtain ⟨sql, selected, counted⟩ := Result.bind_eq_ok.mp counted
  cases counted
  refine ⟨rfl, ?_⟩
  rw [Dialect.selectText, selected, Draft.finish, same]
  rfl

/-- No select fails because a page has no order. -/
theorem query_avoids_unordered : Result.Avoids .unordered (select.query dialect) := by
  refine parts_avoids_unordered.bind fun parts asked => ?_
  refine Result.Avoids.bind ?_ fun _ _ => .ok _
  refine Dialect.select_avoids_unordered fun paged => ?_
  obtain ⟨columns, -, -, ordered⟩ := order_of_parts asked paged
  exact ⟨_, ordered⟩

end Queries

end SelectDraft

namespace Select

variable {schema final : Schema} {model : Model} {dialect : Dialect}
variable {clauses other : List SelectClause} {select otherSelect : SelectDraft}

theorem outcome_draft_eq_ok_iff :
    (draft model dialect clauses).outcome schema = (.ok select, final) ↔
      ∃ map, (Schema.tableMap model).outcome schema = (.ok map, final) ∧
        clauses.foldlM SelectDraft.apply (SelectDraft.start map dialect) = .ok select := by
  rw [draft, SchemaM.outcome_bind]
  rcases (Schema.tableMap model).outcome schema with ⟨error | map, after⟩
  · simp
  · simp [and_comm]

theorem outcome_compile
    (drafted : (draft model dialect clauses).outcome schema = (.ok select, final)) :
    (compile model dialect clauses).outcome schema = (select.query dialect, final) := by
  rw [compile, SchemaM.outcome_bind, drafted]
  dsimp only
  rw [SchemaM.outcome_bind, SchemaM.outcome_ofResult, SelectDraft.query]
  cases select.parts with
  | error error => rfl
  | ok parts =>
      change ((SchemaM.ofResult (dialect.select parts) >>= _).outcome final) =
        (dialect.select parts >>= fun sql => pure (select.draft.finish sql), final)
      rw [SchemaM.outcome_bind, SchemaM.outcome_ofResult]
      cases dialect.select parts <;> rfl

theorem outcome_count
    (drafted : (draft model dialect clauses).outcome schema = (.ok select, final)) :
    (count model dialect clauses).outcome schema = (select.countQuery dialect, final) := by
  rw [count, SchemaM.outcome_bind, drafted]
  dsimp only
  rw [SchemaM.outcome_bind, SchemaM.outcome_ofResult, SelectDraft.countQuery]
  cases dialect.select select.countParts <;> rfl

/-- The clauses that were applied amount to the select, and their conditions to its draft. -/
theorem families_of_draft
    (drafted : (draft model dialect clauses).outcome schema = (.ok select, final)) :
    (SelectClause.families clauses).select select.draft = select ∧
      select.draft.dialect = dialect := by
  obtain ⟨map, -, applied⟩ := outcome_draft_eq_ok_iff.mp drafted
  obtain ⟨⟨fragments, adds, -⟩, -⟩ := SelectDraft.foldlM_extends applied
  obtain ⟨-, added, -, rfl⟩ := SelectDraft.foldlM_apply_eq_ok_iff.mp applied
  exact ⟨rfl, adds.dialect⟩

/-- Clauses with the same conditions lead to the same draft. -/
theorem draft_eq_of_filters_eq {otherFinal : Schema}
    (drafted : (draft model dialect clauses).outcome schema = (.ok select, final))
    (draftedToo : (draft model dialect other).outcome schema = (.ok otherSelect, otherFinal))
    (same : (SelectClause.families other).filters = (SelectClause.families clauses).filters) :
    otherSelect.draft = select.draft ∧ otherFinal = final := by
  obtain ⟨map, mapped, applied⟩ := outcome_draft_eq_ok_iff.mp drafted
  obtain ⟨_, mappedToo, appliedToo⟩ := outcome_draft_eq_ok_iff.mp draftedToo
  obtain ⟨rfl, rfl⟩ : _ = map ∧ otherFinal = final := by
    simpa using mappedToo.symm.trans mapped
  obtain ⟨-, added, filtered, rfl⟩ := SelectDraft.foldlM_apply_eq_ok_iff.mp applied
  obtain ⟨-, addedToo, filteredToo, rfl⟩ := SelectDraft.foldlM_apply_eq_ok_iff.mp appliedToo
  rw [same] at filteredToo
  exact ⟨Except.ok.inj (filteredToo.symm.trans filtered), rfl⟩

/-- Only the conditions and the source matter for the statement that counts. -/
theorem outcome_count_congr {otherFinal : Schema}
    (drafted : (draft model dialect clauses).outcome schema = (.ok select, final))
    (draftedToo : (draft model dialect other).outcome schema = (.ok otherSelect, otherFinal))
    (sameFilters : (SelectClause.families other).filters = (SelectClause.families clauses).filters)
    (sameSource : (SelectClause.families other).source = (SelectClause.families clauses).source) :
    (count model dialect other).outcome schema = (count model dialect clauses).outcome schema := by
  obtain ⟨sameDraft, rfl⟩ := draft_eq_of_filters_eq drafted draftedToo sameFilters
  have source : otherSelect.source = select.source := by
    rw [← (families_of_draft drafted).1, ← (families_of_draft draftedToo).1]
    exact sameSource
  rw [outcome_count drafted, outcome_count draftedToo,
    SelectDraft.countQuery_congr sameDraft source]

theorem outcome_compile_congr {otherFinal : Schema}
    (drafted : (draft model dialect clauses).outcome schema = (.ok select, final))
    (draftedToo : (draft model dialect other).outcome schema = (.ok otherSelect, otherFinal))
    (same : SelectClause.families other = SelectClause.families clauses) :
    (compile model dialect other).outcome schema =
      (compile model dialect clauses).outcome schema := by
  obtain ⟨sameDraft, rfl⟩ :=
    draft_eq_of_filters_eq drafted draftedToo (congrArg SelectFamilies.filters same)
  have sameSelect : otherSelect = select := by
    rw [← (families_of_draft drafted).1, ← (families_of_draft draftedToo).1, same, sameDraft]
  rw [outcome_compile drafted, outcome_compile draftedToo, sameSelect]

/-- Neighbours of different families can change places. -/
theorem outcome_draft_swap {first second : SelectClause} {before rest : List SelectClause}
    (apart : first.family ≠ second.family)
    (drafted : (draft model dialect (before ++ first :: second :: rest)).outcome schema =
      (.ok select, final)) :
    (draft model dialect (before ++ second :: first :: rest)).outcome schema =
      (.ok select, final) := by
  obtain ⟨map, mapped, applied⟩ := outcome_draft_eq_ok_iff.mp drafted
  rw [SelectDraft.foldlM_apply_eq_ok_iff, ← SelectClause.areProper_swap,
    ← SelectClause.families_swap apart, ← SelectDraft.foldlM_apply_eq_ok_iff] at applied
  exact outcome_draft_eq_ok_iff.mpr ⟨map, mapped, applied⟩

/-- The statement of a page is written with its order. -/
theorem order_of_query {query : Query}
    (drafted : (draft model dialect clauses).outcome schema = (.ok select, final))
    (page : (SelectClause.range clauses).isPage = true)
    (compiled : select.query dialect = .ok query) :
    ∃ columns before behind,
      SelectDraft.orderColumns select.draft.map (SelectClause.families clauses).order =
        .ok columns ∧ columns ≠ [] ∧
      query.sql =
        before ++ ("order by " ++ (dialect.write (joinPieces ", " columns) ++ behind)) := by
  obtain ⟨amounts, sameDialect⟩ := families_of_draft drafted
  obtain ⟨-, parts, asked, text⟩ := SelectDraft.exists_parts_of_query sameDialect compiled
  have paged : parts.isPaged = true := by
    rw [(SelectDraft.limit_and_isPaged_of_parts asked).2, ← amounts]
    exact page
  obtain ⟨columns, listed, nonempty, ordered⟩ := SelectDraft.order_of_parts asked paged
  obtain ⟨before, behind, shape⟩ := Dialect.exists_order_of_selectText paged ordered text
  refine ⟨columns, before, behind, ?_, nonempty, shape⟩
  rw [← listed, ← amounts]
  rfl

end Select

/-- When all clauses of a select can be applied, the select is determined by what their
families amount to, and the statement that counts its rows by the conditions and the source.
A page has an order, which is written; that a page has none is never reported. -/
theorem select_determined_by_families {schema : Schema} {model : Model} {dialect : Dialect}
    {clauses : List SelectClause} {select : SelectDraft}
    (applied : ((Select.draft model dialect clauses).outcome schema).1 = .ok select) :
    -- Clauses that amount to the same are compiled and counted alike.
    (∀ other otherSelect,
      ((Select.draft model dialect other).outcome schema).1 = .ok otherSelect →
      (SelectClause.families other).filters = (SelectClause.families clauses).filters →
      (SelectClause.families other).source = (SelectClause.families clauses).source →
        (Select.count model dialect other).outcome schema =
          (Select.count model dialect clauses).outcome schema ∧
        (SelectClause.families other = SelectClause.families clauses →
          (Select.compile model dialect other).outcome schema =
            (Select.compile model dialect clauses).outcome schema)) ∧
    -- Neighbours of different families can change places.
    (∀ before first second rest, clauses = before ++ first :: second :: rest →
      first.family ≠ second.family →
        ((Select.draft model dialect (before ++ second :: first :: rest)).outcome schema).1 =
          .ok select ∧
        (Select.compile model dialect (before ++ second :: first :: rest)).outcome schema =
          (Select.compile model dialect clauses).outcome schema ∧
        (Select.count model dialect (before ++ second :: first :: rest)).outcome schema =
          (Select.count model dialect clauses).outcome schema) ∧
    -- The rows are counted under the conditions they are read under.
    (∀ query counted,
      ((Select.compile model dialect clauses).outcome schema).1 = .ok query →
      ((Select.count model dialect clauses).outcome schema).1 = .ok counted →
        counted.params = query.params ∧ ∃ parts, select.parts = .ok parts ∧
          dialect.selectText parts = .ok query.sql ∧
          dialect.selectText select.countParts = .ok counted.sql ∧
          select.countParts.conditions = parts.conditions) ∧
    -- A page is read in the order of the terms or of the primary key.
    ((SelectClause.range clauses).isPage = true → ∀ query,
      ((Select.compile model dialect clauses).outcome schema).1 = .ok query →
        ∃ columns before behind,
          SelectDraft.orderColumns select.draft.map (SelectClause.families clauses).order =
            .ok columns ∧ columns ≠ [] ∧
          query.sql = before ++ ("order by " ++
            (dialect.write (joinPieces ", " columns) ++ behind))) ∧
    Result.Avoids .unordered ((Select.compile model dialect clauses).outcome schema).1 ∧
    (∀ parts, select.parts = .ok parts → parts.limit = 0 ∨ parts.isPaged = false) := by
  obtain ⟨final, drafted⟩ : ∃ final,
      (Select.draft model dialect clauses).outcome schema = (.ok select, final) :=
    ⟨_, Prod.ext applied rfl⟩
  have compiled := Select.outcome_compile drafted
  have counts := Select.outcome_count drafted
  obtain ⟨-, sameDialect⟩ := Select.families_of_draft drafted
  refine ⟨?determined, ?swap, ?conditions, ?order, ?avoids, ?apart⟩
  case determined =>
    intro other otherSelect appliedToo sameFilters sameSource
    obtain ⟨otherFinal, draftedToo⟩ : ∃ otherFinal,
        (Select.draft model dialect other).outcome schema = (.ok otherSelect, otherFinal) :=
      ⟨_, Prod.ext appliedToo rfl⟩
    exact ⟨Select.outcome_count_congr drafted draftedToo sameFilters sameSource,
      Select.outcome_compile_congr drafted draftedToo⟩
  case swap =>
    rintro before first second rest rfl apart
    have swapped := Select.outcome_draft_swap apart drafted
    refine ⟨by rw [swapped], ?_, ?_⟩
    · rw [compiled, Select.outcome_compile swapped]
    · rw [counts, Select.outcome_count swapped]
  case conditions =>
    intro query counted succeeds countsToo
    rw [compiled] at succeeds
    rw [counts] at countsToo
    obtain ⟨params, parts, asked, text⟩ :=
      SelectDraft.exists_parts_of_query sameDialect succeeds
    obtain ⟨countParams, countText⟩ :=
      SelectDraft.selectText_of_countQuery sameDialect countsToo
    obtain ⟨conditions, -⟩ := SelectDraft.parts_eq_ok asked
    exact ⟨countParams.trans params.symm, parts, asked, text, countText, conditions.symm⟩
  case order =>
    intro page query succeeds
    rw [compiled] at succeeds
    exact Select.order_of_query drafted page succeeds
  case avoids =>
    rw [compiled]
    exact SelectDraft.query_avoids_unordered
  case apart =>
    intro parts asked
    exact (SelectDraft.limit_and_isPaged_of_parts asked).1

namespace Ticket

/-- A page of the seats, whose order is that of the primary key. -/
theorem groupedPage_determined :
    ∃ select,
      ((Select.draft model .sqlite [.limit 3, .groupBy "seat", .page 2 10]).outcome
        (.fresh none .verbatim)).1 = .ok select ∧
      (Select.compile model .sqlite [.limit 3, .page 2 10, .groupBy "seat"]).outcome
          (.fresh none .verbatim) =
        (Select.compile model .sqlite [.limit 3, .groupBy "seat", .page 2 10]).outcome
          (.fresh none .verbatim) ∧
      ((Select.compile model .sqlite [.limit 3, .groupBy "seat", .page 2 10]).outcome
          (.fresh none .verbatim)).1 =
        .ok ⟨"select \"id\", \"seat\" from \"Ticket\" group by \"seat\" " ++
          "order by \"id\" limit 11, 10", .empty⟩ := by
  obtain ⟨select, applied⟩ : ∃ select,
      ((Select.draft model .sqlite [.limit 3, .groupBy "seat", .page 2 10]).outcome
        (.fresh none .verbatim)).1 = .ok select := ⟨_, rfl⟩
  obtain ⟨-, swap, -⟩ := select_determined_by_families applied
  obtain ⟨-, compiled, -⟩ :=
    swap [.limit 3] (.groupBy "seat") (.page 2 10) [] rfl (by decide)
  exact ⟨select, applied, compiled, rfl⟩

end Ticket

end SqlMapper
