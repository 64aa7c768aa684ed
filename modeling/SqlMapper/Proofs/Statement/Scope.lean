import SqlMapper.Proofs.Statement.Binding
import SqlMapper.Proofs.Statement.Request

/-!
# What stands in a statement

A statement consists of known wording, escaped names, numbers, literals and
placeholders, and of text only where the caller supplied it: `Scope.Allows`. Only
conditions and assignments refer to parameters; everything else is fixed. For the
shapes that are remembered, the placeholders are written before any value is known,
and `StatementKind.sql_references` says which names they are.
-/

namespace SqlMapper

open Params

/-- The wording of statements beyond that of terms. -/
def StatementKind.wording : List String :=
  ["insert into ", " default values", " (", ") values (", " returning ", "update ", " set ",
    "delete from ", "select ", " from ", " where ", " group by ", " order by ", " desc", " as ",
    "count(*)", "select top(", ") ", " limit ", " offset ", " fetch first ", " rows only",
    " rows fetch next ", "select * from (select row_number() over (order by ",
    ") as [__row], ", ") as [__paged] where [__row] between "]

/-- What a statement is about: a mapped model in a dialect, and the texts that the
caller supplied. -/
structure Scope where
  map : TableMap
  dialect : Dialect
  texts : List String

namespace Scope

/-- What may stand in a statement. -/
def Allows (scope : Scope) : Piece String → Prop
  | .text words =>
    words ∈ Term.wording ∨ words ∈ StatementKind.wording ∨
      ∃ call, scope.dialect.identity = .followUp call ∧ words = "; select " ++ call
  | .raw words => words ∈ scope.texts
  | .identifier name =>
    name = scope.map.table ∨
      ∃ property ∈ scope.map.properties, name = property.column ∨ name = property.name
  | .literal constant => scope.map.WritesLiteral constant
  | .number _ | .placeholder _ => True

/-- A fragment of a statement. -/
def AllowsAll (scope : Scope) (sql : Sql) : Prop :=
  ∀ piece ∈ sql, scope.Allows piece

/-- A fragment of a statement that refers to no parameter. -/
structure Fixes (scope : Scope) (sql : Sql) : Prop where
  allowed : scope.AllowsAll sql
  plain : placeholders sql = []

section Fragments

variable {scope : Scope} {property : Property} {words : String}

@[simp] theorem allowsAll_nil : scope.AllowsAll [] :=
  List.forall_mem_nil _

@[simp] theorem allowsAll_cons {piece : Piece String} {rest : Sql} :
    scope.AllowsAll (piece :: rest) ↔ scope.Allows piece ∧ scope.AllowsAll rest :=
  List.forall_mem_cons

@[simp] theorem allowsAll_append {left right : Sql} :
    scope.AllowsAll (left ++ right) ↔ scope.AllowsAll left ∧ scope.AllowsAll right :=
  List.forall_mem_append

theorem allows_term_text (worded : words ∈ Term.wording) : scope.Allows (.text words) :=
  .inl worded

theorem allows_text (worded : words ∈ StatementKind.wording) : scope.Allows (.text words) :=
  .inr (.inl worded)

@[simp] theorem allows_number (count : Nat) : scope.Allows (.number count) :=
  trivial

@[simp] theorem allows_placeholder (name : String) : scope.Allows (.placeholder name) :=
  trivial

/-- What may stand in a term may stand in a statement. -/
theorem allows_of_isOver {piece : Piece String} (isOver : piece.IsOver scope.map) :
    scope.Allows piece := by
  cases piece with
  | text words => exact .inl isOver
  | raw words => exact isOver.elim
  | number count => trivial
  | identifier name =>
      obtain ⟨property, mapped, rfl⟩ := isOver
      exact .inr ⟨property, mapped, .inl rfl⟩
  | literal constant => exact isOver
  | placeholder name => trivial

theorem allowsAll_of_isOver {sql : Sql} (isOver : ∀ piece ∈ sql, piece.IsOver scope.map) :
    scope.AllowsAll sql :=
  fun piece member => allows_of_isOver (isOver piece member)

theorem allowsAll_joinPieces {fragments : List Sql} (separator : String)
    (worded : separator ∈ Term.wording)
    (each : ∀ fragment ∈ fragments, scope.AllowsAll fragment) :
    scope.AllowsAll (joinPieces separator fragments) := by
  induction fragments with
  | nil => exact allowsAll_nil
  | cons fragment rest inductionHypothesis =>
      have first := each fragment (by simp)
      have later := inductionHypothesis fun fragment member => each fragment (by simp [member])
      cases rest with
      | nil => exact first
      | cons next rest =>
          rw [joinPieces_cons_cons, allowsAll_append, allowsAll_cons]
          exact ⟨first, allows_term_text worded, later⟩

theorem fixes_joinPieces {fragments : List Sql} (separator : String)
    (worded : separator ∈ Term.wording)
    (each : ∀ fragment ∈ fragments, scope.Fixes fragment) :
    scope.Fixes (joinPieces separator fragments) := by
  constructor
  · apply allowsAll_joinPieces separator worded
    intro fragment member
    exact (each fragment member).allowed
  · rw [placeholders_joinPieces, List.flatMap_eq_nil_iff]
    intro fragment member
    exact (each fragment member).plain

theorem fixes_columnSql (mapped : property ∈ scope.map.properties) :
    scope.Fixes property.columnSql :=
  ⟨allowsAll_of_isOver (Property.isOver_of_mem_columnSql mapped), rfl⟩

theorem fixes_tableSql : scope.Fixes scope.map.tableSql :=
  ⟨by simp [TableMap.tableSql, Allows], rfl⟩

theorem fixes_selection (mapped : property ∈ scope.map.properties) :
    scope.Fixes property.selection := by
  refine ⟨?_, by simp⟩
  unfold Property.selection
  split
  next => exact (fixes_columnSql mapped).allowed
  next =>
    have named : scope.Allows (.identifier property.name) :=
      .inr ⟨property, mapped, .inr rfl⟩
    simpa [named, (fixes_columnSql mapped).allowed] using allows_text (by decide)

theorem fixes_defaultSelection : scope.Fixes scope.map.defaultSelection := by
  apply fixes_joinPieces _ (by decide)
  intro fragment member
  obtain ⟨property, selectable, rfl⟩ := List.mem_map.mp member
  exact fixes_selection (List.mem_filter.mp selectable).1

theorem allowsAll_clause {sql : Option Sql} (words : String)
    (worded : words ∈ StatementKind.wording)
    (allowed : ∀ fragment ∈ sql, scope.AllowsAll fragment) :
    scope.AllowsAll (SelectParts.clause words sql) := by
  cases sql with
  | none => exact allowsAll_nil
  | some fragment => exact allowsAll_cons.mpr ⟨allows_text worded, allowed fragment rfl⟩

theorem fixes_clause {sql : Option Sql} (words : String)
    (worded : words ∈ StatementKind.wording)
    (fixed : ∀ fragment ∈ sql, scope.Fixes fragment) :
    scope.Fixes (SelectParts.clause words sql) := by
  cases sql with
  | none => exact ⟨allowsAll_nil, rfl⟩
  | some fragment =>
      have inner := fixed fragment rfl
      exact ⟨allowsAll_cons.mpr ⟨allows_text worded, inner.allowed⟩, inner.plain⟩

theorem fixes_of_mem_none : ∀ sql ∈ (none : Option Sql), scope.Fixes sql := by
  intro sql member
  cases member

end Fragments

end Scope

namespace SelectParts

/-- The parts of a select in which only the conditions refer to parameters. -/
structure IsWithin (scope : Scope) (parts : SelectParts) : Prop where
  selection : scope.Fixes parts.selection
  source : scope.Fixes parts.source
  conditions : ∀ sql ∈ parts.conditions, scope.AllowsAll sql
  grouping : ∀ sql ∈ parts.grouping, scope.Fixes sql
  order : ∀ sql ∈ parts.order, scope.Fixes sql

namespace IsWithin

variable {scope : Scope} {parts : SelectParts}

/-- Row numbers are taken in the order of the parts. -/
theorem order_of_window {style : PagingStyle} {order : Sql} {first last : Nat}
    (asked : parts.window style = .ok (.rowNumbers order first last)) :
    parts.order = some order := by
  unfold window at asked
  split at asked
  next =>
    rcases given : parts.order with _ | own
    · cases style <;> simp only [PagingStyle.paged, requireOrder, given] at asked <;> cases asked
    · cases style with
      | topRowNumber =>
          simp only [PagingStyle.paged, requireOrder, given, Result.bind_eq_ok] at asked
          obtain ⟨_, same, asked⟩ := asked
          cases same
          split at asked <;> cases asked
          rfl
      | _ =>
          simp only [PagingStyle.paged, requireOrder, given] at asked
          cases asked
  next =>
    split at asked
    next => cases style <;> cases asked
    next => cases asked

/-- Without a window, the select is allowed and refers to what its conditions refer
to. -/
theorem body (within : parts.IsWithin scope) :
    scope.AllowsAll parts.body ∧
      placeholders parts.body = placeholders (clause " where " parts.conditions) := by
  have conditions := Scope.allowsAll_clause " where " (by decide) within.conditions
  have grouping := Scope.fixes_clause " group by " (by decide) within.grouping
  have order := Scope.fixes_clause " order by " (by decide) within.order
  have between : scope.Allows (.text " from ") := Scope.allows_text (by decide)
  constructor
  · simp [SelectParts.body, filters, between, conditions, within.selection.allowed,
      within.source.allowed, grouping.allowed, order.allowed]
  · simp [SelectParts.body, filters, within.selection.plain, within.source.plain,
      grouping.plain, order.plain]

/-- With any window, the statement is allowed and refers to what its conditions
refer to. -/
theorem withWindow {window : RowWindow} (within : parts.IsWithin scope)
    (ordered : ∀ order first last, window = .rowNumbers order first last →
      parts.order = some order) :
    scope.AllowsAll (parts.withWindow window) ∧
      placeholders (parts.withWindow window) =
        placeholders (clause " where " parts.conditions) := by
  obtain ⟨bodyAllowed, bodyReferences⟩ := within.body
  cases window with
  | rowNumbers order first last =>
      have orderFixed := within.order order (ordered order first last rfl)
      have conditions := Scope.allowsAll_clause " where " (by decide) within.conditions
      have grouping := Scope.fixes_clause " group by " (by decide) within.grouping
      constructor
      · simp [SelectParts.withWindow, filters, orderFixed.allowed, conditions, grouping.allowed,
          within.selection.allowed, within.source.allowed, Scope.Allows, Term.wording,
          StatementKind.wording]
      · simp [SelectParts.withWindow, filters, orderFixed.plain, grouping.plain,
          within.selection.plain, within.source.plain]
  | _ =>
      constructor
      · simp [SelectParts.withWindow, bodyAllowed, Scope.Allows, Term.wording,
          StatementKind.wording]
      · simp [SelectParts.withWindow, bodyReferences]

end IsWithin

end SelectParts

namespace Dialect

/-- A select within a scope is allowed and refers to what its conditions refer to. -/
theorem select_within {scope : Scope} {dialect : Dialect} {parts : SelectParts} {sql : Sql}
    (within : parts.IsWithin scope) (written : dialect.select parts = .ok sql) :
    scope.AllowsAll sql ∧
      placeholders sql = placeholders (SelectParts.clause " where " parts.conditions) := by
  simp only [select, Result.bind_eq_ok] at written
  obtain ⟨window, asked, written⟩ := written
  cases written
  exact within.withWindow fun _ _ _ same => SelectParts.IsWithin.order_of_window (same ▸ asked)

end Dialect

section Remembered

variable {scope : Scope}

/-- The names of numbered placeholders, one for each property. -/
theorem TableMap.placeholders_joinPieces_numbered (fragment : Property × String → Sql)
    (once : ∀ entry, placeholders (fragment entry) = [entry.2]) (separator : String)
    (properties : List Property) (first : Nat) :
    placeholders (joinPieces separator ((numbered properties first).map fragment)) =
      generatedNames first properties.length := by
  rw [placeholders_joinPieces, List.flatMap_map, ← map_snd_numbered, List.map_eq_flatMap]
  simp only [once]

theorem Scope.allowsAll_numbered {fragment : Property × String → Sql}
    {properties : List Property} {first : Nat}
    (each : ∀ property ∈ properties, ∀ name, scope.AllowsAll (fragment (property, name))) :
    ∀ sql ∈ (TableMap.numbered properties first).map fragment, scope.AllowsAll sql := by
  intro sql member
  obtain ⟨entry, numbered, rfl⟩ := List.mem_map.mp member
  have mapped : entry.1 ∈ properties := by
    rw [← TableMap.map_fst_numbered properties first]
    exact List.mem_map_of_mem numbered
  exact each entry.1 mapped entry.2

namespace StatementKind

/-- The properties whose values a remembered statement binds, in order. -/
def bound (map : TableMap) : StatementKind → List Property
  | insert => map.insertable
  | updateByKey => map.updatable ++ map.primaryKey
  | deleteByKey | selectByKey => map.primaryKey

end StatementKind

theorem TableMap.placeholders_keyConditions (map : TableMap) (first : Nat) :
    placeholders (map.keyConditions first) = generatedNames first map.primaryKey.length :=
  placeholders_joinPieces_numbered _ (fun _ => rfl) ..

theorem Scope.allowsAll_keyConditions (first : Nat) :
    scope.AllowsAll (scope.map.keyConditions first) := by
  refine allowsAll_joinPieces _ (by decide) (allowsAll_numbered fun property key name => ?_)
  have mapped : property ∈ scope.map.properties := (List.mem_filter.mp key).1
  exact allowsAll_of_isOver (Property.isOver_of_mem_equalsParameter mapped name)

theorem Insert.fixes_columns :
    scope.Fixes (joinPieces ", " ((TableMap.numbered scope.map.insertable 0).map
      fun (property, _) => property.columnSql)) := by
  apply Scope.fixes_joinPieces _ (by decide)
  intro fragment member
  obtain ⟨entry, numbered, rfl⟩ := List.mem_map.mp member
  have mapped : entry.1 ∈ scope.map.insertable := by
    rw [← TableMap.map_fst_numbered scope.map.insertable 0]
    exact List.mem_map_of_mem numbered
  exact Scope.fixes_columnSql (List.mem_filter.mp mapped).1

theorem Insert.allowsAll_values :
    scope.AllowsAll (joinPieces ", " ((TableMap.numbered scope.map.insertable 0).map
      fun (_, name) => [.placeholder name])) := by
  apply Scope.allowsAll_joinPieces _ (by decide)
  exact Scope.allowsAll_numbered fun _ _ _ => by simp

theorem Insert.allowsAll_valuesSql : scope.AllowsAll (valuesSql scope.map) := by
  unfold valuesSql
  dsimp only
  split
  next => exact Scope.allowsAll_cons.mpr ⟨Scope.allows_text (by decide), Scope.allowsAll_nil⟩
  next =>
    simp only [Scope.allowsAll_append, Scope.allowsAll_cons, Scope.allowsAll_nil, and_true]
    exact ⟨⟨⟨Scope.allows_text (by decide), fixes_columns.allowed⟩,
      Scope.allows_text (by decide), allowsAll_values⟩, Scope.allows_term_text (by decide)⟩

theorem Insert.placeholders_values :
    placeholders (joinPieces ", " ((TableMap.numbered scope.map.insertable 0).map
      fun (_, name) => [.placeholder name])) = generatedNames 0 scope.map.insertable.length :=
  TableMap.placeholders_joinPieces_numbered _ (fun _ => rfl) ", " scope.map.insertable 0

theorem Insert.placeholders_valuesSql :
    placeholders (valuesSql scope.map) = generatedNames 0 scope.map.insertable.length := by
  unfold valuesSql
  dsimp only
  split
  next empty =>
    have none : scope.map.insertable = [] := by simpa [TableMap.numbered] using empty
    rw [none]
    rfl
  next =>
    simp only [placeholders_append, placeholders_text, placeholders_nil, fixes_columns.plain,
      placeholders_values, List.nil_append, List.append_nil]

/-- What reports the identity refers to no parameter. -/
theorem Insert.fixes_identitySql {sql : Sql}
    (written : identitySql scope.map scope.dialect = .ok sql) : scope.Fixes sql := by
  unfold identitySql at written
  split at written
  next identity found =>
    have mapped : identity ∈ scope.map.properties := List.mem_of_find?_eq_some found
    have column := Scope.fixes_columnSql mapped
    cases style : scope.dialect.identity with
    | unsupported family =>
        simp only [Dialect.identityClause, style] at written
        cases written
    | returning =>
        simp only [Dialect.identityClause, style] at written
        cases written
        exact ⟨Scope.allowsAll_cons.mpr ⟨Scope.allows_text (by decide), column.allowed⟩, rfl⟩
    | followUp call =>
        simp only [Dialect.identityClause, style] at written
        cases written
        exact ⟨Scope.allowsAll_cons.mpr ⟨.inr (.inr ⟨call, style, rfl⟩), Scope.allowsAll_nil⟩, rfl⟩
  next =>
    cases written
    exact ⟨Scope.allowsAll_nil, rfl⟩

end Remembered

section Sentences

variable {scope : Scope} {conditions : Option Sql}

theorem Delete.allowsAll_sql (allowed : ∀ sql ∈ conditions, scope.AllowsAll sql) :
    scope.AllowsAll (sql scope.map conditions) := by
  have filtered := Scope.allowsAll_clause " where " (by decide) allowed
  have head : scope.Allows (.text "delete from ") := Scope.allows_text (by decide)
  simp [sql, head, filtered, Scope.fixes_tableSql.allowed]

theorem Delete.placeholders_sql (map : TableMap) :
    placeholders (sql map conditions) =
      placeholders (SelectParts.clause " where " conditions) := rfl

theorem Update.allowsAll_sql {assignments : List Sql}
    (assigned : ∀ sql ∈ assignments, scope.AllowsAll sql)
    (allowed : ∀ sql ∈ conditions, scope.AllowsAll sql) :
    scope.AllowsAll (sql scope.map assignments conditions) := by
  have filtered := Scope.allowsAll_clause " where " (by decide) allowed
  have listed := Scope.allowsAll_joinPieces ", " (by decide) assigned
  have head : scope.Allows (.text "update ") := Scope.allows_text (by decide)
  have between : scope.Allows (.text " set ") := Scope.allows_text (by decide)
  simp [sql, head, between, filtered, listed, Scope.fixes_tableSql.allowed]

theorem Update.placeholders_sql (map : TableMap) (assignments : List Sql) :
    placeholders (sql map assignments conditions) =
      placeholders (joinPieces ", " assignments) ++
        placeholders (SelectParts.clause " where " conditions) := by
  simp [sql, TableMap.tableSql]

end Sentences

theorem Scope.allowsAll_of_mem_keyConditions {scope : Scope} (first : Nat) :
    ∀ sql ∈ some (scope.map.keyConditions first), scope.AllowsAll sql := by
  simpa using Scope.allowsAll_keyConditions first

/-- The parts of the select that reads one row. -/
theorem Select.byKey_within {scope : Scope} :
    SelectParts.IsWithin scope
      { SelectParts.plain scope.map.defaultSelection scope.map.tableSql with
        conditions := some (scope.map.keyConditions 0) } where
  selection := Scope.fixes_defaultSelection
  source := Scope.fixes_tableSql
  conditions := Scope.allowsAll_of_mem_keyConditions 0
  grouping := Scope.fixes_of_mem_none
  order := Scope.fixes_of_mem_none

/-- The text of a remembered statement names its parameters in the order in which
their values are bound. -/
theorem StatementKind.sql_references {scope : Scope} {kind : StatementKind} {sql : Sql}
    (written : kind.sql scope.map scope.dialect = .ok sql) :
    scope.AllowsAll sql ∧
      placeholders sql = generatedNames 0 (kind.bound scope.map).length := by
  cases kind with
  | insert =>
      simp only [StatementKind.sql, Insert.sql, Result.bind_eq_ok] at written
      obtain ⟨identity, written, final⟩ := written
      cases final
      have fixed := Insert.fixes_identitySql written
      have head : scope.Allows (.text "insert into ") := Scope.allows_text (by decide)
      constructor
      · simp [head, Scope.fixes_tableSql.allowed, Insert.allowsAll_valuesSql, fixed.allowed]
      · simp [Scope.fixes_tableSql.plain, Insert.placeholders_valuesSql, fixed.plain, bound]
  | updateByKey =>
      simp only [StatementKind.sql, Update.byKeySql, Result.bind_eq_ok] at written
      obtain ⟨_, _, written⟩ := written
      split at written
      next => cases written
      next =>
        cases written
        constructor
        · refine Update.allowsAll_sql
            (Scope.allowsAll_numbered fun property member name => ?_)
            (Scope.allowsAll_of_mem_keyConditions _)
          have mapped : property ∈ scope.map.properties := (List.mem_filter.mp member).1
          exact Scope.allowsAll_of_isOver (Property.isOver_of_mem_assignSql mapped (by simp))
        · rw [Update.placeholders_sql, SelectParts.clause, placeholders_text,
            TableMap.placeholders_keyConditions,
            TableMap.placeholders_joinPieces_numbered _ (fun _ => rfl)]
          simp [bound, generatedNames_add]
  | deleteByKey =>
      simp only [StatementKind.sql, Delete.byKeySql, Result.bind_eq_ok] at written
      obtain ⟨_, _, written⟩ := written
      cases written
      exact ⟨Delete.allowsAll_sql (Scope.allowsAll_of_mem_keyConditions 0),
        TableMap.placeholders_keyConditions _ 0⟩
  | selectByKey =>
      simp only [StatementKind.sql, Select.byKeySql, Result.bind_eq_ok] at written
      obtain ⟨_, _, written⟩ := written
      obtain ⟨allowed, references⟩ := Dialect.select_within Select.byKey_within written
      exact ⟨allowed, references.trans (TableMap.placeholders_keyConditions _ 0)⟩

section Drafts

variable {scope : Scope}

theorem Draft.allowsAll_conditionSql {draft : Draft}
    (allowed : ∀ sql ∈ draft.conditions, scope.AllowsAll sql) :
    ∀ sql ∈ draft.conditionSql, scope.AllowsAll sql := by
  intro sql member
  unfold conditionSql at member
  split at member
  next => cases member
  next =>
    cases member
    exact Scope.allowsAll_joinPieces _ (by decide) allowed

theorem Draft.placeholders_conditionSql (draft : Draft) :
    placeholders (SelectParts.clause " where " draft.conditionSql) =
      draft.conditions.flatMap placeholders := by
  unfold conditionSql
  split
  next none =>
    rw [List.isEmpty_iff.mp none]
    rfl
  next => rw [SelectParts.clause, placeholders_text, placeholders_joinPieces]

namespace SelectDraft

variable {select : SelectDraft}

theorem fixes_selectionSql (sameMap : select.draft.map = scope.map)
    (given : ∀ text ∈ select.texts, text ∈ scope.texts) : scope.Fixes select.selectionSql := by
  unfold selectionSql
  split
  next text supplied =>
    have allowed : scope.Allows (.raw text) := given text (by simp [texts, supplied])
    exact ⟨by simpa using allowed, rfl⟩
  next =>
    rw [sameMap]
    exact Scope.fixes_defaultSelection

theorem fixes_sourceSql (sameMap : select.draft.map = scope.map)
    (given : ∀ text ∈ select.texts, text ∈ scope.texts) : scope.Fixes select.sourceSql := by
  unfold sourceSql
  split
  next text supplied =>
    have allowed : scope.Allows (.raw text) := given text (by simp [texts, supplied])
    exact ⟨by simpa using allowed, rfl⟩
  next =>
    rw [sameMap]
    exact Scope.fixes_tableSql

theorem fixes_groupingSql (sameMap : select.draft.map = scope.map) {grouping : Option Sql}
    (written : select.groupingSql = .ok grouping) : ∀ sql ∈ grouping, scope.Fixes sql := by
  intro sql member
  unfold groupingSql at written
  split at written
  next =>
    cases written
    cases member
  next =>
    simp only [Result.bind_eq_ok, Result.pure_eq_ok] at written
    obtain ⟨columns, written, rfl⟩ := written
    cases member
    apply Scope.fixes_joinPieces _ (by decide)
    intro column member
    obtain ⟨field, _, named⟩ := Result.exists_of_mem_mapM written column member
    simp only [Result.bind_eq_ok, Result.pure_eq_ok] at named
    obtain ⟨property, found, rfl⟩ := named
    exact Scope.fixes_columnSql (sameMap ▸ TableMap.mem_of_property_eq_ok found)

theorem fixes_termSql {term : OrderTerm} {sql : Sql}
    (written : termSql scope.map term = .ok sql) : scope.Fixes sql := by
  simp only [termSql, Result.bind_eq_ok] at written
  obtain ⟨property, found, written⟩ := written
  have column := Scope.fixes_columnSql (TableMap.mem_of_property_eq_ok found)
  split at written
  next =>
    cases written
    exact column
  next =>
    cases written
    have descending : scope.Allows (.text " desc") := Scope.allows_text (by decide)
    exact ⟨by simp [column.allowed, descending], by simp⟩

theorem fixes_orderSql (sameMap : select.draft.map = scope.map) {order : Option Sql}
    (written : select.orderSql = .ok order) : ∀ sql ∈ order, scope.Fixes sql := by
  intro sql member
  simp only [orderSql, sameMap] at written
  split at written
  next =>
    simp only [Result.bind_eq_ok, Result.pure_eq_ok] at written
    obtain ⟨terms, written, rfl⟩ := written
    cases member
    apply Scope.fixes_joinPieces _ (by decide)
    intro term member
    obtain ⟨_, _, written⟩ := Result.exists_of_mem_mapM written term member
    exact fixes_termSql written
  next =>
    split at written
    next =>
      simp only [Result.bind_eq_ok, Result.pure_eq_ok] at written
      obtain ⟨_, _, rfl⟩ := written
      cases member
      apply Scope.fixes_joinPieces _ (by decide)
      intro column member
      obtain ⟨property, key, rfl⟩ := List.mem_map.mp member
      exact Scope.fixes_columnSql (List.mem_filter.mp key).1
    next =>
      cases written
      cases member

/-- The clauses of a select refer to no parameter beyond its conditions. -/
theorem parts_within (scope : Scope) (sameMap : select.draft.map = scope.map)
    (given : ∀ text ∈ select.texts, text ∈ scope.texts)
    (conditions : ∀ sql ∈ select.draft.conditions, scope.AllowsAll sql) {parts : SelectParts}
    (written : select.parts = .ok parts) :
    parts.IsWithin scope ∧ parts.conditions = select.draft.conditionSql := by
  simp only [SelectDraft.parts, Result.bind_eq_ok] at written
  obtain ⟨grouping, grouped, order, ordered, counts, _, written⟩ := written
  cases written
  exact ⟨⟨fixes_selectionSql sameMap given, fixes_sourceSql sameMap given,
    Draft.allowsAll_conditionSql conditions, fixes_groupingSql sameMap grouped,
    fixes_orderSql sameMap ordered⟩, rfl⟩

theorem countParts_within (scope : Scope) (sameMap : select.draft.map = scope.map)
    (given : ∀ text ∈ select.texts, text ∈ scope.texts)
    (conditions : ∀ sql ∈ select.draft.conditions, scope.AllowsAll sql) :
    select.countParts.IsWithin scope where
  selection := ⟨Scope.allowsAll_cons.mpr ⟨Scope.allows_text (by decide), Scope.allowsAll_nil⟩, rfl⟩
  source := fixes_sourceSql sameMap given
  conditions := Draft.allowsAll_conditionSql conditions
  grouping := Scope.fixes_of_mem_none
  order := Scope.fixes_of_mem_none

end SelectDraft

end Drafts

end SqlMapper
