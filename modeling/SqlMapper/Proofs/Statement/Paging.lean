import SqlMapper.Proofs.Statement.Families

/-!
# Pages one after another

A page keeps as many rows as its size says, whichever words its dialect has for it. Pages of
one size follow each other without gaps and without rows that are on two of them, but they
begin with the second row: the first row of the ordered result is on no page.
-/

namespace SqlMapper

namespace Dialect

/-- The select keeps the rows at the positions from `first` to `last` in the given order: by a
clause at the end if the dialect has one, and otherwise by row numbers. -/
def Pages (dialect : Dialect) (order : Sql) (parts : SelectParts) (first last : Nat) : Prop :=
  match dialect.paging.pageClause? with
  | some clause => dialect.RestrictsTo clause order parts first last
  | none => dialect.NumbersFrom order parts first last

/-- A page that can be written keeps the rows behind those that are skipped. -/
theorem pages_of_selectText {dialect : Dialect} {parts : SelectParts} {order : Sql}
    {text : String} (paged : parts.isPaged = true) (ordered : parts.order = some order)
    (written : dialect.selectText parts = .ok text) :
    dialect.Pages order parts (parts.offset + 1) (parts.offset + parts.fetch) := by
  unfold Pages
  cases ends : dialect.paging.pageClause? with
  | some clause => exact restrictsTo_of_pageClause? ends paged ordered
  | none =>
      have windowed : ∃ window,
          dialect.paging.paged (.ok order) parts.offset parts.fetch = .ok window := by
        obtain ⟨_, selected, -⟩ := Result.map_eq_ok.mp written
        obtain ⟨window, windowed, -⟩ := Result.bind_eq_ok.mp selected
        rw [SelectParts.window_of_isPaged paged, SelectParts.requireOrder_of_some ordered]
          at windowed
        exact ⟨window, windowed⟩
      obtain ⟨window, windowed⟩ := windowed
      cases style : dialect.paging with
      | unsupported family =>
          rw [style] at windowed
          cases windowed
      | topRowNumber =>
          rw [style] at windowed
          obtain ⟨_, -, bounded⟩ := Result.bind_eq_ok.mp windowed
          refine numbersFrom_of_topRowNumber style paged ordered ?_
          by_contra beyond
          rw [if_neg beyond] at bounded
          cases bounded
      | _ =>
          rw [style] at ends
          cases ends

end Dialect

section Positions

variable {α : Type}

theorem rowsBetween_page (before size : Nat) (rows : List α) :
    rowsBetween (before * size + 2) ((before + 1) * size + 1) rows =
      ((rows.drop 1).drop (before * size)).take size := by
  have last : (before + 1) * size + 1 = before * size + 1 + size := by
    rw [Nat.add_one_mul]
    omega
  rw [last, rowsBetween_skipped, List.drop_drop, Nat.add_comm 1]

/-- The first pages together keep the rows from the second on, each once and in order. -/
theorem flatMap_page_eq_rowsBetween (size count : Nat) (rows : List α) :
    ((List.range' 1 count).flatMap fun number =>
        rowsBetween ((number - 1) * size + 2) (number * size + 1) rows) =
      rowsBetween 2 (count * size + 1) rows := by
  rw [Nat.add_comm (count * size), rowsBetween_skipped]
  induction count with
  | zero => simp
  | succ count inductionHypothesis =>
      have next : rowsBetween ((1 + count - 1) * size + 2) ((1 + count) * size + 1) rows =
          ((rows.drop 1).drop (count * size)).take size := by
        rw [Nat.add_sub_cancel_left, Nat.add_comm 1, rowsBetween_page]
      rw [List.range'_1_concat, List.flatMap_append, inductionHypothesis, List.flatMap_singleton,
        next, Nat.add_one_mul, List.take_add]

end Positions

namespace SelectDraft

/-- The counts of a page that is asked for. -/
theorem offset_and_fetch_of_parts {select : SelectDraft} {parts : SelectParts}
    {number size : Nat} (page : select.rows = .page number size)
    (asked : select.parts = .ok parts) :
    parts.offset = (number - 1) * size + 1 ∧ parts.fetch = size := by
  obtain ⟨-, -, counted⟩ := parts_eq_ok asked
  rw [page, rowCounts] at counted
  split at counted
  next =>
    simp only [Except.ok.injEq, Prod.mk.injEq] at counted
    exact ⟨counted.2.1.symm, counted.2.2.symm⟩
  next => cases counted

end SelectDraft

/-- After any history of a schema that is coherent with a select of a page of `size` rows, a
select that succeeds is written in an order, and what it says keeps the rows of that order at
the positions `(number - 1) * size + 2` to `number * size + 1`. The pages from the first on
together are the rows from the second on, each of them once and without a gap. -/
theorem pages_tile_from_second_row {tableStem : Option String} {naming : Naming}
    {history : List Call} {model : Model} {dialect : Dialect} {clauses : List SelectClause}
    {query : Query} {number size : Nat}
    (page : SelectClause.range clauses = .page number size)
    (coherent : (Usage.ofCalls tableStem naming
      (.statement model dialect (.select clauses) :: history)).Coherent)
    (succeeded : (((Request.select clauses).run model dialect).outcome
      ((Schema.fresh tableStem naming).after history)).1 = .ok query) :
    (number ≠ 0 ∧ size ≠ 0) ∧
    (∃ map select parts order,
      TableMap.ofModel tableStem naming model = .ok map ∧
      clauses.foldlM SelectDraft.apply (SelectDraft.start map dialect) = .ok select ∧
      select.parts = .ok parts ∧ parts.order = some order ∧
      dialect.selectText parts = .ok query.sql ∧
      dialect.Pages order parts ((number - 1) * size + 2) (number * size + 1)) ∧
    ∀ {α : Type} (rows : List α) (count : Nat),
      ((List.range' 1 count).flatMap fun number =>
          rowsBetween ((number - 1) * size + 2) (number * size + 1) rows) =
        rowsBetween 2 (count * size + 1) rows := by
  rw [Usage.outcome_after (.select clauses) coherent, Result.bind_eq_ok] at succeeded
  obtain ⟨map, mapped, written⟩ := succeeded
  obtain ⟨select, applied, built⟩ := Result.bind_eq_ok.mp written
  obtain ⟨⟨_, adds, -⟩, -⟩ := SelectDraft.foldlM_extends applied
  obtain ⟨proper, draft, -, amounts⟩ := SelectDraft.foldlM_apply_eq_ok_iff.mp applied
  obtain ⟨-, parts, asked, text⟩ := SelectDraft.exists_parts_of_query adds.dialect built
  have positive : number ≠ 0 ∧ size ≠ 0 := by
    have properPage := proper.range
    rwa [page] at properPage
  have rows : select.rows = .page number size := by
    rw [← page, ← amounts]
    rfl
  have paged : parts.isPaged = true := by
    rw [(SelectDraft.limit_and_isPaged_of_parts asked).2, rows]
    rfl
  obtain ⟨columns, -, -, ordered⟩ := SelectDraft.order_of_parts asked paged
  obtain ⟨offset, fetch⟩ := SelectDraft.offset_and_fetch_of_parts rows asked
  have last : (number - 1) * size + 1 + size = number * size + 1 := by
    rw [Nat.sub_one_mul]
    have := Nat.le_mul_of_pos_left size (Nat.pos_of_ne_zero positive.1)
    omega
  have pages := Dialect.pages_of_selectText paged ordered text
  rw [offset, fetch, last] at pages
  exact ⟨positive, ⟨map, select, parts, _, mapped, applied, asked, ordered, text, pages⟩,
    fun rows count => flatMap_page_eq_rowsBetween size count rows⟩

namespace Ticket

/-- The second page of the tickets for one seat. -/
def secondPage : List SelectClause :=
  [.filter (.matching (.record [("seat", .i32 12)])), .page 2 10]

theorem secondPage_coherent : (Usage.ofCalls none .verbatim
    (.statement model .sqlserver2012 (.select secondPage) :: history)).Coherent := by
  have names : Dialect.sqlserver2012.name ≠ Dialect.ansi.name := by decide
  constructor
  · simp [Usage.ofCalls, Call.model, history]
  · simp [Usage.ofCalls, Call.dialect?, history, names, names.symm]

theorem secondPage_from_twelfth_row :
    let text := "select [id], [seat] from [Ticket] where ([seat] = @p0) order by [id] " ++
      "offset 11 rows fetch next 10 rows only"
    (((Request.select secondPage).run model .sqlserver2012).outcome
        ((Schema.fresh none .verbatim).after history)).1 = .ok ⟨text, .numbered 0 [.i32 12]⟩ ∧
      ∃ parts order, parts.order = some order ∧
        Dialect.sqlserver2012.selectText parts = .ok text ∧
        Dialect.sqlserver2012.RestrictsTo .offsetFetch order parts 12 21 := by
  intro text
  have succeeded : (((Request.select secondPage).run model .sqlserver2012).outcome
      ((Schema.fresh none .verbatim).after history)).1 =
        .ok ⟨text, .numbered 0 [.i32 12]⟩ := rfl
  obtain ⟨-, ⟨_, _, parts, order, -, -, -, ordered, written, pages⟩, -⟩ :=
    pages_tile_from_second_row rfl secondPage_coherent succeeded
  exact ⟨succeeded, parts, order, ordered, written, pages⟩

/-- The first page does not keep the first fifteen of twenty rows. -/
theorem firstPage_skips_first_row :
    let rows := List.range' 1 20
    (((Request.select [.page 1 15]).run model .sqlite).outcome (.fresh none .verbatim)).1 =
        .ok ⟨"select \"id\", \"seat\" from \"Ticket\" order by \"id\"" ++ " limit 1, 15",
          .empty⟩ ∧
      PageClause.limitPair.rows? " limit 1, 15" rows = some (rowsBetween 2 16 rows) ∧
      rowsBetween 2 16 rows ≠ rowsBetween 1 15 rows := by
  intro rows
  exact ⟨rfl, PageClause.rows?_text .limitPair 1 15 rows, by decide⟩

end Ticket

end SqlMapper
