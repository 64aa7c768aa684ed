import SqlMapper.Dialect

/-!
# Select statements

The clauses of a select are put together by the dialect, because dialects differ
in where they restrict the rows. Which rows are wanted is first turned into a
`RowWindow`, the restriction that the dialect is able to write.
-/

namespace SqlMapper

/-- The largest row position or count that can be written. -/
def maxRowCount : Nat :=
  0xFFFFFFFFFFFFFFFF

/-- The clauses of a select. Counts of zero mean that nothing is asked for; a
page, given by `offset` and `fetch`, takes precedence over `limit`. -/
structure SelectParts where
  selection : Sql
  source : Sql
  conditions : Option Sql
  grouping : Option Sql
  order : Option Sql
  limit : Nat
  offset : Nat
  fetch : Nat

/-- A restriction to some rows, as a dialect writes it. -/
inductive RowWindow where
  /-- Every row. -/
  | all
  /-- `top(count)` before the selection. -/
  | top (count : Nat)
  /-- `limit count`. -/
  | limit (count : Nat)
  /-- `fetch first count rows only`. -/
  | fetchFirst (count : Nat)
  /-- `limit count offset skipped`. -/
  | limitOffset (count skipped : Nat)
  /-- `limit skipped, count`. -/
  | limitPair (skipped count : Nat)
  /-- `offset skipped rows fetch next count rows only`. -/
  | offsetFetch (skipped count : Nat)
  /-- Row numbers in the given `order`, from `first` to `last`. -/
  | rowNumbers (order : Sql) (first last : Nat)

namespace SelectParts

/-- A select of everything, without restrictions. -/
def plain (selection source : Sql) : SelectParts :=
  { selection, source, conditions := none, grouping := none, order := none
    limit := 0, offset := 0, fetch := 0 }

/-- Whether a page is asked for. -/
def isPaged (parts : SelectParts) : Bool :=
  parts.offset ≠ 0 || parts.fetch ≠ 0

/-- Whether a limit is asked for and no page. -/
def isLimited (parts : SelectParts) : Bool :=
  parts.limit ≠ 0 && !parts.isPaged

/-- The order, which paging cannot do without. -/
def requireOrder (parts : SelectParts) : Result Sql :=
  match parts.order with
  | some order => .ok order
  | none => (Fault.invalidStatement "paging requires an order by clause").fail

/-- An optional clause with the words that introduce it. -/
def clause (words : String) : Option Sql → Sql
  | none => []
  | some sql => .text words :: sql

/-- Everything between the source and the order. -/
def filters (parts : SelectParts) : Sql :=
  clause " where " parts.conditions ++ clause " group by " parts.grouping

/-- The selection, the source and all clauses. -/
def body (parts : SelectParts) : Sql :=
  parts.selection ++ .text " from " :: parts.source ++ parts.filters ++
    clause " order by " parts.order

end SelectParts

namespace PagingStyle

/-- The window that a limit asks for. -/
def limited (style : PagingStyle) (count : Nat) : Result RowWindow :=
  match style with
  | unsupported family =>
    (Fault.unsupportedFeature
      ("limit and paging are not supported by the " ++ family ++ " dialect")).fail
  | limitOffset | limitPair => .ok (.limit count)
  | fetch => .ok (.fetchFirst count)
  | topFetch | topRowNumber => .ok (.top count)

/-- The window that a page asks for: `count` rows after the first `skipped` in
the given order. -/
def paged (style : PagingStyle) (order : Result Sql) (skipped count : Nat) :
    Result RowWindow :=
  match style with
  | unsupported family =>
    (Fault.unsupportedFeature
      ("limit and paging are not supported by the " ++ family ++ " dialect")).fail
  | limitOffset => do let _ ← order; return .limitOffset count skipped
  | limitPair => do let _ ← order; return .limitPair skipped count
  | fetch | topFetch => do let _ ← order; return .offsetFetch skipped count
  | topRowNumber => do
    let order ← order
    if skipped + 1 ≤ maxRowCount ∧ skipped + count ≤ maxRowCount then
      return .rowNumbers order (skipped + 1) (skipped + count)
    else (Fault.invalidStatement "page window exceeds the row number range").fail

end PagingStyle

namespace SelectParts

/-- The window of rows that the parts ask for, in the style of a dialect. -/
def window (parts : SelectParts) (style : PagingStyle) : Result RowWindow :=
  if parts.isPaged then style.paged parts.requireOrder parts.offset parts.fetch
  else if parts.isLimited then style.limited parts.limit
  else .ok .all

/-- The statement with a window written into it. -/
def withWindow (parts : SelectParts) : RowWindow → Sql
  | .all => .text "select " :: parts.body
  | .top count => [.text "select top(", .number count, .text ") "] ++ parts.body
  | .limit count => .text "select " :: parts.body ++ [.text " limit ", .number count]
  | .fetchFirst count =>
    .text "select " :: parts.body ++
      [.text " fetch first ", .number count, .text " rows only"]
  | .limitOffset count skipped =>
    .text "select " :: parts.body ++
      [.text " limit ", .number count, .text " offset ", .number skipped]
  | .limitPair skipped count =>
    .text "select " :: parts.body ++
      [.text " limit ", .number skipped, .text ", ", .number count]
  | .offsetFetch skipped count =>
    .text "select " :: parts.body ++
      [.text " offset ", .number skipped, .text " rows fetch next ", .number count,
        .text " rows only"]
  | .rowNumbers order first last =>
    .text "select * from (select row_number() over (order by " :: order ++
      .text ") as [__row], " :: parts.selection ++ .text " from " :: parts.source ++
      parts.filters ++
      [.text ") as [__paged] where [__row] between ", .number first, .text " and ",
        .number last]

end SelectParts

namespace Dialect

/-- A complete select. -/
def select (dialect : Dialect) (parts : SelectParts) : Result Sql := do
  return parts.withWindow (← parts.window dialect.paging)

end Dialect

end SqlMapper
