import SqlMapper.Dialect.Select
import SqlMapper.Proofs.Result
import SqlMapper.Proofs.Text.Runs

/-!
# One page in all dialects

Engines differ in how a statement asks for some of its rows. Here the clauses are read as the
engines do, from their text: a clause with two numbers skips rows and limits those behind
them, in an order that depends on its words, and a condition on row numbers keeps those
between two bounds. `paged_select_same_rows` says that by this reading the same page stands in
the statements of all dialects that have pages.
-/

namespace SqlMapper

/-- The rows at the positions from `first` to `last`, counted from one. -/
def rowsBetween {α : Type} (first last : Nat) (rows : List α) : List α :=
  ((rows.zipIdx 1).filter fun row => first ≤ row.2 ∧ row.2 ≤ last).map Prod.fst

/-- The rows behind some that are skipped. -/
theorem rowsBetween_skipped {α : Type} (skipped count : Nat) (rows : List α) :
    rowsBetween (skipped + 1) (skipped + count) rows = (rows.drop skipped).take count := by
  have parts : rows = rows.take skipped ++
      ((rows.drop skipped).take count ++ (rows.drop skipped).drop count) := by
    rw [List.take_append_drop, List.take_append_drop]
  have numbered := congrArg (·.zipIdx 1) parts
  simp only [List.zipIdx_append, List.length_take, List.length_drop] at numbered
  rw [rowsBetween, numbered, List.filter_append, List.filter_append]
  have before : ((rows.take skipped).zipIdx 1).filter
      (fun row => skipped + 1 ≤ row.2 ∧ row.2 ≤ skipped + count) = [] := by
    rw [List.filter_eq_nil_iff]
    rintro ⟨row, position⟩ member
    have := List.snd_lt_add_of_mem_zipIdx member
    simp only [List.length_take, decide_eq_true_eq] at this ⊢
    omega
  have within : (((rows.drop skipped).take count).zipIdx
      (1 + min skipped rows.length)).filter
      (fun row => skipped + 1 ≤ row.2 ∧ row.2 ≤ skipped + count) =
        ((rows.drop skipped).take count).zipIdx (1 + min skipped rows.length) := by
    rw [List.filter_eq_self]
    rintro ⟨row, position⟩ member
    have lower := List.le_snd_of_mem_zipIdx member
    have upper := List.snd_lt_add_of_mem_zipIdx member
    simp only [List.length_take, List.length_drop, decide_eq_true_eq] at lower upper ⊢
    omega
  have behind : (((rows.drop skipped).drop count).zipIdx
      (1 + min skipped rows.length + min count (rows.length - skipped))).filter
      (fun row => skipped + 1 ≤ row.2 ∧ row.2 ≤ skipped + count) = [] := by
    rw [List.filter_eq_nil_iff]
    rintro ⟨row, position⟩ member
    have lower := List.le_snd_of_mem_zipIdx member
    have upper := List.snd_lt_add_of_mem_zipIdx member
    simp only [List.length_drop, decide_eq_true_eq] at lower upper ⊢
    omega
  rw [before, within, behind, List.nil_append, List.append_nil, List.zipIdx_map_fst]

/-- A clause that has two numbers between fixed words. -/
structure NumberClause where
  opening : String
  middle : String
  closing : String

namespace NumberClause

def text (clause : NumberClause) (first second : Nat) : String :=
  clause.opening ++ toString first ++ clause.middle ++ toString second ++ clause.closing

/-- The two numbers of a text that is such a clause from beginning to end. -/
def read? (clause : NumberClause) (text : String) : Option (Nat × Nat) := do
  let (first, rest) ← Text.leadingNumber? (← Text.dropWords? clause.opening text.toList)
  let (second, rest) ← Text.leadingNumber? (← Text.dropWords? clause.middle rest)
  if rest = clause.closing.toList then some (first, second) else none

theorem read?_text {clause : NumberClause}
    (middle : ∀ rest, Text.endsNumber (clause.middle.toList ++ rest) = true)
    (closing : Text.endsNumber clause.closing.toList = true) (first second : Nat) :
    clause.read? (clause.text first second) = some (first, second) := by
  have chars : (clause.text first second).toList =
      clause.opening.toList ++ ((toString first).toList ++
        (clause.middle.toList ++ ((toString second).toList ++ clause.closing.toList))) := by
    simp only [text, String.toList_append, List.append_assoc]
  simp only [read?, chars, Text.dropWords?_append, Option.bind_eq_bind, Option.bind_some,
    Text.leadingNumber?_append first (middle _), Text.leadingNumber?_append second closing, if_true]

end NumberClause

/-- The clauses at the end of a select that restrict it to a page. -/
inductive PageClause where
  /-- `limit skipped, count`. -/
  | limitPair
  /-- `limit count offset skipped`. -/
  | limitOffset
  /-- `offset skipped rows fetch next count rows only`. -/
  | offsetFetch

namespace PageClause

def words : PageClause → NumberClause
  | limitPair => ⟨" limit ", ", ", ""⟩
  | limitOffset => ⟨" limit ", " offset ", ""⟩
  | offsetFetch => ⟨" offset ", " rows fetch next ", " rows only"⟩

/-- The rows that a text keeps if it is such a clause. -/
def rows? {α : Type} (clause : PageClause) (text : String) (rows : List α) :
    Option (List α) := do
  let (first, second) ← clause.words.read? text
  match clause with
  | limitPair | offsetFetch => return (rows.drop first).take second
  | limitOffset => return (rows.drop second).take first

/-- The clause that skips rows and keeps some of those behind them. -/
def text (clause : PageClause) (skipped count : Nat) : String :=
  match clause with
  | limitPair | offsetFetch => clause.words.text skipped count
  | limitOffset => clause.words.text count skipped

theorem rows?_text {α : Type} (clause : PageClause) (skipped count : Nat) (rows : List α) :
    clause.rows? (clause.text skipped count) rows =
      some (rowsBetween (skipped + 1) (skipped + count) rows) := by
  rw [rowsBetween_skipped]
  cases clause with
  | limitPair => simp [rows?, text, NumberClause.read?_text, words, Text.endsNumber]
  | limitOffset => simp [rows?, text, NumberClause.read?_text, words, Text.endsNumber]
  | offsetFetch => simp [rows?, text, NumberClause.read?_text, words, Text.endsNumber]

end PageClause

/-- The condition on row numbers behind a select that numbers its rows. -/
def NumberClause.rowNumbers : NumberClause :=
  ⟨") as [__paged] where [__row] between ", " and ", ""⟩

theorem NumberClause.read?_rowNumbers (first last : Nat) :
    rowNumbers.read? (rowNumbers.text first last) = some (first, last) :=
  read?_text (fun _ => by simp [rowNumbers, Text.endsNumber])
    (by simp [rowNumbers, Text.endsNumber]) first last

/-- The rows that a text keeps if it is a condition on row numbers. -/
def NumberClause.numberedRows? {α : Type} (text : String) (rows : List α) : Option (List α) := do
  let (first, last) ← rowNumbers.read? text
  return rowsBetween first last rows

theorem NumberClause.numberedRows?_text {α : Type} (first last : Nat) (rows : List α) :
    numberedRows? (rowNumbers.text first last) rows = some (rowsBetween first last rows) := by
  rw [numberedRows?, read?_rowNumbers]
  rfl

/-- The clause that a paging style puts at the end of a select, if it does. -/
def PagingStyle.pageClause? : PagingStyle → Option PageClause
  | limitOffset => some .limitOffset
  | limitPair => some .limitPair
  | fetch | topFetch => some .offsetFetch
  | unsupported _ | topRowNumber => none

/-- What is reported of a page without an order. -/
def Fault.unordered : Fault :=
  .invalidStatement "paging requires an order by clause"

namespace SelectParts

/-- The same select of all rows. -/
def unrestricted (parts : SelectParts) : SelectParts :=
  { parts with limit := 0, offset := 0, fetch := 0 }

/-- The same select of all rows with their numbers in the given order, which are not ordered
any further. -/
def numbered (parts : SelectParts) (order : Sql) : SelectParts :=
  { parts.unrestricted with
    selection :=
      .text "row_number() over (order by " :: order ++ .text ") as [__row], " :: parts.selection
    order := none }

variable {parts : SelectParts} {style : PagingStyle}

theorem window_of_isPaged (paged : parts.isPaged = true) :
    parts.window style = style.paged parts.requireOrder parts.offset parts.fetch := by
  rw [window, if_pos paged]

theorem requireOrder_of_some {order : Sql} (ordered : parts.order = some order) :
    parts.requireOrder = .ok order := by
  rw [requireOrder, ordered]

theorem requireOrder_of_none (unordered : parts.order = none) :
    parts.requireOrder = Fault.unordered.fail := by
  rw [requireOrder, unordered]
  rfl

end SelectParts

namespace PageClause

/-- The window that a clause writes. -/
def window (clause : PageClause) (skipped count : Nat) : RowWindow :=
  match clause with
  | limitPair => .limitPair skipped count
  | limitOffset => .limitOffset count skipped
  | offsetFetch => .offsetFetch skipped count

theorem write_window (dialect : Dialect) (clause : PageClause) (parts : SelectParts)
    (skipped count : Nat) :
    dialect.write (parts.withWindow (clause.window skipped count)) =
      dialect.write (parts.withWindow .all) ++ clause.text skipped count := by
  cases clause <;>
    simp [window, SelectParts.withWindow, Dialect.write_append, Dialect.write_cons,
      Dialect.writePiece, text, words, NumberClause.text, String.append_assoc]

theorem paged_of_pageClause? {style : PagingStyle} {clause : PageClause}
    (written : style.pageClause? = some clause) (order : Result Sql) (skipped count : Nat) :
    style.paged order skipped count = order.map fun _ => clause.window skipped count := by
  cases style <;> cases written <;> cases order <;> rfl

end PageClause

namespace PagingStyle

variable {style : PagingStyle}

theorem limited_avoids_unordered (count : Nat) :
    Result.Avoids .unordered (style.limited count) := by
  cases style with
  | unsupported family => exact .fail nofun
  | _ => exact .ok _

theorem paged_avoids_unordered (order : Sql) (skipped count : Nat) :
    Result.Avoids .unordered (style.paged (.ok order) skipped count) := by
  cases style with
  | unsupported family => exact .fail nofun
  | topRowNumber =>
      change Result.Avoids _ (if _ then _ else _)
      split
      next => exact .ok _
      next => exact .fail (by simp [Fault.unordered])
  | _ => exact .ok _

/-- A page is restricted by a clause at the end or by row numbers in its order. -/
theorem eq_window_of_paged {order : Result Sql} {skipped count : Nat} {window : RowWindow}
    (written : style.paged order skipped count = .ok window) :
    (∃ clause : PageClause, window = clause.window skipped count) ∨
      ∃ terms, order = .ok terms ∧
        window = .rowNumbers terms (skipped + 1) (skipped + count) := by
  cases ends : style.pageClause? with
  | some clause =>
      rw [PageClause.paged_of_pageClause? ends] at written
      obtain ⟨terms, -, rfl⟩ := Result.map_eq_ok.mp written
      exact .inl ⟨clause, rfl⟩
  | none =>
      cases style with
      | unsupported family => cases written
      | topRowNumber =>
          obtain ⟨terms, given, written⟩ := Result.bind_eq_ok.mp written
          split at written
          next =>
            cases written
            exact .inr ⟨terms, given, rfl⟩
          next => cases written
      | _ => cases ends

end PagingStyle

namespace Dialect

/-- The text of a select. -/
def selectText (dialect : Dialect) (parts : SelectParts) : Result String :=
  (dialect.select parts).map dialect.write

/-- An optional clause with the words that introduce it, as the dialect writes it. -/
def clauseText (dialect : Dialect) (words : String) : Option Sql → String
  | none => ""
  | some sql => words ++ dialect.write sql

/-- The selection from the source under the conditions and the grouping, in no order. -/
def unorderedText (dialect : Dialect) (parts : SelectParts) : String :=
  dialect.write parts.selection ++ " from " ++ dialect.write parts.source ++
    dialect.clauseText " where " parts.conditions ++
    dialect.clauseText " group by " parts.grouping

/-- The select is the one of all rows in the given order and a clause that keeps those at the
positions from `first` to `last`. -/
def RestrictsTo (dialect : Dialect) (clause : PageClause) (order : Sql) (parts : SelectParts)
    (first last : Nat) : Prop :=
  let whole := "select " ++ dialect.unorderedText parts ++ " order by " ++ dialect.write order
  dialect.selectText parts.unrestricted = .ok whole ∧ ∃ restriction,
    dialect.selectText parts = .ok (whole ++ restriction) ∧
    ∀ {α : Type} (rows : List α),
      clause.rows? restriction rows = some (rowsBetween first last rows)

/-- The select is one from the select of all rows with their numbers in the given order, and a
condition that keeps the numbers from `first` to `last`. -/
def NumbersFrom (dialect : Dialect) (order : Sql) (parts : SelectParts)
    (first last : Nat) : Prop :=
  let numbered := "select row_number() over (order by " ++ dialect.write order ++
    ") as [__row], " ++ dialect.unorderedText parts
  dialect.selectText (parts.numbered order) = .ok numbered ∧ ∃ bounds,
    dialect.selectText parts = .ok ("select * from (" ++ numbered ++ bounds) ∧
    NumberClause.rowNumbers.read? bounds = some (first, last) ∧
    ∀ {α : Type} (rows : List α),
      NumberClause.numberedRows? bounds rows = some (rowsBetween first last rows)

/-- The select fails with a fault of some kind. -/
def RefusesAs (dialect : Dialect) (kind : FaultKind) (parts : SelectParts) : Prop :=
  ∃ error, dialect.selectText parts = .error error ∧ error.kind = kind

section Texts

variable (dialect : Dialect) {parts : SelectParts} {order : Sql}

theorem write_clause (words : String) (sql? : Option Sql) :
    dialect.write (SelectParts.clause words sql?) = dialect.clauseText words sql? := by
  cases sql? with
  | none => rfl
  | some sql => rw [SelectParts.clause, write_cons, writePiece, clauseText]

/-- The same words in front of the same rows, whichever order follows. -/
theorem write_selected (parts : SelectParts) :
    dialect.write (parts.selection ++ .text " from " :: parts.source ++ parts.filters) =
      dialect.unorderedText parts := by
  simp only [SelectParts.filters, write_append, write_cons, writePiece, write_clause,
    unorderedText, String.append_assoc]

theorem write_all (ordered : parts.order = some order) :
    dialect.write (parts.withWindow .all) =
      "select " ++ dialect.unorderedText parts ++ " order by " ++ dialect.write order := by
  rw [SelectParts.withWindow, write_cons, writePiece, SelectParts.body, write_append,
    write_selected, write_clause, ordered, clauseText, String.append_assoc, String.append_assoc]

/-- Numbering the rows adds a column and leaves the rows as they are. -/
theorem write_numbered (parts : SelectParts) (order : Sql) :
    dialect.write ((parts.numbered order).withWindow .all) =
      "select row_number() over (order by " ++ dialect.write order ++ ") as [__row], " ++
        dialect.unorderedText parts := by
  have opening (rest : String) : "select " ++ ("row_number() over (order by " ++ rest) =
      "select row_number() over (order by " ++ rest := by
    rw [← String.append_assoc]
    rfl
  rw [SelectParts.withWindow, write_cons, SelectParts.body, write_append, write_selected]
  simp only [SelectParts.numbered, SelectParts.unrestricted, SelectParts.clause, unorderedText,
    write_cons, write_append, writePiece, write_nil, String.append_empty, String.append_assoc,
    List.cons_append, opening]

theorem write_rowNumbers (parts : SelectParts) (order : Sql) (first last : Nat) :
    dialect.write (parts.withWindow (.rowNumbers order first last)) =
      "select * from (" ++ ("select row_number() over (order by " ++ dialect.write order ++
        ") as [__row], " ++ dialect.unorderedText parts) ++
        NumberClause.rowNumbers.text first last := by
  have opening (rest : String) :
      "select * from (" ++ ("select row_number() over (order by " ++ rest) =
        "select * from (select row_number() over (order by " ++ rest := by
    rw [← String.append_assoc]
    rfl
  simp only [SelectParts.withWindow, SelectParts.filters, unorderedText, write_clause, write_cons,
    write_append, writePiece, write_nil, NumberClause.text, NumberClause.rowNumbers, opening,
    String.append_empty, String.append_assoc, List.cons_append, List.append_assoc]

end Texts

section Paged

variable {dialect : Dialect} {parts : SelectParts}

theorem selectText_of_window {window : RowWindow}
    (windowed : parts.window dialect.paging = .ok window) :
    dialect.selectText parts = .ok (dialect.write (parts.withWindow window)) := by
  rw [selectText, select, windowed]
  rfl

theorem refusesAs_of_window {error : Error}
    (failed : parts.window dialect.paging = .error error) :
    dialect.RefusesAs error.kind parts := by
  refine ⟨error, ?_, rfl⟩
  rw [selectText, select, failed]
  rfl

theorem restrictsTo_of_pageClause? {clause : PageClause} {order : Sql}
    (written : dialect.paging.pageClause? = some clause)
    (paged : parts.isPaged = true) (ordered : parts.order = some order) :
    dialect.RestrictsTo clause order parts (parts.offset + 1) (parts.offset + parts.fetch) := by
  have windowed : parts.window dialect.paging =
      .ok (clause.window parts.offset parts.fetch) := by
    rw [SelectParts.window_of_isPaged paged, SelectParts.requireOrder_of_some ordered,
      PageClause.paged_of_pageClause? written]
    rfl
  have whole := write_all dialect ordered
  refine ⟨?_, clause.text parts.offset parts.fetch, ?_,
    clause.rows?_text parts.offset parts.fetch⟩
  · rw [selectText_of_window rfl]
    exact congrArg Except.ok whole
  · rw [selectText_of_window windowed, PageClause.write_window, whole]

theorem numbersFrom_of_topRowNumber {order : Sql} (style : dialect.paging = .topRowNumber)
    (paged : parts.isPaged = true) (ordered : parts.order = some order)
    (fits : parts.offset + 1 ≤ maxRowCount ∧ parts.offset + parts.fetch ≤ maxRowCount) :
    dialect.NumbersFrom order parts (parts.offset + 1) (parts.offset + parts.fetch) := by
  have windowed : parts.window dialect.paging =
      .ok (.rowNumbers order (parts.offset + 1) (parts.offset + parts.fetch)) := by
    rw [SelectParts.window_of_isPaged paged, SelectParts.requireOrder_of_some ordered, style]
    exact if_pos fits
  refine ⟨?_, NumberClause.rowNumbers.text (parts.offset + 1) (parts.offset + parts.fetch), ?_,
    NumberClause.read?_rowNumbers _ _, NumberClause.numberedRows?_text _ _⟩
  · rw [selectText_of_window rfl, write_numbered]
  · rw [selectText_of_window windowed, write_rowNumbers]

theorem refusesAs_of_unordered {dialect : Dialect} (paged : parts.isPaged = true)
    (unordered : parts.order = none) (pages : ∀ family, dialect.paging ≠ .unsupported family) :
    dialect.RefusesAs .invalidStatement parts := by
  have failed : parts.window dialect.paging = .error (.of .unordered) := by
    rw [SelectParts.window_of_isPaged paged, SelectParts.requireOrder_of_none unordered]
    cases style : dialect.paging with
    | unsupported family => exact absurd style (pages family)
    | limitOffset | limitPair | fetch | topFetch | topRowNumber => rfl
  exact refusesAs_of_window failed

theorem exists_order_of_all (dialect : Dialect) {order : Sql}
    (ordered : parts.order = some order) :
    ∃ before, dialect.write (parts.withWindow .all) =
      before ++ ("order by " ++ dialect.write order) := by
  have words (rest : String) : " " ++ ("order by " ++ rest) = " order by " ++ rest := by
    rw [← String.append_assoc]
    rfl
  refine ⟨"select " ++ dialect.unorderedText parts ++ " ", ?_⟩
  simp only [write_all dialect ordered, words, String.append_assoc]

theorem exists_order_of_rowNumbers (order : Sql) (first last : Nat) :
    ∃ before behind, dialect.write (parts.withWindow (.rowNumbers order first last)) =
      before ++ ("order by " ++ (dialect.write order ++ behind)) := by
  have words (rest : String) : "select row_number() over (" ++ ("order by " ++ rest) =
      "select row_number() over (order by " ++ rest := by
    rw [← String.append_assoc]
    rfl
  refine ⟨"select * from (" ++ "select row_number() over (", ") as [__row], " ++
    dialect.unorderedText parts ++ NumberClause.rowNumbers.text first last, ?_⟩
  simp only [write_rowNumbers, words, String.append_assoc]

/-- The order of a page is written, whatever the dialect does with it. -/
theorem exists_order_of_selectText {order : Sql} {text : String} (paged : parts.isPaged = true)
    (ordered : parts.order = some order) (written : dialect.selectText parts = .ok text) :
    ∃ before behind, text = before ++ ("order by " ++ (dialect.write order ++ behind)) := by
  obtain ⟨sql, selected, rfl⟩ := Result.map_eq_ok.mp written
  obtain ⟨window, windowed, returned⟩ := Result.bind_eq_ok.mp selected
  cases returned
  rw [SelectParts.window_of_isPaged paged, SelectParts.requireOrder_of_some ordered] at windowed
  rcases PagingStyle.eq_window_of_paged windowed with ⟨clause, rfl⟩ | ⟨_, ⟨⟩, rfl⟩
  · obtain ⟨before, whole⟩ := exists_order_of_all dialect ordered
    refine ⟨before, clause.text parts.offset parts.fetch, ?_⟩
    rw [PageClause.write_window, whole, String.append_assoc, String.append_assoc]
  · exact exists_order_of_rowNumbers ..

/-- That an order is missing is reported of selects without one only. -/
theorem select_avoids_unordered
    (ordered : parts.isPaged = true → ∃ order, parts.order = some order) :
    Result.Avoids .unordered (dialect.select parts) := by
  have windowed : Result.Avoids .unordered (parts.window dialect.paging) := by
    unfold SelectParts.window
    split
    next paged =>
      obtain ⟨order, ordered⟩ := ordered paged
      rw [SelectParts.requireOrder_of_some ordered]
      exact PagingStyle.paged_avoids_unordered order _ _
    next =>
      split
      next => exact PagingStyle.limited_avoids_unordered _
      next => exact .ok _
  exact windowed.bind fun _ _ => .ok _

theorem selectText_limit (paged : parts.isPaged = true) (limit : Nat) :
    dialect.selectText { parts with limit } = dialect.selectText parts := by
  have windowed : ({ parts with limit } : SelectParts).window dialect.paging =
      parts.window dialect.paging := by
    have pagedToo : ({ parts with limit } : SelectParts).isPaged = true := paged
    rw [SelectParts.window_of_isPaged paged, SelectParts.window_of_isPaged pagedToo]
    rfl
  rw [selectText, selectText, select, select, windowed]
  cases parts.window dialect.paging with
  | error error => rfl
  | ok window => cases window <;> rfl

end Paged

/-- The dialects that put a clause at the end of a paged select, with the clause as their
engines understand it. -/
def pageClauses : List (Dialect × PageClause) :=
  [(sqlite, .limitPair), (mysql, .limitPair), (postgresql, .limitOffset),
    (oracle, .offsetFetch), (sqlserver2012, .offsetFetch)]

/-- A page is the same rows in all dialects that have pages. -/
theorem paged_select_same_rows (parts : SelectParts)
    (asked : parts.offset ≠ 0 ∨ parts.fetch ≠ 0) :
    (∀ order, parts.order = some order →
      (∀ entry ∈ pageClauses, entry.1.RestrictsTo entry.2 order parts
        (parts.offset + 1) (parts.offset + parts.fetch)) ∧
      (parts.offset + 1 ≤ maxRowCount ∧ parts.offset + parts.fetch ≤ maxRowCount →
        sqlserver.NumbersFrom order parts
          (parts.offset + 1) (parts.offset + parts.fetch)) ∧
      (¬(parts.offset + 1 ≤ maxRowCount ∧ parts.offset + parts.fetch ≤ maxRowCount) →
        sqlserver.RefusesAs .invalidStatement parts)) ∧
    (parts.order = none →
      ∀ dialect ∈ sqlserver :: pageClauses.map Prod.fst,
        dialect.RefusesAs .invalidStatement parts) ∧
    ansi.RefusesAs .unsupportedFeature parts ∧
    (∀ (dialect : Dialect) (limit : Nat),
      dialect.selectText { parts with limit } = dialect.selectText parts) ∧
    (parts.fetch = 0 → ∀ {α : Type} (rows : List α),
      rowsBetween (parts.offset + 1) (parts.offset + parts.fetch) rows = []) := by
  have paged : parts.isPaged = true := by simpa [SelectParts.isPaged] using asked
  refine ⟨?ordered, ?unordered, ?unsupported, fun _ => selectText_limit paged, ?empty⟩
  case ordered =>
    intro order ordered
    refine ⟨?clauses, numbersFrom_of_topRowNumber rfl paged ordered, ?beyond⟩
    case clauses =>
      have written : ∀ entry ∈ pageClauses, entry.1.paging.pageClause? = some entry.2 := by
        simp [pageClauses, PagingStyle.pageClause?, sqlite, mysql, postgresql, oracle,
          sqlserver2012]
      exact fun entry member => restrictsTo_of_pageClause? (written entry member) paged ordered
    case beyond =>
      intro beyond
      have failed : parts.window sqlserver.paging =
          .error (.of (.invalidStatement "page window exceeds the row number range")) := by
        rw [SelectParts.window_of_isPaged paged, SelectParts.requireOrder_of_some ordered]
        exact if_neg beyond
      exact refusesAs_of_window failed
  case unordered =>
    intro unordered dialect member
    have pages : ∀ dialect ∈ sqlserver :: pageClauses.map Prod.fst,
        ∀ family, dialect.paging ≠ .unsupported family := by
      simp [pageClauses, sqlserver, sqlite, mysql, postgresql, oracle, sqlserver2012]
    exact refusesAs_of_unordered paged unordered (pages dialect member)
  case unsupported =>
    have failed : parts.window ansi.paging = .error (.of (.unsupportedFeature
        "limit and paging are not supported by the ansi dialect")) := by
      rw [SelectParts.window_of_isPaged paged]
      rfl
    exact refusesAs_of_window failed
  case empty =>
    intro none α rows
    rw [rowsBetween_skipped, none, List.take_zero]

/-- The fourth and the fifth owner who paid, by name. The limit has no effect. -/
def fourthAndFifth : SelectParts :=
  { SelectParts.plain [.identifier "owner"] [.identifier "ticket"] with
    conditions := some [.identifier "paid", .text " = ", .placeholder "p0"]
    grouping := some [.identifier "owner"], order := some [.identifier "owner"]
    limit := 9, offset := 3, fetch := 2 }

theorem fourthAndFifth_same_rows :
    (fourthAndFifth.offset ≠ 0 ∨ fourthAndFifth.fetch ≠ 0) ∧
    (∀ entry ∈ pageClauses, entry.1.RestrictsTo entry.2 [.identifier "owner"] fourthAndFifth 4 5) ∧
    sqlserver.NumbersFrom [.identifier "owner"] fourthAndFifth 4 5 ∧
    postgresql.selectText fourthAndFifth =
      .ok ("select \"owner\" from \"ticket\" where \"paid\" = @p0 group by \"owner\" " ++
        "order by \"owner\" limit 2 offset 3") ∧
    sqlserver.selectText fourthAndFifth =
      .ok ("select * from (select row_number() over (order by [owner]) as [__row], [owner] " ++
        "from [ticket] where [paid] = @p0 group by [owner]) as [__paged] " ++
        "where [__row] between 4 and 5") := by
  have asked : fourthAndFifth.offset ≠ 0 ∨ fourthAndFifth.fetch ≠ 0 := by decide
  obtain ⟨ordered, -⟩ := paged_select_same_rows fourthAndFifth asked
  obtain ⟨clauses, numbers, -⟩ := ordered [.identifier "owner"] rfl
  exact ⟨asked, clauses, numbers (by decide), rfl, rfl⟩

end Dialect

end SqlMapper
