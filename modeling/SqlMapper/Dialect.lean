import SqlMapper.Sql
import SqlMapper.Text.Search

/-!
# Dialects

A dialect says how one database engine writes identifiers and placeholders,
separates statements, limits a select, and reports the identity of an inserted
row. All of it is data, so a dialect of one's own is a built-in one with some
parts exchanged.
-/

namespace SqlMapper

/-- How a dialect restricts a select to some of its rows. -/
inductive PagingStyle where
  /-- Not at all; the reason names the dialect family. -/
  | unsupported (family : String)
  /-- `limit n` and `limit n offset m`. -/
  | limitOffset
  /-- `limit n` and `limit m, n`. -/
  | limitPair
  /-- `fetch first n rows only` and `offset m rows fetch next n rows only`. -/
  | fetch
  /-- `top(n)` and `offset m rows fetch next n rows only`. -/
  | topFetch
  /-- `top(n)`, and row numbers in a derived table. -/
  | topRowNumber

/-- How a dialect reads back the identity of an inserted row. -/
inductive IdentityStyle where
  /-- Not at all; the reason names the dialect family. -/
  | unsupported (family : String)
  /-- A clause of the insert that names the column. -/
  | returning
  /-- A second statement. -/
  | followUp (call : String)

/-- One database engine's way of writing statements. -/
structure Dialect where
  /-- Identifies the dialect among others. -/
  name : String
  /-- Delimiters around each segment of an identifier. -/
  left : String
  right : String
  /-- Stands before the name of a parameter. -/
  marker : String
  /-- Stands between the statements of a batch. -/
  separator : String
  paging : PagingStyle
  identity : IdentityStyle

namespace Dialect

/-- Whether a segment is longer than one byte and has both delimiters. -/
def isDelimited (dialect : Dialect) (segment : String) : Bool :=
  Text.startsWith segment dialect.left && Text.endsWith segment dialect.right &&
    1 < segment.utf8ByteSize

/-- A segment between delimiters; one that has them is kept as it is. -/
def escapeSegment (dialect : Dialect) (segment : String) : String :=
  if dialect.isDelimited segment then segment else dialect.left ++ segment ++ dialect.right

/-- An identifier with each of its segments delimited. -/
def escapeIdentifier (dialect : Dialect) (identifier : String) : String :=
  Text.join "." ((Text.splitOn '.' identifier.toList).map fun segment =>
    dialect.escapeSegment (String.ofList segment))

/-- The placeholder of a parameter. -/
def placeholder (dialect : Dialect) (name : String) : String :=
  dialect.marker ++ name

/-- One piece as the dialect writes it. -/
def writePiece (dialect : Dialect) : Piece String → String
  | .text text => text
  | .raw text => text
  | .number number => toString number
  | .identifier name => dialect.escapeIdentifier name
  | .literal literal => literal.text
  | .placeholder name => dialect.placeholder name

/-- A fragment as the dialect writes it. -/
def write (dialect : Dialect) (sql : Sql) : String :=
  String.join (sql.map dialect.writePiece)

@[simp] theorem write_nil (dialect : Dialect) : dialect.write [] = "" := rfl

theorem write_append (dialect : Dialect) (first second : Sql) :
    dialect.write (first ++ second) = dialect.write first ++ dialect.write second := by
  simp [write]

theorem write_cons (dialect : Dialect) (piece : Piece String) (rest : Sql) :
    dialect.write (piece :: rest) = dialect.writePiece piece ++ dialect.write rest := by
  simp [write]

@[simp] theorem toList_write_cons (dialect : Dialect) (piece : Piece String) (rest : Sql) :
    (dialect.write (piece :: rest)).toList =
      (dialect.writePiece piece).toList ++ (dialect.write rest).toList := by
  rw [write_cons, String.toList_append]

/-- What follows an insert so that the identity in `column` is reported. -/
def identityClause (dialect : Dialect) (column : Sql) : Result Sql :=
  match dialect.identity with
  | .unsupported family =>
    (Fault.unsupportedFeature
      ("identity retrieval is not supported by the " ++ family ++ " dialect")).fail
  | .returning => .ok (.text " returning " :: column)
  | .followUp call => .ok [.text ("; select " ++ call)]

/-- Standard SQL, without limits, paging or identity retrieval. -/
def ansi : Dialect :=
  { name := "ansi", left := "\"", right := "\"", marker := "@", separator := ";\n"
    paging := .unsupported "ansi", identity := .unsupported "ansi" }

def oracle : Dialect :=
  { ansi with
    name := "oracle", marker := ":", paging := .fetch, identity := .unsupported "oracle" }

def postgresql : Dialect :=
  { ansi with name := "postgresql", paging := .limitOffset, identity := .returning }

def sqlite : Dialect :=
  { ansi with
    name := "sqlite", paging := .limitPair, identity := .followUp "last_insert_rowid()" }

def mysql : Dialect :=
  { ansi with
    name := "mysql", left := "`", right := "`"
    paging := .limitPair, identity := .followUp "last_insert_id()" }

def sqlserver : Dialect :=
  { ansi with
    name := "sqlserver", left := "[", right := "]"
    paging := .topRowNumber, identity := .followUp "scope_identity()" }

/-- The first version of its engine that pages without row numbers. -/
def sqlserver2012 : Dialect :=
  { sqlserver with name := "sqlserver2012", paging := .topFetch }

/-- The built-in dialects. -/
def builtin : List Dialect :=
  [ansi, sqlserver, sqlserver2012, sqlite, mysql, postgresql, oracle]

end Dialect

end SqlMapper
