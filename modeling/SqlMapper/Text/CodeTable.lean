import SqlMapper.Text.CodeRange
import SqlMapper.Text.Numeral
import SqlMapper.Text.Search

/-!
# Tables of code points as text

Large tables are written as lines of entries with a blank between them. Code points
are hexadecimal, and a hyphen stands between the ends of a range. An entry with a
sign of equality says what its code points are taken to. A range is taken to
consecutive code points from the given one on, as in `FF21-FF3A=61`. A single code
point may be followed by the forms of the next ones, with commas between forms and
plus signs between the code points of a form, as in `132=69+6A,69+6A`. What is not
an entry is left out.
-/

namespace SqlMapper.Text

/-- The entries of a table. -/
def tableEntries (table : List String) : List (List Char) :=
  table.flatMap fun line => splitOn ' ' line.toList

/-- A code point in hexadecimal digits. -/
def readPoint? (digits : List Char) : Option Nat :=
  readNumber? 16 digits

/-- A single code point, or a range of them. -/
def CodeRange.read? (entry : List Char) : Option CodeRange := do
  match ← (splitOn '-' entry).mapM readPoint? with
  | [point] => some ⟨point, point, 1⟩
  | [first, last] => some ⟨first, last, 1⟩
  | _ => none

/-- The ranges of a table. -/
def CodeRange.readAll (table : List String) : List CodeRange :=
  (tableEntries table).filterMap CodeRange.read?

/-- A range, with the code point that its first one is taken to. -/
def readRun? (entry : List Char) : Option (CodeRange × Nat) := do
  match splitOn '=' entry with
  | [range, target] => some (← CodeRange.read? range, ← readPoint? target)
  | _ => none

/-- The ranges of a table, each with the code point that its first one is taken to. -/
def readRuns (table : List String) : List (CodeRange × Nat) :=
  (tableEntries table).filterMap readRun?

/-- A code point and its form, followed by the code points after it and theirs. -/
def readFormsAt? (entry : List Char) : Option (List (Nat × List Nat)) := do
  match splitOn '=' entry with
  | [first, forms] =>
    let first ← readPoint? first
    let forms ← (splitOn ',' forms).mapM fun form => (splitOn '+' form).mapM readPoint?
    some (forms.zipIdx.map fun (form, index) => (first + index, form))
  | _ => none

/-- The code points of a table, each with its form. -/
def readForms (table : List String) : List (Nat × List Nat) :=
  ((tableEntries table).filterMap readFormsAt?).flatten

end SqlMapper.Text
