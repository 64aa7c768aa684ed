import SqlMapper.Proofs.Statement.ByKey
import SqlMapper.Statement.Insert

/-!
# The wording of writes

What inserts and updates say once a dialect has written them. `Insert.text` and `Update.text`
are the whole texts: columns beside what is written for them, and nothing behind that but the
report of an identity or one condition.
-/

namespace SqlMapper

open Params

namespace Dialect

/-- The columns of some properties as the dialect writes them. -/
def columnTexts (dialect : Dialect) (properties : List Property) : List String :=
  properties.map fun property => dialect.escapeIdentifier property.column

/-- The placeholders of some parameters with consecutive numbers. -/
def markTexts (dialect : Dialect) (first count : Nat) : List String :=
  (generatedNames first count).map dialect.placeholder

/-- Every key column compared with the parameter of its own number, counted from `first`. -/
def keyText (dialect : Dialect) (map : TableMap) (first : Nat) : String :=
  Text.join " and "
    (List.zipWith (fun column parameter => "(" ++ column ++ " = " ++ parameter ++ ")")
      (dialect.columnTexts map.primaryKey) (dialect.markTexts first map.primaryKey.length))

variable {dialect : Dialect}

theorem write_joinPieces (separator : String) (fragments : List Sql) :
    dialect.write (joinPieces separator fragments) =
      Text.join separator (fragments.map dialect.write) := by
  induction fragments with
  | nil => rfl
  | cons fragment rest inductionHypothesis =>
      cases rest with
      | nil => rfl
      | cons next rest =>
          rw [joinPieces_cons_cons, write_append, write_cons, inductionHypothesis, writePiece,
            ← String.append_assoc]
          rfl

theorem write_columnSql (property : Property) :
    dialect.write property.columnSql = dialect.escapeIdentifier property.column := by
  simp [Property.columnSql, write_cons, writePiece]

theorem write_assignSql (property : Property) (value : Sql) :
    dialect.write (property.assignSql value) =
      dialect.escapeIdentifier property.column ++ " = " ++ dialect.write value := by
  rw [Property.assignSql, write_append, write_columnSql, write_cons, writePiece,
    String.append_assoc]

theorem write_equalsParameter (property : Property) (name : String) :
    dialect.write (property.equalsParameter name) =
      "(" ++ dialect.escapeIdentifier property.column ++ " = " ++ dialect.placeholder name ++
        ")" := by
  simp [Property.equalsParameter, write_cons, write_append, write_columnSql, writePiece,
    String.append_assoc]

section Numbered

variable (dialect) (properties : List Property) (first : Nat)

/-- Numbered properties, written one by one beside their placeholders. -/
theorem map_write_numbered {fragment : Property → String → Sql}
    {pair : String → String → String}
    (written : ∀ property name, dialect.write (fragment property name) =
      pair (dialect.escapeIdentifier property.column) (dialect.placeholder name)) :
    ((TableMap.numbered properties first).map fun column => fragment column.1 column.2).map
      dialect.write =
        List.zipWith pair (dialect.columnTexts properties)
          (dialect.markTexts first properties.length) := by
  rw [TableMap.numbered_eq_zip, List.map_map, List.map_zip_eq_zipWith, columnTexts, markTexts,
    List.zipWith_map]
  exact congrArg (fun write => List.zipWith write _ _)
    (funext fun property => funext fun name => written property name)

theorem map_write_columnSql_numbered :
    ((TableMap.numbered properties first).map fun column => column.1.columnSql).map
      dialect.write = dialect.columnTexts properties := by
  rw [columnTexts, List.map_map]
  conv_rhs => rw [← TableMap.map_fst_numbered properties first, List.map_map]
  exact List.map_congr_left fun column _ => write_columnSql column.1

theorem map_write_placeholder_numbered :
    ((TableMap.numbered properties first).map fun column => [.placeholder column.2]).map
      dialect.write = dialect.markTexts first properties.length := by
  rw [markTexts, ← TableMap.map_snd_numbered, List.map_map, List.map_map]
  exact List.map_congr_left fun column _ => by simp [write_cons, writePiece]

end Numbered

theorem write_keyConditions (map : TableMap) (first : Nat) :
    dialect.write (map.keyConditions first) = dialect.keyText map first := by
  have compared : ((TableMap.numbered map.primaryKey first).map fun column =>
      column.1.equalsParameter column.2).map dialect.write =
        List.zipWith (fun column parameter => "(" ++ column ++ " = " ++ parameter ++ ")")
          (dialect.columnTexts map.primaryKey)
          (dialect.markTexts first map.primaryKey.length) :=
    map_write_numbered dialect map.primaryKey first write_equalsParameter
  rw [TableMap.keyConditions, write_joinPieces, keyText, ← compared]

end Dialect

namespace Insert

variable {map : TableMap} {dialect : Dialect}

/-- The text lists the insertable columns and as many placeholders, and ends in what reports
the identity. -/
def text (dialect : Dialect) (map : TableMap) (reported : String) : String :=
  "insert into " ++ dialect.escapeIdentifier map.table ++
    (if map.insertable = [] then " default values"
      else " (" ++ Text.join ", " (dialect.columnTexts map.insertable) ++ ") values (" ++
        Text.join ", " (dialect.markTexts 0 map.insertable.length) ++ ")") ++
    reported

/-- What follows the values: the clause of the dialect for the column of the identity, or
nothing for a model without one. -/
def Reports (map : TableMap) (dialect : Dialect) (reported : String) : Prop :=
  match map.identity? with
  | none => reported = ""
  | some identity => reported ≠ "" ∧ ∃ clause,
      dialect.identityClause identity.columnSql = .ok clause ∧ reported = dialect.write clause

/-- A clause that reports an identity is not empty. -/
theorem write_ne_empty_of_identityClause {column clause : Sql}
    (reported : dialect.identityClause column = .ok clause) : dialect.write clause ≠ "" := by
  unfold Dialect.identityClause at reported
  split at reported
  next => cases reported
  next =>
    cases reported
    simp [Dialect.write_cons, Dialect.writePiece]
  next =>
    cases reported
    simp [Dialect.write_cons, Dialect.writePiece]

theorem reports_of_identitySql {identity : Sql}
    (written : identitySql map dialect = .ok identity) :
    Reports map dialect (dialect.write identity) := by
  unfold identitySql at written
  unfold Reports
  cases found : map.identity? with
  | none =>
      rw [found] at written
      cases written
      rfl
  | some property =>
      rw [found] at written
      exact ⟨write_ne_empty_of_identityClause written, identity, written, rfl⟩

/-- The columns stand beside the placeholders of their numbers. -/
theorem write_valuesSql (map : TableMap) (dialect : Dialect) :
    dialect.write (valuesSql map) =
      if map.insertable = [] then " default values"
      else " (" ++ Text.join ", " (dialect.columnTexts map.insertable) ++ ") values (" ++
        Text.join ", " (dialect.markTexts 0 map.insertable.length) ++ ")" := by
  have none : (TableMap.numbered map.insertable 0).isEmpty = true ↔ map.insertable = [] := by
    rw [List.isEmpty_iff, ← List.length_eq_zero_iff, TableMap.length_numbered,
      List.length_eq_zero_iff]
  have columns := dialect.map_write_columnSql_numbered map.insertable 0
  have placeholders := dialect.map_write_placeholder_numbered map.insertable 0
  simp only [valuesSql, none]
  split
  next => simp [Dialect.write_cons, Dialect.writePiece]
  next =>
    simp only [List.cons_append, Dialect.write_cons, Dialect.write_append,
      Dialect.write_joinPieces, columns, placeholders, Dialect.writePiece,
      Dialect.write_nil, String.append_empty, String.append_assoc]

/-- The insert has no other text than that of its columns and its identity. -/
theorem map_write_sql (map : TableMap) (dialect : Dialect) :
    (sql map dialect).map dialect.write =
      (identitySql map dialect).map fun identity => text dialect map (dialect.write identity) := by
  have written (identity : Sql) :
      dialect.write (.text "insert into " :: map.tableSql ++ valuesSql map ++ identity) =
        text dialect map (dialect.write identity) := by
    rw [text, ← write_valuesSql]
    simp only [TableMap.tableSql, Dialect.write_append, Dialect.write_cons, Dialect.write_nil,
      Dialect.writePiece, String.append_empty]
  rw [sql]
  cases identitySql map dialect with
  | error error => rfl
  | ok identity => exact congrArg Except.ok (written identity)

theorem exists_reports_of_sql {insert : Sql} (written : sql map dialect = .ok insert) :
    ∃ reported, Reports map dialect reported ∧
      dialect.write insert = text dialect map reported := by
  have texts := map_write_sql map dialect
  rw [written] at texts
  obtain ⟨identity, reported, same⟩ := Result.map_eq_ok.mp texts.symm
  exact ⟨_, reports_of_identitySql reported, same.symm⟩

end Insert

namespace Update

/-- A condition behind the word that introduces it. -/
def conditionText : Option String → String
  | none => ""
  | some condition => " where " ++ condition

/-- The text sets columns to what is written for them, and ends in the condition, if there is
one. -/
def text (dialect : Dialect) (map : TableMap) (properties : List Property)
    (values : List String) (condition? : Option String) : String :=
  "update " ++ dialect.escapeIdentifier map.table ++ " set " ++
    Text.join ", " (List.zipWith (fun column value => column ++ " = " ++ value)
      (dialect.columnTexts properties) values) ++
    conditionText condition?

/-- The text by primary key: every updatable column is set to the parameter of its own number,
and those of the key have the next numbers. -/
def byKeyText (dialect : Dialect) (map : TableMap) : String :=
  text dialect map map.updatable (dialect.markTexts 0 map.updatable.length)
    (some (dialect.keyText map map.updatable.length))

variable {map : TableMap} {dialect : Dialect}

/-- The update has no other text than that of its assignments and its condition. -/
theorem write_sql (map : TableMap) (dialect : Dialect) (properties : List Property)
    (values : List Sql) (condition? : Option Sql) :
    dialect.write (sql map (List.zipWith Property.assignSql properties values) condition?) =
      text dialect map properties (values.map dialect.write) (condition?.map dialect.write) := by
  have assignments : (List.zipWith Property.assignSql properties values).map dialect.write =
      List.zipWith (fun column value => column ++ " = " ++ value)
        (dialect.columnTexts properties) (values.map dialect.write) := by
    rw [Dialect.columnTexts, List.zipWith_map, List.map_zipWith]
    simp only [Dialect.write_assignSql]
  have condition : dialect.write (SelectParts.clause " where " condition?) =
      conditionText (condition?.map dialect.write) := by
    cases condition? with
    | none => rfl
    | some condition =>
        rw [SelectParts.clause, Dialect.write_cons, Dialect.writePiece, Option.map_some,
          conditionText]
  rw [sql, text, Dialect.write_append, Dialect.write_append, Dialect.write_cons,
    Dialect.write_cons, Dialect.write_joinPieces, assignments, condition, TableMap.tableSql,
    Dialect.write_cons, Dialect.write_nil, String.append_empty]
  simp only [Dialect.writePiece, String.append_assoc]

/-- What the shape by primary key says. -/
theorem write_byKeySql {byKey : Sql} (written : byKeySql map = .ok byKey) :
    dialect.write byKey = byKeyText dialect map := by
  obtain ⟨-, -, rfl⟩ := byKeySql_eq_ok.mp written
  have assigned : assignments map = List.zipWith Property.assignSql map.updatable
      ((generatedNames 0 map.updatable.length).map fun name => [.placeholder name]) := by
    rw [assignments, TableMap.numbered_eq_zip, List.zipWith_map_right]
    exact List.map_zip_eq_zipWith
  rw [assigned, write_sql, byKeyText, Dialect.markTexts, List.map_map, Option.map_some,
    Dialect.write_keyConditions]
  refine congrArg (fun values => text dialect map map.updatable values _) ?_
  exact List.map_congr_left fun name _ => by simp [Dialect.write_cons, Dialect.writePiece]

end Update

end SqlMapper
