import SqlMapper.Proofs.Schema.Remembered
import SqlMapper.Proofs.Statement.Wording

/-!
# Inserts of a row

An insert goes through its map three times, for the columns, for their placeholders and for
the values, and the text with the first two may have been written for an earlier row. All
three passes take the same properties in the same order, so the parameter of every placeholder
is the stored value of the column it stands for. An insert of a row fails when the dialect
cannot report the identity of the model, and otherwise for a value that its field does not
know, in which case the text stays remembered.
-/

namespace SqlMapper

open Params

namespace Property

variable {property : Property} {row : Row}

/-- The field is coded, and its value in the row is none of those that have a code. -/
def Misses (property : Property) (row : Row) (coding : ValueMap) : Prop :=
  property.valueMap = some coding ∧ (property.held row).isNull = false ∧
    ∀ entry ∈ coding.entries, entry.1.same (property.held row) = false

/-- A value has no stored form exactly when it misses its code, and says so. -/
theorem heldStored_eq_error_iff {error : Error} :
    property.heldStored row = .error error ↔
      ∃ coding, property.Misses row coding ∧
        error = .of (.valueNotMapped (property.held row) coding.type) := by
  rw [heldStored, toStored]
  cases coded : property.valueMap with
  | none => simp [Misses, coded]
  | some coding =>
      simp only [Misses, coded, Option.some.injEq, and_assoc, exists_eq_left']
      cases null : (property.held row).isNull with
      | true => simp [ValueMap.toStored, null]
      | false => simp [ValueMap.toStored_eq_error_iff coding null]

theorem exists_heldStored_iff :
    (∃ stored, property.heldStored row = .ok stored) ↔
      ∀ coding, ¬ property.Misses row coding := by
  constructor
  · rintro ⟨stored, converted⟩ coding misses
    have failed := heldStored_eq_error_iff.mpr ⟨coding, misses, rfl⟩
    cases converted.symm.trans failed
  · intro known
    cases converted : property.heldStored row with
    | ok stored => exact ⟨stored, rfl⟩
    | error error =>
        obtain ⟨coding, misses, -⟩ := heldStored_eq_error_iff.mp converted
        exact absurd misses (known coding)

end Property

namespace TableMap

variable {map : TableMap} {dialect : Dialect} {row : Row} {error : Error}

/-- The error is about the first insertable field whose value misses its code. -/
def MissesValue (map : TableMap) (row : Row) (error : Error) : Prop :=
  ∃ before property after coding, map.insertable = before ++ property :: after ∧
    (∀ earlier ∈ before, ∀ coding, ¬ earlier.Misses row coding) ∧
    property.Misses row coding ∧
    error = .of (.valueNotMapped (property.held row) coding.type)

/-- The model has an identity, and the error is why the dialect cannot report it. -/
def RefusesIdentity (map : TableMap) (dialect : Dialect) (error : Error) : Prop :=
  ∃ identity, map.identity? = some identity ∧
    dialect.identityClause identity.columnSql = .error error

theorem mapM_heldStored_eq_error_iff :
    map.insertable.mapM (Property.heldStored row) = .error error ↔ map.MissesValue row error := by
  rw [Result.mapM_eq_error_iff, MissesValue]
  simp only [Property.exists_heldStored_iff, Property.heldStored_eq_error_iff]
  constructor
  · rintro ⟨before, property, after, split, earlier, coding, misses⟩
    exact ⟨before, property, after, coding, split, earlier, misses⟩
  · rintro ⟨before, property, after, coding, split, earlier, misses⟩
    exact ⟨before, property, after, split, earlier, coding, misses⟩

/-- Some value is missed when not all of them can be stored. -/
theorem exists_missesValue_iff :
    (∃ error, map.MissesValue row error) ↔
      ∃ property ∈ map.insertable, ∃ coding, property.Misses row coding := by
  simp only [← mapM_heldStored_eq_error_iff, Result.exists_eq_error_iff,
    Result.exists_mapM_eq_ok_iff, Property.exists_heldStored_iff, not_forall, not_not, exists_prop]

/-- A row of the model has the fields of its map. -/
theorem owns_of_ofModel_eq_ok {tableStem : Option String} {naming : Naming} {model : Model}
    (mapped : ofModel tableStem naming model = .ok map) (own : row.type = model.type) :
    map.Owns row := by
  obtain rfl := eq_draft_of_ofModel_eq_ok mapped
  intro property member
  obtain ⟨field, -, rfl⟩ := List.mem_map.mp member
  exact own

end TableMap

namespace Insert

variable {map : TableMap} {dialect : Dialect}

theorem identitySql_eq_error_iff {error : Error} :
    identitySql map dialect = .error error ↔ map.RefusesIdentity dialect error := by
  unfold identitySql TableMap.RefusesIdentity
  cases map.identity? with
  | none => simp
  | some identity => simp

end Insert

section Histories

variable {tableStem : Option String} {naming : Naming} {history : List Call} {model : Model}
  {map : TableMap} {dialect : Dialect} {row : Row}

/-- After a coherent history an insert reports the identity and then converts the values. -/
theorem outcome_insert (mapped : TableMap.ofModel tableStem naming model = .ok map)
    (coherent : (Usage.ofCalls tableStem naming
      (.statement model dialect (.insert (some row)) :: history)).Coherent)
    (own : row.type = model.type) :
    (((Request.insert (some row)).run model dialect).outcome
        ((Schema.fresh tableStem naming).after history)).1 =
      Insert.identitySql map dialect >>= fun identity =>
        (map.insertable.mapM (Property.heldStored row)).map fun stored =>
          ⟨Insert.text dialect map (dialect.write identity), .numbered 0 stored⟩ := by
  have owns := TableMap.owns_of_ofModel_eq_ok mapped own
  have stored : map.insertable.mapM (fun property => property.storedOf row) =
      map.insertable.mapM (Property.heldStored row) :=
    Result.mapM_congr fun property member =>
      Property.storedOf_of_owned (owns property (List.mem_filter.mp member).1)
  rw [Usage.outcome_after _ coherent, mapped]
  change Request.result map dialect (.insert (some row)) = _
  simp only [Request.result, Insert.map_write_sql, stored, pushAll_empty]
  cases Insert.identitySql map dialect with
  | error error => rfl
  | ok identity => cases map.insertable.mapM (Property.heldStored row) <;> rfl

/-- The text of the insert is remembered afterwards if it could be written. -/
theorem text?_after_insert (mapped : TableMap.ofModel tableStem naming model = .ok map)
    (coherent : (Usage.ofCalls tableStem naming
      (.statement model dialect (.insert (some row)) :: history)).Coherent) :
    (((Request.insert (some row)).run model dialect).outcome
        ((Schema.fresh tableStem naming).after history)).2.text?
          ⟨.insert, dialect.name, model.type⟩ =
      ((Insert.identitySql map dialect).map fun identity =>
        Insert.text dialect map (dialect.write identity)).toOption := by
  obtain ⟨modelUsed, -⟩ := Usage.mem_ofCalls tableStem naming
    (List.mem_cons_self (a := .statement model dialect (.insert (some row))) (l := history))
  have known : ((Schema.tableMap model).outcome
      ((Schema.fresh tableStem naming).after history)).1 = .ok map :=
    (coherent.computes_tableMap modelUsed _ coherent.explains_after_fresh).1.trans mapped
  have remembered := Usage.outcome_text_after .insert coherent mapped
  rw [Request.outcome_run]
  rcases ran : (Schema.tableMap model).outcome ((Schema.fresh tableStem naming).after history)
    with ⟨result, after⟩
  rw [ran] at known remembered
  cases known
  change ((Schema.text _ _).outcome after).2.text? _ = _
  rw [← TableMap.name_of_ofModel_eq_ok mapped, Schema.text?_outcome_text, ← Insert.map_write_sql]
  exact congrArg Except.toOption remembered

/-- After any history that is coherent with it, an insert of a row of its model: its text lists
the insertable columns in the order of the map beside the placeholders numbered from zero, and
ends in the clause of the dialect that reports the identity, if the model has one; its
parameters are the stored values of the row in that order. If the dialect cannot report the
identity, this is the error, and no text is remembered. Otherwise the text is remembered
whatever becomes of the insert, and an insert fails exactly when some insertable value misses
its code, with an error about the first one that does. -/
theorem insert_pairs_columns_with_values
    (mapped : TableMap.ofModel tableStem naming model = .ok map)
    (coherent : (Usage.ofCalls tableStem naming
      (.statement model dialect (.insert (some row)) :: history)).Coherent)
    (own : row.type = model.type) :
    let outcome := ((Request.insert (some row)).run model dialect).outcome
      ((Schema.fresh tableStem naming).after history)
    let remembered := outcome.2.text? ⟨.insert, dialect.name, model.type⟩
    (∀ query, outcome.1 = .ok query → ∃ reported stored, Insert.Reports map dialect reported ∧
      query.sql = Insert.text dialect map reported ∧ query.params = .numbered 0 stored ∧
      List.Forall₂ (fun property value => property.toStored (property.held row) = .ok value)
        map.insertable stored) ∧
    (∀ error, map.RefusesIdentity dialect error →
      outcome.1 = .error error ∧ remembered = none) ∧
    ((∀ error, ¬ map.RefusesIdentity dialect error) →
      (∃ reported, Insert.Reports map dialect reported ∧
        remembered = some (Insert.text dialect map reported)) ∧
      (∀ error, outcome.1 = .error error ↔ map.MissesValue row error) ∧
      ((∃ error, outcome.1 = .error error) ↔
        ∃ property ∈ map.insertable, ∃ coding, property.Misses row coding)) := by
  intro outcome remembered
  have answered : outcome.1 = _ := outcome_insert mapped coherent own
  have kept : remembered = _ := text?_after_insert mapped coherent
  rw [answered, kept]
  refine ⟨?succeeds, ?refuses, ?misses⟩
  case succeeds =>
    intro query built
    simp only [Result.bind_eq_ok, Result.map_eq_ok] at built
    obtain ⟨identity, reported, stored, converted, rfl⟩ := built
    exact ⟨_, stored, Insert.reports_of_identitySql reported, rfl, rfl,
      Result.mapM_eq_ok_iff_forall₂.mp converted⟩
  case refuses =>
    intro error refused
    rw [Insert.identitySql_eq_error_iff.mpr refused]
    exact ⟨rfl, rfl⟩
  case misses =>
    intro reports
    cases reported : Insert.identitySql map dialect with
    | error error => exact absurd (Insert.identitySql_eq_error_iff.mp reported) (reports error)
    | ok identity =>
        have fails (error : Error) : (map.insertable.mapM (Property.heldStored row)).map
            (fun stored => (⟨Insert.text dialect map (dialect.write identity),
              .numbered 0 stored⟩ : Query)) = .error error ↔ map.MissesValue row error := by
          rw [Result.map_eq_error, TableMap.mapM_heldStored_eq_error_iff]
        refine ⟨⟨_, Insert.reports_of_identitySql reported, rfl⟩, fails, ?_⟩
        rw [← TableMap.exists_missesValue_iff]
        exact exists_congr fails

end Histories

namespace Parcel

/-- States of a parcel, coded by letters. -/
def states : ValueMap :=
  ⟨"State", [(.string "sent", .string "S"), (.string "received", .string "R")]⟩

/-- Parcels with a state and a weight, around a number that the database assigns. -/
def model : Model :=
  ⟨"Parcel", none, [(Field.plain "state" ⟨.string, false⟩).mark (.valueMap states),
    (Field.plain "id" ⟨.i64, false⟩).withMarks [.primaryKey, .identity],
    Field.plain "weight" ⟨.i32, false⟩]⟩

def sent : Row :=
  ⟨"Parcel", [("id", .i64 0), ("weight", .i32 3), ("state", .string "sent")]⟩

/-- A parcel in a state that has no code. -/
def lost : Row :=
  ⟨"Parcel", [("id", .i64 0), ("weight", .i32 5), ("state", .string "lost")]⟩

/-- A parcel was inserted before. -/
def history : List Call :=
  [.statement model .postgresql (.insert (some sent))]

/-- What an insert gives and leaves behind after that. -/
def inserted (dialect : Dialect) (row : Row) : Result Query × Schema :=
  ((Request.insert (some row)).run model dialect).outcome
    ((Schema.fresh none .verbatim).after history)

theorem coherent {dialect : Dialect} (known : dialect = .postgresql ∨ dialect = .ansi)
    (row : Row) : (Usage.ofCalls none .verbatim
      (.statement model dialect (.insert (some row)) :: history)).Coherent := by
  constructor
  · simp [Usage.ofCalls, Call.model, history]
  · rcases known with rfl | rfl
    · simp [Usage.ofCalls, Call.dialect?, history]
    · have names : Dialect.ansi.name ≠ Dialect.postgresql.name := by decide
      simp [Usage.ofCalls, Call.dialect?, history, names, names.symm]

theorem sent_pairs_columns_with_values :
    (∃ query stored, (inserted .postgresql sent).1 = .ok query ∧
      query.sql = "insert into \"Parcel\" (\"state\", \"weight\") values (@p0, @p1)" ++
        " returning \"id\"" ∧
      query.params = .numbered 0 stored ∧
      List.Forall₂ (fun property value => property.toStored (property.held sent) = .ok value)
        (TableMap.draft none .verbatim model).insertable stored) ∧
    (inserted .postgresql lost).1 = .error (.of (.valueNotMapped (.string "lost") "State")) ∧
    (∃ text, (inserted .postgresql lost).2.text? ⟨.insert, "postgresql", "Parcel"⟩ =
      some text) ∧
    (∃ error, (inserted .ansi sent).1 = .error error ∧
      (inserted .ansi sent).2.text? ⟨.insert, "ansi", "Parcel"⟩ = none) := by
  have mapped : TableMap.ofModel none .verbatim model =
      .ok (TableMap.draft none .verbatim model) := rfl
  obtain ⟨succeeds, -, -⟩ :=
    insert_pairs_columns_with_values mapped (coherent (.inl rfl) sent) rfl
  obtain ⟨-, -, misses⟩ :=
    insert_pairs_columns_with_values mapped (coherent (.inl rfl) lost) rfl
  obtain ⟨-, refuses, -⟩ :=
    insert_pairs_columns_with_values mapped (coherent (.inr rfl) sent) rfl
  have reports : ∀ error,
      ¬ (TableMap.draft none .verbatim model).RefusesIdentity .postgresql error := by
    rintro error ⟨identity, found, refused⟩
    cases refused
  obtain ⟨⟨reported, -, kept⟩, fails, -⟩ := misses reports
  have first : (TableMap.draft none .verbatim model).MissesValue lost
      (.of (.valueNotMapped (.string "lost") "State")) :=
    ⟨[], _, _, states, rfl, List.forall_mem_nil _, ⟨rfl, rfl, by decide⟩, rfl⟩
  have refused := refuses _ ⟨_, rfl, rfl⟩
  obtain ⟨_, stored, -, -, params, aligned⟩ := succeeds _ rfl
  exact ⟨⟨_, stored, rfl, rfl, params, aligned⟩, (fails _).mpr first, ⟨_, kept⟩, ⟨_, refused⟩⟩

end Parcel

end SqlMapper
