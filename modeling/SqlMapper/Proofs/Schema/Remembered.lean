import SqlMapper.Proofs.Schema.Transparency
import SqlMapper.Proofs.TableMap

/-!
# What a schema remembers of one model

Dialects need not be identified by their names: a text that is remembered under the name
of a dialect may have been written by another one of that name. What a text says is still
determined by the model it was written for, as long as the type of the model belongs to
no other.
-/

namespace SqlMapper

namespace SchemaM

variable {α β : Type} {computation : SchemaM α} {next : α → SchemaM β} {schema : Schema}

theorem outcome_bind_eq_ok {final : β} :
    ((computation >>= next).outcome schema).1 = .ok final ↔
      ∃ value, (computation.outcome schema).1 = .ok value ∧
        ((next value).outcome (computation.outcome schema).2).1 = .ok final := by
  rw [SchemaM.outcome_bind]
  rcases computation.outcome schema with ⟨error | value, after⟩
  · simp
  · simp

theorem outcome_bind_of_error {error : Error}
    (failed : (computation.outcome schema).1 = .error error) :
    ((computation >>= next).outcome schema).1 = .error error := by
  rw [outcome_bind]
  rcases ran : computation.outcome schema with ⟨_ | _, after⟩
  · rw [ran] at failed
    cases failed
    rfl
  · rw [ran] at failed
    cases failed

end SchemaM

/-- The schema knows the map of a model by its type, if at all, and the texts under the
name of the map were written for it by dialects of the names they are kept under. -/
structure Schema.Describes (schema : Schema) (model : Model) (map : TableMap) : Prop where
  mapped : TableMap.ofModel schema.tableStem schema.naming model = .ok map
  maps : ∀ entry ∈ schema.maps, entry.1 = model.type → entry.2 = map
  names : ∀ entry ∈ schema.maps, entry.2.name = entry.1
  texts : ∀ entry ∈ schema.texts, entry.1.model = model.type →
    ∃ writer sql, writer.name = entry.1.dialect ∧ entry.1.kind.sql map writer = .ok sql ∧
      entry.2 = writer.write sql

namespace Schema.Describes

variable {schema : Schema} {model : Model} {map : TableMap}

theorem fresh {tableStem : Option String} {naming : Naming}
    (mapped : TableMap.ofModel tableStem naming model = .ok map) :
    (Schema.fresh tableStem naming).Describes model map :=
  ⟨mapped, List.forall_mem_nil _, List.forall_mem_nil _, List.forall_mem_nil _⟩

theorem name_eq (describes : schema.Describes model map) : map.name = model.type :=
  TableMap.name_of_ofModel_eq_ok describes.mapped

/-- The model has its map, whether it is known already or not. -/
theorem outcome_tableMap (describes : schema.Describes model map) :
    ((Schema.tableMap model).outcome schema).1 = .ok map := by
  rw [Schema.outcome_tableMap, describes.mapped]
  cases found : NameTable.get? model.type schema.maps with
  | none => rfl
  | some known =>
      exact congrArg Except.ok
        (describes.maps _ (NameTable.mem_of_get?_eq_some found) rfl)

/-- A model is known by the name of its map, and mapping it changes nothing that is
remembered of another one. -/
theorem of_tableMap (describes : schema.Describes model map) {other : Model}
    (sameModel : other.type = model.type → other = model) :
    ((Schema.tableMap other).outcome schema).2.Describes model map ∧
      ∀ known, ((Schema.tableMap other).outcome schema).1 = .ok known →
        known.name = other.type := by
  rw [Schema.outcome_tableMap]
  cases found : NameTable.get? other.type schema.maps with
  | some known =>
      refine ⟨describes, fun other same => ?_⟩
      cases same
      exact describes.names _ (NameTable.mem_of_get?_eq_some found)
  | none =>
      cases derived : TableMap.ofModel schema.tableStem schema.naming other with
      | error error => exact ⟨describes, nofun⟩
      | ok added =>
          have name := TableMap.name_of_ofModel_eq_ok derived
          refine ⟨{ describes with maps := ?_, names := ?_ }, fun known same => ?_⟩
          · refine List.forall_mem_append.mpr ⟨describes.maps, ?_⟩
            refine List.forall_mem_singleton.mpr fun sameType => ?_
            obtain rfl := sameModel sameType
            exact Except.ok.inj (derived.symm.trans describes.mapped)
          · exact List.forall_mem_append.mpr
              ⟨describes.names, List.forall_mem_singleton.mpr name⟩
          · cases same
            exact name

/-- A text that is asked for by the model was written for it. -/
theorem exists_of_outcome_text (describes : schema.Describes model map) (kind : StatementKind)
    {dialect : Dialect} {text : String}
    (answered : ((Schema.text ⟨kind, dialect.name, map.name⟩
      ((kind.sql map dialect).map dialect.write)).outcome schema).1 = .ok text) :
    ∃ writer sql, writer.name = dialect.name ∧ kind.sql map writer = .ok sql ∧
      text = writer.write sql := by
  rw [Schema.outcome_text] at answered
  split at answered
  next known found =>
    cases answered
    obtain ⟨entry, lookup, rfl⟩ := Option.map_eq_some_iff.mp found
    have sameKey : entry.1 = ⟨kind, dialect.name, map.name⟩ := by
      simpa using List.find?_some lookup
    have written := describes.texts entry (List.mem_of_find?_eq_some lookup)
    rw [sameKey] at written
    exact written describes.name_eq
  next =>
    split at answered
    next written built =>
      cases answered
      obtain ⟨sql, made, rfl⟩ := Result.map_eq_ok.mp built
      exact ⟨dialect, sql, rfl, made, rfl⟩
    next => cases answered

/-- Writing a text keeps what is remembered of the model. -/
theorem of_text (describes : schema.Describes model map) {kind : StatementKind}
    {dialect : Dialect} {known : TableMap} (sameMap : known.name = model.type → known = map) :
    ((Schema.text ⟨kind, dialect.name, known.name⟩
      ((kind.sql known dialect).map dialect.write)).outcome schema).2.Describes model map := by
  rw [Schema.outcome_text]
  split
  next => exact describes
  next =>
    split
    next text built =>
      obtain ⟨sql, written, rfl⟩ := Result.map_eq_ok.mp built
      refine { describes with texts := ?_ }
      refine List.forall_mem_append.mpr ⟨describes.texts, ?_⟩
      refine List.forall_mem_singleton.mpr fun sameName => ?_
      obtain rfl := sameMap sameName
      exact ⟨dialect, sql, rfl, written, rfl⟩
    next => exact describes

/-- One call keeps what is remembered of the model. -/
theorem schemaAfter (describes : schema.Describes model map) {call : Call}
    (sameModel : call.model.type = model.type → call.model = model) :
    (call.schemaAfter schema).Describes model map := by
  cases call with
  | map other => exact (describes.of_tableMap sameModel).1
  | statement other dialect request =>
      have sameModel : other.type = model.type → other = model := sameModel
      obtain ⟨kept, named⟩ := describes.of_tableMap sameModel
      have own : other.type = model.type →
          ((Schema.tableMap other).outcome schema).1 = .ok map := by
        intro sameType
        obtain rfl := sameModel sameType
        exact describes.outcome_tableMap
      rw [Call.schemaAfter, Request.outcome_run]
      rcases ran : (Schema.tableMap other).outcome schema with ⟨error | known, after⟩
      · rw [ran] at kept
        exact kept
      · rw [ran] at kept named own
        dsimp only
        cases request.asked? known dialect with
        | none => exact kept
        | some kind =>
            apply kept.of_text
            intro sameName
            exact Except.ok.inj (own ((named known rfl).symm.trans sameName))

/-- A history of calls keeps what is remembered of the model. -/
theorem after (describes : schema.Describes model map) {history : List Call}
    (sameModel : ∀ call ∈ history, call.model.type = model.type → call.model = model) :
    (schema.after history).Describes model map := by
  induction history generalizing schema with
  | nil => exact describes
  | cons call rest inductionHypothesis =>
      obtain ⟨first, later⟩ := List.forall_mem_cons.mp sameModel
      exact inductionHypothesis (describes.schemaAfter first) later

end Schema.Describes

end SqlMapper
