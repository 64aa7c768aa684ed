import SqlMapper.Proofs.Schema.Remembered
import SqlMapper.Proofs.Statement.Wording

/-!
# Columns that are written

Inserts list the columns whose values come from the caller, and updates assign those of
them that are not part of the primary key. Values of a row that an update must not write
are passed over as if they were not there; an assignment of its own to such a column
spoils the update, whatever comes after it. What is written to a column is the placeholder
of a stored value or a compiled expression, and the text has no other assignments.
-/

namespace SqlMapper

namespace Property

variable {property : Property}

/-- The value of the column comes from the caller: it is neither an identity nor assigned
by the database nor computed. -/
def IsSupplied (property : Property) : Prop :=
  property.identity = false ∧ property.generated = false ∧ property.computed = false

/-- The value of the column comes from the caller and does not identify the row. -/
def IsChangeable (property : Property) : Prop :=
  property.IsSupplied ∧ property.primaryKey = false

theorem insertable_iff : property.insertable = true ↔ property.IsSupplied := by
  simp only [insertable, IsSupplied, Bool.and_eq_true, Bool.not_eq_true']
  tauto

theorem updatable_iff : property.updatable = true ↔ property.IsChangeable := by
  rw [updatable, Bool.and_eq_true, insertable_iff, IsChangeable, Bool.not_eq_true']

instance : DecidablePred IsSupplied := fun _ => decidable_of_iff _ insertable_iff

instance : DecidablePred IsChangeable := fun _ => decidable_of_iff _ updatable_iff

end Property

namespace TableMap

variable {map : TableMap} {property : Property} {listed : List Property}

theorem insertable_eq_filter (map : TableMap) :
    map.insertable = map.properties.filter fun property => decide property.IsSupplied := by
  refine List.filter_congr fun property _ => ?_
  rw [Bool.eq_iff_iff, Property.insertable_iff, decide_eq_true_iff]

theorem updatable_eq_filter (map : TableMap) :
    map.updatable = map.properties.filter fun property => decide property.IsChangeable := by
  refine List.filter_congr fun property _ => ?_
  rw [Bool.eq_iff_iff, Property.updatable_iff, decide_eq_true_iff]

/-- A property is listed when its column is. -/
theorem mem_of_column_mem (unique : (map.properties.map Property.column).Nodup)
    (part : ∀ property ∈ listed, property ∈ map.properties)
    (mapped : property ∈ map.properties)
    (column : property.column ∈ listed.map Property.column) : property ∈ listed := by
  obtain ⟨other, member, same⟩ := List.mem_map.mp column
  exact List.inj_on_of_nodup_map unique (part other member) mapped same ▸ member

/-- The named values that go to columns which can be changed. -/
def changes (map : TableMap) (fields : List (String × Value)) : List (Property × Value) :=
  fields.filterMap fun field =>
    ((map.property? field.1).filter fun property => decide property.IsChangeable).map
      fun property => (property, field.2)

theorem map_fst_changes (map : TableMap) (fields : List (String × Value)) :
    (map.changes fields).map Prod.fst =
      ((fields.map Prod.fst).filterMap map.property?).filter fun property =>
        decide property.IsChangeable := by
  rw [changes, List.filterMap_map, List.filter_filterMap, List.map_filterMap]
  refine List.filterMap_congr fun field _ => ?_
  rw [Option.map_map]
  exact congrFun Option.map_id _

end TableMap

/-- The text is the insert into the map. -/
def Query.Inserts (query : Query) (writer : Dialect) (map : TableMap) : Prop :=
  ∃ reported, Insert.Reports map writer reported ∧ query.sql = Insert.text writer map reported

/-- The values that a source gives to names. -/
def Source.fields (map : TableMap) : Source → List (String × Value)
  | row given => map.heldFields given
  | record fields => fields

theorem Source.requireMapped_eq_ok {map : TableMap} {field result : String × Value} :
    requireMapped map field = .ok result ↔
      (∃ property, map.property? field.1 = some property) ∧ field = result := by
  unfold requireMapped
  cases map.property? field.1 with
  | none => simp [Fault.fail]
  | some property => simp

/-- A source gives values for the names of mapped fields. -/
theorem Source.fields_of_values_eq_ok {map : TableMap} {source : Source}
    {fields : List (String × Value)} (unique : (map.properties.map Property.name).Nodup)
    (read : source.values map = .ok fields) :
    fields = source.fields map ∧
      ∀ field ∈ fields, ∃ property, map.property? field.1 = some property := by
  cases source with
  | row given =>
      obtain ⟨-, rfl⟩ := TableMap.values_row_eq_ok.mp read
      refine ⟨rfl, fun field member => ?_⟩
      obtain ⟨property, mapped, rfl⟩ := List.mem_map.mp member
      exact ⟨property, TableMap.property_eq_ok_iff.mp
        (TableMap.property_name_eq_ok unique mapped)⟩
  | record given =>
      have known : ∀ field ∈ given, ∃ property, map.property? field.1 = some property := by
        intro field member
        obtain ⟨result, required⟩ := Result.ok_of_mapM_eq_ok read field member
        exact (requireMapped_eq_ok.mp required).1
      have same : (Source.record given).values map = .ok (given.map id) :=
        Result.mapM_eq_ok fun field member =>
          requireMapped_eq_ok.mpr ⟨known field member, rfl⟩
      cases same.symm.trans read
      rw [List.map_id]
      exact ⟨rfl, known⟩

/-- What an update sets a field to. -/
inductive Assigned where
  | value (value : Value)
  /-- An expression, and what evaluates its constants. -/
  | expression (evaluator : Evaluator) (expr : Expr)

namespace Assigned

/-- A value is written as a placeholder that its stored form is bound to, and an expression as
it is compiled, with its constants bound to the names in it. -/
def IsWritten (map : TableMap) (params : Params) (property : Property) :
    Assigned → Sql → Prop
  | value given, written => ∃ name stored, property.toStored given = .ok stored ∧
      params.get? name = some stored ∧ written = [.placeholder name]
  | expression evaluator expr, written => ∃ term constants names,
      (expr.assignment map evaluator property).outcome [] = (.ok term, constants) ∧
      names.map params.get? = constants.map some ∧ written = term.sql names

variable {map : TableMap} {params other : Params} {property : Property} {written : Sql}

theorem IsWritten.mono {assigned : Assigned} (isWritten : assigned.IsWritten map params property
    written) (kept : ∀ name value, params.get? name = some value → other.get? name = some value) :
    assigned.IsWritten map other property written := by
  cases assigned with
  | value given =>
      obtain ⟨name, stored, converted, bound, placed⟩ := isWritten
      exact ⟨name, stored, converted, kept name stored bound, placed⟩
  | expression evaluator expr =>
      obtain ⟨term, constants, names, compiled, bound, placed⟩ := isWritten
      refine ⟨term, constants, names, compiled, ?_, placed⟩
      rw [← bound]
      refine List.map_congr_left fun name member => ?_
      have found : params.get? name ∈ constants.map some :=
        bound ▸ List.mem_map_of_mem member
      obtain ⟨value, -, same⟩ := List.mem_map.mp found
      rw [← same, kept name value same.symm]

/-- Values beside the names that their stored forms are bound to. -/
theorem forall₂_isWritten_value {changes : List (Property × Value)} {stored : List Value}
    {names : List String}
    (converted : List.Forall₂ (fun change value => change.1.toStored change.2 = .ok value)
      changes stored) (bound : names.map params.get? = stored.map some) :
    List.Forall₂ (fun entry => IsWritten map params entry.1 entry.2)
      (changes.map fun change => (change.1, value change.2))
      (names.map fun name => [.placeholder name]) := by
  induction converted generalizing names with
  | nil =>
      rw [List.map_eq_nil_iff.mp bound]
      exact .nil
  | cons first _ inductionHypothesis =>
      obtain ⟨name, rest, rfl, found, boundRest⟩ := List.map_eq_cons_iff.mp bound
      exact .cons ⟨name, _, first, found, rfl⟩ (inductionHypothesis boundRest)

end Assigned

/-- What evaluates constants behind a clause. -/
def FilterClause.evaluatorAfter (before : Evaluator) : FilterClause → Evaluator
  | evaluator next => next
  | _ => before

namespace UpdateClause

def evaluatorAfter (before : Evaluator) : UpdateClause → Evaluator
  | filter clause => clause.evaluatorAfter before
  | _ => before

/-- The properties that a clause of an update assigns. -/
def targets (map : TableMap) : UpdateClause → List Property
  | filter _ => []
  | set source => (map.changes (source.fields map)).map Prod.fst
  | setField field _ => (map.property? field).toList

/-- The properties with what the clause sets them to. -/
def assigned (map : TableMap) (evaluator : Evaluator) :
    UpdateClause → List (Property × Assigned)
  | filter _ => []
  | set source => (map.changes (source.fields map)).map fun change => (change.1, .value change.2)
  | setField field expr => (map.property? field).toList.map fun property =>
      (property, .expression evaluator expr)

/-- What clauses assign one after another. -/
def allAssigned (map : TableMap) (evaluator : Evaluator) :
    List UpdateClause → List (Property × Assigned)
  | [] => []
  | clause :: rest =>
      clause.assigned map evaluator ++ allAssigned map (clause.evaluatorAfter evaluator) rest

variable {map : TableMap} {evaluator : Evaluator}

theorem map_fst_assigned (clause : UpdateClause) :
    (clause.assigned map evaluator).map Prod.fst = clause.targets map := by
  cases clause with
  | filter _ => rfl
  | set source => exact List.map_map
  | setField field expr =>
      rw [assigned, targets, List.map_map]
      exact List.map_id _

theorem map_fst_allAssigned (clauses : List UpdateClause) :
    (allAssigned map evaluator clauses).map Prod.fst = clauses.flatMap (targets map) := by
  induction clauses generalizing evaluator with
  | nil => rfl
  | cons clause rest inductionHypothesis =>
      rw [allAssigned, List.map_append, map_fst_assigned, inductionHypothesis, List.flatMap_cons]

end UpdateClause

/-- The text is the update of the map that sets properties as given where the condition holds. -/
def Query.Updates (query : Query) (dialect : Dialect) (map : TableMap)
    (assigned : List (Property × Assigned)) (condition? : Option Sql) : Prop :=
  ∃ values : List Sql,
    List.Forall₂ (fun entry => entry.2.IsWritten map query.params entry.1) assigned values ∧
    query.sql = Update.text dialect map (assigned.map Prod.fst) (values.map dialect.write)
      (condition?.map dialect.write)

namespace Draft

variable {draft after : Draft}

theorem filterField_evaluator {property : Property} {value : Value}
    (ran : draft.filterField property value = .ok after) :
    after.evaluator = draft.evaluator := by
  simp only [filterField, Result.bind_eq_ok] at ran
  obtain ⟨stored, -, ran⟩ := ran
  split at ran
  next =>
    cases ran
    rfl
  next =>
    cases ran
    rfl

theorem filterFields_evaluator {keyOnly : Bool} {fields : List (String × Value)}
    (ran : draft.filterFields keyOnly fields = .ok after) :
    after.evaluator = draft.evaluator := by
  let keeps (state : Draft) : Prop := state.evaluator = draft.evaluator
  have kept : keeps after := Result.foldlM_keeps rfl (fun state kept field _ next stepped => ?_) ran
  · exact kept
  obtain ⟨property, -, stepped⟩ := Result.bind_eq_ok.mp stepped
  split at stepped
  next =>
    cases stepped
    exact kept
  next => exact (filterField_evaluator stepped).trans kept

theorem filter_evaluator {clause : FilterClause} (ran : draft.filter clause = .ok after) :
    after.evaluator = clause.evaluatorAfter draft.evaluator := by
  cases clause with
  | condition expr =>
      simp only [filter, Result.bind_eq_ok] at ran
      obtain ⟨⟨condition, middle⟩, compiled, ran⟩ := ran
      cases ran
      obtain ⟨_, -, -, rfl⟩ := compile_eq_ok.mp compiled
      rfl
  | matching source =>
      simp only [filter, Result.bind_eq_ok] at ran
      obtain ⟨fields, -, ran⟩ := ran
      exact filterFields_evaluator ran
  | matchingKey source =>
      simp only [filter, Result.bind_eq_ok] at ran
      obtain ⟨fields, -, _, -, ran⟩ := ran
      exact filterFields_evaluator ran
  | evaluator next =>
      cases ran
      rfl

end Draft

namespace UpdateDraft

variable {before middle after update : UpdateDraft} {map : TableMap}

/-- The update with values bound one after another and assigned to properties. -/
def assigning (update : UpdateDraft) (properties : List Property) (stored : List Value) :
    UpdateDraft :=
  ⟨{ update.draft with params := (update.draft.params.pushAll stored).2 },
    update.assignments ++ List.zipWith (fun property name =>
      property.assignSql [.placeholder name]) properties (update.draft.params.pushAll stored).1⟩

theorem assigning_cons (property : Property) (properties : List Property) (value : Value)
    (stored : List Value) :
    update.assigning (property :: properties) (value :: stored) =
      (assigning ⟨(update.draft.bind value).2,
        update.assignments ++ [property.assignSql [.placeholder (update.draft.bind value).1]]⟩
          properties stored) := by
  simp [assigning, Draft.bind, Params.pushAll]

/-- Values are assigned as if those that cannot be changed had not been given. -/
theorem assignFields_eq_map {fields : List (String × Value)} (sameMap : update.draft.map = map)
    (known : ∀ field ∈ fields, ∃ property, map.property? field.1 = some property) :
    update.assignFields fields =
      ((map.changes fields).mapM fun change : Property × Value => change.1.toStored change.2).map
        (update.assigning ((map.changes fields).map Prod.fst)) := by
  induction fields generalizing update with
  | nil =>
      have unchanged : update.assigning [] [] = update := by simp [assigning, Params.pushAll]
      exact congrArg Except.ok unchanged.symm
  | cons field rest inductionHypothesis =>
      obtain ⟨⟨property, found⟩, restKnown⟩ := List.forall_mem_cons.mp known
      have looked : update.draft.map.property field.1 = .ok property := by
        rw [sameMap, TableMap.property, found]
      by_cases changeable : property.IsChangeable
      · have changes : map.changes (field :: rest) =
            (property, field.2) :: map.changes rest := by
          simp [TableMap.changes, found, changeable]
        have assigned : update.assignFields (field :: rest) =
            update.assignValue property field.2 >>= fun next => next.assignFields rest := by
          rw [assignFields, List.foldlM_cons, looked]
          exact congrArg (· >>= _) (if_pos (Property.updatable_iff.mpr changeable))
        rw [assigned, changes, List.mapM_cons, assignValue]
        cases property.toStored field.2 with
        | error error => rfl
        | ok stored =>
            have later := @inductionHypothesis ⟨(update.draft.bind stored).2, update.assignments ++
              [property.assignSql [.placeholder (update.draft.bind stored).1]]⟩ sameMap restKnown
            refine later.trans ?_
            cases (map.changes rest).mapM fun change : Property × Value =>
                change.1.toStored change.2 with
            | error error => rfl
            | ok further => exact congrArg Except.ok (assigning_cons ..).symm
      · have changes : map.changes (field :: rest) = map.changes rest := by
          simp [TableMap.changes, found, changeable]
        have passed : update.assignFields (field :: rest) = update.assignFields rest := by
          rw [assignFields, List.foldlM_cons, looked]
          exact congrArg (· >>= _) (if_neg (mt Property.updatable_iff.mp changeable))
        rw [passed, changes, inductionHypothesis sameMap restKnown]

/-- A set assigns the values of fields that can be changed, and binds those only. -/
theorem apply_set_eq (unique : (map.properties.map Property.name).Nodup)
    (sameMap : update.draft.map = map) (source : Source) :
    update.apply (.set source) = (do
      let fields ← source.values map
      let stored ← (map.changes fields).mapM fun change => change.1.toStored change.2
      return update.assigning ((map.changes fields).map Prod.fst) stored) := by
  rw [apply, sameMap]
  cases read : source.values map with
  | error error => rfl
  | ok fields =>
      have known := (Source.fields_of_values_eq_ok unique read).2
      refine (assignFields_eq_map sameMap known).trans ?_
      simp only [bind, Except.bind]
      cases (map.changes fields).mapM fun change => change.1.toStored change.2 <;> rfl

/-- From one update to the next, properties were set in order as given. -/
def Assigns (map : TableMap) (before after : UpdateDraft)
    (assigned : List (Property × Assigned)) : Prop :=
  ∀ values, before.draft.params = .numbered 0 values → ∃ fresh written,
    after.draft.params = .numbered 0 (values ++ fresh) ∧
    after.assignments = before.assignments ++
      List.zipWith Property.assignSql (assigned.map Prod.fst) written ∧
    List.Forall₂ (fun entry => entry.2.IsWritten map after.draft.params entry.1) assigned written

theorem Assigns.refl (update : UpdateDraft) : update.Assigns map update [] :=
  fun _ numbered => ⟨[], [], by rw [numbered, List.append_nil], by simp, .nil⟩

theorem Assigns.trans {assigned further : List (Property × Assigned)}
    (first : before.Assigns map middle assigned) (second : middle.Assigns map after further) :
    before.Assigns map after (assigned ++ further) := by
  intro values numbered
  obtain ⟨fresh, written, numberedMiddle, assignments, isWritten⟩ := first values numbered
  obtain ⟨later, writtenLater, numberedAfter, assignmentsLater, isWrittenLater⟩ :=
    second _ numberedMiddle
  have length := isWritten.length_eq
  refine ⟨fresh ++ later, written ++ writtenLater, ?_, ?_, ?_⟩
  · rw [numberedAfter, List.append_assoc]
  · rw [assignmentsLater, assignments, List.map_append,
      List.zipWith_append (by rwa [List.length_map]), List.append_assoc]
  · refine List.rel_append (isWritten.imp fun entry sql => ?_) isWrittenLater
    refine fun written => written.mono fun name value bound => ?_
    rw [numberedMiddle] at bound
    rw [numberedAfter]
    exact Params.get?_numbered_append later bound

/-- Values are set to placeholders of their stored forms. -/
theorem assigning_assigns {changes : List (Property × Value)} {stored : List Value}
    (converted : (changes.mapM fun change => change.1.toStored change.2) = .ok stored) :
    update.Assigns map (update.assigning (changes.map Prod.fst) stored)
      (changes.map fun change => (change.1, .value change.2)) := by
  intro values numbered
  have pushed : update.draft.params.pushAll stored =
      (Params.generatedNames values.length stored.length, .numbered 0 (values ++ stored)) := by
    rw [numbered, Params.pushAll_numbered, Nat.zero_add]
  have bound := Params.map_get?_generatedNames 0 values stored
  rw [Nat.zero_add] at bound
  have sameParams : (update.assigning (changes.map Prod.fst) stored).draft.params =
      .numbered 0 (values ++ stored) := congrArg Prod.snd pushed
  refine ⟨stored, _, sameParams, ?_,
    Assigned.forall₂_isWritten_value (Result.mapM_eq_ok_iff_forall₂.mp converted)
      (sameParams ▸ bound)⟩
  rw [assigning, List.zipWith_map_right, pushed, List.map_map]
  rfl

/-- An expression is set to what it is compiled to. -/
theorem compile_assigns {property : Property} {expr : Expr} {value : Sql} {draft : Draft}
    (compiled : update.draft.compile (expr.assignment map update.draft.evaluator property) =
      .ok (value, draft)) :
    update.Assigns map ⟨draft, update.assignments ++ [property.assignSql value]⟩
      [(property, .expression update.draft.evaluator expr)] := by
  intro values numbered
  obtain ⟨term, ran, rfl, rfl⟩ := Draft.compile_eq_ok.mp compiled
  let constants := ((expr.assignment map update.draft.evaluator property).outcome []).2
  have pushed : update.draft.params.pushAll constants =
      (Params.generatedNames values.length constants.length,
        .numbered 0 (values ++ constants)) := by
    rw [numbered, Params.pushAll_numbered, Nat.zero_add]
  have bound := Params.map_get?_generatedNames 0 values constants
  rw [Nat.zero_add] at bound
  refine ⟨constants, [_], congrArg Prod.snd pushed, rfl, .cons ?_ .nil⟩
  exact ⟨term, constants, _, Prod.ext ran rfl, pushed ▸ bound, rfl⟩

/-- A clause sets its targets, all of which can be changed. -/
theorem apply_assigns {clause : UpdateClause} (unique : (map.properties.map Property.name).Nodup)
    (sameMap : update.draft.map = map) (applied : update.apply clause = .ok after) :
    update.Assigns map after (clause.assigned map update.draft.evaluator) ∧
      after.draft.evaluator = clause.evaluatorAfter update.draft.evaluator ∧
      ∀ property ∈ clause.targets map, property ∈ map.properties ∧ property.IsChangeable := by
  cases clause with
  | filter clause =>
      simp only [apply, Result.bind_eq_ok, Result.pure_eq_ok] at applied
      obtain ⟨draft, filtered, rfl⟩ := applied
      obtain ⟨_, adds, -⟩ := Draft.filter_filters filtered
      refine ⟨fun values numbered => ?_, Draft.filter_evaluator filtered, List.forall_mem_nil _⟩
      obtain ⟨fresh, numberedAfter, -⟩ := adds.params values numbered
      exact ⟨fresh, [], numberedAfter, by simp [UpdateClause.assigned], .nil⟩
  | set source =>
      rw [apply_set_eq unique sameMap] at applied
      simp only [Result.bind_eq_ok, Result.pure_eq_ok] at applied
      obtain ⟨fields, read, stored, converted, rfl⟩ := applied
      obtain rfl := (Source.fields_of_values_eq_ok unique read).1
      refine ⟨assigning_assigns converted, rfl, fun property member => ?_⟩
      rw [UpdateClause.targets, TableMap.map_fst_changes] at member
      obtain ⟨named, changeable⟩ := List.mem_filter.mp member
      obtain ⟨name, -, found⟩ := List.mem_filterMap.mp named
      exact ⟨List.mem_of_find?_eq_some found, of_decide_eq_true changeable⟩
  | setField field expr =>
      simp only [apply, assignExpr, Result.bind_eq_ok] at applied
      obtain ⟨property, found, applied⟩ := applied
      rw [sameMap, TableMap.property_eq_ok_iff] at found
      rw [UpdateClause.assigned, UpdateClause.targets, found]
      split at applied
      next => cases applied
      next accepted =>
        obtain ⟨⟨value, draft⟩, compiled, written⟩ := Result.bind_eq_ok.mp applied
        cases written
        have changeable : property.IsChangeable :=
          Property.updatable_iff.mp (by simpa using accepted)
        refine ⟨compile_assigns (sameMap ▸ compiled), ?_,
          List.forall_mem_singleton.mpr ⟨List.mem_of_find?_eq_some found, changeable⟩⟩
        obtain ⟨_, -, -, rfl⟩ := Draft.compile_eq_ok.mp compiled
        rfl

/-- Clauses set their targets one after another. -/
theorem foldlM_assigns {clauses : List UpdateClause}
    (unique : (map.properties.map Property.name).Nodup) (sameMap : update.draft.map = map)
    (ran : clauses.foldlM UpdateDraft.apply update = .ok after) :
    update.Assigns map after (UpdateClause.allAssigned map update.draft.evaluator clauses) ∧
      ∀ property ∈ clauses.flatMap (UpdateClause.targets map),
        property ∈ map.properties ∧ property.IsChangeable := by
  induction clauses generalizing update with
  | nil =>
      cases ran
      exact ⟨.refl _, List.forall_mem_nil _⟩
  | cons clause rest inductionHypothesis =>
      rw [List.foldlM_cons, Result.bind_eq_ok] at ran
      obtain ⟨next, applied, ran⟩ := ran
      obtain ⟨_, adds, -⟩ := apply_extends applied
      obtain ⟨assigns, evaluator, changeable⟩ := apply_assigns unique sameMap applied
      obtain ⟨later, laterChangeable⟩ := inductionHypothesis (adds.map.trans sameMap) ran
      rw [evaluator] at later
      exact ⟨assigns.trans later, List.forall_mem_append.mpr ⟨changeable, laterChangeable⟩⟩

/-- An assignment to a column that cannot be changed is refused. -/
theorem apply_setField_of_not_changeable {field : String} {property : Property} {expr : Expr}
    (found : before.draft.map.property? field = some property)
    (fixed : ¬ property.IsChangeable) :
    ∃ error, before.apply (.setField field expr) = .error error ∧
      error.kind = .invalidStatement := by
  have refused : before.apply (.setField field expr) =
      (StatementFault.notUpdatable before.draft.map.name property.name).fail := by
    rw [apply, assignExpr, TableMap.property_eq_ok_iff.mpr found]
    exact if_pos (by simp [mt Property.updatable_iff.mp fixed])
  exact ⟨_, refused, rfl⟩

end UpdateDraft

section Requests

variable {schema : Schema} {model : Model} {map : TableMap} {dialect : Dialect} {query : Query}

/-- An insert says what belongs to the map, whichever dialect wrote it. -/
theorem inserts_of_outcome (describes : schema.Describes model map) {row? : Option Row}
    (answered : (((Request.insert row?).run model dialect).outcome schema).1 = .ok query) :
    ∃ writer : Dialect, writer.name = dialect.name ∧ query.Inserts writer map := by
  rw [Request.run, Insert.compile, SchemaM.outcome_bind_eq_ok] at answered
  obtain ⟨known, mapped, answered⟩ := answered
  cases describes.outcome_tableMap.symm.trans mapped
  have remembered := (describes.of_tableMap fun _ => rfl).1
  cases row? with
  | none => cases answered
  | some row =>
      obtain ⟨text, asked, answered⟩ := SchemaM.outcome_bind_eq_ok.mp answered
      obtain ⟨writer, sql, sameName, written, rfl⟩ :=
        remembered.exists_of_outcome_text .insert asked
      obtain ⟨values, -, answered⟩ := SchemaM.outcome_bind_eq_ok.mp answered
      cases answered
      exact ⟨writer, sameName, Insert.exists_reports_of_sql written⟩

/-- The clauses of an update run against the map of the model. -/
theorem outcome_draft (describes : schema.Describes model map) (dialect : Dialect)
    (clauses : List UpdateClause) :
    ((Update.draft model dialect clauses).outcome schema).1 =
        clauses.foldlM UpdateDraft.apply ⟨Draft.start map dialect, []⟩ ∧
      ((Update.draft model dialect clauses).outcome schema).2.Describes model map := by
  have mapped := describes.outcome_tableMap
  have remembered := (describes.of_tableMap fun _ => rfl).1
  rw [Update.draft, SchemaM.outcome_bind]
  rcases ran : (Schema.tableMap model).outcome schema with ⟨error | known, after⟩
  · rw [ran] at mapped
    cases mapped
  · rw [ran] at mapped remembered
    cases mapped
    exact ⟨rfl, remembered⟩

/-- An update sets the targets of its clauses, which are columns that can be changed. -/
theorem updates_of_outcome (describes : schema.Describes model map)
    {clauses : List UpdateClause}
    (answered : (((Request.update clauses).run model dialect).outcome schema).1 = .ok query) :
    (∃ update, clauses.foldlM UpdateDraft.apply ⟨Draft.start map dialect, []⟩ = .ok update ∧
      query.params = update.draft.params ∧
      query.Updates dialect map (UpdateClause.allAssigned map .standard clauses)
        update.draft.conditionSql) ∧
      ∀ property ∈ clauses.flatMap (UpdateClause.targets map),
        property ∈ map.properties ∧ property.IsChangeable := by
  have unique := TableMap.unique_of_ofModel_eq_ok describes.mapped
  rw [Request.run, Update.compile, SchemaM.outcome_bind_eq_ok] at answered
  obtain ⟨update, ran, answered⟩ := answered
  rw [(outcome_draft describes dialect clauses).1] at ran
  obtain ⟨assigns, changeable⟩ := UpdateDraft.foldlM_assigns unique rfl ran
  obtain ⟨_, written, -, assignments, isWritten⟩ := assigns [] rfl
  obtain ⟨_, adds, -⟩ := UpdateDraft.foldlM_extends ran
  have sameMap : update.draft.map = map := adds.map
  have sameDialect : update.draft.dialect = dialect := adds.dialect
  refine ⟨⟨update, ran, ?_⟩, changeable⟩
  dsimp only at answered
  split at answered
  next => cases answered
  next =>
    cases answered
    refine ⟨rfl, written, isWritten, ?_⟩
    rw [Draft.finish, sameMap, sameDialect, assignments, List.nil_append, Update.write_sql]
    rfl

/-- An update by primary key says what belongs to the map, whichever dialect wrote it. -/
theorem byKeyText_of_outcome (describes : schema.Describes model map)
    {clauses : List UpdateClause} {row : Row}
    (answered : (((Request.updateByKey clauses row).run model dialect).outcome schema).1 =
      .ok query) :
    ∃ writer : Dialect, writer.name = dialect.name ∧
      query.sql = Update.byKeyText writer map := by
  rw [Request.run, Update.byKey, SchemaM.outcome_bind_eq_ok] at answered
  obtain ⟨update, ran, answered⟩ := answered
  obtain ⟨result, remembered⟩ := outcome_draft describes dialect clauses
  rw [result] at ran
  obtain ⟨_, adds, -⟩ := UpdateDraft.foldlM_extends ran
  dsimp only at answered
  split at answered
  next => cases answered
  next =>
    obtain ⟨text, asked, answered⟩ := SchemaM.outcome_bind_eq_ok.mp answered
    rw [Draft.rememberedText, Draft.key, adds.map, adds.dialect] at asked
    obtain ⟨writer, sql, sameName, written, rfl⟩ :=
      remembered.exists_of_outcome_text .updateByKey asked
    obtain ⟨values, -, answered⟩ := SchemaM.outcome_bind_eq_ok.mp answered
    obtain ⟨fields, -, answered⟩ := SchemaM.outcome_bind_eq_ok.mp answered
    obtain ⟨draft, -, answered⟩ := SchemaM.outcome_bind_eq_ok.mp answered
    cases answered
    exact ⟨writer, sameName, Update.write_byKeySql written⟩

/-- An update is refused as soon as it assigns to a column that cannot be changed. -/
theorem outcome_of_setField (describes : schema.Describes model map)
    {earlier later : List UpdateClause} {update : UpdateDraft} {field : String}
    {property : Property} {expr : Expr} (row : Row)
    (ran : earlier.foldlM UpdateDraft.apply ⟨Draft.start map dialect, []⟩ = .ok update)
    (found : map.property? field = some property) (fixed : ¬ property.IsChangeable) :
    ∃ error, error.kind = .invalidStatement ∧
      (((Request.update (earlier ++ .setField field expr :: later)).run model dialect).outcome
        schema).1 = .error error ∧
      (((Request.updateByKey (earlier ++ .setField field expr :: later) row).run model
        dialect).outcome schema).1 = .error error := by
  obtain ⟨_, adds, -⟩ := UpdateDraft.foldlM_extends ran
  have own : update.draft.map.property? field = some property := by rwa [adds.map]
  obtain ⟨error, refused, kind⟩ := UpdateDraft.apply_setField_of_not_changeable own fixed
  have failed : (earlier ++ .setField field expr :: later).foldlM UpdateDraft.apply
      ⟨Draft.start map dialect, []⟩ = .error error := by
    have rest := congrArg (fun result => result >>= later.foldlM UpdateDraft.apply) refused
    rw [List.foldlM_append, ran]
    exact rest
  have drafted := (outcome_draft describes dialect _).1.trans failed
  exact ⟨error, kind, SchemaM.outcome_bind_of_error drafted,
    SchemaM.outcome_bind_of_error drafted⟩

end Requests

/-- Whatever a schema was used for, as long as types belong to one model each: an insert
lists exactly the columns whose values come from the caller, each once and in the order of
the map; an update sets what its clauses say and nothing else, and an update by primary key
every column that can be changed, none of which is part of the primary key. A set is the same
as that of the columns that can be changed alone, which are all that it binds. An assignment
to any other column makes the update fail, whatever comes after it. -/
theorem written_columns {tableStem : Option String} {naming : Naming} {history : List Call}
    {model : Model} {map : TableMap} (dialect : Dialect)
    (mapped : TableMap.ofModel tableStem naming model = .ok map)
    (identified : ∀ call ∈ history, call.model.type = model.type → call.model = model) :
    let answer (request : Request) :=
      ((request.run model dialect).outcome ((Schema.fresh tableStem naming).after history)).1
    (∀ row? query, answer (.insert row?) = .ok query →
      (∃ writer : Dialect, writer.name = dialect.name ∧ query.Inserts writer map) ∧
        map.insertable = map.properties.filter (fun property => decide property.IsSupplied) ∧
        (map.insertable.map Property.column).Nodup ∧
        ∀ property ∈ map.properties, property.column ∈ map.insertable.map Property.column →
          property.IsSupplied) ∧
    (∀ clauses query, answer (.update clauses) = .ok query →
      let assigned := UpdateClause.allAssigned map .standard clauses
      (∃ update, clauses.foldlM UpdateDraft.apply ⟨Draft.start map dialect, []⟩ = .ok update ∧
        query.params = update.draft.params ∧
        query.Updates dialect map assigned update.draft.conditionSql) ∧
        ∀ property ∈ map.properties,
          property.column ∈ (assigned.map Prod.fst).map Property.column →
            property.IsChangeable) ∧
    (∀ clauses row query, answer (.updateByKey clauses row) = .ok query →
      (∃ writer : Dialect, writer.name = dialect.name ∧
        query.sql = Update.byKeyText writer map) ∧
        map.updatable = map.properties.filter (fun property => decide property.IsChangeable) ∧
        (map.updatable.map Property.column).Nodup ∧
        ∀ property ∈ map.properties, property.column ∈ map.updatable.map Property.column →
          property.IsChangeable) ∧
    (∀ (update : UpdateDraft) source, update.draft.map = map →
      update.apply (.set source) = (do
        let fields ← source.values map
        let stored ← (map.changes fields).mapM fun change => change.1.toStored change.2
        return update.assigning ((map.changes fields).map Prod.fst) stored)) ∧
    ∀ earlier update field property expr later row,
      earlier.foldlM UpdateDraft.apply ⟨Draft.start map dialect, []⟩ = .ok update →
      map.property? field = some property → ¬ property.IsChangeable →
      ∃ error, error.kind = .invalidStatement ∧
        answer (.update (earlier ++ .setField field expr :: later)) = .error error ∧
        answer (.updateByKey (earlier ++ .setField field expr :: later) row) = .error error := by
  intro answer
  have describes := (Schema.Describes.fresh mapped).after identified
  have columns := TableMap.columns_nodup_of_verify_eq_ok (TableMap.verify_of_ofModel_eq_ok mapped)
  have chosen {choice : Property → Prop} [DecidablePred choice] :
      ((map.properties.filter fun property => decide (choice property)).map
          Property.column).Nodup ∧
        ∀ property ∈ map.properties, property.column ∈ (map.properties.filter fun property =>
          decide (choice property)).map Property.column → choice property := by
    refine ⟨columns.sublist (List.filter_sublist.map _), fun property member column => ?_⟩
    have listed := TableMap.mem_of_column_mem columns
      (fun _ listed => (List.mem_filter.mp listed).1) member column
    exact of_decide_eq_true (List.mem_filter.mp listed).2
  refine ⟨?inserts, ?updates, ?byKey, ?set, ?setField⟩
  case inserts =>
    intro row? query answered
    refine ⟨inserts_of_outcome describes answered, map.insertable_eq_filter, ?_⟩
    rw [map.insertable_eq_filter]
    exact chosen
  case updates =>
    intro clauses query answered assigned
    obtain ⟨updates, changeable⟩ := updates_of_outcome describes answered
    refine ⟨updates, fun property member column => ?_⟩
    rw [UpdateClause.map_fst_allAssigned] at column
    have target := TableMap.mem_of_column_mem columns
      (fun property target => (changeable property target).1) member column
    exact (changeable property target).2
  case byKey =>
    intro clauses row query answered
    refine ⟨byKeyText_of_outcome describes answered, map.updatable_eq_filter, ?_⟩
    rw [map.updatable_eq_filter]
    exact chosen
  case set =>
    intro update source sameMap
    exact UpdateDraft.apply_set_eq (TableMap.unique_of_ofModel_eq_ok mapped) sameMap source
  case setField =>
    intro earlier update field property expr later row ran found fixed
    exact outcome_of_setField describes row ran found fixed

namespace Bill

/-- Bills with a number and a date from the database and a total that is computed, sent to
a customer for an amount. -/
def model : Model :=
  ⟨"Bill", none, [(Field.plain "number" ⟨.i64, false⟩).withMarks [.primaryKey, .identity],
    Field.plain "customer" ⟨.string, false⟩,
    (Field.plain "issued" ⟨.string, false⟩).mark .generated,
    Field.plain "amount" ⟨.i32, false⟩,
    (Field.plain "total" ⟨.i32, false⟩).mark .computed]⟩

def sent : Row :=
  ⟨"Bill", [("number", .i64 5), ("customer", .string "ann"), ("issued", .string "today"),
    ("amount", .i32 30), ("total", .i32 36)]⟩

/-- The amount of the bill is raised, and it goes to another customer. A number that is
given with the customer is passed over. -/
def raised : List UpdateClause :=
  [.setField "amount" (.binary (.arithmetic .add) (.field "amount") (.value (.i32 6))),
    .set (.record [("number", .i64 6), ("customer", .string "bob")]),
    .filter (.matchingKey (.row sent))]

/-- The bill was updated by its number before. -/
def history : List Call :=
  [.statement model .postgresql (.updateByKey [] sent)]

/-- Only the customer and the amount of a bill are written, and giving it another number
on purpose is refused. -/
theorem customer_and_amount_written :
    let map := TableMap.draft none .verbatim model
    let answer (request : Request) := ((request.run model .postgresql).outcome
      ((Schema.fresh none .verbatim).after history)).1
    (∃ query, answer (.insert (some sent)) = .ok query ∧
      (∃ writer : Dialect, writer.name = "postgresql" ∧ query.Inserts writer map) ∧
      query.sql = "insert into \"Bill\" (\"customer\", \"amount\") values (@p0, @p1)" ++
        " returning \"number\"") ∧
    (∃ query update, answer (.update raised) = .ok query ∧
      query.Updates .postgresql map (UpdateClause.allAssigned map .standard raised)
        (Draft.conditionSql update) ∧
      query.sql = "update \"Bill\" set \"amount\" = (\"amount\" + @p0), " ++
        "\"customer\" = @p1 where (\"number\" = @p2)") ∧
    (∃ query, answer (.updateByKey [] sent) = .ok query ∧
      (∃ writer : Dialect, writer.name = "postgresql" ∧
        query.sql = Update.byKeyText writer map) ∧
      query.sql = "update \"Bill\" set \"customer\" = @p0, \"amount\" = @p1 " ++
        "where (\"number\" = @p2)") ∧
    ∃ error, error.kind = .invalidStatement ∧
      answer (.update (raised ++ [.setField "number" (.value (.i64 6)),
        .filter (.matchingKey (.row sent))])) = .error error := by
  intro map answer
  have identified : ∀ call ∈ history, call.model.type = model.type → call.model = model := by
    simp [history, Call.model]
  have mapped : TableMap.ofModel none .verbatim model = .ok map := rfl
  obtain ⟨inserts, updates, byKey, -, refused⟩ := written_columns .postgresql mapped identified
  have inserted := inserts (some sent) _ rfl
  obtain ⟨⟨update, -, -, updated⟩, -⟩ := updates raised _ rfl
  have keyed := byKey [] sent _ rfl
  obtain ⟨error, kind, failed, -⟩ := refused raised _ "number" _ (.value (.i64 6))
    [.filter (.matchingKey (.row sent))] sent rfl rfl (by decide)
  exact ⟨⟨_, rfl, inserted.1, rfl⟩, ⟨_, update.draft, rfl, updated, rfl⟩,
    ⟨_, rfl, keyed.1, rfl⟩, error, kind, failed⟩

end Bill

end SqlMapper
