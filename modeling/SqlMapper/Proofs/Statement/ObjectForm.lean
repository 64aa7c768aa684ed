import SqlMapper.Proofs.Compile.Meaning
import SqlMapper.Proofs.Statement.Variation

/-!
# Values given for fields

A statement writes the values that are given for its fields on its own; the same values
in an expression go through the compiler. Both ways end in the same conditions, the same
assignments and the same parameters, or in the same error.
-/

namespace SqlMapper

/-- The condition that a field has a value, as an expression. -/
def FilterClause.fieldIs (field : String × Value) : FilterClause :=
  .condition (.eq (.field field.1) (.value field.2))

/-- The assignment of a value to a field, as an expression. -/
def UpdateClause.setValue (field : String × Value) : UpdateClause :=
  .setField field.1 (.value field.2)

namespace Expr

variable {map : TableMap} {evaluator : Evaluator} {property : Property} {name : String}
variable {value : Value}

/-- The condition compiles to a null test, or to a comparison with the stored value. -/
theorem outcome_fieldIs (mapped : map.property name = .ok property) (bound : List Value) :
    ((eq (field name) (.value value)).predicate map evaluator).outcome bound =
      match property.toStored value with
      | .error error => (.error error, bound)
      | .ok .null => (.ok (.nullTest (.column property.column) true), bound)
      | .ok stored =>
        (.ok (.comparison .eq (.column property.column) (.slot bound.length)),
          bound ++ [stored]) := by
  have mentioned : (eq (field name) (.value value)).referencesRow = true := rfl
  rw [predicate, eq, operand_comparison mentioned, operand_field evaluator mapped]
  simp only [operand, pure_bind, Operand.storedBeside]
  cases property.toStored value with
  | error error => rfl
  | ok stored => cases stored <;> rfl

theorem outcome_fieldIs_of_unmapped {error : Error} (unmapped : map.property name = .error error)
    (bound : List Value) :
    ((eq (field name) (.value value)).predicate map evaluator).outcome bound =
      (.error error, bound) := by
  have mentioned : (eq (field name) (.value value)).referencesRow = true := rfl
  rw [predicate, eq, operand_comparison mentioned]
  simp only [field, operand, isRow, if_true, unmapped]
  rfl

/-- An assigned constant is bound in its stored form. -/
theorem outcome_assignment_value (bound : List Value) :
    ((Expr.value value).assignment map evaluator property).outcome bound =
      match property.toStored value with
      | .error error => (.error error, bound)
      | .ok stored => (.ok (.slot bound.length), bound ++ [stored]) := by
  simp only [assignment, operand, pure_bind]
  cases property.toStored value <;> rfl

end Expr

/-- Among mapped fields, a record gives its own entries. -/
theorem Source.values_record_of_mapped {map : TableMap} {fields : List (String × Value)}
    (mapped : ∀ field ∈ fields, ∃ property, map.property field.1 = .ok property) :
    (Source.record fields).values map = .ok fields := by
  have each : ∀ field ∈ fields, requireMapped map field = .ok field := by
    intro field member
    obtain ⟨property, found⟩ := mapped field member
    unfold TableMap.property at found
    unfold requireMapped
    cases lookup : map.property? field.1 with
    | none =>
        rw [lookup] at found
        cases found
    | some other => rfl
  rw [values, Result.mapM_eq_ok each, List.map_id']

namespace Draft

/-- The condition as an expression is the one that the statement writes itself. -/
theorem filter_fieldIs (draft : Draft) (field : String × Value) :
    draft.filter (.fieldIs field) =
      draft.map.property field.1 >>= fun property => draft.filterField property field.2 := by
  simp only [FilterClause.fieldIs, filter, compile_eq_map]
  cases mapped : draft.map.property field.1 with
  | error error =>
      rw [Expr.outcome_fieldIs_of_unmapped mapped]
      rfl
  | ok property =>
      rw [Expr.outcome_fieldIs mapped]
      change _ = draft.filterField property field.2
      rw [filterField]
      cases property.toStored field.2 with
      | error error => rfl
      | ok stored => cases stored <;> rfl

theorem filterFields_eq_foldlM (draft : Draft) (fields : List (String × Value)) :
    draft.filterFields false fields = (fields.map .fieldIs).foldlM filter draft := by
  rw [List.foldlM_map, filterFields]
  refine Result.foldlM_congr (fun _ => True) trivial ?_ fun _ _ _ _ _ _ => trivial
  intro draft _ field _
  rw [filter_fieldIs]
  rfl

theorem filter_matching_eq_foldlM {draft : Draft} {fields : List (String × Value)}
    (mapped : ∀ field ∈ fields, ∃ property, draft.map.property field.1 = .ok property) :
    draft.filter (.matching (.record fields)) = (fields.map .fieldIs).foldlM filter draft := by
  rw [← filterFields_eq_foldlM, filter, Source.values_record_of_mapped mapped]
  rfl

end Draft

namespace UpdateDraft

/-- The assignment as an expression is the one that the update writes itself. -/
theorem apply_setValue {update : UpdateDraft} {field : String × Value} {property : Property}
    (mapped : update.draft.map.property field.1 = .ok property)
    (updatable : property.updatable = true) :
    update.apply (.setValue field) = update.assignValue property field.2 := by
  simp only [UpdateClause.setValue, apply, assignExpr, Draft.compile_eq_map, mapped,
    Expr.outcome_assignment_value]
  change (if !property.updatable then _ else _) = _
  rw [updatable, assignValue]
  cases property.toStored field.2 <;> rfl

theorem assignFields_eq_foldlM {update : UpdateDraft} {fields : List (String × Value)}
    (updatable : ∀ field ∈ fields, ∃ property,
      update.draft.map.property field.1 = .ok property ∧ property.updatable = true) :
    update.assignFields fields = (fields.map .setValue).foldlM apply update := by
  rw [List.foldlM_map, assignFields]
  -- An assignment leaves the map as it is, so the fields stay updatable along the way.
  have assigns : ∀ state : UpdateDraft, state.draft.map = update.draft.map →
      ∀ field ∈ fields, ∃ property,
        state.draft.map.property field.1 = .ok property ∧ property.updatable = true := by
    intro state same field member
    rw [same]
    exact updatable field member
  refine Result.foldlM_congr (fun state => state.draft.map = update.draft.map) rfl ?_ ?_
  · intro state same field member
    obtain ⟨property, found, assigned⟩ := assigns state same field member
    rw [apply_setValue found assigned, found]
    simp only [bind, Except.bind, assigned, if_true]
  · intro state same field member next stepped
    obtain ⟨property, found, assigned⟩ := assigns state same field member
    simp only [found, bind, Except.bind, assigned, if_true] at stepped
    obtain ⟨_, adds, _⟩ := assignValue_extends (TableMap.mem_of_property_eq_ok found) stepped
    exact adds.map.trans same

end UpdateDraft

/-- Whatever a statement has collected so far, the values of mapped fields leave it, or make
it fail, as one condition `field == value` after the other does; and the values of updatable
fields leave an update as one assignment after the other does. In both forms a value that is
stored as null becomes a null test that binds nothing, any other one is compared in its
stored form, and a value that has none is refused for the same reason. -/
theorem object_forms_agree (draft : Draft) (fields : List (String × Value)) :
    ((∀ field ∈ fields, ∃ property, draft.map.property field.1 = .ok property) →
      draft.filter (.matching (.record fields)) =
        (fields.map FilterClause.fieldIs).foldlM Draft.filter draft) ∧
    (∀ assignments,
      (∀ field ∈ fields, ∃ property,
        draft.map.property field.1 = .ok property ∧ property.updatable = true) →
      UpdateDraft.apply ⟨draft, assignments⟩ (.set (.record fields)) =
        (fields.map UpdateClause.setValue).foldlM UpdateDraft.apply ⟨draft, assignments⟩) ∧
    ∀ field property, draft.map.property field = .ok property → ∀ value,
      ∀ clause ∈ [FilterClause.matching (.record [(field, value)]), .fieldIs (field, value)],
        (∀ error, property.toStored value = .error error → draft.filter clause = .error error) ∧
        (property.toStored value = .ok .null →
          draft.filter clause = .ok (draft.addCondition property.isNullSql)) ∧
        ∀ stored, property.toStored value = .ok stored → stored.isNull = false →
          draft.filter clause = .ok ((draft.bind stored).2.addCondition
            (property.equalsParameter (draft.bind stored).1)) := by
  refine ⟨Draft.filter_matching_eq_foldlM, ?_, ?_⟩
  · intro assignments updatable
    have mapped : ∀ field ∈ fields, ∃ property, draft.map.property field.1 = .ok property :=
      fun field member => (updatable field member).imp fun _ => And.left
    rw [← UpdateDraft.assignFields_eq_foldlM updatable, UpdateDraft.apply,
      Source.values_record_of_mapped mapped]
    rfl
  · intro field property found value clause member
    have form : draft.filter clause = draft.filterField property value := by
      have single : draft.filter (.fieldIs (field, value)) = draft.filterField property value := by
        rw [Draft.filter_fieldIs, found]
        rfl
      simp only [List.mem_cons, List.not_mem_nil, or_false] at member
      rcases member with rfl | rfl
      · rw [Draft.filter_matching_eq_foldlM (by simpa using ⟨property, found⟩), ← single]
        simp
      · exact single
    rw [form, Draft.filterField]
    refine ⟨?_, ?_, ?_⟩
    · intro error refused
      rw [refused]
      rfl
    · intro null
      rw [null]
      rfl
    · intro stored converted present
      rw [converted]
      cases stored with
      | null => cases present
      | _ => rfl

namespace Invoice

/-- Paid invoices whose amount is unknown, by values and by expressions. -/
theorem paidWithoutAmount_forms_agree :
    (Draft.start mapping .ansi).filter
        (.matching (.record [("paid", .bool true), ("amount", .null)])) =
      [.fieldIs ("paid", .bool true), .fieldIs ("amount", .null)].foldlM Draft.filter
        (Draft.start mapping .ansi) ∧
    UpdateDraft.apply ⟨Draft.start mapping .ansi, []⟩
        (.set (.record [("paid", .bool true), ("amount", .null)])) =
      [.setValue ("paid", .bool true), .setValue ("amount", .null)].foldlM UpdateDraft.apply
        ⟨Draft.start mapping .ansi, []⟩ ∧
    (Draft.start mapping .ansi).filter (.fieldIs ("amount", .null)) =
      .ok ((Draft.start mapping .ansi).addCondition amount.isNullSql) := by
  obtain ⟨filtered, assigned, single⟩ := object_forms_agree (Draft.start mapping .ansi)
    [("paid", .bool true), ("amount", .null)]
  have updatable : ∀ field ∈ [("paid", Value.bool true), ("amount", .null)], ∃ property,
      mapping.property field.1 = .ok property ∧ property.updatable = true :=
    List.forall_mem_cons.mpr ⟨⟨paid, rfl, rfl⟩, List.forall_mem_singleton.mpr ⟨amount, rfl, rfl⟩⟩
  have null := single "amount" amount rfl .null (.fieldIs ("amount", .null)) (by simp)
  exact ⟨filtered fun field member => (updatable field member).imp fun _ => And.left,
    assigned [] updatable, null.2.1 rfl⟩

end Invoice

end SqlMapper
