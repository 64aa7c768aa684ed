import SqlMapper.Proofs.Statement.Binding
import SqlMapper.Proofs.TableMap

/-!
# Values of a row

A row of the type that a map belongs to has a value for every mapped field. Going
through these values, a statement under construction passes over some fields and
binds the others; `Collector.foldlM_heldFields` gives the closed form of such a run,
from which those of conditions and assignments follow.
-/

namespace SqlMapper

namespace Property

/-- The value of the field in a row, null when the row has none. -/
def held (property : Property) (row : Row) : Value :=
  (NameTable.get? property.name row.values).getD .null

theorem valueOf_eq_ok {property : Property} {row : Row} {value : Value} :
    property.valueOf row = .ok value ↔ row.type = property.owner ∧ property.held row = value := by
  unfold valueOf
  split
  next owned => simp [owned, held]
  next foreign =>
    constructor
    · intro read
      cases read
    · intro read
      exact absurd read.1 foreign

/-- The stored form of the value of the field in a row. -/
def heldStored (row : Row) (property : Property) : Result Value :=
  property.toStored (property.held row)

theorem storedOf_of_owned {property : Property} {row : Row} (owned : row.type = property.owner) :
    property.storedOf row = property.heldStored row := by
  simp only [storedOf, valueOf_eq_ok.mpr ⟨owned, rfl⟩]
  rfl

end Property

namespace TableMap

variable {map : TableMap} {property : Property} {row : Row}

/-- The row has the type that the fields of the map belong to. -/
def Owns (map : TableMap) (row : Row) : Prop :=
  ∀ property ∈ map.properties, row.type = property.owner

/-- The named values of a row in the order of the map. -/
def heldFields (map : TableMap) (row : Row) : List (String × Value) :=
  map.properties.map fun property => (property.name, property.held row)

theorem values_row_eq_ok {fields : List (String × Value)} :
    (Source.row row).values map = .ok fields ↔ map.Owns row ∧ fields = map.heldFields row := by
  have read (property : Property) (owned : row.type = property.owner) :
      (do return (property.name, ← property.valueOf row) : Result (String × Value)) =
        .ok (property.name, property.held row) := by
    rw [Property.valueOf_eq_ok.mpr ⟨owned, rfl⟩]
    rfl
  constructor
  · intro ran
    have owns : map.Owns row := fun property mapped => by
      obtain ⟨field, read⟩ := Result.ok_of_mapM_eq_ok ran property mapped
      simp only [Result.bind_eq_ok] at read
      obtain ⟨value, read, -⟩ := read
      exact (Property.valueOf_eq_ok.mp read).1
    refine ⟨owns, ?_⟩
    have known := Result.mapM_eq_ok fun property mapped => read property (owns property mapped)
    exact Except.ok.inj (ran.symm.trans known)
  · rintro ⟨owns, rfl⟩
    exact Result.mapM_eq_ok fun property mapped => read property (owns property mapped)

theorem get?_heldFields (row : Row) (unique : (map.properties.map Property.name).Nodup)
    (mapped : property ∈ map.properties) :
    NameTable.get? property.name (map.heldFields row) = some (property.held row) := by
  cases found : NameTable.get? property.name (map.heldFields row) with
  | none =>
      have absent := NameTable.get?_eq_none_iff.mp found
      refine absurd ?_ absent
      exact List.mem_map.mpr ⟨_, List.mem_map_of_mem mapped, rfl⟩
  | some value =>
      obtain ⟨other, otherMapped, same⟩ := List.mem_map.mp (NameTable.mem_of_get?_eq_some found)
      obtain ⟨sameName, rfl⟩ := Prod.mk.inj same
      rw [List.inj_on_of_nodup_map unique otherMapped mapped sameName]

end TableMap

namespace Collector

variable {σ : Type} (collector : Collector σ) {map : TableMap} {row : Row}
  {act : σ → Property → Value → Result σ} {selected : Property → Bool} {state : σ}

/-- Looking up the fields of a row and passing over some of them goes through the
others. -/
theorem foldlM_selected {properties : List Property}
    (unique : (map.properties.map Property.name).Nodup)
    (mapped : ∀ property ∈ properties, property ∈ map.properties)
    (sameMap : (collector.draft state).map = map)
    (skips : ∀ state property, selected property = false →
      act state property (property.held row) = .ok state)
    (binds : ∀ state, ∀ property ∈ properties.filter selected,
      act state property (property.held row) =
        (property.heldStored row).map (collector.bindValue state property)) :
    (properties.map fun property => (property.name, property.held row)).foldlM
        (fun state field => do
          let property ← (collector.draft state).map.property field.1
          act state property field.2) state =
      (properties.filter selected).foldlM
        (fun state property => act state property (property.held row)) state := by
  induction properties generalizing state with
  | nil => rfl
  | cons property rest inductionHypothesis =>
      obtain ⟨member, restMapped⟩ := List.forall_mem_cons.mp mapped
      have found : (collector.draft state).map.property property.name = .ok property := by
        rw [sameMap, TableMap.property_name_eq_ok unique member]
      rw [List.map_cons, List.foldlM_cons, found]
      cases choice : selected property with
      | false =>
          rw [List.filter_cons_of_neg (by simp [choice])] at binds ⊢
          have passed := skips state property choice
          rw [← inductionHypothesis restMapped sameMap binds]
          simp only [bind, Except.bind, passed]
      | true =>
          rw [List.filter_cons_of_pos choice] at binds ⊢
          have bound := binds state property (by simp)
          rw [List.foldlM_cons]
          simp only [bind, Except.bind, bound]
          cases property.heldStored row with
          | error error => rfl
          | ok value =>
              apply inductionHypothesis restMapped
              · rw [bindValue, collector.map_add, sameMap]
              · exact fun state property member => binds state property (by simp [member])

/-- Steps that look a field of a row up and either pass over it or bind its value
compute all values first and give them consecutive numbers. -/
theorem foldlM_heldFields (act : σ → Property → Value → Result σ)
    (selected : Property → Bool) {values : List Value}
    (unique : (map.properties.map Property.name).Nodup)
    (sameMap : (collector.draft state).map = map)
    (numbered : (collector.draft state).params = .numbered 0 values)
    (skips : ∀ state property, selected property = false →
      act state property (property.held row) = .ok state)
    (binds : ∀ state, ∀ property ∈ map.properties.filter selected,
      act state property (property.held row) =
        (property.heldStored row).map (collector.bindValue state property)) :
    (map.heldFields row).foldlM (fun state field => do
        let property ← (collector.draft state).map.property field.1
        act state property field.2) state =
      ((map.properties.filter selected).mapM (Property.heldStored row)).map fun further =>
          collector.add state (TableMap.numbered (map.properties.filter selected) values.length)
            (.numbered 0 (values ++ further)) := by
  have through := collector.foldlM_selected unique (fun _ => id) sameMap skips binds
  have bound := collector.foldlM_bind sameMap numbered fun state _ => binds state
  exact through.trans bound

end Collector

namespace Draft

/-- The conditions that fields have their values. -/
def conditionCollector : Collector Draft where
  draft := id
  add draft bound params :=
    { draft with
      params
      conditions := draft.conditions ++ bound.map fun (property, name) =>
        property.equalsParameter name }
  add_nil draft := by simp
  add_add draft bound further params final := by simp
  params_add _ _ _ := rfl
  map_add _ _ _ := rfl

variable {map : TableMap} {row : Row} {draft : Draft} {values : List Value}

theorem filterField_of_not_null {property : Property} {value : Value}
    (notNull : property.toStored value ≠ .ok .null) :
    draft.filterField property value =
      (property.toStored value).map (conditionCollector.bindValue draft property) := by
  unfold filterField
  cases stored : property.toStored value with
  | error error => rfl
  | ok value =>
      cases value with
      | null => exact absurd stored notNull
      | _ => rfl

/-- A filter by a key without nulls compares every key column with a parameter. -/
theorem filterFields_heldFields (unique : (map.properties.map Property.name).Nodup)
    (present : ∀ property ∈ map.primaryKey, property.heldStored row ≠ .ok .null)
    (sameMap : draft.map = map) (numbered : draft.params = .numbered 0 values) :
    draft.filterFields true (map.heldFields row) =
      (map.primaryKey.mapM (Property.heldStored row)).map fun keys =>
        { draft with
          params := .numbered 0 (values ++ keys)
          conditions := draft.conditions ++
            (TableMap.numbered map.primaryKey values.length).map fun (property, name) =>
              property.equalsParameter name } := by
  refine conditionCollector.foldlM_heldFields
    (fun draft property value =>
      if true && !property.primaryKey then return draft else draft.filterField property value)
    (fun property => property.primaryKey) unique sameMap numbered ?_ ?_
  · intro state property other
    simp [other]
  · intro state property key
    have isKey : property.primaryKey = true := by simpa using (List.mem_filter.mp key).2
    rw [isKey]
    exact filterField_of_not_null (present property key)

/-- The key of a row is bound in the order of the map. -/
theorem bindKey_heldFields (unique : (map.properties.map Property.name).Nodup)
    (sameMap : draft.map = map) (numbered : draft.params = .numbered 0 values) :
    draft.bindKey (map.heldFields row) =
      (map.primaryKey.mapM (Property.heldStored row)).map fun keys =>
        { draft with params := .numbered 0 (values ++ keys) } := by
  rw [bindKey_eq _ numbered, sameMap]
  congr 1
  apply Result.mapM_congr
  intro property key
  have found := TableMap.get?_heldFields row unique (List.mem_filter.mp key).1
  simp only [keyStored, keyValue, found]
  rfl

end Draft

namespace UpdateDraft

/-- The assignments of values to fields. -/
def assignmentCollector : Collector UpdateDraft where
  draft := UpdateDraft.draft
  add update bound params :=
    ⟨{ update.draft with params }, update.assignments ++ bound.map fun (property, name) =>
      property.assignSql [.placeholder name]⟩
  add_nil update := by simp
  add_add update bound further params final := by simp
  params_add _ _ _ := rfl
  map_add _ _ _ := rfl

theorem assignValue_eq_map {update : UpdateDraft} {property : Property} {value : Value} :
    update.assignValue property value =
      (property.toStored value).map (assignmentCollector.bindValue update property) := by
  unfold assignValue
  cases property.toStored value <;> rfl

/-- The values of a row are assigned to every updatable field. -/
theorem assignFields_heldFields {map : TableMap} {row : Row} {update : UpdateDraft}
    {values : List Value} (unique : (map.properties.map Property.name).Nodup)
    (sameMap : update.draft.map = map) (numbered : update.draft.params = .numbered 0 values) :
    update.assignFields (map.heldFields row) =
      (map.updatable.mapM (Property.heldStored row)).map fun stored =>
        ⟨{ update.draft with params := .numbered 0 (values ++ stored) }, update.assignments ++
          (TableMap.numbered map.updatable values.length).map fun (property, name) =>
            property.assignSql [.placeholder name]⟩ := by
  refine assignmentCollector.foldlM_heldFields
    (fun update property value =>
      if property.updatable then update.assignValue property value else return update)
    Property.updatable unique sameMap numbered ?_ ?_
  · intro state property other
    simp [other]
  · intro state property member
    have updatable : property.updatable = true := (List.mem_filter.mp member).2
    rw [if_pos updatable]
    exact assignValue_eq_map

end UpdateDraft

end SqlMapper
