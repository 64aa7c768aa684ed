import SqlMapper.Proofs.Numbering
import SqlMapper.Proofs.Result
import SqlMapper.Statement.Update

/-!
# Values bound field by field

Several steps go through properties, compute the stored form of a value for each
and bind it. A `Collector` is what they have in common, and `Collector.foldlM_act`
their closed form: first all values are computed, then they carry consecutive
numbers, which are the ones that `TableMap.numbered` wrote in advance.
-/

namespace SqlMapper

open Params

namespace TableMap

@[simp] theorem numbered_nil (first : Nat) : numbered [] first = [] := rfl

theorem numbered_cons (property : Property) (rest : List Property) (first : Nat) :
    numbered (property :: rest) first =
      (property, generatedName first) :: numbered rest (first + 1) := by
  simp only [numbered, List.zipIdx_cons', List.map_cons, List.map_map, Nat.add_zero]
  refine congrArg _ (List.map_congr_left fun entry _ => ?_)
  have shifted : first + (entry.2 + 1) = first + 1 + entry.2 := by omega
  exact congrArg (fun number => (entry.1, generatedName number)) shifted

@[simp] theorem length_numbered (properties : List Property) (first : Nat) :
    (numbered properties first).length = properties.length := by
  simp [numbered]

/-- The names written in advance are the generated ones. -/
theorem map_snd_numbered (properties : List Property) (first : Nat) :
    (numbered properties first).map Prod.snd = generatedNames first properties.length := by
  induction properties generalizing first with
  | nil => rfl
  | cons property rest inductionHypothesis =>
      rw [numbered_cons, List.map_cons, inductionHypothesis, List.length_cons,
        generatedNames_succ]

theorem map_fst_numbered (properties : List Property) (first : Nat) :
    (numbered properties first).map Prod.fst = properties := by
  induction properties generalizing first with
  | nil => rfl
  | cons property rest inductionHypothesis =>
      rw [numbered_cons, List.map_cons, inductionHypothesis]

theorem numbered_eq_zip (properties : List Property) (first : Nat) :
    numbered properties first = properties.zip (generatedNames first properties.length) := by
  have paired := List.zip_unzip (numbered properties first)
  rw [List.unzip_eq_map, map_fst_numbered, map_snd_numbered] at paired
  exact paired.symm

end TableMap

/-- A statement under construction that binds the values of properties. Adding
takes the properties with the names of their parameters, and the parameters
afterwards. -/
structure Collector (σ : Type) where
  draft : σ → Draft
  add : σ → List (Property × String) → Params → σ
  add_nil : ∀ state, add state [] (draft state).params = state
  add_add : ∀ state bound further params final,
    add (add state bound params) further final = add state (bound ++ further) final
  params_add : ∀ state bound params, (draft (add state bound params)).params = params
  map_add : ∀ state bound params, (draft (add state bound params)).map = (draft state).map

namespace Collector

variable {σ : Type} (collector : Collector σ) {properties : List Property}

/-- Bind one value. -/
def bindValue (state : σ) (property : Property) (value : Value) : σ :=
  collector.add state [(property, ((collector.draft state).params.push value).1)]
    ((collector.draft state).params.push value).2

/-- Steps that compute a value and bind it compute all values first and give them
consecutive numbers. -/
theorem foldlM_bind {step : σ → Property → Result σ} {compute : Property → Result Value}
    {map : TableMap} {state : σ} {values : List Value}
    (mapped : (collector.draft state).map = map)
    (numbered : (collector.draft state).params = .numbered 0 values)
    (steps : ∀ state, (collector.draft state).map = map → ∀ property ∈ properties,
      step state property = (compute property).map (collector.bindValue state property)) :
    properties.foldlM step state = (properties.mapM compute).map fun further =>
      collector.add state (TableMap.numbered properties values.length)
        (.numbered 0 (values ++ further)) := by
  induction properties generalizing state values with
  | nil =>
      have unchanged := collector.add_nil state
      rw [numbered] at unchanged
      simp [Except.map, pure, Except.pure, unchanged]
  | cons property rest inductionHypothesis =>
      rw [List.foldlM_cons, List.mapM_cons, steps state mapped property (by simp)]
      cases compute property with
      | error error => rfl
      | ok value =>
          have bound : collector.bindValue state property value =
              collector.add state [(property, generatedName values.length)]
                (.numbered 0 (values ++ [value])) := by
            rw [bindValue, numbered, push_numbered, Nat.zero_add]
          have numbered : (collector.draft (collector.bindValue state property value)).params =
              .numbered 0 (values ++ [value]) := by rw [bound, collector.params_add]
          have later := inductionHypothesis (by rw [bound, collector.map_add, mapped]) numbered
            (fun state mapped property member => steps state mapped property (by simp [member]))
          simp only [Except.map, bind, Except.bind] at later ⊢
          rw [later]
          cases rest.mapM compute with
          | error error => rfl
          | ok further =>
              simp [bound, collector.add_add, TableMap.numbered_cons, pure, Except.pure]

end Collector

namespace Draft

/-- The values of the key, which become no part of the text. -/
def keyCollector : Collector Draft where
  draft := id
  add draft _ params := { draft with params }
  add_nil _ := rfl
  add_add _ _ _ _ _ := rfl
  params_add _ _ _ := rfl
  map_add _ _ _ := rfl

/-- The stored form of a key field among named values. -/
def keyStored (map : TableMap) (fields : List (String × Value)) (property : Property) :
    Result Value := do
  property.toStored (← keyValue map fields property)

/-- The key is bound in the order of the map. -/
theorem bindKey_eq {draft : Draft} {values : List Value} (fields : List (String × Value))
    (numbered : draft.params = .numbered 0 values) :
    draft.bindKey fields = (draft.map.primaryKey.mapM (keyStored draft.map fields)).map
      fun further => { draft with params := .numbered 0 (values ++ further) } := by
  apply keyCollector.foldlM_bind rfl numbered
  intro state mapped property _
  have sameMap : state.map = draft.map := mapped
  rw [← sameMap]
  simp only [keyStored, Bind.bind, Except.bind]
  cases keyValue state.map fields property with
  | error error => rfl
  | ok value => cases property.toStored value <;> rfl

end Draft

end SqlMapper
