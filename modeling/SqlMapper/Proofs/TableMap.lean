import Mathlib.Data.List.Nodup
import SqlMapper.Proofs.Result
import SqlMapper.Proofs.ValueMap
import SqlMapper.TableMap

/-!
# Accepted table maps

A table map is accepted when its properties are `Mappable`. Their fields have different
names and different columns, so a name, or a column, determines its property, and so does
being an identity.
-/

namespace SqlMapper

/-- An identity is a single key column, fields and columns are distinct, and value maps are
unambiguous. -/
structure Mappable (properties : List Property) : Prop where
  identityIsKey : ∀ property ∈ properties, property.identity = true → property.primaryKey = true
  oneIdentity : (properties.countP fun property => property.identity) ≤ 1
  names : (properties.map Property.name).Nodup
  columns : (properties.map Property.column).Nodup
  valueMaps : ∀ property ∈ properties, ∀ coding, property.valueMap = some coding →
    coding.verify = .ok ()

namespace TableMap

variable {map : TableMap} {property : Property} {name : String}

/-- The properties differ from each other and from what is known already. -/
def Fresh (key : Property → String) (known : List String) (properties : List Property) : Prop :=
  (properties.map key).Nodup ∧ ∀ property ∈ properties, key property ∉ known

theorem fresh_cons {key : Property → String} {known : List String} {rest : List Property} :
    Fresh key known (property :: rest) ↔
      key property ∉ known ∧ Fresh key (key property :: known) rest := by
  constructor
  · rintro ⟨unique, new⟩
    obtain ⟨alone, others⟩ := List.nodup_cons.mp unique
    obtain ⟨fresh, later⟩ := List.forall_mem_cons.mp new
    refine ⟨fresh, others, fun other member repeated => ?_⟩
    rcases List.mem_cons.mp repeated with same | already
    · exact alone (same ▸ List.mem_map_of_mem member)
    · exact later other member already
  · rintro ⟨fresh, others, new⟩
    refine ⟨List.nodup_cons.mpr ⟨fun repeated => ?_, others⟩,
      List.forall_mem_cons.mpr ⟨fresh, fun other member already => ?_⟩⟩
    · obtain ⟨other, member, same⟩ := List.mem_map.mp repeated
      exact new other member (same ▸ List.mem_cons_self)
    · exact new other member (List.mem_cons_of_mem _ already)

theorem repetition?_eq_none {model : String} {names columns : List String}
    {properties : List Property} :
    repetition? model names columns properties = none ↔
      Fresh Property.name names properties ∧ Fresh Property.column columns properties := by
  induction properties generalizing names columns with
  | nil => simp [repetition?, Fresh]
  | cons property rest inductionHypothesis =>
      rw [fresh_cons, fresh_cons, repetition?]
      split
      next repeated => simp [repeated]
      next freshName =>
        split
        next repeated => simp [repeated]
        next freshColumn =>
          rw [inductionHypothesis, and_iff_right freshName, and_iff_right freshColumn]

theorem strayIdentity?_eq_none :
    map.strayIdentity? = none ↔
      ∀ property ∈ map.properties, property.identity = true → property.primaryKey = true := by
  simp [strayIdentity?]

theorem forM_verify_eq_ok :
    map.valueMaps.forM ValueMap.verify = .ok () ↔
      ∀ property ∈ map.properties, ∀ coding, property.valueMap = some coding →
        coding.verify = .ok () := by
  rw [Result.forM_eq_ok]
  simp only [valueMaps, List.mem_filterMap]
  exact ⟨fun each property member coding coded => each coding ⟨property, member, coded⟩,
    fun each coding ⟨property, member, coded⟩ => each property member coding coded⟩

/-- The verification accepts exactly the maps with such properties. -/
theorem verify_eq_ok : map.verify = .ok () ↔ Mappable map.properties := by
  unfold verify
  split
  next stray found =>
    refine iff_of_false nofun fun mappable => ?_
    rw [strayIdentity?_eq_none.mpr mappable.identityIsKey] at found
    cases found
  next noStray =>
    split
    next many =>
      refine iff_of_false nofun fun mappable => ?_
      exact Nat.not_lt.mpr mappable.oneIdentity many
    next atMostOne =>
      have nothingKnown {key : Property → String} :
          Fresh key [] map.properties ↔ (map.properties.map key).Nodup := by
        simp [Fresh]
      split
      next fault repeated =>
        refine iff_of_false nofun fun mappable => ?_
        rw [repetition?_eq_none.mpr ⟨nothingKnown.mpr mappable.names,
          nothingKnown.mpr mappable.columns⟩] at repeated
        cases repeated
      next distinct =>
        obtain ⟨names, columns⟩ := repetition?_eq_none.mp distinct
        rw [forM_verify_eq_ok]
        exact ⟨fun valueMaps => ⟨strayIdentity?_eq_none.mp noStray, Nat.not_lt.mp atMostOne,
          nothingKnown.mp names, nothingKnown.mp columns, valueMaps⟩, Mappable.valueMaps⟩

theorem kind_of_verify_eq_error {error : Error} (refused : map.verify = .error error) :
    error.kind = .invalidSchema := by
  unfold verify at refused
  split at refused
  next =>
    cases refused
    rfl
  next =>
    split at refused
    next =>
      cases refused
      rfl
    next =>
      split at refused
      next =>
        cases refused
        rfl
      next =>
        obtain ⟨coding, -, ambiguous⟩ := Result.exists_of_forM_eq_error refused
        exact ValueMap.kind_of_verify_eq_error ambiguous

/-- Fields have different names. -/
theorem unique_of_verify_eq_ok (accepted : map.verify = .ok ()) :
    (map.properties.map Property.name).Nodup :=
  (verify_eq_ok.mp accepted).names

/-- Fields are stored in different columns. -/
theorem columns_nodup_of_verify_eq_ok (accepted : map.verify = .ok ()) :
    (map.properties.map Property.column).Nodup :=
  (verify_eq_ok.mp accepted).columns

section Models

variable {tableStem : Option String} {naming : Naming} {model : Model}

/-- An accepted map is the one that was drafted. -/
theorem ofModel_eq_ok_iff :
    ofModel tableStem naming model = .ok map ↔
      map = draft tableStem naming model ∧ map.verify = .ok () := by
  simp only [ofModel, Result.bind_eq_ok, Result.pure_eq_ok]
  constructor
  · rintro ⟨_, accepted, rfl⟩
    exact ⟨rfl, accepted⟩
  · rintro ⟨rfl, accepted⟩
    exact ⟨(), accepted, rfl⟩

theorem eq_draft_of_ofModel_eq_ok (mapped : ofModel tableStem naming model = .ok map) :
    map = draft tableStem naming model :=
  (ofModel_eq_ok_iff.mp mapped).1

theorem verify_of_ofModel_eq_ok (mapped : ofModel tableStem naming model = .ok map) :
    map.verify = .ok () :=
  (ofModel_eq_ok_iff.mp mapped).2

theorem unique_of_ofModel_eq_ok (mapped : ofModel tableStem naming model = .ok map) :
    (map.properties.map Property.name).Nodup :=
  unique_of_verify_eq_ok (verify_of_ofModel_eq_ok mapped)

/-- A map has the type of its model as its name. -/
theorem name_of_ofModel_eq_ok (mapped : ofModel tableStem naming model = .ok map) :
    map.name = model.type :=
  congrArg TableMap.name (eq_draft_of_ofModel_eq_ok mapped)

theorem kind_of_ofModel_eq_error {error : Error}
    (refused : ofModel tableStem naming model = .error error) : error.kind = .invalidSchema := by
  unfold ofModel at refused
  cases verified : (draft tableStem naming model).verify with
  | ok _ =>
      simp only [verified] at refused
      cases refused
  | error other =>
      simp only [verified] at refused
      cases refused
      exact kind_of_verify_eq_error verified

end Models

theorem property_eq_ok_iff {name : String} :
    map.property name = .ok property ↔ map.property? name = some property := by
  unfold TableMap.property
  cases map.property? name with
  | none => simp [FieldFault.fail, Fault.fail]
  | some other => simp

/-- A name determines its property. -/
theorem property?_eq_some_iff (unique : (map.properties.map Property.name).Nodup) :
    map.property? name = some property ↔ property ∈ map.properties ∧ property.name = name := by
  constructor
  · intro found
    exact ⟨List.mem_of_find?_eq_some found, by simpa using List.find?_some found⟩
  · rintro ⟨mapped, rfl⟩
    cases lookup : map.property? property.name with
    | none =>
        have absent := List.find?_eq_none.mp lookup property mapped
        simp at absent
    | some other =>
        have same : other.name = property.name := by simpa using List.find?_some lookup
        rw [List.inj_on_of_nodup_map unique (List.mem_of_find?_eq_some lookup) mapped same]

theorem property_name_eq_ok (unique : (map.properties.map Property.name).Nodup)
    (mapped : property ∈ map.properties) : map.property property.name = .ok property :=
  property_eq_ok_iff.mpr ((property?_eq_some_iff unique).mpr ⟨mapped, rfl⟩)

/-- Being an identity determines the property. -/
theorem identity?_eq_some_iff
    (one : (map.properties.countP fun property => property.identity) ≤ 1) :
    map.identity? = some property ↔ property ∈ map.properties ∧ property.identity = true := by
  rw [identity?, ← List.head?_filter]
  rw [List.countP_eq_length_filter] at one
  have identities : property ∈ map.properties.filter (fun property => property.identity) ↔
      property ∈ map.properties ∧ property.identity = true := List.mem_filter
  rw [← identities]
  generalize map.properties.filter (fun property => property.identity) = found at one ⊢
  match found with
  | [] => simp
  | [first] => simp [eq_comm]
  | first :: second :: rest => simp at one

theorem hasPrimaryKey_iff : map.hasPrimaryKey = true ↔ map.primaryKey ≠ [] := by
  simp [hasPrimaryKey, primaryKey]

theorem requirePrimaryKey_eq_ok {operation : String} {done : Unit} :
    map.requirePrimaryKey operation = .ok done ↔ map.hasPrimaryKey = true := by
  unfold requirePrimaryKey
  split
  next present => simp [present]
  next absent =>
    constructor
    · intro required
      cases required
    · intro present
      exact absurd present absent

end TableMap

end SqlMapper
