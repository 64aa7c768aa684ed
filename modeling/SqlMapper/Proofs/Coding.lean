import Mathlib.Data.List.Nodup
import SqlMapper.Enumeration
import SqlMapper.Proofs.Reading
import SqlMapper.Proofs.ValueMap
import SqlMapper.TableMap

/-!
# Coded columns

A boolean or enumerated column is coded when its value map gives every value of
the type a literal of its own. Two values are then the same for the evaluator
exactly when the database finds their literals equal.
-/

namespace SqlMapper

/-- The values that a map stores. -/
def ValueMap.keys (map : ValueMap) : List Value :=
  map.entries.map Prod.fst

/-- The values are those of a boolean or of an enumerated type whose members have
ordinals of their own. -/
def ValueKind.IsFilledBy (kind : ValueKind) (values : List Value) : Prop :=
  (kind = .bool ∧ ∀ value, value ∈ values ↔ ∃ truth, value = .bool truth) ∨
  (kind = .enumeration ∧ ∃ enumeration : Enumeration,
    (enumeration.variants.map Variant.ordinal).Nodup ∧
    ∀ value, value ∈ values ↔
      ∃ variant ∈ enumeration.variants, value = .member (variant.member enumeration.name))

/-- The map stores every value of the kind under a literal of its own. -/
structure ValueMap.Codes (map : ValueMap) (kind : ValueKind) : Prop where
  accepted : map.verify = .ok ()
  complete : kind.IsFilledBy map.keys
  literals : ∀ entry ∈ map.entries, entry.2.isNull = false ∧ entry.2.same entry.2 = true

namespace ValueKind.IsFilledBy

variable {kind : ValueKind} {values : List Value} {first second : Value}

theorem isNull_of_mem (filled : kind.IsFilledBy values) (member : first ∈ values) :
    first.isNull = false := by
  rcases filled with ⟨-, exactly⟩ | ⟨-, enumeration, -, exactly⟩
  · obtain ⟨truth, rfl⟩ := (exactly first).mp member
    rfl
  · obtain ⟨variant, -, rfl⟩ := (exactly first).mp member
    rfl

/-- Nothing but a value itself is the same. -/
theorem eq_of_same (filled : kind.IsFilledBy values) (member : first ∈ values)
    (same : first.same second = true) : second = first := by
  rcases filled with ⟨-, exactly⟩ | ⟨-, enumeration, -, exactly⟩
  · obtain ⟨truth, rfl⟩ := (exactly first).mp member
    cases second <;> simp [Value.same] at same
    rw [same]
  · obtain ⟨variant, -, rfl⟩ := (exactly first).mp member
    cases second <;> simp [Value.same] at same
    rw [same]

theorem same_self (filled : kind.IsFilledBy values) (member : first ∈ values) :
    first.same first = true := by
  rcases filled with ⟨-, exactly⟩ | ⟨-, enumeration, -, exactly⟩
  · obtain ⟨truth, rfl⟩ := (exactly first).mp member
    simp [Value.same]
  · obtain ⟨variant, -, rfl⟩ := (exactly first).mp member
    simp [Value.same]

/-- The evaluator tells the values apart. Members are compared by their ordinals
alone. -/
theorem equals_eq_same (filled : kind.IsFilledBy values) (member : first ∈ values)
    (otherMember : second ∈ values) : first.equals second = first.same second := by
  rcases filled with ⟨-, exactly⟩ | ⟨-, enumeration, ordinals, exactly⟩
  · obtain ⟨truth, rfl⟩ := (exactly first).mp member
    obtain ⟨other, rfl⟩ := (exactly second).mp otherMember
    cases truth <;> cases other <;> rfl
  · obtain ⟨variant, listed, rfl⟩ := (exactly first).mp member
    obtain ⟨other, otherListed, rfl⟩ := (exactly second).mp otherMember
    have byOrdinal (same : variant.ordinal = other.ordinal) : variant = other :=
      List.inj_on_of_nodup_map ordinals listed otherListed same
    have compared : (Value.member (variant.member enumeration.name)).compare?
        (.member (other.member enumeration.name)) =
          some (compare variant.ordinal.toInt other.ordinal.toInt) := by
      simp [Value.compare?, Variant.member]
    rw [Value.equals, compared, Value.same, Bool.eq_iff_iff]
    simp only [beq_iff_eq, Option.some.injEq, Int.compare_eq_eq, Int64.toInt_inj]
    exact ⟨fun same => byOrdinal same ▸ rfl, fun same => congrArg EnumMember.ordinal same⟩

end ValueKind.IsFilledBy

namespace ValueMap.Codes

variable {map : ValueMap} {kind : ValueKind} {value other literal otherLiteral : Value}

theorem unambiguous (codes : map.Codes kind) : map.Unambiguous :=
  verify_eq_ok.mp codes.accepted

/-- Every value of the type has a literal. -/
theorem toStored_of_mem (codes : map.Codes kind) (member : value ∈ map.keys) :
    ∃ literal, (value, literal) ∈ map.entries ∧ map.toStored value = .ok literal := by
  obtain ⟨⟨_, literal⟩, listed, rfl⟩ := List.mem_map.mp member
  exact ⟨literal, listed, codes.unambiguous.toStored_of_mem listed
    (codes.complete.isNull_of_mem member) (codes.complete.same_self member)⟩

/-- Whatever has a literal is a value of the type. -/
theorem mem_of_toStored (codes : map.Codes kind) (notNull : value.isNull = false)
    (stored : map.toStored value = .ok literal) : (value, literal) ∈ map.entries := by
  obtain ⟨key, listed, same⟩ := ValueMap.mem_of_toStored notNull stored
  have member : key ∈ map.keys := List.mem_map_of_mem listed
  rw [codes.complete.eq_of_same member same]
  exact listed

/-- Literals are the same exactly when their values are. -/
theorem same_literals (codes : map.Codes kind) (listed : (value, literal) ∈ map.entries)
    (otherListed : (other, otherLiteral) ∈ map.entries) :
    literal.same otherLiteral = value.same other := by
  rw [Bool.eq_iff_iff]
  constructor
  · intro same
    have one := ValueMap.eq_of_same_literal codes.unambiguous.distinct listed otherListed same
    cases one
    exact codes.complete.same_self (List.mem_map_of_mem listed)
  · intro same
    have one := ValueMap.eq_of_same_value codes.unambiguous.distinct listed otherListed same
    cases one
    exact (codes.literals _ listed).2

end ValueMap.Codes

/-- The database finds two stored values of one kind equal exactly when they are
the same. -/
theorem Datum.compare_of_kinds {left right : Value} (kinds : left.kind = right.kind)
    (notNull : left.isNull = false) :
    ∃ first second, ofValue? left = some first ∧ ofValue? right = some second ∧
      Comparison.eq.onData? first second = some (left.same right) ∧
      Comparison.ne.onData? first second = some (!left.same right) := by
  -- Numbers are compared by what they stand for, which is injective on one kind.
  cases left with
  | null => cases notNull
  | bool value =>
      cases right <;> cases kinds
      next other =>
        refine ⟨_, _, rfl, rfl, ?_⟩
        cases value <;> cases other <;> exact ⟨rfl, rfl⟩
  | i32 value =>
      cases right <;> cases kinds
      next other =>
        refine ⟨_, _, rfl, rfl, ?_⟩
        simp [Comparison.onData?, Comparison.onIntegers, Value.same, Int32.toInt_inj,
          Bool.beq_eq_decide_eq]
  | i64 value =>
      cases right <;> cases kinds
      next other =>
        refine ⟨_, _, rfl, rfl, ?_⟩
        simp [Comparison.onData?, Comparison.onIntegers, Value.same, Int64.toInt_inj,
          Bool.beq_eq_decide_eq]
  | _ =>
      cases right <;> cases kinds
      exact ⟨_, _, rfl, rfl, rfl, rfl⟩

/-- The database finds two literals of a map equal exactly when their values are the
same. -/
theorem ValueMap.Codes.compare_literals {map : ValueMap} {kind : ValueKind}
    {value other literal otherLiteral : Value} (codes : map.Codes kind)
    (listed : (value, literal) ∈ map.entries) (otherListed : (other, otherLiteral) ∈ map.entries) :
    ∃ first second, Datum.ofValue? literal = some first ∧
      Datum.ofValue? otherLiteral = some second ∧
      Comparison.eq.onData? first second = some (value.same other) ∧
      Comparison.ne.onData? first second = some (!value.same other) := by
  have kinds := codes.unambiguous.kinds _ listed _ otherListed
  rw [← codes.same_literals listed otherListed]
  exact Datum.compare_of_kinds kinds (codes.literals _ listed).1

/-- Evaluator and database agree on the equality of coded values. -/
theorem ValueMap.Codes.comparison {op : Comparison} {map : ValueMap} {kind : ValueKind}
    {value other literal otherLiteral : Value} (equality : op = .eq ∨ op = .ne)
    (codes : map.Codes kind) (listed : (value, literal) ∈ map.entries)
    (otherListed : (other, otherLiteral) ∈ map.entries) :
    ∃ holds first second, op.apply value other = .ok holds ∧
      Datum.ofValue? literal = some first ∧ Datum.ofValue? otherLiteral = some second ∧
      op.onData? first second = some holds := by
  obtain ⟨first, second, firstValue, secondValue, equal, unequal⟩ :=
    codes.compare_literals listed otherListed
  have same : value.equals other = value.same other :=
    codes.complete.equals_eq_same (List.mem_map_of_mem listed) (List.mem_map_of_mem otherListed)
  rcases equality with rfl | rfl
  · exact ⟨value.same other, first, second, by rw [Comparison.apply, same], firstValue,
      secondValue, equal⟩
  · exact ⟨!value.same other, first, second, by rw [Comparison.apply, same], firstValue,
      secondValue, unequal⟩

end SqlMapper
