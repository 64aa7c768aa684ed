import SqlMapper.Value

/-!
# Equality of values

Strict equality is symmetric and transitive on all values, lists and records included;
only numbers that are none make it fail to be reflexive. Records are compared by name in
both directions; `same_record_iff` states what the comparison finds, without the names
that it has already seen.
-/

namespace SqlMapper

section Floats

open Float.Model

theorem unpackedFloat_compare_swap (left right : UnpackedFloat) :
    left.compare right = (right.compare left).map Ordering.swap := by
  have exponents (first second : Int) : compare first second = (compare second first).swap :=
    Std.OrientedOrd.eq_swap
  have mantissas (first second : Nat) : compare first second = (compare second first).swap :=
    Std.OrientedOrd.eq_swap
  have finite (mantissa otherMantissa : Nat) (exponent otherExponent : Int) :
      (compare exponent otherExponent).then (compare mantissa otherMantissa) =
        ((compare otherExponent exponent).then (compare otherMantissa mantissa)).swap := by
    rw [exponents exponent, mantissas mantissa, Ordering.swap_then]
  rcases left with (_ | _) | _ | (_ | _) | ⟨_ | _, mantissa, exponent, _⟩ <;>
    rcases right with (_ | _) | _ | (_ | _) | ⟨_ | _, otherMantissa, otherExponent, _⟩ <;>
    try rfl
  -- What is left are two finite numbers of one sign.
  · exact congrArg (fun order : Ordering => some order.swap)
      (finite mantissa otherMantissa exponent otherExponent)
  · exact congrArg some (finite mantissa otherMantissa exponent otherExponent)

theorem float_beq_comm (left right : Float) : (left == right) = (right == left) := by
  show (left.toModel.unpack.compare right.toModel.unpack == some .eq) =
    (right.toModel.unpack.compare left.toModel.unpack == some .eq)
  rw [unpackedFloat_compare_swap]
  rcases right.toModel.unpack.compare left.toModel.unpack with _ | order
  · rfl
  · cases order <;> rfl

/-- Numbers are found equal when they are the same number, or when both are zeros. -/
theorem unpackedFloat_compare_eq_iff {left right : UnpackedFloat} :
    left.compare right = some .eq ↔
      (left = right ∧ left ≠ .notANumber) ∨
      ∃ sign otherSign, left = .zero sign ∧ right = .zero otherSign := by
  have same (mantissa otherMantissa : Nat) (exponent otherExponent : Int) :
      (compare exponent otherExponent).then (compare mantissa otherMantissa) = .eq ↔
        exponent = otherExponent ∧ mantissa = otherMantissa := by
    simp [Ordering.then_eq_eq]
  constructor
  · intro equal
    rcases left with (_ | _) | _ | (_ | _) | ⟨_ | _, mantissa, exponent, _⟩ <;>
      rcases right with (_ | _) | _ | (_ | _) | ⟨_ | _, otherMantissa, otherExponent, _⟩ <;>
      try first
      | cases equal; done
      | exact .inr ⟨_, _, rfl, rfl⟩
      | exact .inl ⟨rfl, nofun⟩
    -- What is left are two finite numbers of one sign.
    · have unswapped := Ordering.swap_eq_eq.mp (Option.some.inj equal)
      obtain ⟨rfl, rfl⟩ := (same _ _ _ _).mp unswapped
      exact .inl ⟨rfl, nofun⟩
    · obtain ⟨rfl, rfl⟩ := (same _ _ _ _).mp (Option.some.inj equal)
      exact .inl ⟨rfl, nofun⟩
  · rintro (⟨rfl, number⟩ | ⟨sign, otherSign, rfl, rfl⟩)
    · rcases left with (_ | _) | _ | (_ | _) | ⟨_ | _, mantissa, exponent, _⟩
      case notANumber => exact absurd rfl number
      case finite.negative =>
        exact congrArg some (Ordering.swap_eq_eq.mpr ((same _ _ _ _).mpr ⟨rfl, rfl⟩))
      case finite.positive => exact congrArg some ((same _ _ _ _).mpr ⟨rfl, rfl⟩)
      all_goals rfl
    · cases sign <;> cases otherSign <;> rfl

theorem float_beq_trans {left middle right : Float} (first : (left == middle) = true)
    (second : (middle == right) = true) : (left == right) = true := by
  have compared (one other : Float) : (one == other) = true ↔
      one.toModel.unpack.compare other.toModel.unpack = some .eq := by
    show (one.toModel.unpack.compare other.toModel.unpack == some .eq) = true ↔ _
    exact beq_iff_eq
  rw [compared, unpackedFloat_compare_eq_iff] at first second ⊢
  rcases first with ⟨same, number⟩ | ⟨sign, otherSign, leftZero, middleZero⟩
  · rwa [same]
  · rcases second with ⟨same, number⟩ | ⟨-, lastSign, -, rightZero⟩
    · exact .inr ⟨sign, otherSign, leftZero, same ▸ middleZero⟩
    · exact .inr ⟨sign, lastSign, leftZero, rightZero⟩

end Floats

namespace Value

/-- Induction over a value, with the hypothesis for every item of a list and every
field of a record. -/
theorem nestedInduction {motive : Value → Prop}
    (atom : ∀ value, (∀ items, value ≠ .list items) → (∀ fields, value ≠ .record fields) →
      motive value)
    (list : ∀ items, (∀ item ∈ items, motive item) → motive (.list items))
    (record : ∀ fields, (∀ field ∈ fields, motive field.2) → motive (.record fields))
    (value : Value) : motive value := by
  match value with
  | .list items =>
      apply list items
      intro item member
      have smaller := List.sizeOf_lt_of_mem member
      exact nestedInduction atom list record item
  | .record fields =>
      apply record fields
      intro field member
      have smaller := List.sizeOf_lt_of_mem member
      have inner : sizeOf field.2 < sizeOf field := by
        cases field
        simp only [Prod.mk.sizeOf_spec]
        omega
      exact nestedInduction atom list record field.2
  | .null | .bool _ | .i32 _ | .i64 _ | .f64 _ | .string _ | .member _ =>
      exact atom _ nofun nofun
termination_by sizeOf value

/-- A comparison of fields looks up each name of the left table that it has not
seen. -/
theorem sameFields_iff {seen : List String} {left right : List (String × Value)} :
    sameFields seen left right = true ↔
      ∀ name value, name ∉ seen → NameTable.get? name left = some value →
        ∃ other, NameTable.get? name right = some other ∧ value.same other = true := by
  induction left generalizing seen with
  | nil => simp [sameFields, NameTable.get?]
  | cons field rest inductionHypothesis =>
      obtain ⟨name, value⟩ := field
      simp only [sameFields, Bool.and_eq_true, Bool.or_eq_true, List.contains_iff_mem,
        inductionHypothesis]
      constructor
      · rintro ⟨first, later⟩ sought found unseen lookup
        by_cases here : name = sought
        · subst here
          simp only [NameTable.get?, if_true, Option.some.injEq] at lookup
          subst lookup
          rcases first with already | first
          · exact absurd already unseen
          · split at first
            next other otherLookup => exact ⟨other, otherLookup, first⟩
            next => cases first
        · simp only [NameTable.get?, here, if_false] at lookup
          exact later sought found (by simp [unseen, Ne.symm here]) lookup
      · intro every
        constructor
        · by_cases already : name ∈ seen
          · exact .inl already
          · obtain ⟨other, lookup, same⟩ := every name value already (by simp [NameTable.get?])
            exact .inr (by simp [lookup, same])
        · intro sought found unseen lookup
          simp only [List.mem_cons, not_or] at unseen
          exact every sought found unseen.2 (by simp [NameTable.get?, Ne.symm unseen.1, lookup])

/-- Two records are the same when they have the same names and the values under
each name are the same. -/
theorem same_record_iff {left right : List (String × Value)} :
    (record left).same (record right) = true ↔
      (∀ name, NameTable.contains name left = NameTable.contains name right) ∧
      ∀ name value other, NameTable.get? name left = some value →
        NameTable.get? name right = some other → value.same other = true := by
  have rightNames : (right.all fun field => NameTable.contains field.1 left) = true ↔
      ∀ name, NameTable.contains name right = true → NameTable.contains name left = true := by
    simp only [List.all_eq_true, NameTable.contains_iff_mem]
    constructor
    · intro every name named
      obtain ⟨field, member, rfl⟩ := List.mem_map.mp named
      exact every field member
    · intro every field member
      exact every field.1 (List.mem_map_of_mem member)
  rw [same, Bool.and_eq_true, rightNames, sameFields_iff]
  constructor
  · rintro ⟨rightKnown, found⟩
    refine ⟨fun name => ?_, fun name value other leftLookup rightLookup => ?_⟩
    · rw [Bool.eq_iff_iff]
      refine ⟨fun known => ?_, rightKnown name⟩
      obtain ⟨value, lookup⟩ := Option.isSome_iff_exists.mp known
      obtain ⟨other, otherLookup, _⟩ := found name value (by simp) lookup
      simp [NameTable.contains, otherLookup]
    · obtain ⟨found, lookup, same⟩ := found name value (by simp) leftLookup
      rw [rightLookup, Option.some.injEq] at lookup
      exact lookup ▸ same
  · rintro ⟨names, values⟩
    refine ⟨fun name known => names name ▸ known, fun name value _ lookup => ?_⟩
    have known : NameTable.contains name right = true := by
      rw [← names]
      simp [NameTable.contains, lookup]
    obtain ⟨other, otherLookup⟩ := Option.isSome_iff_exists.mp known
    exact ⟨other, otherLookup, values name value other lookup otherLookup⟩

/-- Lists are compared item by item from either side. -/
theorem sameItems_comm {left : List Value}
    (items : ∀ item ∈ left, ∀ other, item.same other = other.same item)
    (right : List Value) : sameItems left right = sameItems right left := by
  induction left generalizing right with
  | nil => cases right <;> rfl
  | cons item rest inductionHypothesis =>
      cases right with
      | nil => rfl
      | cons other others =>
          simp only [sameItems]
          rw [items item (by simp) other, inductionHypothesis
            (fun item member => items item (by simp [member])) others]

theorem same_comm (left right : Value) : left.same right = right.same left := by
  induction left using nestedInduction generalizing right with
  | atom left notList notRecord =>
      cases left with
      | list items => exact absurd rfl (notList items)
      | record fields => exact absurd rfl (notRecord fields)
      | f64 value => cases right <;> simp only [same, float_beq_comm value]
      | _ => cases right <;> simp [same, Bool.beq_comm]
  | list items inductionHypothesis =>
      cases right with
      | list others => exact sameItems_comm inductionHypothesis others
      | _ => rfl
  | record fields inductionHypothesis =>
      cases right with
      | record others =>
          rw [Bool.eq_iff_iff, same_record_iff, same_record_iff]
          constructor
          · rintro ⟨names, values⟩
            refine ⟨fun name => (names name).symm, fun name other value lookup found => ?_⟩
            have field := NameTable.mem_of_get?_eq_some found
            exact inductionHypothesis _ field other ▸ values name value other found lookup
          · rintro ⟨names, values⟩
            refine ⟨fun name => (names name).symm, fun name value other found lookup => ?_⟩
            have field := NameTable.mem_of_get?_eq_some found
            exact inductionHypothesis _ field other ▸ values name other value lookup found
      | _ => rfl

theorem sameItems_trans {left : List Value}
    (items : ∀ item ∈ left, ∀ middle right, item.same middle = true → middle.same right = true →
      item.same right = true)
    {middle right : List Value} (first : sameItems left middle = true)
    (second : sameItems middle right = true) : sameItems left right = true := by
  induction left generalizing middle right with
  | nil =>
      cases middle with
      | nil => exact second
      | cons _ _ => cases first
  | cons item rest inductionHypothesis =>
      cases middle with
      | nil => cases first
      | cons other others =>
          cases right with
          | nil => cases second
          | cons last lasts =>
              simp only [sameItems, Bool.and_eq_true] at first second ⊢
              exact ⟨items item (by simp) other last first.1 second.1,
                inductionHypothesis (fun item member => items item (by simp [member]))
                  first.2 second.2⟩

theorem same_trans {left middle right : Value} (first : left.same middle = true)
    (second : middle.same right = true) : left.same right = true := by
  induction left using nestedInduction generalizing middle right with
  | atom left notList notRecord =>
      cases left with
      | list items => exact absurd rfl (notList items)
      | record fields => exact absurd rfl (notRecord fields)
      | f64 value =>
          cases middle with
          | f64 other =>
              cases right with
              | f64 last =>
                  simp only [same] at first second ⊢
                  exact float_beq_trans first second
              | _ => cases second
          | _ => cases first
      | _ =>
          -- An atom that is no float is only the same as itself.
          cases middle <;> simp only [same, beq_iff_eq, Bool.false_eq_true] at first
          all_goals first | exact second | (subst first; exact second)
  | list items inductionHypothesis =>
      cases middle with
      | list others =>
          cases right with
          | list lasts =>
              simp only [same] at first second ⊢
              exact sameItems_trans
                (fun item member _ _ => inductionHypothesis item member) first second
          | _ => cases second
      | _ => cases first
  | record fields inductionHypothesis =>
      cases middle with
      | record others =>
          cases right with
          | record lasts =>
              obtain ⟨names, values⟩ := same_record_iff.mp first
              obtain ⟨otherNames, otherValues⟩ := same_record_iff.mp second
              refine same_record_iff.mpr
                ⟨fun name => (names name).trans (otherNames name), ?_⟩
              intro name value last found lastFound
              have known : NameTable.contains name others = true := by
                rw [← names]
                simp [NameTable.contains, found]
              obtain ⟨other, otherFound⟩ := Option.isSome_iff_exists.mp known
              exact inductionHypothesis (name, value) (NameTable.mem_of_get?_eq_some found)
                (values name value other found otherFound)
                (otherValues name other last otherFound lastFound)
          | _ => cases second
      | _ => cases first

mutual

/-- Whether no number at any depth is a double. -/
def isFloatFree : Value → Bool
  | f64 _ => false
  | list items => allFloatFree items
  | record fields => fieldsFloatFree fields
  | _ => true

def allFloatFree : List Value → Bool
  | [] => true
  | item :: rest => item.isFloatFree && allFloatFree rest

def fieldsFloatFree : List (String × Value) → Bool
  | [] => true
  | (_, value) :: rest => value.isFloatFree && fieldsFloatFree rest

end

theorem allFloatFree_iff {items : List Value} :
    allFloatFree items = true ↔ ∀ item ∈ items, item.isFloatFree = true := by
  induction items with
  | nil => simp [allFloatFree]
  | cons item rest inductionHypothesis => simp [allFloatFree, inductionHypothesis]

theorem fieldsFloatFree_iff {fields : List (String × Value)} :
    fieldsFloatFree fields = true ↔ ∀ field ∈ fields, field.2.isFloatFree = true := by
  induction fields with
  | nil => simp [fieldsFloatFree]
  | cons field rest inductionHypothesis =>
      rw [fieldsFloatFree, Bool.and_eq_true, inductionHypothesis, List.forall_mem_cons]

theorem sameItems_self {items : List Value} (each : ∀ item ∈ items, item.same item = true) :
    sameItems items items = true := by
  induction items with
  | nil => rfl
  | cons item rest inductionHypothesis =>
      obtain ⟨first, later⟩ := List.forall_mem_cons.mp each
      rw [sameItems, first, inductionHypothesis later, Bool.and_self]

/-- A value without doubles is the same as itself. -/
theorem same_self {value : Value} (floatFree : value.isFloatFree = true) :
    value.same value = true := by
  induction value using nestedInduction with
  | atom value notList notRecord =>
      cases value with
      | f64 number => cases floatFree
      | list items => exact absurd rfl (notList items)
      | record fields => exact absurd rfl (notRecord fields)
      | _ => simp [same]
  | list items inductionHypothesis =>
      rw [isFloatFree, allFloatFree_iff] at floatFree
      exact sameItems_self fun item member =>
        inductionHypothesis item member (floatFree item member)
  | record fields inductionHypothesis =>
      rw [isFloatFree, fieldsFloatFree_iff] at floatFree
      refine same_record_iff.mpr ⟨fun name => rfl, fun name value other found again => ?_⟩
      cases found.symm.trans again
      have field := NameTable.mem_of_get?_eq_some found
      exact inductionHypothesis _ field (floatFree _ field)

end Value

end SqlMapper
