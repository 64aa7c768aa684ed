import Mathlib.Data.List.Pairwise
import Mathlib.Data.List.ProdSigma
import SqlMapper.Proofs.Sameness
import SqlMapper.ValueMap

/-!
# Unambiguous value maps

What the check of a value map establishes, and what storing a value in an
unambiguous map means: values and stored literals determine each other. Reading
a literal is storing it in the reversed map, so there is one search to speak of.
-/

namespace SqlMapper.ValueMap

/-- Two entries share neither their value nor their literal. -/
def Distinct (entry later : Value × Value) : Prop :=
  entry.1.same later.1 = false ∧ entry.2.same later.2 = false

instance : Std.Symm Distinct where
  symm _ _ distinct := ⟨Value.same_comm _ _ ▸ distinct.1, Value.same_comm _ _ ▸ distinct.2⟩

/-- The literals are of one kind, and neither a value nor a literal occurs twice. -/
structure Unambiguous (map : ValueMap) : Prop where
  kinds : ∀ entry ∈ map.entries, ∀ other ∈ map.entries, entry.2.kind = other.2.kind
  distinct : map.entries.Pairwise Distinct

theorem clash?_eq_none {type : String} {entry later : Value × Value} :
    clash? type entry later = none ↔ Distinct entry later := by
  unfold clash? Distinct
  cases sameValue : entry.1.same later.1 with
  | true => simp
  | false =>
      cases sameLiteral : entry.2.same later.2 with
      | true => simp
      | false => simp

theorem repetition?_eq_none {type : String} {entries : List (Value × Value)} :
    repetition? type entries = none ↔ entries.Pairwise Distinct := by
  induction entries with
  | nil => simp [repetition?]
  | cons entry rest inductionHypothesis =>
      rw [List.pairwise_cons, ← inductionHypothesis, repetition?]
      cases found : rest.findSome? (clash? type entry) with
      | none =>
          have distinct : ∀ later ∈ rest, Distinct entry later := fun later member =>
            clash?_eq_none.mp (List.findSome?_eq_none_iff.mp found later member)
          simp only [and_iff_right distinct]
      | some fault =>
          simp only [reduceCtorEq, false_iff, not_and]
          intro distinct
          have clear : rest.findSome? (clash? type entry) = none :=
            List.findSome?_eq_none_iff.mpr fun later member =>
              clash?_eq_none.mpr (distinct later member)
          rw [clear] at found
          cases found

theorem mixedKinds?_eq_none {map : ValueMap} :
    map.mixedKinds? = none ↔
      ∀ entry ∈ map.entries, ∀ other ∈ map.entries, entry.2.kind = other.2.kind := by
  unfold mixedKinds?
  split
  next empty => simp [empty]
  next value first rest nonempty =>
    simp only [Option.map_eq_none_iff, List.find?_eq_none, decide_eq_true_eq, ne_eq,
      Decidable.not_not, nonempty]
    constructor
    · intro like entry member other otherMember
      have kind (entry : Value × Value) (member : entry ∈ (value, first) :: rest) :
          entry.2.kind = first.kind := by
        rcases List.mem_cons.mp member with rfl | later
        · rfl
        · exact like entry later
      rw [kind entry member, kind other otherMember]
    · intro same entry member
      exact same entry (by simp [member]) (value, first) (by simp)

/-- The check accepts exactly the unambiguous maps. -/
theorem verify_eq_ok {map : ValueMap} : map.verify = .ok () ↔ map.Unambiguous := by
  unfold verify
  split
  next fault mixed =>
    refine ⟨nofun, fun unambiguous => ?_⟩
    rw [mixedKinds?_eq_none.mpr unambiguous.kinds] at mixed
    cases mixed
  next uniform =>
    split
    next fault repeated =>
      refine ⟨nofun, fun unambiguous => ?_⟩
      rw [repetition?_eq_none.mpr unambiguous.distinct] at repeated
      cases repeated
    next distinct =>
      exact ⟨fun _ => ⟨mixedKinds?_eq_none.mp uniform, repetition?_eq_none.mp distinct⟩,
        fun _ => rfl⟩

theorem kind_of_verify_eq_error {map : ValueMap} {error : Error}
    (refused : map.verify = .error error) : error.kind = .invalidSchema := by
  unfold verify at refused
  split at refused
  next =>
    cases refused
    rfl
  next =>
    split at refused
    next =>
      cases refused
      rfl
    next => cases refused

/-- The check in terms of the positions of the entries. -/
theorem verify_eq_ok_iff_positions {map : ValueMap} :
    map.verify = .ok () ↔
      (∀ entry ∈ map.entries, ∀ other ∈ map.entries, entry.2.kind = other.2.kind) ∧
      ∀ position another (inside : position < map.entries.length)
        (anotherInside : another < map.entries.length), position ≠ another →
        map.entries[position].1.same map.entries[another].1 = false ∧
        map.entries[position].2.same map.entries[another].2 = false := by
  rw [verify_eq_ok]
  constructor
  · intro unambiguous
    refine ⟨unambiguous.kinds, ?_⟩
    intro position another inside anotherInside differ
    have ordered := List.pairwise_iff_getElem.mp unambiguous.distinct
    rcases Nat.lt_or_gt_of_ne differ with before | behind
    · exact ordered position another inside anotherInside before
    · have differs : Distinct map.entries[another] map.entries[position] :=
        ordered another position anotherInside inside behind
      exact (symm differs : Distinct _ _)
  · rintro ⟨kinds, differ⟩
    refine ⟨kinds, List.pairwise_iff_getElem.mpr ?_⟩
    intro position another inside anotherInside before
    exact differ position another inside anotherInside (Nat.ne_of_lt before)

variable {map : ValueMap} {value literal : Value}

/-- Entries with the same value are one entry. -/
theorem eq_of_same_value (distinct : map.entries.Pairwise Distinct) {entry other : Value × Value}
    (member : entry ∈ map.entries) (otherMember : other ∈ map.entries)
    (same : entry.1.same other.1 = true) : entry = other := by
  by_contra differ
  rw [(distinct.forall member otherMember differ).1] at same
  cases same

/-- Entries with the same literal are one entry. -/
theorem eq_of_same_literal (distinct : map.entries.Pairwise Distinct)
    {entry other : Value × Value} (member : entry ∈ map.entries)
    (otherMember : other ∈ map.entries) (same : entry.2.same other.2 = true) : entry = other := by
  by_contra differ
  rw [(distinct.forall member otherMember differ).2] at same
  cases same

/-! ## Storing -/

/-- A value that is stored as a literal is the same as a value that the map pairs
with it. -/
theorem mem_of_toStored (notNull : value.isNull = false)
    (stored : map.toStored value = .ok literal) :
    ∃ key, (key, literal) ∈ map.entries ∧ key.same value = true := by
  simp only [toStored, notNull, Bool.false_eq_true, if_false] at stored
  split at stored
  next entry found =>
    cases stored
    have sameKey := List.find?_some found
    exact ⟨entry.1, List.mem_of_find?_eq_some found, sameKey⟩
  next => cases stored

/-- Where values are mapped once, a value is stored as the literal of the one that it is the
same as. -/
theorem toStored_eq_ok_iff (distinct : map.entries.Pairwise Distinct)
    (notNull : value.isNull = false) :
    map.toStored value = .ok literal ↔
      ∃ key, (key, literal) ∈ map.entries ∧ key.same value = true := by
  refine ⟨mem_of_toStored notNull, ?_⟩
  rintro ⟨key, member, sameKey⟩
  simp only [toStored, notNull, Bool.false_eq_true, if_false]
  cases found : map.entries.find? (fun entry => entry.1.same value) with
  | none => exact absurd sameKey (List.find?_eq_none.mp found _ member)
  | some entry =>
      have sameValue : entry.1.same value = true := by simpa using List.find?_some found
      have keys : entry.1.same key = true :=
        Value.same_trans sameValue (Value.same_comm value key ▸ sameKey)
      rw [eq_of_same_value distinct (List.mem_of_find?_eq_some found) member keys]

/-- Storing fails for a value that is the same as none, and says so. -/
theorem toStored_eq_error_iff (map : ValueMap) (notNull : value.isNull = false) {error : Error} :
    map.toStored value = .error error ↔
      (∀ entry ∈ map.entries, entry.1.same value = false) ∧
        error = .of (.valueNotMapped value map.type) := by
  simp only [toStored, notNull, Bool.false_eq_true, if_false]
  cases found : map.entries.find? (fun entry => entry.1.same value) with
  | none =>
      have unlike : ∀ entry ∈ map.entries, entry.1.same value = false := by
        simpa using List.find?_eq_none.mp found
      constructor
      · rintro ⟨⟩
        exact ⟨unlike, rfl⟩
      · rintro ⟨-, rfl⟩
        rfl
  | some entry =>
      have sameValue : entry.1.same value = true := by simpa using List.find?_some found
      refine ⟨nofun, ?_⟩
      rintro ⟨unlike, -⟩
      rw [unlike entry (List.mem_of_find?_eq_some found)] at sameValue
      cases sameValue

/-- A value of the map that equals itself is stored as its literal. -/
theorem Unambiguous.toStored_of_mem (unambiguous : map.Unambiguous)
    (member : (value, literal) ∈ map.entries) (notNull : value.isNull = false)
    (itself : value.same value = true) : map.toStored value = .ok literal :=
  (toStored_eq_ok_iff unambiguous.distinct notNull).mpr ⟨value, member, itself⟩

/-! ## Reading -/

/-- The literals, each with the value that it stands for. -/
def reversed (map : ValueMap) : ValueMap :=
  ⟨map.type, map.entries.map Prod.swap⟩

theorem toStored_reversed (map : ValueMap) (literal : Value) :
    map.reversed.toStored literal = map.ofStored literal := by
  have search : (map.entries.map Prod.swap).find? (fun entry => entry.1.same literal) =
      (map.entries.find? fun entry => entry.2.same literal).map Prod.swap := List.find?_map ..
  simp only [toStored, ofStored, reversed, search]
  cases map.entries.find? (fun entry => entry.2.same literal) <;> rfl

theorem mem_reversed :
    (literal, value) ∈ map.reversed.entries ↔ (value, literal) ∈ map.entries :=
  List.mem_map_swap value literal map.entries

theorem distinct_reversed (distinct : map.entries.Pairwise Distinct) :
    map.reversed.entries.Pairwise Distinct :=
  List.pairwise_map.mpr (distinct.imp And.symm)

theorem ofStored_eq_error_iff (map : ValueMap) (notNull : literal.isNull = false)
    {error : Error} :
    map.ofStored literal = .error error ↔
      (∀ entry ∈ map.entries, entry.2.same literal = false) ∧
        error = .of (.valueNotMapped literal map.type) := by
  rw [← toStored_reversed, toStored_eq_error_iff _ notNull]
  simp only [reversed, List.forall_mem_map, Prod.fst_swap]

/-- A literal of the map that equals itself is read as its value. -/
theorem Unambiguous.ofStored_of_mem (unambiguous : map.Unambiguous)
    (member : (value, literal) ∈ map.entries) (notNull : literal.isNull = false)
    (itself : literal.same literal = true) : map.ofStored literal = .ok value := by
  rw [← toStored_reversed, toStored_eq_ok_iff (distinct_reversed unambiguous.distinct) notNull]
  exact ⟨literal, mem_reversed.mpr member, itself⟩

/-- The check accepts a map exactly when its literals are of one kind and no two of its
entries share a value or a literal; it refuses others as an invalid schema. In an accepted
map storing and reading undo each other on every entry. What is the same as no value is not
stored, what is the same as no literal is not read, and null stands for itself. -/
theorem verify_inverts (map : ValueMap) :
    (map.verify = .ok () ↔
      (∀ entry ∈ map.entries, ∀ other ∈ map.entries, entry.2.kind = other.2.kind) ∧
      ∀ position another (inside : position < map.entries.length)
        (anotherInside : another < map.entries.length), position ≠ another →
        map.entries[position].1.same map.entries[another].1 = false ∧
        map.entries[position].2.same map.entries[another].2 = false) ∧
    (∀ error, map.verify = .error error → error.kind = .invalidSchema) ∧
    (map.verify = .ok () →
      (∀ value literal, (value, literal) ∈ map.entries →
        value.isNull = false → literal.isNull = false →
        value.same value = true → literal.same literal = true →
        map.toStored value = .ok literal ∧ map.ofStored literal = .ok value ∧
        (map.toStored value >>= map.ofStored) = .ok value ∧
        (map.ofStored literal >>= map.toStored) = .ok literal) ∧
      (∀ value, value.isNull = false →
        (map.toStored value = .error (.of (.valueNotMapped value map.type)) ↔
          ∀ entry ∈ map.entries, entry.1.same value = false)) ∧
      (∀ literal, literal.isNull = false →
        (map.ofStored literal = .error (.of (.valueNotMapped literal map.type)) ↔
          ∀ entry ∈ map.entries, entry.2.same literal = false)) ∧
      map.toStored .null = .ok .null ∧ map.ofStored .null = .ok .null) := by
  refine ⟨verify_eq_ok_iff_positions, fun _ => kind_of_verify_eq_error, fun accepted => ?_⟩
  have unambiguous := verify_eq_ok.mp accepted
  refine ⟨?_, ?_, ?_, rfl, rfl⟩
  · intro value literal member valueNotNull literalNotNull valueItself literalItself
    have stored := unambiguous.toStored_of_mem member valueNotNull valueItself
    have read := unambiguous.ofStored_of_mem member literalNotNull literalItself
    refine ⟨stored, read, ?_, ?_⟩
    · rw [stored]
      exact read
    · rw [read]
      exact stored
  · intro value notNull
    rw [toStored_eq_error_iff map notNull, and_iff_left rfl]
  · intro literal notNull
    rw [ofStored_eq_error_iff map notNull, and_iff_left rfl]

/-- Sizes of two forms, coded by letters. -/
def sizes : ValueMap :=
  ⟨"Size", [(.record [("height", .i32 2), ("width", .i32 1)], .string "L"),
    (.list [.i32 2, .i32 2], .string "S")]⟩

/-- The first size once more, with its fields the other way round. -/
def sizesTwice : ValueMap :=
  ⟨"Size", (.record [("width", .i32 1), ("height", .i32 2)], .string "M") :: sizes.entries⟩

theorem sizes_invert :
    sizes.verify = .ok () ∧
      (sizes.toStored (.list [.i32 2, .i32 2]) >>= sizes.ofStored) =
        .ok (.list [.i32 2, .i32 2]) ∧
      sizes.toStored (.list [.i32 2]) = .error (.of (.valueNotMapped (.list [.i32 2]) "Size")) ∧
      sizesTwice.verify ≠ .ok () := by
  have accepted : sizes.verify = .ok () := rfl
  obtain ⟨entries, others, -⟩ := (verify_inverts sizes).2.2 accepted
  have itself : (Value.list [.i32 2, .i32 2]).same (.list [.i32 2, .i32 2]) = true := by decide
  refine ⟨accepted, ?_, ?_, fun acceptedTwice => ?_⟩
  · exact (entries _ (.string "S") (.tail _ (.head _)) rfl rfl itself (by decide)).2.2.1
  · exact (others _ rfl).mpr (by decide)
  · have differ := (verify_inverts sizesTwice).1.mp acceptedTwice
    exact absurd (differ.2 0 1 (by decide) (by decide) (by decide)).1 (by decide)

end SqlMapper.ValueMap
