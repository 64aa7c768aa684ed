import SqlMapper.Params

/-!
# Numbered parameters

Parameters that are bound without names of their own get consecutive numbers.
`Params.numbered` describes such parameters in closed form, and `pushAll_numbered`
says that binding further values keeps that form. Statements start from no
parameters and fragments from an offset, so both only ever meet numbered ones.
-/

namespace SqlMapper.Params

@[simp] theorem generatedName_inj {left right : Nat} :
    generatedName left = generatedName right ↔ left = right := by
  constructor
  · intro same
    have digits : Nat.toDigits 10 left = Nat.toDigits 10 right := by
      simpa [generatedName, ← String.toList_inj] using same
    simpa using congrArg (fun digits => Nat.ofDigitChars 10 digits 0) digits
  · exact congrArg generatedName

/-- Generated names with consecutive numbers. -/
def generatedNames (first count : Nat) : List String :=
  (List.range' first count).map generatedName

@[simp] theorem generatedNames_zero (first : Nat) : generatedNames first 0 = [] := rfl

theorem generatedNames_succ (first count : Nat) :
    generatedNames first (count + 1) = generatedName first :: generatedNames (first + 1) count :=
  rfl

theorem generatedNames_add (first count further : Nat) :
    generatedNames first (count + further) =
      generatedNames first count ++ generatedNames (first + count) further := by
  simp only [generatedNames, ← List.map_append, List.range'_append_1]

/-- Consecutive numbers are offsets from the first one. -/
theorem map_range_generatedName (first count : Nat) :
    (List.range' 0 count).map (fun index => generatedName (first + index)) =
      generatedNames first count := by
  have shifted : (List.range' 0 count).map (first + ·) = List.range' (first + 0) count :=
    List.map_add_range' ..
  rw [generatedNames, ← Nat.add_zero first, ← shifted, List.map_map]
  rfl

theorem getD_generatedNames {first count index : Nat} (inside : index < count) :
    (generatedNames first count).getD index "" = generatedName (first + index) := by
  simp [generatedNames, inside]

theorem nodup_generatedNames (first count : Nat) : (generatedNames first count).Nodup :=
  List.Pairwise.map generatedName (fun _ _ => mt generatedName_inj.mp) List.nodup_range'

/-- The parameters that carry the given values under consecutive numbers. -/
def numbered (first : Nat) (values : List Value) : Params :=
  { entries := (values.zipIdx first).map fun (value, number) => (generatedName number, value)
    offset := first + values.length }

@[simp] theorem numbered_nil (first : Nat) : numbered first [] = startingAt first := rfl

@[simp] theorem size_numbered (first : Nat) (values : List Value) :
    (numbered first values).size = values.length := by
  simp [numbered, size]

theorem names_numbered (first : Nat) (values : List Value) :
    (numbered first values).names = generatedNames first values.length := by
  induction values generalizing first with
  | nil => rfl
  | cons value values inductionHypothesis =>
      simpa [numbered, names, NameTable.names, generatedNames_succ] using
        inductionHypothesis (first + 1)

/-- The value at a position is found under the number of that position. -/
theorem get?_numbered (first : Nat) (values : List Value) (index : Nat) :
    (numbered first values).get? (generatedName (first + index)) = values[index]? := by
  induction values generalizing first index with
  | nil => rfl
  | cons value values inductionHypothesis =>
      cases index with
      | zero => simp [numbered, get?, NameTable.get?]
      | succ index =>
          have later : first + (index + 1) = first + 1 + index := by omega
          have distinct : first ≠ first + 1 + index := by omega
          simpa [numbered, get?, NameTable.get?, later, distinct] using
            inductionHypothesis (first + 1) index

/-- What is bound stays bound when further values are. -/
theorem get?_numbered_append {first : Nat} {values : List Value} {name : String} {value : Value}
    (further : List Value) (bound : (numbered first values).get? name = some value) :
    (numbered first (values ++ further)).get? name = some value := by
  have unique : (numbered first (values ++ further)).names.Nodup := by
    rw [names_numbered]
    exact nodup_generatedNames ..
  refine NameTable.get?_eq_some_of_mem unique ?_
  simp only [numbered, List.zipIdx_append, List.map_append]
  exact List.mem_append_left _ (NameTable.mem_of_get?_eq_some bound)

/-- Further values are found under the next names. -/
theorem map_get?_generatedNames (first : Nat) (values further : List Value) :
    (generatedNames (first + values.length) further.length).map
      (numbered first (values ++ further)).get? = further.map some := by
  refine List.ext_getElem (by simp [generatedNames]) fun index inside _ => ?_
  have within : index < further.length := by simpa [generatedNames] using inside
  have number : first + values.length + index = first + (values.length + index) := by omega
  simp [generatedNames, number, get?_numbered, within]

/-- Numbers beyond the last one are free. -/
theorem contains_numbered_of_le {first number : Nat} {values : List Value}
    (beyond : first + values.length ≤ number) :
    (numbered first values).contains (generatedName number) = false := by
  have index : number = first + (number - first) := by omega
  have absent : values[number - first]? = none := by
    rw [List.getElem?_eq_none_iff]
    omega
  have lookup := get?_numbered first values (number - first)
  rw [← index, absent] at lookup
  simpa [contains, get?, NameTable.contains] using lookup

theorem freeNumber_numbered (first : Nat) (values : List Value) :
    (numbered first values).freeNumber = first + values.length := by
  have start : (numbered first values).firstNumber = first + values.length := by
    simp only [firstNumber, size_numbered]
    simp only [numbered]
    omega
  simp [freeNumber, start, List.range'_succ, contains_numbered_of_le]

/-- The next value gets the next number. -/
theorem push_numbered (first : Nat) (values : List Value) (value : Value) :
    (numbered first values).push value =
      (generatedName (first + values.length), numbered first (values ++ [value])) := by
  have absent : NameTable.get? (generatedName (first + values.length))
      (numbered first values).entries = none := by
    have free := contains_numbered_of_le (Nat.le_refl (first + values.length))
    simpa [contains, NameTable.contains] using free
  simp only [push, freeNumber_numbered, NameTable.insert_of_get?_eq_none value absent]
  simp [numbered, List.zipIdx_append, Nat.add_assoc]

theorem pushAll_numbered (first : Nat) (values further : List Value) :
    (numbered first values).pushAll further =
      (generatedNames (first + values.length) further.length,
        numbered first (values ++ further)) := by
  induction further generalizing values with
  | nil => simp [pushAll]
  | cons value further inductionHypothesis =>
      simp only [pushAll, push_numbered, inductionHypothesis]
      simp [generatedNames_succ, Nat.add_assoc]

theorem pushAll_empty (values : List Value) : (empty.pushAll values).2 = numbered 0 values :=
  congrArg Prod.snd (pushAll_numbered 0 [] values)

end SqlMapper.Params
