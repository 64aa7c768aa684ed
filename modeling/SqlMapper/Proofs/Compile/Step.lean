import SqlMapper.Compile
import SqlMapper.Proofs.Numbering

/-!
# Steps of compilation

A step may bind constants whether or not it succeeds. `Compile.outcome` runs a
step on the constants bound so far, and `Compile.Uses` is the discipline that
every step of the compiler keeps: constants are only appended, and a result
refers to each slot it was given and to each slot it bound exactly once.
-/

namespace SqlMapper.Compile

variable {α β : Type}

/-- The result of a step after some constants were bound, with the constants
bound when it ends. -/
def outcome (step : Compile α) (bound : List Value) : Result α × List Value :=
  step.run.run bound

@[simp] theorem outcome_pure (result : α) (bound : List Value) :
    outcome (pure result) bound = (.ok result, bound) := rfl

@[simp] theorem outcome_ofResult (result : Result α) (bound : List Value) :
    outcome (ofResult result) bound = (result, bound) := rfl

@[simp] theorem outcome_throw (error : Error) (bound : List Value) :
    outcome (throw error : Compile α) bound = (.error error, bound) := rfl

@[simp] theorem outcome_fail (fault : Fault) (bound : List Value) :
    outcome (fail fault : Compile α) bound = (.error (.of fault), bound) := rfl

@[simp] theorem outcome_bind_constant (value : Value) (bound : List Value) :
    outcome (Compile.bind value) bound = (.ok (.slot bound.length), bound ++ [value]) := rfl

theorem outcome_bind (step : Compile α) (next : α → Compile β) (bound : List Value) :
    outcome (step >>= next) bound =
      match outcome step bound with
      | (.ok result, bound) => outcome (next result) bound
      | (.error error, bound) => (.error error, bound) := by
  simp only [outcome, ExceptT.run_bind, StateT.run_bind]
  cases step.run.run bound with
  | mk result bound => cases result <;> rfl

/-- With the slots in `held` at hand, the step only appends constants, and its
result is `sound` and refers to the slots at hand and to those of the appended
constants, each exactly once. -/
def Uses (step : Compile α) (held : List Nat) (slots : α → List Nat) (sound : α → Prop) : Prop :=
  ∀ bound, ∃ fresh, (step.outcome bound).2 = bound ++ fresh ∧
    ∀ result, (step.outcome bound).1 = .ok result →
      sound result ∧ (slots result).Perm (held ++ List.range' bound.length fresh.length)

namespace Uses

variable {step : Compile α} {next : α → Compile β} {held : List Nat}
variable {middle : α → List Nat} {slots : β → List Nat} {kept : α → Prop} {sound : β → Prop}

/-- A step that binds nothing passes on the slots at hand. -/
theorem ofResult {result : Result α}
    (keeps : ∀ value, result = .ok value → kept value ∧ (middle value).Perm held) :
    (ofResult result).Uses held middle kept := by
  intro bound
  refine ⟨[], by simp, ?_⟩
  intro value success
  simpa using keeps value success

theorem pure {value : α} (holds : kept value) (same : (middle value).Perm held) :
    (Pure.pure value : Compile α).Uses held middle kept := by
  change (Compile.ofResult (.ok value)).Uses held middle kept
  apply ofResult
  rintro _ ⟨⟩
  exact ⟨holds, same⟩

theorem throw (error : Error) :
    (MonadExcept.throw error : Compile α).Uses held middle kept := by
  change (Compile.ofResult (.error error)).Uses held middle kept
  apply ofResult
  rintro _ ⟨⟩

theorem fail (fault : Fault) : (Compile.fail fault : Compile α).Uses held middle kept :=
  throw (.of fault)

theorem weaken {less : α → Prop} (uses : step.Uses held middle kept)
    (implies : ∀ value, kept value → less value) : step.Uses held middle less := by
  intro bound
  obtain ⟨fresh, extended, results⟩ := uses bound
  refine ⟨fresh, extended, ?_⟩
  intro value success
  obtain ⟨holds, used⟩ := results value success
  exact ⟨implies value holds, used⟩

/-- Two steps one after another: the second is handed what the first one has. -/
theorem bind (first : step.Uses held middle kept)
    (second : ∀ value, kept value → (next value).Uses (middle value) slots sound) :
    (step >>= next).Uses held slots sound := by
  intro bound
  obtain ⟨earlier, extended, results⟩ := first bound
  rw [outcome_bind]
  rcases ran : step.outcome bound with ⟨result, after⟩
  rw [ran] at extended results
  simp only at extended results
  subst extended
  cases result with
  | error error => exact ⟨earlier, rfl, by rintro _ ⟨⟩⟩
  | ok value =>
      obtain ⟨holds, atHand⟩ := results value rfl
      obtain ⟨later, extended, results⟩ := second value holds (bound ++ earlier)
      refine ⟨earlier ++ later, by simpa using extended, ?_⟩
      intro final success
      obtain ⟨finalHolds, used⟩ := results final success
      refine ⟨finalHolds, used.trans ?_⟩
      have numbers : List.range' bound.length (earlier ++ later).length =
          List.range' bound.length earlier.length ++
            List.range' (bound ++ earlier).length later.length := by
        simp [List.range'_append_1]
      rw [numbers, ← List.append_assoc]
      exact atHand.append_right _

/-- Slots that the step does not touch stay in front. -/
theorem frameLeft (own : step.Uses held middle kept) (others : List Nat) :
    step.Uses (others ++ held) (fun value => others ++ middle value) kept := by
  intro bound
  obtain ⟨fresh, extended, results⟩ := own bound
  refine ⟨fresh, extended, ?_⟩
  intro value success
  obtain ⟨holds, used⟩ := results value success
  exact ⟨holds, by simpa using used.append_left others⟩

/-- Slots that the step does not touch stay behind. -/
theorem frameRight (own : step.Uses held middle kept) (others : List Nat) :
    step.Uses (held ++ others) (fun value => middle value ++ others) kept := by
  intro bound
  obtain ⟨fresh, extended, results⟩ := own bound
  refine ⟨fresh, extended, ?_⟩
  intro value success
  obtain ⟨holds, used⟩ := results value success
  refine ⟨holds, (used.append_right others).trans ?_⟩
  rw [List.append_assoc, List.append_assoc]
  exact List.perm_append_comm.append_left held

/-- Binding a constant adds its slot to those at hand. -/
theorem bind_constant (value : Value) :
    (Compile.bind value).Uses [] Term.slots (fun term => ∃ index, term = .slot index) := by
  intro bound
  refine ⟨[value], rfl, ?_⟩
  rintro _ ⟨⟩
  exact ⟨⟨_, rfl⟩, by simp [Term.slots, List.range'_succ]⟩

end Uses

end SqlMapper.Compile

namespace SqlMapper.Params

/-- What a step is compiled to: its term, with names for the constants that it binds. -/
theorem compile_eq (params : Params) (step : Compile Term) :
    params.compile step =
      ((step.outcome []).1.map fun term => term.sql (params.pushAll (step.outcome []).2).1,
        (params.pushAll (step.outcome []).2).2) := rfl

end SqlMapper.Params
