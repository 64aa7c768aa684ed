import Mathlib.Data.List.Forall2
import SqlMapper.Error

/-!
# Two runs beside each other

Two computations are `Result.Related` when both fail for the same reason or both succeed
with results that are related. The rules take the relation through a run of steps over
items that are related one by one.
-/

namespace SqlMapper.Result

variable {α β : Type}

/-- The same failure, or results that are related. -/
inductive Related (relation : α → α → Prop) : Result α → Result α → Prop where
  | ok {value other : α} (holds : relation value other) : Related relation (.ok value) (.ok other)
  | error (error : Error) : Related relation (.error error) (.error error)

namespace Related

variable {relation : α → α → Prop} {final : β → β → Prop} {result other : Result α}

theorem pure {value otherValue : α} (holds : relation value otherValue) :
    Related relation (Pure.pure value) (Pure.pure otherValue) :=
  .ok holds

/-- The same computation in both runs. -/
theorem of_eq (result : Result α) :
    Related (fun value other => value = other ∧ result = .ok value) result result := by
  cases result with
  | error error => exact .error error
  | ok value => exact .ok ⟨rfl, rfl⟩

theorem bind {next otherNext : α → Result β} (first : Related relation result other)
    (second : ∀ value otherValue, relation value otherValue →
      Related final (next value) (otherNext otherValue)) :
    Related final (result >>= next) (other >>= otherNext) := by
  cases first with
  | ok holds => exact second _ _ holds
  | error error => exact .error error

theorem mono {weaker : α → α → Prop} (related : Related relation result other)
    (implies : ∀ value otherValue, relation value otherValue → weaker value otherValue) :
    Related weaker result other := by
  cases related with
  | ok holds => exact .ok (implies _ _ holds)
  | error error => exact .error error

variable {γ : Type} {items others : List γ} {pairs : γ → γ → Prop}

/-- Steps over related items keep what each step keeps. -/
theorem foldlM {step otherStep : α → γ → Result α} {start otherStart : α}
    (paired : List.Forall₂ pairs items others)
    (steps : ∀ state otherState item otherItem, relation state otherState →
      pairs item otherItem →
      Related relation (step state item) (otherStep otherState otherItem))
    (started : relation start otherStart) :
    Related relation (items.foldlM step start) (others.foldlM otherStep otherStart) := by
  induction paired generalizing start otherStart with
  | nil => exact .ok started
  | cons here _ inductionHypothesis =>
      rw [List.foldlM_cons, List.foldlM_cons]
      exact (steps _ _ _ _ started here).bind fun _ _ holds => inductionHypothesis holds

/-- Results over related items are related one by one. -/
theorem mapM {function otherFunction : γ → Result α}
    (paired : List.Forall₂ pairs items others)
    (each : ∀ item otherItem, pairs item otherItem →
      Related relation (function item) (otherFunction otherItem)) :
    Related (List.Forall₂ relation) (items.mapM function) (others.mapM otherFunction) := by
  induction paired with
  | nil => exact .ok .nil
  | cons here _ inductionHypothesis =>
      rw [List.mapM_cons, List.mapM_cons]
      apply (each _ _ here).bind
      intro first otherFirst holds
      apply inductionHypothesis.bind
      intro rest otherRest holdsLater
      exact .pure (.cons holds holdsLater)

theorem foldlM_same {step otherStep : α → γ → Result α} {start otherStart : α}
    (steps : ∀ item ∈ items, ∀ state otherState, relation state otherState →
      Related relation (step state item) (otherStep otherState item))
    (started : relation start otherStart) :
    Related relation (items.foldlM step start) (items.foldlM otherStep otherStart) := by
  have paired : List.Forall₂ (fun item other => item = other ∧ item ∈ items) items items :=
    List.forall₂_same.mpr fun _ member => ⟨rfl, member⟩
  refine foldlM paired ?_ started
  rintro state otherState item _ holds ⟨rfl, member⟩
  exact steps item member state otherState holds

theorem mapM_same {function otherFunction : γ → Result α}
    (each : ∀ item ∈ items, Related relation (function item) (otherFunction item)) :
    Related (List.Forall₂ relation) (items.mapM function) (items.mapM otherFunction) := by
  have paired : List.Forall₂ (fun item other => item = other ∧ item ∈ items) items items :=
    List.forall₂_same.mpr fun _ member => ⟨rfl, member⟩
  apply mapM paired
  rintro item _ ⟨rfl, member⟩
  exact each item member

end Related

end SqlMapper.Result
