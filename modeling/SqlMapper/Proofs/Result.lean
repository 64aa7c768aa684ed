import Mathlib.Data.List.Forall2
import SqlMapper.Error

/-!
# Results of several steps

When a computation of several steps succeeds, each of its steps did; and what every
step preserves, a run of steps preserves.
-/

namespace SqlMapper.Result

variable {α β : Type} {result : Result α} {final : β}

@[simp] theorem bind_eq_ok {next : α → Result β} :
    (result >>= next) = .ok final ↔ ∃ value, result = .ok value ∧ next value = .ok final := by
  cases result with
  | error error => simp [bind, Except.bind]
  | ok value => simp [bind, Except.bind]

@[simp] theorem map_eq_ok {function : α → β} :
    result.map function = .ok final ↔ ∃ value, result = .ok value ∧ function value = final := by
  cases result with
  | error error => simp [Except.map]
  | ok value => simp [Except.map]

@[simp] theorem map_eq_error {function : α → β} {error : Error} :
    result.map function = .error error ↔ result = .error error := by
  cases result with
  | error other => simp [Except.map]
  | ok value => simp [Except.map]

@[simp] theorem pure_eq_ok {value other : α} :
    (Pure.pure value : Result α) = .ok other ↔ value = other := by
  simp [Pure.pure, Except.pure]

theorem exists_eq_error_iff :
    (∃ error, result = .error error) ↔ ¬ ∃ value, result = .ok value := by
  cases result with
  | error error => simp
  | ok value => simp

theorem bind_eq_error {next : α → Result β} {error : Error} :
    (result >>= next) = .error error ↔
      result = .error error ∨ ∃ value, result = .ok value ∧ next value = .error error := by
  cases result with
  | error other => simp [bind, Except.bind]
  | ok value => simp [bind, Except.bind]

/-- A relation that every successful step keeps relates the start of a run to its
end. -/
theorem foldlM_related {relation : β → β → Prop} {step : β → α → Result β} {items : List α}
    {start final : β} (refl : ∀ state, relation state state)
    (trans : ∀ first middle last, relation first middle → relation middle last →
      relation first last)
    (steps : ∀ state, ∀ item ∈ items, ∀ next, step state item = .ok next → relation state next)
    (ran : items.foldlM step start = .ok final) : relation start final := by
  induction items generalizing start with
  | nil =>
      cases ran
      exact refl _
  | cons item rest inductionHypothesis =>
      rw [List.foldlM_cons, bind_eq_ok] at ran
      obtain ⟨middle, stepped, ran⟩ := ran
      have first := steps start item (by simp) middle stepped
      have later := inductionHypothesis
        (fun state item member => steps state item (by simp [member])) ran
      exact trans start middle final first later

/-- A property that every successful step keeps holds at the end of a run. -/
theorem foldlM_keeps {holds : β → Prop} {step : β → α → Result β} {items : List α}
    {start final : β} (started : holds start)
    (steps : ∀ state, holds state → ∀ item ∈ items, ∀ next, step state item = .ok next →
      holds next)
    (ran : items.foldlM step start = .ok final) : holds final := by
  induction items generalizing start with
  | nil =>
      cases ran
      exact started
  | cons item rest inductionHypothesis =>
      rw [List.foldlM_cons, bind_eq_ok] at ran
      obtain ⟨middle, stepped, ran⟩ := ran
      have kept := steps start started item (by simp) middle stepped
      exact inductionHypothesis kept
        (fun state holding item member => steps state holding item (by simp [member])) ran

/-- Two runs are the same when their steps agree wherever a run can get to. -/
theorem foldlM_congr (holds : β → Prop) {step other : β → α → Result β} {items : List α}
    {start : β} (started : holds start)
    (steps : ∀ state, holds state → ∀ item ∈ items, step state item = other state item)
    (keeps : ∀ state, holds state → ∀ item ∈ items, ∀ next, step state item = .ok next →
      holds next) :
    items.foldlM step start = items.foldlM other start := by
  induction items generalizing start with
  | nil => rfl
  | cons item rest inductionHypothesis =>
      rw [List.foldlM_cons, List.foldlM_cons, ← steps start started item (by simp)]
      cases stepped : step start item with
      | error error => rfl
      | ok next =>
          exact inductionHypothesis (keeps start started item (by simp) next stepped)
            (fun state holding other member => steps state holding other (by simp [member]))
            (fun state holding other member => keeps state holding other (by simp [member]))

/-- The error of a run is the error of one of its steps. -/
theorem exists_of_foldlM_eq_error {step : β → α → Result β} {items : List α} {start : β}
    {error : Error} (failed : items.foldlM step start = .error error) :
    ∃ state, ∃ item ∈ items, step state item = .error error := by
  induction items generalizing start with
  | nil => cases failed
  | cons item rest inductionHypothesis =>
      rw [List.foldlM_cons, bind_eq_error] at failed
      obtain stopped | ⟨next, -, failed⟩ := failed
      · exact ⟨start, item, List.mem_cons_self, stopped⟩
      · obtain ⟨state, later, member, reached⟩ := inductionHypothesis failed
        exact ⟨state, later, List.mem_cons_of_mem _ member, reached⟩

/-- A run of checks succeeds when each of them does. -/
theorem forM_eq_ok {check : α → Result Unit} {items : List α} :
    items.forM check = .ok () ↔ ∀ item ∈ items, check item = .ok () := by
  induction items with
  | nil => exact iff_of_true rfl (List.forall_mem_nil _)
  | cons item rest inductionHypothesis =>
      change (check item >>= fun _ => rest.forM check) = .ok () ↔ _
      rw [bind_eq_ok, List.forall_mem_cons, inductionHypothesis]
      exact ⟨fun ⟨(), first, others⟩ => ⟨first, others⟩, fun both => ⟨(), both⟩⟩

/-- The error of a run of checks is the error of one of them. -/
theorem exists_of_forM_eq_error {check : α → Result Unit} {items : List α} {error : Error}
    (failed : items.forM check = .error error) : ∃ item ∈ items, check item = .error error := by
  induction items with
  | nil => cases failed
  | cons item rest inductionHypothesis =>
      change (check item >>= fun _ => rest.forM check) = .error error at failed
      obtain refused | ⟨_, -, failed⟩ := bind_eq_error.mp failed
      · exact ⟨item, List.mem_cons_self, refused⟩
      · obtain ⟨later, member, refused⟩ := inductionHypothesis failed
        exact ⟨later, List.mem_cons_of_mem _ member, refused⟩

/-- The results of a run stand beside the items they were computed from. -/
theorem mapM_eq_ok_iff_forall₂ {function : α → Result β} {items : List α} {results : List β} :
    items.mapM function = .ok results ↔
      List.Forall₂ (fun item result => function item = .ok result) items results := by
  induction items generalizing results with
  | nil =>
      rw [List.mapM_nil, pure_eq_ok, List.forall₂_nil_left_iff]
      exact eq_comm
  | cons item rest inductionHypothesis =>
      simp only [List.mapM_cons, bind_eq_ok, pure_eq_ok, List.forall₂_cons_left_iff,
        inductionHypothesis]
      constructor
      · rintro ⟨result, computed, later, others, rfl⟩
        exact ⟨result, later, computed, others, rfl⟩
      · rintro ⟨result, later, computed, others, rfl⟩
        exact ⟨result, computed, later, others, rfl⟩

section Results

variable {function : α → Result β} {items : List α} {results : List β}

theorem length_of_mapM_eq_ok (ran : items.mapM function = .ok results) :
    results.length = items.length :=
  (mapM_eq_ok_iff_forall₂.mp ran).length_eq.symm

/-- Every result is the result of some item. -/
theorem exists_of_mem_mapM (ran : items.mapM function = .ok results) :
    ∀ result ∈ results, ∃ item ∈ items, function item = .ok result := by
  have paired := mapM_eq_ok_iff_forall₂.mp ran
  clear ran
  induction paired with
  | nil => exact List.forall_mem_nil _
  | cons computed _ inductionHypothesis =>
      refine List.forall_mem_cons.mpr ⟨⟨_, List.mem_cons_self, computed⟩, fun result member => ?_⟩
      obtain ⟨item, later, computed⟩ := inductionHypothesis result member
      exact ⟨item, List.mem_cons_of_mem _ later, computed⟩

/-- Every item has a result. -/
theorem ok_of_mapM_eq_ok (ran : items.mapM function = .ok results) :
    ∀ item ∈ items, ∃ result, function item = .ok result := by
  have paired := mapM_eq_ok_iff_forall₂.mp ran
  clear ran
  induction paired with
  | nil => exact List.forall_mem_nil _
  | cons computed _ inductionHypothesis =>
      exact List.forall_mem_cons.mpr ⟨⟨_, computed⟩, inductionHypothesis⟩

end Results

theorem mapM_congr {function other : α → Result β} {items : List α}
    (each : ∀ item ∈ items, function item = other item) :
    items.mapM function = items.mapM other := by
  induction items with
  | nil => rfl
  | cons item rest inductionHypothesis =>
      obtain ⟨first, later⟩ := List.forall_mem_cons.mp each
      rw [List.mapM_cons, List.mapM_cons, first, inductionHypothesis later]

theorem mapM_eq_ok {function : α → Result β} {items : List α} {value : α → β}
    (each : ∀ item ∈ items, function item = .ok (value item)) :
    items.mapM function = .ok (items.map value) :=
  (mapM_congr each).trans List.mapM_pure

/-- A run succeeds when every item has a result. -/
theorem exists_mapM_eq_ok_iff {function : α → Result β} {items : List α} :
    (∃ results, items.mapM function = .ok results) ↔
      ∀ item ∈ items, ∃ result, function item = .ok result := by
  refine ⟨fun ⟨_, ran⟩ => ok_of_mapM_eq_ok ran, fun each => ?_⟩
  induction items with
  | nil => exact ⟨[], rfl⟩
  | cons item rest inductionHypothesis =>
      obtain ⟨⟨result, computed⟩, others⟩ := List.forall_mem_cons.mp each
      obtain ⟨results, ran⟩ := inductionHypothesis others
      refine ⟨result :: results, ?_⟩
      simp only [List.mapM_cons, bind_eq_ok, pure_eq_ok]
      exact ⟨result, computed, results, ran, rfl⟩

/-- A run fails at the first item without a result, for the reason this item has none. -/
theorem mapM_eq_error_iff {function : α → Result β} {items : List α} {error : Error} :
    items.mapM function = .error error ↔
      ∃ before item after, items = before ++ item :: after ∧
        (∀ earlier ∈ before, ∃ result, function earlier = .ok result) ∧
        function item = .error error := by
  constructor
  · intro failed
    induction items with
    | nil => cases failed
    | cons first rest inductionHypothesis =>
        simp only [List.mapM_cons, bind_eq_error] at failed
        obtain refused | ⟨result, computed, failed | ⟨results, -, finished⟩⟩ := failed
        · exact ⟨[], first, rest, rfl, List.forall_mem_nil _, refused⟩
        · obtain ⟨before, item, after, rfl, earlier, refused⟩ := inductionHypothesis failed
          exact ⟨first :: before, item, after, rfl,
            List.forall_mem_cons.mpr ⟨⟨result, computed⟩, earlier⟩, refused⟩
        · cases finished
  · rintro ⟨before, item, after, rfl, earlier, refused⟩
    obtain ⟨results, ran⟩ := exists_mapM_eq_ok_iff.mpr earlier
    rw [List.mapM_append, ran, List.mapM_cons, refused]
    rfl

/-- If the result is a failure, its error satisfies a condition. -/
def FailsAs (holds : Error → Prop) (result : Result α) : Prop :=
  ∀ error, result = .error error → holds error

namespace FailsAs

variable {holds : Error → Prop}

theorem ok (value : α) : FailsAs holds (.ok value) := by
  intro error failed
  cases failed

theorem error {error : Error} (satisfied : holds error) :
    FailsAs holds (.error error : Result α) := by
  rintro _ ⟨⟩
  exact satisfied

theorem fail {fault : Fault} (satisfied : holds (.of fault)) :
    FailsAs holds (fault.fail : Result α) :=
  error satisfied

theorem mono {weaker : Error → Prop} (fails : FailsAs holds result)
    (implies : ∀ error, holds error → weaker error) : FailsAs weaker result :=
  fun error failed => implies error (fails error failed)

theorem bind {next : α → Result β} (first : FailsAs holds result)
    (later : ∀ value, result = .ok value → FailsAs holds (next value)) :
    FailsAs holds (result >>= next) := by
  cases result with
  | error error => exact FailsAs.error (first error rfl)
  | ok value => exact later value rfl

theorem mapM {function : α → Result β} {items : List α}
    (each : ∀ item ∈ items, FailsAs holds (function item)) :
    FailsAs holds (items.mapM function) := by
  induction items with
  | nil => exact .ok []
  | cons item rest inductionHypothesis =>
      obtain ⟨first, later⟩ := List.forall_mem_cons.mp each
      rw [List.mapM_cons]
      exact first.bind fun _ _ => (inductionHypothesis later).bind fun _ _ => .ok _

end FailsAs

/-- If the result is a failure, a fault is not among what it reports. -/
def Avoids (fault : Fault) (result : Result α) : Prop :=
  ∀ error, result = .error error → fault ∉ error.chain

namespace Avoids

variable {fault : Fault}

theorem ok (value : α) : Avoids fault (.ok value) :=
  FailsAs.ok value

theorem fail {other : Fault} (differs : fault ≠ other) :
    Avoids fault (other.fail : Result α) :=
  FailsAs.fail fun member => differs (List.mem_singleton.mp member)

theorem bind {next : α → Result β} (first : Avoids fault result)
    (later : ∀ value, result = .ok value → Avoids fault (next value)) :
    Avoids fault (result >>= next) :=
  FailsAs.bind first later

theorem mapM {function : α → Result β} {items : List α}
    (each : ∀ item ∈ items, Avoids fault (function item)) :
    Avoids fault (items.mapM function) :=
  FailsAs.mapM each

end Avoids

end SqlMapper.Result
