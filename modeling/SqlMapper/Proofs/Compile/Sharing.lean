import SqlMapper.Proofs.Compile.Meaning
import SqlMapper.Proofs.Compile.Template
import SqlMapper.Proofs.Freshness
import SqlMapper.Proofs.Result

/-!
# Compilations that share parameters

Several expressions may be compiled one after another against one set of parameters, as
the clauses of a statement are. A compilation only adds entries, under names that were
free, whether or not it succeeds; what it writes refers to each entry that it added, once,
and to no other. So the compilations of a run do not get in each other's way, and what a
failed one has bound stays without a reference.
-/

namespace SqlMapper

/-- The place that an expression is compiled for. -/
inductive Place where
  | condition
  | value
  | assignment (property : Property)

/-- An expression with everything that it is compiled against but the parameters. -/
structure Compilation where
  map : TableMap
  evaluator : Evaluator
  expr : Expr
  place : Place

def Compilation.step (compilation : Compilation) : Compile Term :=
  match compilation.place with
  | .condition => compilation.expr.predicate compilation.map compilation.evaluator
  | .value => compilation.expr.term compilation.map compilation.evaluator
  | .assignment property =>
    compilation.expr.assignment compilation.map compilation.evaluator property

/-- A compilation with the parameters that it finds. -/
structure Attempt where
  compilation : Compilation
  before : Params

namespace Attempt

def result (attempt : Attempt) : Result Sql :=
  (attempt.before.compile attempt.compilation.step).1

/-- The parameters that the compilation leaves, whether or not it succeeds. -/
def after (attempt : Attempt) : Params :=
  (attempt.before.compile attempt.compilation.step).2

/-- The entries past those that the compilation found. -/
def added (attempt : Attempt) : List (String × Value) :=
  attempt.after.entries.drop attempt.before.size

/-- The parameters that the compilation refers to; after a failure there are none. -/
def references (attempt : Attempt) : List String :=
  match attempt.result with
  | .ok sql => placeholders sql
  | .error _ => []

end Attempt

/-- The compilations one after another, each on the parameters that the one before it
left. -/
def Params.run (params : Params) : List Compilation → List Attempt
  | [] => []
  | compilation :: rest =>
    let attempt : Attempt := ⟨compilation, params⟩
    attempt :: attempt.after.run rest

theorem Expr.term_uses {map : TableMap} (evaluator : Evaluator) (expr : Expr) :
    (expr.term map evaluator).Uses [] Term.slots (Term.IsOver map) :=
  (operand_uses evaluator expr).bind fun _ isOver => Operand.render_uses isOver

theorem Compilation.step_uses (compilation : Compilation) :
    compilation.step.Uses [] Term.slots (Term.IsOver compilation.map) := by
  unfold step
  split
  · exact Expr.predicate_uses _ _
  · exact Expr.term_uses _ _
  · exact Expr.assignment_uses _ _ _

theorem Term.placeholders_sql (term : Term) (names : List String) :
    placeholders (term.sql names) = term.slots.map fun slot => names.getD slot "" := by
  rw [sql, placeholders_map, placeholders_pieces]

theorem map_getD_range (names : List String) :
    (List.range names.length).map (fun slot => names.getD slot "") = names := by
  apply List.ext_getElem (by simp)
  intro slot _ inside
  simp [inside]

/-- Slots that are used once each become the names at those positions. -/
theorem Term.placeholders_sql_perm {term : Term} {names : List String}
    (used : term.slots.Perm (List.range names.length)) :
    (placeholders (term.sql names)).Perm names := by
  rw [placeholders_sql]
  exact (used.map _).trans (.of_eq (map_getD_range names))

/-- What one step does to the parameters, and what its result refers to. -/
theorem Params.compile_adds {map : TableMap} {step : Compile Term}
    (uses : step.Uses [] Term.slots (Term.IsOver map)) (params : Params) :
    ∃ added, params.Adds (params.compile step).2 added ∧
      ∀ sql, (params.compile step).1 = .ok sql →
        (placeholders sql).Perm (NameTable.names added) ∧ ∀ piece ∈ sql, piece.IsOver map := by
  obtain ⟨constants, bound, results⟩ := uses []
  rw [List.nil_append] at bound
  obtain ⟨length, adds⟩ := params.pushAll_adds constants
  rw [params.compile_eq, bound]
  refine ⟨_, adds, ?_⟩
  intro sql written
  obtain ⟨term, success, rfl⟩ := Result.map_eq_ok.mp written
  obtain ⟨isOver, used⟩ := results term success
  have ownNames : NameTable.names ((params.pushAll constants).1.zip constants) =
      (params.pushAll constants).1 := List.map_fst_zip (Nat.le_of_eq length)
  rw [ownNames]
  refine ⟨Term.placeholders_sql_perm ?_, Term.isOver_of_mem_sql isOver⟩
  simpa [length, List.range_eq_range'] using used

namespace Attempt

/-- A compilation only adds entries, and refers to its own. -/
theorem adds (attempt : Attempt) : attempt.before.Adds attempt.after attempt.added ∧
    ∀ sql, attempt.result = .ok sql →
      (placeholders sql).Perm (NameTable.names attempt.added) ∧
        ∀ piece ∈ sql, piece.IsOver attempt.compilation.map := by
  obtain ⟨added, adds, references⟩ :=
    Params.compile_adds attempt.compilation.step_uses attempt.before
  have own : attempt.added = added := adds.drop_entries
  rw [own]
  exact ⟨adds, references⟩

theorem references_subset (attempt : Attempt) :
    attempt.references ⊆ NameTable.names attempt.added := by
  unfold references
  split
  next sql written => exact (attempt.adds.2 sql written).1.subset
  next => exact List.nil_subset _

/-- A compilation that finds the entries of an earlier one adds none of the same name. -/
theorem added_disjoint {earlier later : Attempt}
    (found : earlier.after.names ⊆ later.before.names) :
    (NameTable.names earlier.added).Disjoint (NameTable.names later.added) := by
  intro name own other
  have inside : name ∈ earlier.after.names := by
    rw [earlier.adds.1.names_eq]
    exact List.mem_append_right _ own
  exact Params.contains_eq_false_iff.mp (later.adds.1.unbound name other) (found inside)

end Attempt

namespace Params

/-- Each compilation of a run finds what was there at the start, and what was added since. -/
theorem adds_of_mem_run {params : Params} {compilations : List Compilation} {attempt : Attempt}
    (member : attempt ∈ params.run compilations) :
    ∃ preceding, params.Adds attempt.before preceding := by
  induction compilations generalizing params with
  | nil => cases member
  | cons compilation rest inductionHypothesis =>
      let first : Attempt := ⟨compilation, params⟩
      rcases List.mem_cons.mp member with rfl | later
      · exact ⟨[], .refl params⟩
      · obtain ⟨preceding, adds⟩ := inductionHypothesis later
        exact ⟨first.added ++ preceding, first.adds.1.trans adds⟩

theorem names_subset_of_mem_run {params : Params} {compilations : List Compilation}
    {attempt : Attempt} (member : attempt ∈ params.run compilations) :
    params.names ⊆ attempt.before.names := by
  obtain ⟨preceding, adds⟩ := adds_of_mem_run member
  rw [adds.names_eq]
  exact List.subset_append_left _ _

theorem run_added_disjoint (params : Params) (compilations : List Compilation) :
    (params.run compilations).Pairwise fun earlier later =>
      (NameTable.names earlier.added).Disjoint (NameTable.names later.added) := by
  induction compilations generalizing params with
  | nil => exact .nil
  | cons compilation rest inductionHypothesis =>
      refine .cons (fun later member => ?_) (inductionHypothesis _)
      exact Attempt.added_disjoint (names_subset_of_mem_run member)

end Params

/-- Whatever compilations share parameters, each only adds entries under free generated
names, and refers to exactly those that it added, to each once. No two of them add an entry
of the same name, so none refers to an entry of another one, be it one that failed. -/
theorem compilations_compose (params : Params) (compilations : List Compilation) :
    (∀ attempt ∈ params.run compilations,
      (∃ preceding, params.Adds attempt.before preceding) ∧
      attempt.before.Adds attempt.after attempt.added ∧
      ∀ sql, attempt.result = .ok sql →
        (placeholders sql).Perm (NameTable.names attempt.added) ∧
        ∀ piece ∈ sql, piece.IsOver attempt.compilation.map) ∧
    (params.run compilations).Pairwise fun earlier later =>
      (NameTable.names earlier.added).Disjoint (NameTable.names later.added) ∧
      earlier.references.Disjoint (NameTable.names later.added) ∧
      later.references.Disjoint (NameTable.names earlier.added) ∧
      earlier.references.Disjoint later.references := by
  constructor
  · intro attempt member
    exact ⟨Params.adds_of_mem_run member, attempt.adds⟩
  · apply (params.run_added_disjoint compilations).imp
    intro earlier later added
    refine ⟨added, ?_, ?_, ?_⟩
    · exact List.disjoint_of_subset_left earlier.references_subset added
    · exact List.disjoint_of_subset_left later.references_subset (List.disjoint_symm added)
    · exact List.disjoint_of_subset_left earlier.references_subset
        (List.disjoint_of_subset_right later.references_subset added)

namespace Invoice

/-- `p.amount > 1 && p.unknown`, which binds a constant before it fails. -/
def unknownField : Expr :=
  .binary (.connective .and)
    (.binary (.comparison .gt) (.field "amount") (.value (.i32 1))) (.field "unknown")

example :
    (Params.empty.run [⟨mapping, .standard, unknownField, .condition⟩,
      ⟨mapping, .standard, paidAboveTwo, .condition⟩]).map Attempt.references =
      [[], ["p1"]] := by
  decide +kernel

end Invoice

end SqlMapper
