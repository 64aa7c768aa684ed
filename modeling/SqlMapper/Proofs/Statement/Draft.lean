import SqlMapper.Proofs.Compile.Template
import SqlMapper.Proofs.Result
import SqlMapper.Statement.Select
import SqlMapper.Statement.Update

/-!
# Statements under construction

Every clause adds fragments to a draft and binds the constants in them.
`Draft.Adds` is what one clause keeps and a run of clauses keeps with it: the new
parameters carry the next numbers, and each is referred to exactly once in what was
added.
-/

namespace SqlMapper

open Params

namespace Property

variable {map : TableMap} {property : Property}

theorem isOver_of_mem_columnSql (mapped : property ∈ map.properties) :
    ∀ piece ∈ property.columnSql, piece.IsOver map := by
  have column : map.HasColumn property.column := ⟨property, mapped, rfl⟩
  simpa [columnSql] using column

theorem isOver_of_mem_isNullSql (mapped : property ∈ map.properties) :
    ∀ piece ∈ property.isNullSql, piece.IsOver map := by
  have column := isOver_of_mem_columnSql mapped
  simpa [isNullSql, or_imp, forall_and, Term.wording] using column

theorem isOver_of_mem_equalsParameter (mapped : property ∈ map.properties) (name : String) :
    ∀ piece ∈ property.equalsParameter name, piece.IsOver map := by
  have column := isOver_of_mem_columnSql mapped
  simpa [equalsParameter, or_imp, forall_and, Term.wording] using column

theorem isOver_of_mem_assignSql (mapped : property ∈ map.properties) {value : Sql}
    (pieces : ∀ piece ∈ value, piece.IsOver map) :
    ∀ piece ∈ property.assignSql value, piece.IsOver map := by
  have column := isOver_of_mem_columnSql mapped
  simpa [assignSql, or_imp, forall_and, Term.wording] using ⟨column, pieces⟩

end Property

namespace Draft

/-- From one draft to the next, parameters were bound under the next numbers, and
the added fragments refer to each of them exactly once and to no other. -/
structure Adds (before after : Draft) (fragments : List Sql) : Prop where
  map : after.map = before.map
  dialect : after.dialect = before.dialect
  params : ∀ values, before.params = .numbered 0 values →
    ∃ fresh, after.params = .numbered 0 (values ++ fresh) ∧
      (placeholders fragments.flatten).Perm (generatedNames values.length fresh.length)
  pieces : ∀ piece ∈ fragments.flatten, piece.IsOver before.map

namespace Adds

variable {before middle after : Draft} {fragments further : List Sql}

theorem refl (draft : Draft) : Adds draft draft [] :=
  ⟨rfl, rfl, fun values numbered => ⟨[], by simpa using numbered, .refl _⟩,
    List.forall_mem_nil _⟩

theorem trans (first : Adds before middle fragments) (second : Adds middle after further) :
    Adds before after (fragments ++ further) := by
  refine ⟨second.map.trans first.map, second.dialect.trans first.dialect, ?_, ?_⟩
  · intro values numbered
    obtain ⟨earlier, middleNumbered, earlierUsed⟩ := first.params values numbered
    obtain ⟨later, afterNumbered, laterUsed⟩ := second.params _ middleNumbered
    refine ⟨earlier ++ later, by simpa using afterNumbered, ?_⟩
    have names : generatedNames values.length (earlier ++ later).length =
        generatedNames values.length earlier.length ++
          generatedNames (values ++ earlier).length later.length := by
      rw [List.length_append, List.length_append, generatedNames_add]
    rw [names, List.flatten_append, placeholders_append]
    exact earlierUsed.append laterUsed
  · intro piece member
    rw [List.flatten_append, List.mem_append] at member
    rcases member with member | member
    · exact first.pieces piece member
    · exact first.map ▸ second.pieces piece member

end Adds

/-- A draft that is still pristine has bound nothing. -/
theorem Adds.params_of_isPristine {map : TableMap} {dialect : Dialect} {draft : Draft}
    {fragments : List Sql} (adds : (Draft.start map dialect).Adds draft fragments)
    (pristine : draft.isPristine = true) : draft.params = .numbered 0 [] := by
  obtain ⟨values, numbered, _⟩ := adds.params [] rfl
  have none : values = [] := by
    simpa [isPristine, numbered, Params.isEmpty, Params.numbered] using
      (Bool.and_eq_true_iff.mp pristine).2
  rw [numbered, none]
  rfl

/-- Binding a value and writing a fragment around its placeholder. -/
theorem bind_adds {draft : Draft} {value : Value} (fragment : String → Sql)
    (once : ∀ name, placeholders (fragment name) = [name])
    (pieces : ∀ name, ∀ piece ∈ fragment name, piece.IsOver draft.map) :
    Adds draft (draft.bind value).2 [fragment (draft.bind value).1] := by
  refine ⟨rfl, rfl, ?_, ?_⟩
  · intro values numbered
    refine ⟨[value], ?_, ?_⟩
    · simp only [Draft.bind, numbered, push_numbered]
    · simp [Draft.bind, numbered, push_numbered, once, generatedNames_succ]
  · simpa using pieces _

/-- What a step of compilation leaves behind. -/
theorem compile_eq_ok {draft after : Draft} {step : Compile Term} {sql : Sql} :
    draft.compile step = .ok (sql, after) ↔
      ∃ term, (step.outcome []).1 = .ok term ∧
        sql = term.sql (draft.params.pushAll (step.outcome []).2).1 ∧
        after = { draft with params := (draft.params.pushAll (step.outcome []).2).2 } := by
  have unfolded : draft.compile step = (do
      let sql ← (step.outcome []).1.map fun term =>
        term.sql (draft.params.pushAll (step.outcome []).2).1
      return (sql, { draft with params := (draft.params.pushAll (step.outcome []).2).2 })) := rfl
  rw [unfolded]
  simp only [Result.bind_eq_ok, Result.map_eq_ok, Result.pure_eq_ok, Prod.mk.injEq]
  constructor
  · rintro ⟨_, ⟨term, ran, rfl⟩, rfl, rfl⟩
    exact ⟨term, ran, rfl, rfl⟩
  · rintro ⟨term, ran, rfl, rfl⟩
    exact ⟨_, ⟨term, ran, rfl⟩, rfl, rfl⟩

/-- Compiling an expression and writing a fragment around its text. -/
theorem compile_adds {draft after : Draft} {step : Compile Term} {sql fragment : Sql}
    (uses : step.Uses [] Term.slots (Term.IsOver draft.map))
    (compiled : draft.compile step = .ok (sql, after))
    (once : placeholders fragment = placeholders sql)
    (pieces : (∀ piece ∈ sql, piece.IsOver draft.map) →
      ∀ piece ∈ fragment, piece.IsOver draft.map) :
    Adds draft after [fragment] := by
  obtain ⟨term, ran, rfl, rfl⟩ := compile_eq_ok.mp compiled
  obtain ⟨constants, bound, results⟩ := uses []
  obtain ⟨isOver, used⟩ := results term ran
  simp only [List.nil_append, List.length_nil] at used bound
  refine ⟨rfl, rfl, ?_, ?_⟩
  · intro values numbered
    simp only [numbered, pushAll_numbered, bound, Nat.zero_add] at once ⊢
    refine ⟨constants, rfl, ?_⟩
    have slots : ∀ slot ∈ term.slots, slot < constants.length := fun slot member => by
      simpa using used.mem_iff.mp member
    rw [List.flatten_singleton, once, Term.sql_numbers values.length slots, Template.numbered,
      placeholders_map, Term.placeholders_pieces, ← map_range_generatedName]
    exact used.map _
  · rw [List.flatten_singleton]
    exact pieces (Term.isOver_of_mem_sql isOver)

/-- Binding, compiling and adding conditions extend the conditions by the fragments
that were added. -/
def Filters (before after : Draft) : Prop :=
  ∃ fragments, Adds before after fragments ∧ after.conditions = before.conditions ++ fragments

theorem Filters.refl (draft : Draft) : Filters draft draft :=
  ⟨[], .refl draft, by simp⟩

theorem Filters.trans {before middle after : Draft} (first : Filters before middle)
    (second : Filters middle after) : Filters before after := by
  obtain ⟨fragments, adds, conditions⟩ := first
  obtain ⟨further, addsFurther, furtherConditions⟩ := second
  exact ⟨fragments ++ further, adds.trans addsFurther, by
    rw [furtherConditions, conditions, List.append_assoc]⟩

theorem Filters.exists_adds {before after : Draft} (filtered : Filters before after) :
    ∃ fragments, before.Adds after fragments :=
  filtered.imp fun _ => And.left

/-- A fragment that was added becomes a condition. -/
theorem Adds.filters {before after : Draft} {condition : Sql}
    (adds : Adds before after [condition]) (conditions : after.conditions = before.conditions) :
    Filters before (after.addCondition condition) :=
  ⟨[condition], ⟨adds.map, adds.dialect, adds.params, adds.pieces⟩, by
    rw [addCondition, conditions]⟩

/-- Writing a fragment without placeholders. -/
theorem adds_plain {draft : Draft} {fragment : Sql} (plain : placeholders fragment = [])
    (pieces : ∀ piece ∈ fragment, piece.IsOver draft.map) : Adds draft draft [fragment] :=
  ⟨rfl, rfl, fun values numbered => ⟨[], by simpa using numbered, by simp [plain]⟩,
    by simpa using pieces⟩

theorem compile_conditions {draft after : Draft} {step : Compile Term} {sql : Sql}
    (compiled : draft.compile step = .ok (sql, after)) : after.conditions = draft.conditions := by
  obtain ⟨_, _, _, rfl⟩ := compile_eq_ok.mp compiled
  rfl

theorem filterField_filters {draft after : Draft} {property : Property} {value : Value}
    (mapped : property ∈ draft.map.properties)
    (ran : draft.filterField property value = .ok after) : Filters draft after := by
  simp only [filterField, Result.bind_eq_ok] at ran
  obtain ⟨stored, -, ran⟩ := ran
  split at ran
  next =>
    cases ran
    exact (adds_plain rfl (Property.isOver_of_mem_isNullSql mapped)).filters rfl
  next =>
    cases ran
    have adds : Adds draft (draft.bind stored).2 [property.equalsParameter (draft.bind stored).1] :=
      bind_adds property.equalsParameter (fun _ => rfl)
        (Property.isOver_of_mem_equalsParameter mapped)
    exact adds.filters rfl

theorem filterFields_filters {keyOnly : Bool} {draft after : Draft}
    {fields : List (String × Value)}
    (ran : draft.filterFields keyOnly fields = .ok after) : Filters draft after := by
  refine Result.foldlM_related Filters.refl (fun _ _ _ => Filters.trans) ?_ ran
  intro draft field _ next stepped
  simp only [Result.bind_eq_ok] at stepped
  obtain ⟨property, found, stepped⟩ := stepped
  split at stepped
  next =>
    cases stepped
    exact .refl draft
  next => exact filterField_filters (TableMap.mem_of_property_eq_ok found) stepped

/-- A clause adds its conditions and binds their constants. -/
theorem filter_filters {draft after : Draft} {clause : FilterClause}
    (ran : draft.filter clause = .ok after) : Filters draft after := by
  cases clause with
  | condition expr =>
      simp only [filter, Result.bind_eq_ok] at ran
      obtain ⟨⟨condition, middle⟩, compiled, ran⟩ := ran
      cases ran
      have adds := compile_adds (Expr.predicate_uses draft.evaluator expr) compiled rfl id
      exact adds.filters (compile_conditions compiled)
  | matching source =>
      simp only [filter, Result.bind_eq_ok] at ran
      obtain ⟨fields, -, ran⟩ := ran
      exact filterFields_filters ran
  | matchingKey source =>
      simp only [filter, Result.bind_eq_ok] at ran
      obtain ⟨fields, -, _, -, ran⟩ := ran
      exact filterFields_filters ran
  | evaluator evaluator =>
      cases ran
      obtain ⟨map, dialect, params, pieces⟩ := Adds.refl draft
      exact ⟨[], ⟨map, dialect, params, pieces⟩, by simp⟩

/-- A run of clauses adds the conditions of all of them. -/
theorem foldlM_filters {draft after : Draft} {clauses : List FilterClause}
    (ran : clauses.foldlM filter draft = .ok after) : Filters draft after :=
  Result.foldlM_related Filters.refl (fun _ _ _ => Filters.trans)
    (fun _ _ _ _ => filter_filters) ran

end Draft

namespace UpdateDraft

/-- All fragments of an update: its assignments and its conditions. -/
def fragments (update : UpdateDraft) : List Sql :=
  update.assignments ++ update.draft.conditions

/-- From one update to the next, the fragments were extended by those that were
added. -/
def Extends (before after : UpdateDraft) : Prop :=
  ∃ added, before.draft.Adds after.draft added ∧
    after.fragments.Perm (before.fragments ++ added)

theorem Extends.refl (update : UpdateDraft) : Extends update update :=
  ⟨[], .refl update.draft, by simp⟩

theorem Extends.trans {before middle after : UpdateDraft} (first : Extends before middle)
    (second : Extends middle after) : Extends before after := by
  obtain ⟨added, adds, extended⟩ := first
  obtain ⟨further, addsFurther, extendedFurther⟩ := second
  refine ⟨added ++ further, adds.trans addsFurther, ?_⟩
  rw [← List.append_assoc]
  exact extendedFurther.trans (extended.append_right further)

theorem Extends.exists_adds {before after : UpdateDraft} (extended : Extends before after) :
    ∃ added, before.draft.Adds after.draft added :=
  extended.imp fun _ => And.left

/-- A fragment that was added becomes an assignment. -/
theorem extends_of_assignment {update : UpdateDraft} {draft : Draft} {assignment : Sql}
    (adds : update.draft.Adds draft [assignment])
    (conditions : draft.conditions = update.draft.conditions) :
    Extends update ⟨draft, update.assignments ++ [assignment]⟩ := by
  refine ⟨[assignment], adds, ?_⟩
  simp only [fragments, conditions, List.append_assoc]
  exact List.Perm.append_left _ List.perm_append_comm

theorem assignValue_extends {update after : UpdateDraft} {property : Property} {value : Value}
    (mapped : property ∈ update.draft.map.properties)
    (ran : update.assignValue property value = .ok after) : Extends update after := by
  simp only [assignValue, Result.bind_eq_ok] at ran
  obtain ⟨stored, -, ran⟩ := ran
  cases ran
  have adds : update.draft.Adds (update.draft.bind stored).2
      [property.assignSql [.placeholder (update.draft.bind stored).1]] :=
    Draft.bind_adds (fun name => property.assignSql [.placeholder name])
      (fun _ => rfl) (fun _ => Property.isOver_of_mem_assignSql mapped (by simp))
  exact extends_of_assignment adds rfl

theorem assignFields_extends {update after : UpdateDraft} {fields : List (String × Value)}
    (ran : update.assignFields fields = .ok after) : Extends update after := by
  refine Result.foldlM_related Extends.refl (fun _ _ _ => Extends.trans) ?_ ran
  intro update field _ next stepped
  simp only [Result.bind_eq_ok] at stepped
  obtain ⟨property, found, stepped⟩ := stepped
  split at stepped
  next => exact assignValue_extends (TableMap.mem_of_property_eq_ok found) stepped
  next =>
    cases stepped
    exact .refl update

theorem assignExpr_extends {update after : UpdateDraft} {field : String} {expr : Expr}
    (ran : update.assignExpr field expr = .ok after) : Extends update after := by
  simp only [assignExpr, Result.bind_eq_ok] at ran
  obtain ⟨property, found, ran⟩ := ran
  have mapped := TableMap.mem_of_property_eq_ok found
  split at ran
  next => cases ran
  next =>
    obtain ⟨⟨value, draft⟩, compiled, ran⟩ := Result.bind_eq_ok.mp ran
    cases ran
    have adds : update.draft.Adds draft [property.assignSql value] :=
      Draft.compile_adds (Expr.assignment_uses update.draft.evaluator property expr) compiled rfl
        (Property.isOver_of_mem_assignSql mapped)
    exact extends_of_assignment adds (Draft.compile_conditions compiled)

/-- A clause adds its assignments or conditions and binds their constants. -/
theorem apply_extends {update after : UpdateDraft} {clause : UpdateClause}
    (ran : update.apply clause = .ok after) : Extends update after := by
  cases clause with
  | filter clause =>
      simp only [apply, Result.bind_eq_ok] at ran
      obtain ⟨draft, filtered, ran⟩ := ran
      cases ran
      obtain ⟨added, adds, conditions⟩ := Draft.filter_filters filtered
      refine ⟨added, adds, ?_⟩
      rw [fragments, fragments, conditions, List.append_assoc]
  | set source =>
      simp only [apply, Result.bind_eq_ok] at ran
      obtain ⟨fields, -, ran⟩ := ran
      exact assignFields_extends ran
  | setField field expr => exact assignExpr_extends ran

/-- A run of clauses adds the assignments and conditions of all of them. -/
theorem foldlM_extends {update after : UpdateDraft} {clauses : List UpdateClause}
    (ran : clauses.foldlM apply update = .ok after) : Extends update after :=
  Result.foldlM_related Extends.refl (fun _ _ _ => Extends.trans)
    (fun _ _ _ _ => apply_extends) ran

end UpdateDraft

/-- The text that a clause supplies for the selection or the source. -/
def SelectClause.text? : SelectClause → Option String
  | selection text | source text => some text
  | _ => none

namespace SelectDraft

/-- A select in which no clause left a trace has no conditions and no parameters. -/
theorem isPristine_draft {select : SelectDraft} (pristine : select.isPristine = true) :
    select.draft.isPristine = true := by
  simp only [isPristine, Bool.and_eq_true] at pristine
  exact pristine.1.1.1.1.1

/-- The texts that replace the selection and the source. -/
def texts (select : SelectDraft) : List String :=
  select.selection.toList ++ select.source.toList

/-- From one select to the next, conditions were added, and texts came from the
clauses alone. -/
def Extends (clauses : List SelectClause) (before after : SelectDraft) : Prop :=
  before.draft.Filters after.draft ∧
    ∀ text ∈ after.texts, text ∈ before.texts ∨ text ∈ clauses.filterMap SelectClause.text?

variable {clauses : List SelectClause}

theorem Extends.refl (select : SelectDraft) : Extends clauses select select :=
  ⟨.refl select.draft, fun _ => .inl⟩

theorem Extends.trans {before middle after : SelectDraft} (first : Extends clauses before middle)
    (second : Extends clauses middle after) : Extends clauses before after := by
  refine ⟨first.1.trans second.1, fun text member => ?_⟩
  rcases second.2 text member with earlier | given
  · exact first.2 text earlier
  · exact .inr given

/-- A clause adds its conditions, or replaces a text by its own. -/
theorem apply_extends {select after : SelectDraft} {clause : SelectClause}
    (member : clause ∈ clauses) (ran : select.apply clause = .ok after) :
    Extends clauses select after := by
  have given (text : String) (own : clause.text? = some text) :
      text ∈ clauses.filterMap SelectClause.text? :=
    List.mem_filterMap.mpr ⟨clause, member, own⟩
  cases clause with
  | filter clause =>
      simp only [apply, Result.bind_eq_ok] at ran
      obtain ⟨draft, filtered, ran⟩ := ran
      cases ran
      exact ⟨Draft.filter_filters filtered, fun _ => .inl⟩
  | selection text =>
      cases ran
      refine ⟨.refl select.draft, fun other otherMember => ?_⟩
      simp only [texts, Option.toList_some, List.singleton_append, List.mem_cons] at otherMember
      rcases otherMember with rfl | kept
      · exact .inr (given _ rfl)
      · exact .inl (List.mem_append_right _ kept)
  | source text =>
      cases ran
      refine ⟨.refl select.draft, fun other otherMember => ?_⟩
      simp only [texts, Option.toList_some, List.mem_append, List.mem_singleton] at otherMember
      rcases otherMember with kept | rfl
      · exact .inl (List.mem_append_left _ kept)
      · exact .inr (given _ rfl)
  | page number size =>
      simp only [apply] at ran
      split at ran
      next => cases ran
      next =>
        cases ran
        exact .refl select
  | _ =>
      cases ran
      exact .refl select

/-- A run of clauses adds the conditions of all of them. -/
theorem foldlM_extends {select after : SelectDraft}
    (ran : clauses.foldlM apply select = .ok after) : Extends clauses select after :=
  Result.foldlM_related Extends.refl (fun _ _ _ => Extends.trans)
    (fun _ _ member _ => apply_extends member) ran

end SelectDraft

end SqlMapper
