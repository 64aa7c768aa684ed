import Mathlib.Data.List.Chain
import SqlMapper.Proofs.Batch.Scan
import SqlMapper.Proofs.Statement.Scope

/-!
# Placeholders stand apart

The wording behind a placeholder never begins like a name, so the name of a parameter
ends where its placeholder does. Every fragment that a draft collects has this property,
and so has every statement made of such fragments.
-/

namespace SqlMapper

variable {ρ σ : Type}

/-- Whether a piece can stand behind a name without becoming part of it. -/
def Piece.endsName : Piece ρ → Bool
  | text words => words.toList.head?.any fun char => !Batch.isNameChar char
  | _ => false

/-- Behind each placeholder is the end, or wording that is not part of a name. -/
def Apart (pieces : List (Piece ρ)) : Prop :=
  pieces.IsChain fun piece next => piece.parameter?.isSome → next.endsName = true

namespace Apart

variable {left right : List (Piece ρ)} {words : String}

@[simp] theorem nil : Apart ([] : List (Piece ρ)) :=
  List.IsChain.nil

@[simp] theorem singleton (piece : Piece ρ) : Apart [piece] :=
  List.IsChain.singleton piece

@[simp] theorem cons_text {rest : List (Piece ρ)} : Apart (.text words :: rest) ↔ Apart rest := by
  rw [Apart, List.isChain_cons]
  exact and_iff_right fun _ _ isPlaceholder => absurd isPlaceholder Bool.false_ne_true

theorem text (apart : Apart right) : Apart (.text words :: right) :=
  cons_text.mpr apart

theorem append (first : Apart left) (second : Apart right)
    (ends : ∀ next ∈ right.head?, next.endsName = true) : Apart (left ++ right) :=
  List.isChain_append.mpr ⟨first, second, fun _ _ next member _ => ends next member⟩

/-- Wording that ends a name can stand between any two fragments. -/
theorem append_text (ends : (Piece.text words : Piece ρ).endsName = true) (first : Apart left)
    (second : Apart right) : Apart (left ++ .text words :: right) :=
  first.append second.text (by simpa using ends)

/-- Anything can stand behind a fragment without placeholders. -/
theorem plain_append (plain : placeholders left = []) (second : Apart right) :
    Apart (left ++ right) := by
  have fixed : ∀ piece ∈ left, piece.parameter? = none := List.filterMap_eq_nil_iff.mp plain
  induction left with
  | nil => exact second
  | cons piece rest inductionHypothesis =>
      obtain ⟨here, later⟩ := List.forall_mem_cons.mp fixed
      rw [List.cons_append, Apart, List.isChain_cons]
      refine ⟨fun _ _ isPlaceholder => ?_, inductionHypothesis ?_ later⟩
      · rw [here] at isPlaceholder
        cases isPlaceholder
      · exact List.filterMap_eq_nil_iff.mpr later

theorem of_plain (plain : placeholders left = []) : Apart left := by
  rw [← List.append_nil left]
  exact plain_append plain .nil

theorem joinPieces {fragments : List (List (Piece ρ))}
    (ends : (Piece.text words : Piece ρ).endsName = true)
    (each : ∀ fragment ∈ fragments, Apart fragment) :
    Apart (SqlMapper.joinPieces words fragments) := by
  induction fragments with
  | nil => exact .nil
  | cons fragment rest inductionHypothesis =>
      obtain ⟨first, later⟩ := List.forall_mem_cons.mp each
      cases rest with
      | nil => exact first
      | cons next rest => exact append_text ends first (inductionHypothesis later)

theorem map {pieces : List (Piece ρ)} (apart : Apart pieces) (rename : ρ → σ) :
    Apart (pieces.map (Piece.map rename)) := by
  rw [Apart, List.isChain_map]
  refine List.IsChain.imp (fun piece next separate isPlaceholder => ?_) apart
  have ends := separate (by cases piece <;> exact isPlaceholder)
  cases next <;> exact ends

/-- What is written behind a placeholder does not begin like a name. -/
theorem setsApart {sql : Sql} (dialect : Dialect) (apart : Apart sql) : dialect.SetsApart sql := by
  induction sql with
  | nil => trivial
  | cons piece rest inductionHypothesis =>
      obtain ⟨behind, later⟩ := List.isChain_cons.mp apart
      have restApart := inductionHypothesis later
      cases piece with
      | placeholder name =>
          refine ⟨?_, restApart⟩
          cases rest with
          | nil => rfl
          | cons next rest =>
              have ends := behind next rfl rfl
              cases next with
              | text words =>
                  cases chars : words.toList with
                  | nil => simp [Piece.endsName, chars] at ends
                  | cons char others =>
                      simpa [Piece.endsName, Batch.endsName, Dialect.writePiece, chars] using ends
              | _ => cases ends
      | _ => exact restApart

end Apart

section Terms

variable {left right : List (Piece ρ)} {symbol : String}

/-- A blank stands before every operator. -/
theorem Apart.infixPieces (first : Apart left) (second : Apart right) :
    Apart (Term.infixPieces left symbol right) := by
  have operator : (Piece.text (" " ++ symbol ++ " ") : Piece ρ).endsName = true := by
    simp [Piece.endsName, Batch.isNameChar]
  show Apart (.text "(" :: left ++ .text (" " ++ symbol ++ " ") :: right ++ [.text ")"])
  exact append_text (by rfl) (append_text operator first.text second) .nil

theorem Term.apart_pieces (term : Term) : Apart term.pieces := by
  induction term with
  | column name => exact .singleton _
  | slot index => exact .singleton _
  | truth value => cases value <;> exact .singleton _
  | columnIs name literal => exact .infixPieces (.singleton _) (.singleton _)
  | comparison op left right leftApart rightApart => exact .infixPieces leftApart rightApart
  | connective op left right leftApart rightApart => exact .infixPieces leftApart rightApart
  | arithmetic op left right leftApart rightApart => exact .infixPieces leftApart rightApart
  | like text pattern textApart patternApart => exact .infixPieces textApart patternApart
  | nullTest operand expected apart =>
      cases expected <;> exact .append_text (by rfl) apart.text .nil
  | complement operand apart => exact apart.text
  | negative operand apart => exact .append_text (by rfl) apart.text .nil
  | apply function argument apart => exact .append_text (by rfl) apart.text .nil
  | replace text pattern replacement textApart patternApart replacementApart =>
      exact .append_text (by rfl) (.append_text (by rfl)
        (.append_text (by rfl) textApart.text patternApart) replacementApart) .nil
  | substring text start textApart startApart =>
      exact .append_text (by rfl) (.append_text (by rfl) textApart.text startApart) .nil
  | window text start length textApart startApart lengthApart =>
      exact .append_text (by rfl) (.append_text (by rfl)
        (.append_text (by rfl) textApart.text startApart) lengthApart) .nil

theorem Term.apart_sql (term : Term) (names : List String) : Apart (term.sql names) :=
  term.apart_pieces.map _

end Terms

namespace Property

theorem apart_equalsParameter (property : Property) (name : String) :
    Apart (property.equalsParameter name) := by
  show Apart (Term.infixPieces [.identifier property.column] "=" [.placeholder name])
  exact .infixPieces (.singleton _) (.singleton _)

theorem apart_assignSql (property : Property) {value : Sql} (apart : Apart value) :
    Apart (property.assignSql value) := by
  have column : placeholders property.columnSql = [] := rfl
  exact .plain_append column apart.text

end Property

namespace Draft

variable {draft after : Draft} {condition : Sql}

/-- Every condition of a draft stands apart. -/
def IsApart (draft : Draft) : Prop :=
  ∀ condition ∈ draft.conditions, Apart condition

theorem isApart_start (map : TableMap) (dialect : Dialect) : (start map dialect).IsApart :=
  List.forall_mem_nil _

theorem IsApart.addCondition (collected : draft.IsApart) (apart : Apart condition) :
    (draft.addCondition condition).IsApart :=
  List.forall_mem_append.mpr ⟨collected, List.forall_mem_singleton.mpr apart⟩

/-- What an expression compiles to stands apart, and the conditions are left as they are. -/
theorem IsApart.compile {step : Compile Term} (collected : draft.IsApart)
    (compiled : draft.compile step = .ok (condition, after)) :
    Apart condition ∧ after.IsApart := by
  have sameConditions := compile_conditions compiled
  obtain ⟨term, -, written, -⟩ := compile_eq_ok.mp compiled
  constructor
  · rw [written]
    exact term.apart_sql _
  · rwa [IsApart, sameConditions]

theorem IsApart.filterField {property : Property} {value : Value} (collected : draft.IsApart)
    (ran : draft.filterField property value = .ok after) : after.IsApart := by
  simp only [Draft.filterField, Result.bind_eq_ok] at ran
  obtain ⟨stored, -, ran⟩ := ran
  split at ran
  next =>
    cases ran
    exact collected.addCondition (.of_plain rfl)
  next =>
    cases ran
    have bound : (draft.bind stored).2.IsApart := collected
    exact bound.addCondition (property.apart_equalsParameter _)

theorem IsApart.filterFields {keyOnly : Bool} {fields : List (String × Value)}
    (collected : draft.IsApart) (ran : draft.filterFields keyOnly fields = .ok after) :
    after.IsApart := by
  refine Result.foldlM_keeps collected ?_ ran
  intro draft collected field _ next stepped
  simp only [Result.bind_eq_ok] at stepped
  obtain ⟨property, -, stepped⟩ := stepped
  split at stepped
  next =>
    cases stepped
    exact collected
  next => exact collected.filterField stepped

theorem IsApart.filter {clause : FilterClause} (collected : draft.IsApart)
    (ran : draft.filter clause = .ok after) : after.IsApart := by
  cases clause with
  | condition expr =>
      simp only [Draft.filter, Result.bind_eq_ok] at ran
      obtain ⟨⟨condition, middle⟩, compiled, ran⟩ := ran
      cases ran
      obtain ⟨apart, kept⟩ := collected.compile compiled
      exact kept.addCondition apart
  | matching source =>
      simp only [Draft.filter, Result.bind_eq_ok] at ran
      obtain ⟨fields, -, ran⟩ := ran
      exact collected.filterFields ran
  | matchingKey source =>
      simp only [Draft.filter, Result.bind_eq_ok] at ran
      obtain ⟨fields, -, _, -, ran⟩ := ran
      exact collected.filterFields ran
  | evaluator evaluator =>
      cases ran
      exact collected

theorem IsApart.foldlM {clauses : List FilterClause} (collected : draft.IsApart)
    (ran : clauses.foldlM Draft.filter draft = .ok after) : after.IsApart :=
  Result.foldlM_keeps collected (fun _ kept _ _ _ => kept.filter) ran

theorem IsApart.conditionSql (collected : draft.IsApart) :
    ∀ sql ∈ draft.conditionSql, Apart sql := by
  intro sql member
  unfold Draft.conditionSql at member
  split at member
  next => cases member
  next =>
    cases member
    exact .joinPieces (by rfl) collected

end Draft

namespace UpdateDraft

variable {update after : UpdateDraft}

/-- Every assignment and every condition of an update stands apart. -/
def IsApart (update : UpdateDraft) : Prop :=
  (∀ assignment ∈ update.assignments, Apart assignment) ∧ update.draft.IsApart

theorem isApart_start (map : TableMap) (dialect : Dialect) :
    IsApart ⟨Draft.start map dialect, []⟩ :=
  ⟨List.forall_mem_nil _, Draft.isApart_start map dialect⟩

theorem IsApart.assign {draft : Draft} {assignment : Sql} (collected : update.IsApart)
    (kept : draft.IsApart) (apart : Apart assignment) :
    IsApart ⟨draft, update.assignments ++ [assignment]⟩ :=
  ⟨List.forall_mem_append.mpr ⟨collected.1, List.forall_mem_singleton.mpr apart⟩, kept⟩

theorem IsApart.assignFields {fields : List (String × Value)} (collected : update.IsApart)
    (ran : update.assignFields fields = .ok after) : after.IsApart := by
  refine Result.foldlM_keeps collected ?_ ran
  intro update collected field _ next stepped
  simp only [Result.bind_eq_ok] at stepped
  obtain ⟨property, -, stepped⟩ := stepped
  split at stepped
  next =>
    simp only [assignValue, Result.bind_eq_ok] at stepped
    obtain ⟨stored, -, stepped⟩ := stepped
    cases stepped
    exact collected.assign collected.2 (property.apart_assignSql (.singleton _))
  next =>
    cases stepped
    exact collected

theorem IsApart.assignExpr {field : String} {expr : Expr} (collected : update.IsApart)
    (ran : update.assignExpr field expr = .ok after) : after.IsApart := by
  simp only [UpdateDraft.assignExpr, Result.bind_eq_ok] at ran
  obtain ⟨property, -, ran⟩ := ran
  split at ran
  next => cases ran
  next =>
    obtain ⟨⟨value, draft⟩, compiled, ran⟩ := Result.bind_eq_ok.mp ran
    cases ran
    obtain ⟨apart, kept⟩ := collected.2.compile compiled
    exact collected.assign kept (property.apart_assignSql apart)

theorem IsApart.apply {clause : UpdateClause} (collected : update.IsApart)
    (ran : update.apply clause = .ok after) : after.IsApart := by
  cases clause with
  | filter clause =>
      simp only [UpdateDraft.apply, Result.bind_eq_ok] at ran
      obtain ⟨draft, filtered, ran⟩ := ran
      cases ran
      exact ⟨collected.1, collected.2.filter filtered⟩
  | set source =>
      simp only [UpdateDraft.apply, Result.bind_eq_ok] at ran
      obtain ⟨fields, -, ran⟩ := ran
      exact collected.assignFields ran
  | setField field expr => exact collected.assignExpr ran

theorem IsApart.foldlM {clauses : List UpdateClause} (collected : update.IsApart)
    (ran : clauses.foldlM UpdateDraft.apply update = .ok after) : after.IsApart :=
  Result.foldlM_keeps collected (fun _ kept _ _ _ => kept.apply) ran

end UpdateDraft

namespace SelectDraft

variable {select after : SelectDraft}

/-- Every condition of a select stands apart. -/
def IsApart (select : SelectDraft) : Prop :=
  select.draft.IsApart

theorem isApart_start (map : TableMap) (dialect : Dialect) : (start map dialect).IsApart :=
  Draft.isApart_start map dialect

theorem IsApart.conditionSql (collected : select.IsApart) :
    ∀ sql ∈ select.draft.conditionSql, Apart sql :=
  Draft.IsApart.conditionSql collected

theorem IsApart.apply {clause : SelectClause} (collected : select.IsApart)
    (ran : select.apply clause = .ok after) : after.IsApart := by
  cases clause with
  | filter clause =>
      simp only [SelectDraft.apply, Result.bind_eq_ok] at ran
      obtain ⟨draft, filtered, ran⟩ := ran
      cases ran
      exact Draft.IsApart.filter collected filtered
  | page number size =>
      simp only [SelectDraft.apply] at ran
      split at ran
      next => cases ran
      next =>
        cases ran
        exact collected
  | _ =>
      cases ran
      exact collected

theorem IsApart.foldlM {clauses : List SelectClause} (collected : select.IsApart)
    (ran : clauses.foldlM SelectDraft.apply select = .ok after) : after.IsApart :=
  Result.foldlM_keeps collected (fun _ kept _ _ _ => kept.apply) ran

end SelectDraft

section Sentences

variable {scope : Scope} {conditions : Option Sql}

/-- A clause stands behind anything. -/
theorem Apart.append_clause {left : Sql} {words : String} {clause : Option Sql}
    (ends : (Piece.text words : Piece String).endsName = true) (first : Apart left)
    (second : ∀ sql ∈ clause, Apart sql) : Apart (left ++ SelectParts.clause words clause) := by
  cases clause with
  | none => rwa [SelectParts.clause, List.append_nil]
  | some sql => exact append_text ends first (second sql rfl)

theorem Delete.apart_sql (map : TableMap) (filtered : ∀ sql ∈ conditions, Apart sql) :
    Apart (sql map conditions) :=
  .append_clause (by rfl) (.of_plain rfl) filtered

theorem Update.apart_sql (map : TableMap) {assignments : List Sql}
    (assigned : ∀ sql ∈ assignments, Apart sql) (filtered : ∀ sql ∈ conditions, Apart sql) :
    Apart (sql map assignments conditions) := by
  have head : Apart (.text "update " :: map.tableSql) := .of_plain rfl
  have listed : Apart (joinPieces ", " assignments) := .joinPieces (by rfl) assigned
  exact .append_clause (by rfl) (.append_text (by rfl) head listed) filtered

theorem TableMap.apart_numbered {fragment : Property × String → Sql}
    (each : ∀ entry, Apart (fragment entry)) (properties : List Property) (first : Nat) :
    ∀ sql ∈ (numbered properties first).map fragment, Apart sql := by
  intro sql member
  obtain ⟨entry, -, rfl⟩ := List.mem_map.mp member
  exact each entry

theorem TableMap.apart_keyConditions (map : TableMap) (first : Nat) :
    ∀ sql ∈ some (map.keyConditions first), Apart sql := by
  intro sql member
  cases member
  exact .joinPieces (by rfl) (apart_numbered (fun entry => entry.1.apart_equalsParameter _) _ _)

theorem Insert.apart_valuesSql (scope : Scope) : Apart (valuesSql scope.map) := by
  unfold valuesSql
  dsimp only
  split
  next => exact .singleton _
  next =>
    have columns : placeholders (.text " (" :: joinPieces ", "
        ((TableMap.numbered scope.map.insertable 0).map fun entry => entry.1.columnSql)) = [] :=
      fixes_columns.plain
    have values : Apart (joinPieces ", " ((TableMap.numbered scope.map.insertable 0).map
        fun entry => [.placeholder entry.2])) :=
      .joinPieces (by rfl) (TableMap.apart_numbered (fun _ => .singleton _) _ _)
    exact .append_text (by rfl) (.append_text (by rfl) (.of_plain columns) values) .nil

/-- What reports the identity can stand behind a name. -/
theorem Insert.endsName_of_head?_identitySql {map : TableMap} {dialect : Dialect} {sql : Sql}
    (written : identitySql map dialect = .ok sql) :
    ∀ next ∈ sql.head?, next.endsName = true := by
  intro next member
  unfold identitySql at written
  split at written
  next =>
    cases style : dialect.identity with
    | unsupported family =>
        simp only [Dialect.identityClause, style] at written
        cases written
    | returning =>
        simp only [Dialect.identityClause, style] at written
        cases written
        cases member
        rfl
    | followUp call =>
        simp only [Dialect.identityClause, style] at written
        cases written
        cases member
        simp [Piece.endsName, Batch.isNameChar]
  next =>
    cases written
    cases member

namespace SelectParts.IsWithin

variable {parts : SelectParts}

/-- The conditions are all that refers to parameters, and grouping comes behind them. -/
theorem apart_filters (within : parts.IsWithin scope)
    (filtered : ∀ sql ∈ parts.conditions, Apart sql) {left : Sql} (first : Apart left) :
    Apart (left ++ parts.filters) := by
  rw [filters, ← List.append_assoc]
  refine .append_clause (by rfl) (.append_clause (by rfl) first filtered) ?_
  exact fun sql member => .of_plain (within.grouping sql member).plain

theorem apart_source (within : parts.IsWithin scope) :
    Apart (parts.selection ++ .text " from " :: parts.source) :=
  .plain_append within.selection.plain (.text (.of_plain within.source.plain))

theorem apart_body (within : parts.IsWithin scope)
    (filtered : ∀ sql ∈ parts.conditions, Apart sql) : Apart parts.body :=
  .append_clause (by rfl) (within.apart_filters filtered within.apart_source)
    fun sql member => .of_plain (within.order sql member).plain

theorem apart_withWindow {window : RowWindow} (within : parts.IsWithin scope)
    (filtered : ∀ sql ∈ parts.conditions, Apart sql)
    (ordered : ∀ order first last, window = .rowNumbers order first last →
      parts.order = some order) : Apart (parts.withWindow window) := by
  have body := within.apart_body filtered
  cases window with
  | all => exact body.text
  | top count => exact .plain_append rfl body
  | limit count => exact .append_text (by rfl) body.text (.of_plain rfl)
  | fetchFirst count => exact .append_text (by rfl) body.text (.of_plain rfl)
  | limitOffset count skipped => exact .append_text (by rfl) body.text (.of_plain rfl)
  | limitPair skipped count => exact .append_text (by rfl) body.text (.of_plain rfl)
  | offsetFetch skipped count => exact .append_text (by rfl) body.text (.of_plain rfl)
  | rowNumbers order first last =>
      have orderPlain := (within.order order (ordered order first last rfl)).plain
      have head : Apart (.text "select * from (select row_number() over (order by " :: order ++
          .text ") as [__row], " :: parts.selection ++ .text " from " :: parts.source) :=
        .of_plain (by simp [orderPlain, within.selection.plain, within.source.plain])
      exact .append_text (by rfl) (within.apart_filters filtered head) (.of_plain rfl)

end SelectParts.IsWithin

theorem Dialect.apart_select {dialect : Dialect} {parts : SelectParts} {sql : Sql}
    (within : parts.IsWithin scope) (filtered : ∀ sql ∈ parts.conditions, Apart sql)
    (written : dialect.select parts = .ok sql) : Apart sql := by
  simp only [select, Result.bind_eq_ok] at written
  obtain ⟨window, asked, written⟩ := written
  cases written
  exact within.apart_withWindow filtered fun _ _ _ same =>
    SelectParts.IsWithin.order_of_window (same ▸ asked)

/-- The text of a remembered statement keeps its placeholders apart. -/
theorem StatementKind.apart_sql {kind : StatementKind} {sql : Sql}
    (written : kind.sql scope.map scope.dialect = .ok sql) : Apart sql := by
  cases kind with
  | insert =>
      simp only [StatementKind.sql, Insert.sql, Result.bind_eq_ok] at written
      obtain ⟨identity, written, final⟩ := written
      cases final
      have head : placeholders (.text "insert into " :: scope.map.tableSql) = [] := rfl
      have row : Apart (.text "insert into " :: scope.map.tableSql ++ Insert.valuesSql scope.map) :=
        .plain_append head (Insert.apart_valuesSql scope)
      exact row.append (.of_plain (Insert.fixes_identitySql written).plain)
        (Insert.endsName_of_head?_identitySql written)
  | updateByKey =>
      simp only [StatementKind.sql, Update.byKeySql, Result.bind_eq_ok] at written
      obtain ⟨_, _, written⟩ := written
      split at written
      next => cases written
      next =>
        cases written
        have assigned (entry : Property × String) :
            Apart (entry.1.assignSql [.placeholder entry.2]) :=
          entry.1.apart_assignSql (.singleton _)
        exact Update.apart_sql scope.map (TableMap.apart_numbered assigned scope.map.updatable 0)
          (TableMap.apart_keyConditions scope.map _)
  | deleteByKey =>
      simp only [StatementKind.sql, Delete.byKeySql, Result.bind_eq_ok] at written
      obtain ⟨_, _, written⟩ := written
      cases written
      exact Delete.apart_sql scope.map (TableMap.apart_keyConditions scope.map 0)
  | selectByKey =>
      simp only [StatementKind.sql, Select.byKeySql, Result.bind_eq_ok] at written
      obtain ⟨_, _, written⟩ := written
      exact Dialect.apart_select Select.byKey_within (TableMap.apart_keyConditions scope.map 0)
        written

end Sentences

end SqlMapper
