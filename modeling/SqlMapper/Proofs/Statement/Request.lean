import SqlMapper.Proofs.Schema.Usage
import SqlMapper.Proofs.Statement.Draft

/-!
# Requests against a schema

A request is a builder with its clauses and the way it is finished. Whatever a
coherent history of requests left in the schema, the next one gives
`Request.result`, the statement that is written with nothing remembered.
-/

namespace SqlMapper

/-- A statement that is asked for. -/
inductive Request where
  | insert (row? : Option Row)
  | update (clauses : List UpdateClause)
  | updateByKey (clauses : List UpdateClause) (row : Row)
  | delete (clauses : List FilterClause)
  | deleteByKey (clauses : List FilterClause) (key : Source)
  | select (clauses : List SelectClause)
  | count (clauses : List SelectClause)
  | selectByKey (clauses : List SelectClause) (key : Source)

namespace Request

/-- The request against a schema. -/
def run (model : Model) (dialect : Dialect) : Request → SchemaM Query
  | insert row? => Insert.compile model dialect row?
  | update clauses => Update.compile model dialect clauses
  | updateByKey clauses row => Update.byKey model dialect clauses row
  | delete clauses => Delete.compile model dialect clauses
  | deleteByKey clauses key => Delete.byKey model dialect clauses key
  | select clauses => Select.compile model dialect clauses
  | count clauses => Select.count model dialect clauses
  | selectByKey clauses key => Select.byKey model dialect clauses key

/-- The statement for a mapped model, written with nothing remembered. -/
def result (map : TableMap) (dialect : Dialect) : Request → Result Query
  | insert none => (StatementFault.noValues map.name).fail
  | insert (some row) => do
    let text ← (Insert.sql map dialect).map dialect.write
    let values ← map.insertable.mapM fun property => property.storedOf row
    return ⟨text, (Params.empty.pushAll values).2⟩
  | update clauses => do
    let update ← clauses.foldlM UpdateDraft.apply ⟨Draft.start map dialect, []⟩
    if update.assignments.isEmpty then
      (StatementFault.noAssignments update.draft.map.name).fail
    else
      return update.draft.finish
        (Update.sql update.draft.map update.assignments update.draft.conditionSql)
  | updateByKey clauses row => do
    let update ← clauses.foldlM UpdateDraft.apply ⟨Draft.start map dialect, []⟩
    if !update.assignments.isEmpty || !update.draft.isPristine then
      (StatementFault.combinedWithKey "an update").fail
    else
      let text ← (Update.byKeySql map).map dialect.write
      let values ← map.updatable.mapM fun property => property.storedOf row
      let draft := { update.draft with params := (update.draft.params.pushAll values).2 }
      let fields ← (Source.row row).values map
      let draft ← draft.bindKey fields
      return ⟨text, draft.params⟩
  | delete clauses => do
    let draft ← clauses.foldlM Draft.filter (Draft.start map dialect)
    return draft.finish (Delete.sql draft.map draft.conditionSql)
  | deleteByKey clauses key => do
    let draft ← clauses.foldlM Draft.filter (Draft.start map dialect)
    if !draft.isPristine then (StatementFault.combinedWithKey "a delete").fail
    else
      let text ← (Delete.byKeySql map).map dialect.write
      let fields ← key.values map
      let draft ← draft.bindKey fields
      return ⟨text, draft.params⟩
  | select clauses => do
    let select ← clauses.foldlM SelectDraft.apply (SelectDraft.start map dialect)
    let parts ← select.parts
    return select.draft.finish (← dialect.select parts)
  | count clauses => do
    let select ← clauses.foldlM SelectDraft.apply (SelectDraft.start map dialect)
    return select.draft.finish (← dialect.select select.countParts)
  | selectByKey clauses key => do
    let select ← clauses.foldlM SelectDraft.apply (SelectDraft.start map dialect)
    if !select.isPristine then (StatementFault.combinedWithKey "a select").fail
    else
      let text ← (Select.byKeySql map dialect).map dialect.write
      let fields ← key.values map
      let draft ← select.draft.bindKey fields
      return ⟨text, draft.params⟩

end Request

namespace Usage

variable {usage : Usage} {model : Model} {dialect : Dialect}

namespace Computes

variable {α : Type} {computation other : SchemaM α} {result otherResult : Result α}

theorem ite {condition : Prop} [Decidable condition]
    (whenTrue : condition → usage.Computes computation result)
    (whenFalse : ¬condition → usage.Computes other otherResult) :
    usage.Computes (if condition then computation else other)
      (if condition then result else otherResult) := by
  split
  next holds => exact whenTrue holds
  next fails => exact whenFalse fails

/-- A computation that begins with the map of a model. -/
theorem map_bind {steps : TableMap → SchemaM α} {results : TableMap → Result α}
    (coherent : usage.Coherent) (used : model ∈ usage.models)
    (computes : ∀ map, usage.map model = .ok map → usage.Computes (steps map) (results map)) :
    usage.Computes (Schema.tableMap model >>= steps) (usage.map model >>= results) :=
  (coherent.computes_tableMap used).bind computes

end Computes

/-- The text of a shape that is remembered. -/
theorem Coherent.computes_rememberedText (coherent : usage.Coherent) (kind : StatementKind)
    (used : model ∈ usage.models) (dialectUsed : dialect ∈ usage.dialects) {map : TableMap}
    (mapped : usage.map model = .ok map) {draft : Draft} (sameMap : draft.map = map)
    (sameDialect : draft.dialect = dialect) :
    usage.Computes (draft.rememberedText kind (kind.sql map dialect))
      ((kind.sql map dialect).map dialect.write) := by
  subst sameMap sameDialect
  exact coherent.computes_text kind used dialectUsed mapped

/-- What follows the clauses of a request by key: it is refused if they left a trace, and
otherwise the text is had and completed. -/
theorem Coherent.computes_byKey (coherent : usage.Coherent) (kind : StatementKind)
    (used : model ∈ usage.models) (dialectUsed : dialect ∈ usage.dialects) {map : TableMap}
    (mapped : usage.map model = .ok map) {draft : Draft} (sameMap : draft.map = map)
    (sameDialect : draft.dialect = dialect) {trace : Bool} {refused : Result Query}
    {rest : String → SchemaM Query} {results : String → Result Query}
    (computes : ∀ text, usage.Computes (rest text) (results text)) :
    usage.Computes
      (if trace then SchemaM.ofResult refused
        else draft.rememberedText kind (kind.sql map dialect) >>= rest)
      (if trace then refused else (kind.sql map dialect).map dialect.write >>= results) := by
  refine .ite (fun _ => .ofResult _) fun _ => ?_
  have text := coherent.computes_rememberedText kind used dialectUsed mapped sameMap sameDialect
  exact text.bind fun text _ => computes text

/-- A request gives the statement that is written with nothing remembered. -/
theorem Coherent.computes_request (coherent : usage.Coherent) (used : model ∈ usage.models)
    (dialectUsed : dialect ∈ usage.dialects) (request : Request) :
    usage.Computes (request.run model dialect)
      (usage.map model >>= fun map => request.result map dialect) := by
  cases request with
  | insert row? =>
      apply Computes.map_bind coherent used
      intro map mapped
      cases row? with
      | none => exact .ofResult _
      | some row =>
          refine (coherent.computes_rememberedText .insert used dialectUsed mapped rfl rfl).bind ?_
          intro text _
          exact (Computes.ofResult _).bind fun values _ => .pure _
  | delete clauses =>
      simp only [Request.run, Delete.compile, Delete.draft, bind_assoc]
      apply Computes.map_bind coherent used
      intro map mapped
      exact (Computes.ofResult _).bind fun draft _ => .pure _
  | deleteByKey clauses key =>
      simp only [Request.run, Delete.byKey, Delete.draft, bind_assoc]
      apply Computes.map_bind coherent used
      intro map mapped
      apply (Computes.ofResult _).bind
      intro draft ran
      obtain ⟨_, adds, _⟩ := Draft.foldlM_filters ran
      obtain rfl : draft.map = map := adds.map
      refine coherent.computes_byKey .deleteByKey used dialectUsed mapped rfl adds.dialect ?_
      intro text
      apply (Computes.ofResult _).bind
      intro fields _
      exact (Computes.ofResult _).bind fun draft _ => .pure _
  | update clauses =>
      simp only [Request.run, Update.compile, Update.draft, bind_assoc]
      apply Computes.map_bind coherent used
      intro map mapped
      apply (Computes.ofResult _).bind
      intro update _
      exact .ite (fun _ => .ofResult _) fun _ => .pure _
  | updateByKey clauses row =>
      simp only [Request.run, Update.byKey, Update.draft, bind_assoc]
      apply Computes.map_bind coherent used
      intro map mapped
      apply (Computes.ofResult _).bind
      intro update ran
      obtain ⟨_, adds, _⟩ := UpdateDraft.foldlM_extends ran
      obtain rfl : update.draft.map = map := adds.map
      refine coherent.computes_byKey .updateByKey used dialectUsed mapped rfl adds.dialect ?_
      intro text
      apply (Computes.ofResult _).bind
      intro values _
      apply (Computes.ofResult _).bind
      intro fields _
      exact (Computes.ofResult _).bind fun draft _ => .pure _
  | select clauses =>
      simp only [Request.run, Select.compile, Select.draft, bind_assoc]
      apply Computes.map_bind coherent used
      intro map mapped
      apply (Computes.ofResult _).bind
      intro select _
      apply (Computes.ofResult _).bind
      intro parts _
      exact (Computes.ofResult _).bind fun sql _ => .pure _
  | count clauses =>
      simp only [Request.run, Select.count, Select.draft, bind_assoc]
      apply Computes.map_bind coherent used
      intro map mapped
      apply (Computes.ofResult _).bind
      intro select _
      exact (Computes.ofResult _).bind fun sql _ => .pure _
  | selectByKey clauses key =>
      simp only [Request.run, Select.byKey, Select.draft, bind_assoc]
      apply Computes.map_bind coherent used
      intro map mapped
      apply (Computes.ofResult _).bind
      intro select ran
      obtain ⟨_, adds, _⟩ := (SelectDraft.foldlM_extends ran).1
      obtain rfl : select.draft.map = map := adds.map
      refine coherent.computes_byKey .selectByKey used dialectUsed mapped rfl adds.dialect ?_
      intro text
      apply (Computes.ofResult _).bind
      intro fields _
      exact (Computes.ofResult _).bind fun draft _ => .pure _

end Usage

/-- What a schema is used for: to map a model, or to write a statement. -/
inductive Call where
  | map (model : Model)
  | statement (model : Model) (dialect : Dialect) (request : Request)

namespace Call

def model : Call → Model
  | map model | statement model _ _ => model

def dialect? : Call → Option Dialect
  | map _ => none
  | statement _ dialect _ => some dialect

/-- What the schema remembers after the call. -/
def schemaAfter (schema : Schema) : Call → Schema
  | map model => ((Schema.tableMap model).outcome schema).2
  | statement model dialect request => ((request.run model dialect).outcome schema).2

end Call

/-- What the schema remembers after a history of calls. -/
def Schema.after (schema : Schema) (history : List Call) : Schema :=
  history.foldl Call.schemaAfter schema

namespace Usage

/-- The models and dialects of some calls. -/
def ofCalls (tableStem : Option String) (naming : Naming) (calls : List Call) : Usage :=
  ⟨tableStem, naming, calls.map Call.model, calls.filterMap Call.dialect?⟩

variable {usage : Usage}

/-- One call keeps everything remembered explained. -/
theorem Coherent.explains_schemaAfter (coherent : usage.Coherent) {call : Call} {schema : Schema}
    (used : call.model ∈ usage.models)
    (dialectUsed : ∀ dialect, call.dialect? = some dialect → dialect ∈ usage.dialects)
    (explains : usage.Explains schema) : usage.Explains (call.schemaAfter schema) := by
  cases call with
  | map model => exact (coherent.computes_tableMap used schema explains).2
  | statement model dialect request =>
      exact (coherent.computes_request used (dialectUsed dialect rfl) request schema explains).2

/-- A history keeps everything remembered explained. -/
theorem Coherent.explains_after (coherent : usage.Coherent) {history : List Call}
    {schema : Schema} (used : ∀ call ∈ history, call.model ∈ usage.models ∧
      ∀ dialect, call.dialect? = some dialect → dialect ∈ usage.dialects)
    (explains : usage.Explains schema) : usage.Explains (schema.after history) := by
  induction history generalizing schema with
  | nil => exact explains
  | cons call rest inductionHypothesis =>
      obtain ⟨modelUsed, dialectUsed⟩ := used call (by simp)
      exact inductionHypothesis (fun call member => used call (by simp [member]))
        (coherent.explains_schemaAfter modelUsed dialectUsed explains)

theorem mem_ofCalls (tableStem : Option String) (naming : Naming) {calls : List Call}
    {call : Call} (member : call ∈ calls) :
    call.model ∈ (ofCalls tableStem naming calls).models ∧
      ∀ dialect, call.dialect? = some dialect →
        dialect ∈ (ofCalls tableStem naming calls).dialects :=
  ⟨List.mem_map_of_mem member, fun _ own => List.mem_filterMap.mpr ⟨call, member, own⟩⟩

theorem explains_fresh (usage : Usage) :
    usage.Explains (.fresh usage.tableStem usage.naming) :=
  ⟨rfl, rfl, List.forall_mem_nil _, List.forall_mem_nil _⟩

/-- A history of calls leaves only what follows from its usage. -/
theorem Coherent.explains_after_fresh {tableStem : Option String} {naming : Naming}
    {call : Call} {history : List Call}
    (coherent : (ofCalls tableStem naming (call :: history)).Coherent) :
    (ofCalls tableStem naming (call :: history)).Explains
      ((Schema.fresh tableStem naming).after history) := by
  refine coherent.explains_after (fun other member => ?_) (explains_fresh _)
  exact mem_ofCalls tableStem naming (List.mem_cons_of_mem call member)

section Histories

variable {tableStem : Option String} {naming : Naming} {history : List Call} {model : Model}
  {dialect : Dialect}

/-- After a history of calls that is coherent with a request, the request gives the
statement that is written with nothing remembered. -/
theorem outcome_after (request : Request) (coherent : (ofCalls tableStem naming
      (.statement model dialect request :: history)).Coherent) :
    ((request.run model dialect).outcome ((Schema.fresh tableStem naming).after history)).1 =
      TableMap.ofModel tableStem naming model >>= fun map => request.result map dialect := by
  obtain ⟨modelUsed, dialectUsed⟩ := mem_ofCalls tableStem naming
    (List.mem_cons_self (a := .statement model dialect request) (l := history))
  exact (coherent.computes_request modelUsed (dialectUsed dialect rfl) request _
    coherent.explains_after_fresh).1

/-- After such a history, what the request finds remembered of a text is what would be written
for it. -/
theorem outcome_text_after {request : Request} {map : TableMap} (kind : StatementKind)
    (coherent : (ofCalls tableStem naming
      (.statement model dialect request :: history)).Coherent)
    (mapped : TableMap.ofModel tableStem naming model = .ok map) :
    ((Schema.text ⟨kind, dialect.name, map.name⟩
        ((kind.sql map dialect).map dialect.write)).outcome
      ((Schema.tableMap model).outcome
        ((Schema.fresh tableStem naming).after history)).2).1 =
      (kind.sql map dialect).map dialect.write := by
  obtain ⟨modelUsed, dialectUsed⟩ := mem_ofCalls tableStem naming
    (List.mem_cons_self (a := .statement model dialect request) (l := history))
  have explains := (coherent.computes_tableMap modelUsed _ coherent.explains_after_fresh).2
  exact (coherent.computes_text kind modelUsed (dialectUsed dialect rfl) mapped _ explains).1

end Histories

/-- A single statement is coherent with an empty history. -/
theorem coherent_single (tableStem : Option String) (naming : Naming) (model : Model)
    (dialect : Dialect) (request : Request) :
    (ofCalls tableStem naming [.statement model dialect request]).Coherent := by
  constructor
  · simp [ofCalls, Call.model]
  · simp [ofCalls, Call.dialect?]

end Usage

namespace Ticket

/-- Tickets for a seat, identified by a number. -/
def model : Model :=
  ⟨"Ticket", none, [(Field.plain "id" ⟨.i64, false⟩).mark .primaryKey,
    Field.plain "seat" ⟨.i32, false⟩]⟩

def booked : Row :=
  ⟨"Ticket", [("id", .i64 7), ("seat", .i32 12)]⟩

/-- The update by primary key was written once. -/
def history : List Call :=
  [.statement model .ansi (.updateByKey [] booked)]

/-- A schema that remembers this update. -/
def schema : Schema :=
  (Schema.fresh none .verbatim).after history

/-- The update put together from clauses, the key being bound before the seat. -/
def rebooking : Request :=
  .update [.filter (.matchingKey (.row booked)), .set (.row booked)]

theorem coherent (request : Request) :
    (Usage.ofCalls none .verbatim (.statement model .ansi request :: history)).Coherent := by
  constructor
  · simp [Usage.ofCalls, Call.model, history]
  · simp [Usage.ofCalls, Call.dialect?, history]

end Ticket

end SqlMapper
