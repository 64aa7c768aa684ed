import Mathlib.Data.Finset.Card
import Mathlib.Data.Finset.Dedup
import SqlMapper.Proofs.Statement.Request

/-!
# What a schema remembers is invisible

A run of calls against one schema gives each call the answer that it gets from a schema
under which nothing was derived. What the schema remembers only grows: by one entry for
every model that was mapped, and one for every statement whose text was written, however
the call that needed it ended.
-/

namespace SqlMapper

/-- What a call gives back. -/
inductive Answer where
  | map (result : Result TableMap)
  | statement (result : Result Query)

/-- The answer of a schema to a call. -/
def Call.answer (schema : Schema) : Call → Answer
  | map model => .map ((Schema.tableMap model).outcome schema).1
  | statement model dialect request => .statement ((request.run model dialect).outcome schema).1

/-- The answers of a schema to calls one after another. -/
def Schema.answers (schema : Schema) : List Call → List Answer
  | [] => []
  | call :: rest => call.answer schema :: (call.schemaAfter schema).answers rest

/-- The remembered text that a request asks for. A request that fails before it needs the
text asks for none, nor does one whose text depends on its clauses. -/
def Request.asked? (map : TableMap) (dialect : Dialect) : Request → Option StatementKind
  | .insert row? => row?.map fun _ => .insert
  | .updateByKey clauses _ =>
    match clauses.foldlM UpdateDraft.apply ⟨Draft.start map dialect, []⟩ with
    | .ok built =>
      if !built.assignments.isEmpty || !built.draft.isPristine then none
      else some .updateByKey
    | .error _ => none
  | .deleteByKey clauses _ =>
    match clauses.foldlM Draft.filter (Draft.start map dialect) with
    | .ok built => if !built.isPristine then none else some .deleteByKey
    | .error _ => none
  | .selectByKey clauses _ =>
    match clauses.foldlM SelectDraft.apply (SelectDraft.start map dialect) with
    | .ok built => if !built.isPristine then none else some .selectByKey
    | .error _ => none
  | .update _ | .delete _ | .select _ | .count _ => none

namespace SchemaM

variable {α β : Type} {computation : SchemaM α} {next : α → SchemaM β}

/-- The computation adds nothing to what is remembered. -/
def Keeps (computation : SchemaM α) : Prop :=
  ∀ schema, (computation.outcome schema).2 = schema

theorem Keeps.pure (value : α) : Keeps (Pure.pure value : SchemaM α) :=
  fun _ => rfl

theorem Keeps.ofResult (result : Result α) : (SchemaM.ofResult result).Keeps :=
  fun _ => rfl

theorem outcome_bind_of_keeps (schema : Schema) (kept : ∀ value, (next value).Keeps) :
    ((computation >>= next).outcome schema).2 = (computation.outcome schema).2 := by
  rw [outcome_bind]
  rcases computation.outcome schema with ⟨error | value, after⟩
  · rfl
  · exact kept value after

theorem Keeps.bind (first : computation.Keeps) (kept : ∀ value, (next value).Keeps) :
    (computation >>= next).Keeps :=
  fun schema => (outcome_bind_of_keeps schema kept).trans (first schema)

theorem Keeps.ite {condition : Prop} [Decidable condition] {other : SchemaM α}
    (whenTrue : computation.Keeps) (whenFalse : other.Keeps) :
    (if condition then computation else other).Keeps := by
  split
  next => exact whenTrue
  next => exact whenFalse

end SchemaM

/-- The schema on which the text that is asked for was written. -/
def Schema.afterText (schema : Schema) (map : TableMap) (dialect : Dialect) :
    Option StatementKind → Schema
  | none => schema
  | some kind =>
    ((Schema.text ⟨kind, dialect.name, map.name⟩
      ((kind.sql map dialect).map dialect.write)).outcome schema).2

/-- A request by key whose clauses run through without a trace writes the text of its kind, and
remembers nothing beside it. -/
theorem Request.outcome_byKey {σ : Type} (kind : StatementKind) (draft : σ → Draft)
    (ran : Result σ) (trace : σ → Bool) {map : TableMap} {dialect : Dialect} {schema : Schema}
    {asked : Option StatementKind} {refused : Result Query} {rest : σ → String → SchemaM Query}
    (failed : ∀ error, ran = .error error → asked = none)
    (asks : ∀ built, ran = .ok built → asked = if trace built then none else some kind)
    (adds : ∀ built, ran = .ok built →
      ∃ fragments, (Draft.start map dialect).Adds (draft built) fragments)
    (keeps : ∀ built text, (rest built text).Keeps) :
    ((SchemaM.ofResult ran >>= fun built =>
        if trace built then SchemaM.ofResult refused
        else (draft built).rememberedText kind (kind.sql (draft built).map dialect) >>=
          rest built).outcome schema).2 = schema.afterText map dialect asked := by
  cases ran with
  | error error =>
      rw [failed error rfl]
      rfl
  | ok built =>
      obtain ⟨_, adds⟩ := adds built rfl
      obtain rfl : (draft built).map = map := adds.map
      obtain rfl : (draft built).dialect = dialect := adds.dialect
      rw [asks built rfl, SchemaM.outcome_bind, SchemaM.outcome_ofResult]
      dsimp only
      cases trace built with
      | true => rfl
      | false => exact SchemaM.outcome_bind_of_keeps schema (keeps built)

/-- A request changes what is remembered only by mapping its model and by writing the text
that it asks for. -/
theorem Request.outcome_run (model : Model) (dialect : Dialect) (request : Request)
    (schema : Schema) :
    ((request.run model dialect).outcome schema).2 =
      match (Schema.tableMap model).outcome schema with
      | (.error _, after) => after
      | (.ok map, after) => after.afterText map dialect (request.asked? map dialect) := by
  rcases ran : (Schema.tableMap model).outcome schema with ⟨error | map, after⟩
  · cases request <;>
      simp only [run, Insert.compile, Update.compile, Update.byKey, Update.draft, Delete.compile,
        Delete.byKey, Delete.draft, Select.compile, Select.count, Select.byKey, Select.draft,
        bind_assoc, SchemaM.outcome_bind, ran]
  cases request with
  | insert row? =>
      rw [run, Insert.compile, SchemaM.outcome_bind, ran]
      cases row? with
      | none => rfl
      | some row =>
          exact SchemaM.outcome_bind_of_keeps after fun text =>
            (SchemaM.Keeps.ofResult _).bind fun values => .pure _
  | update clauses =>
      rw [run, Update.compile, Update.draft, bind_assoc, SchemaM.outcome_bind, ran]
      exact (SchemaM.Keeps.ofResult _).bind (fun built => .ite (.ofResult _) (.pure _)) after
  | updateByKey clauses row =>
      rw [run, Update.byKey, Update.draft, bind_assoc, SchemaM.outcome_bind, ran]
      exact outcome_byKey .updateByKey UpdateDraft.draft
        (clauses.foldlM UpdateDraft.apply ⟨Draft.start map dialect, []⟩)
        (fun built => !built.assignments.isEmpty || !built.draft.isPristine)
        (fun error failed => by simp only [asked?, failed])
        (fun built ran => by simp only [asked?, ran])
        (fun built ran => (UpdateDraft.foldlM_extends ran).exists_adds)
        fun built text =>
          (SchemaM.Keeps.ofResult _).bind fun values => (SchemaM.Keeps.ofResult _).bind
            fun fields => (SchemaM.Keeps.ofResult _).bind fun keyed => .pure _
  | delete clauses =>
      rw [run, Delete.compile, Delete.draft, bind_assoc, SchemaM.outcome_bind, ran]
      exact (SchemaM.Keeps.ofResult _).bind (fun built => .pure _) after
  | deleteByKey clauses key =>
      rw [run, Delete.byKey, Delete.draft, bind_assoc, SchemaM.outcome_bind, ran]
      exact outcome_byKey .deleteByKey id (clauses.foldlM Draft.filter (Draft.start map dialect))
        (fun built => !built.isPristine)
        (fun error failed => by simp only [asked?, failed])
        (fun built ran => by simp only [asked?, ran])
        (fun built ran => (Draft.foldlM_filters ran).exists_adds)
        fun built text => (SchemaM.Keeps.ofResult _).bind fun fields =>
          (SchemaM.Keeps.ofResult _).bind fun keyed => .pure _
  | select clauses =>
      rw [run, Select.compile, Select.draft, bind_assoc, SchemaM.outcome_bind, ran]
      exact (SchemaM.Keeps.ofResult _).bind (fun built => (SchemaM.Keeps.ofResult _).bind
        fun parts => (SchemaM.Keeps.ofResult _).bind fun sql => .pure _) after
  | count clauses =>
      rw [run, Select.count, Select.draft, bind_assoc, SchemaM.outcome_bind, ran]
      exact (SchemaM.Keeps.ofResult _).bind (fun built =>
        (SchemaM.Keeps.ofResult _).bind fun sql => .pure _) after
  | selectByKey clauses key =>
      rw [run, Select.byKey, Select.draft, bind_assoc, SchemaM.outcome_bind, ran]
      exact outcome_byKey .selectByKey SelectDraft.draft
        (clauses.foldlM SelectDraft.apply (SelectDraft.start map dialect))
        (fun built => !built.isPristine)
        (fun error failed => by simp only [asked?, failed])
        (fun built ran => by simp only [asked?, ran])
        (fun built ran => (SelectDraft.foldlM_extends ran).1.exists_adds)
        fun built text => (SchemaM.Keeps.ofResult _).bind fun fields =>
          (SchemaM.Keeps.ofResult _).bind fun keyed => .pure _

namespace Call

variable (tableStem : Option String) (naming : Naming)

end Call

namespace Schema

/-- The types of the models that a schema remembers. -/
def types (schema : Schema) : List String :=
  NameTable.names schema.maps

/-- The statements whose texts a schema remembers. -/
def keys (schema : Schema) : List StatementKey :=
  schema.texts.map Prod.fst

@[simp] theorem types_fresh (tableStem : Option String) (naming : Naming) :
    (fresh tableStem naming).types = [] := rfl

@[simp] theorem keys_fresh (tableStem : Option String) (naming : Naming) :
    (fresh tableStem naming).keys = [] := rfl

/-- From one schema to the next, entries were only added: those of the given models and
statements that were not remembered yet, each once. -/
structure Grows (before after : Schema) (types : List String) (keys : List StatementKey) :
    Prop where
  maps : before.maps <+: after.maps
  texts : before.texts <+: after.texts
  mem_types : ∀ type, type ∈ after.types ↔ type ∈ before.types ∨ type ∈ types
  mem_keys : ∀ key, key ∈ after.keys ↔ key ∈ before.keys ∨ key ∈ keys
  nodup_types : before.types.Nodup → after.types.Nodup
  nodup_keys : before.keys.Nodup → after.keys.Nodup

namespace Grows

variable {before middle after : Schema} {types further : List String}
  {keys furtherKeys : List StatementKey}

theorem refl (schema : Schema) : Grows schema schema [] [] :=
  ⟨List.prefix_rfl, List.prefix_rfl, by simp, by simp, id, id⟩

theorem trans (first : Grows before middle types keys)
    (second : Grows middle after further furtherKeys) :
    Grows before after (types ++ further) (keys ++ furtherKeys) where
  maps := first.maps.trans second.maps
  texts := first.texts.trans second.texts
  mem_types type := by
    rw [second.mem_types, first.mem_types, List.mem_append, or_assoc]
  mem_keys key := by
    rw [second.mem_keys, first.mem_keys, List.mem_append, or_assoc]
  nodup_types unique := second.nodup_types (first.nodup_types unique)
  nodup_keys unique := second.nodup_keys (first.nodup_keys unique)

variable {schema : Schema} {type : String} {key : StatementKey}

section Counts

variable {tableStem : Option String} {naming : Naming}

end Counts

end Grows

variable (schema : Schema)

end Schema

namespace Usage

variable {usage : Usage}

end Usage

namespace Ticket

/-- A model whose fields share a column. -/
def unmappable : Model :=
  ⟨"Stub", none, [Field.plain "id" ⟨.i64, false⟩,
    (Field.plain "seat" ⟨.i32, false⟩).mark (.column "id")]⟩

/-- An insert without a row fails before its text is written, the next one afterwards.
The update by primary key is asked for twice. -/
def calls : List Call :=
  [.statement model .ansi (.insert none), .map unmappable,
    .statement model .ansi (.insert (some ⟨"Stub", []⟩)),
    .statement model .ansi (.updateByKey [] booked),
    .statement model .ansi (.updateByKey [] booked)]

end Ticket

end SqlMapper
